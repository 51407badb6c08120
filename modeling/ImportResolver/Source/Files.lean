import ImportResolver.FileSystem.Lookup
/- Finding the source files below given roots. -/
namespace ImportResolver.Source

open FileSystem

def fileExtensions : List String := ["js", "mjs", "cjs", "jsx", "ts", "mts", "cts", "tsx"]

def isSourceFile (p : Path) : Bool := p.extension?.any fileExtensions.contains

/-- Directories that are not searched, unless given as roots. -/
def isSkipped (directory : String) : Bool :=
  directory = "node_modules" || directory.toList.head? = some '.'

/-- Adds a path to an ordered list, unless an equal one is in it. -/
def insertPath (p : Path) : List Path → List Path
  | [] => [p]
  | q :: qs =>
    if p.key < q.key then p :: q :: qs
    else if p.key = q.key then q :: qs
    else q :: insertPath p qs

/-- The names that lead from `top` down to a node below it. -/
def namesBelow? (top loc : Location) : Option (List String) :=
  (Text.dropTail? top loc).map List.reverse

/-- The path of an entry that is a source file below `top`, with no skipped directory between. -/
def sourceBelow? (root : Path) (top : Location) (entry : Location × Node) : Option Path := do
  let names ← namesBelow? top entry.1
  let path := names.foldl Path.join root
  if names ≠ [] && entry.2.isFile && isSourceFile path && !names.dropLast.any isSkipped then
    some path
  else none

/-- The files that a root stands for: itself, or the source files below it. -/
def filesOf (fs : FileSystem) (root : Path) : Except Fault (List Path) := do
  let top ← fs.locate root true
  match fs.tree.get? top with
  | none => .error .notFound
  | some (.directory _) => .ok (fs.tree.entries.filterMap (sourceBelow? root top))
  | some n => .ok (if n.isFile then [root] else [])

/-- All files of the roots, in order and without repetition. Every root has to exist. -/
def files (fs : FileSystem) (roots : List Path) : Except Fault (List Path) := do
  let found ← roots.mapM (filesOf fs)
  return found.flatten.foldl (fun ps p => insertPath p ps) []

end ImportResolver.Source

import ImportResolver.FileSystem.Fault
import ImportResolver.FileSystem.Tree
import ImportResolver.Path.Basic
/- Finding what a path denotes: name by name, through symbolic links. -/
namespace ImportResolver

/-- A file tree and the directory that relative paths start from. -/
structure FileSystem where
  tree : FileSystem.Tree
  cwd : FileSystem.Location
  deriving DecidableEq, Inhabited

namespace FileSystem

def maxLinks : Nat := 40

def maxName : Nat := 255

def maxPath : Nat := 4095

/-- The names in a path. Empty ones do not count; a slash at the end asks for a directory, as a
dot after it would. -/
def names (path : String) : List String :=
  let runs := Text.runs '/' path.toList
  (runs.filter (· ≠ [])).map String.ofList ++ if runs.getLast? = some [] then ["."] else []

def isAbsolute (path : String) : Bool := path.toList.head? = some '/'

/-- Walks from a directory. A link on the way is left to `enter`, with the names that come after
it; one that comes last only if `follow` is set. -/
def Tree.walkWith (t : Tree) (follow : Bool) (enter : Location → List String → Except Fault Location)
    (loc : Location) : List String → Except Fault Location
  | [] => .ok loc
  | name :: rest =>
    if !(t.get? loc).any Node.isDirectory then .error .notADirectory
    else if name = "." then t.walkWith follow enter loc rest
    else if name = ".." then t.walkWith follow enter loc.tail rest
    else if maxName < name.utf8ByteSize then .error .nameTooLong
    else
      match t.get? (name :: loc) with
      | none => .error .notFound
      | some (.link target) =>
        if rest = [] && !follow then .ok (name :: loc)
        else enter (if isAbsolute target then [] else loc) (names target ++ rest)
      | some _ => t.walkWith follow enter (name :: loc) rest

/-- Walks from a directory. At most `links` more links are followed. -/
def Tree.walk (t : Tree) (follow : Bool) :
    (links : Nat) → Location → List String → Except Fault Location
  | 0 => t.walkWith follow fun _ _ => .error .tooManyLinks
  | links + 1 => t.walkWith follow (t.walk follow links)

/-- Faults of a path's text alone. -/
def checkPath (p : Path) : Except Fault Unit :=
  if p.text.toList.contains '\x00' then .error .nulInPath
  else if p.text = "" then .error .notFound
  else if maxPath < p.text.utf8ByteSize then .error .nameTooLong
  else .ok ()

def start (fs : FileSystem) (path : String) : Location :=
  if isAbsolute path then [] else fs.cwd

/-- The location that a path denotes. -/
def locate (fs : FileSystem) (p : Path) (follow : Bool) : Except Fault Location := do
  checkPath p
  fs.tree.walk follow maxLinks (fs.start p.text) (names p.text)

/-- The node that a path denotes, through links. -/
def node (fs : FileSystem) (p : Path) : Except Fault Node := do
  match fs.tree.get? (← fs.locate p true) with
  | some n => .ok n
  | none => .error .notFound

def node? (fs : FileSystem) (p : Path) : Option Node := (fs.node p).toOption

def isDirectory (fs : FileSystem) (p : Path) : Bool := (fs.node? p).any Node.isDirectory

def isFile (fs : FileSystem) (p : Path) : Bool := (fs.node? p).any Node.isFile

/-- Whether a path names something that is no directory. -/
def hasFile (fs : FileSystem) (p : Path) : Bool := (fs.node? p).any fun n => !n.isDirectory

def Location.path (loc : Location) : Path :=
  ⟨"/" ++ String.ofList (Text.joinRuns '/' (loc.reverse.map String.toList))⟩

/-- The path without links, dots or repeated slashes that denotes the same node. -/
def canonical (fs : FileSystem) (p : Path) : Except Fault Path := do
  return Location.path (← fs.locate p true)

def read (fs : FileSystem) (p : Path) : Except Fault Bytes := do
  let n ← fs.node p
  if !n.isReadable then throw .permissionDenied
  match n with
  | .file bytes _ => .ok bytes
  | .device .terminal _ => .error .noDevice
  | .device _ _ => .ok []
  | .pipe _ _ => .ok []
  | .tool _ => .ok []
  | .directory _ => .error .isADirectory
  | .link _ => .error .tooManyLinks

def readText (fs : FileSystem) (p : Path) : Except Fault String := do
  match Text.Utf8.decode? (← fs.read p) with
  | some s => .ok s
  | none => .error .invalidUtf8

def readLossy (fs : FileSystem) (p : Path) : Except Fault String := do
  return Text.Utf8.decodeLossy (← fs.read p)

end FileSystem
end ImportResolver

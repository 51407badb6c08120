import ImportResolver.FileSystem.Lookup
/- Changing a file tree. An operation that fails leaves no trace, as it yields no tree. -/
namespace ImportResolver.FileSystem

def set (fs : FileSystem) (loc : Location) (n : Node) : FileSystem :=
  { fs with tree := fs.tree.insert loc n }

/-- Where the last name of a path would stand: the directory, the name, and whether a slash
follows it. Paths that end in a dot or denote the root have no such place. -/
structure Place where
  parent : Location
  name : String
  asDirectory : Bool
  deriving DecidableEq

def Place.location (p : Place) : Location := p.name :: p.parent

def place (fs : FileSystem) (p : Path) : Except Fault Place := do
  checkPath p
  let ns := (names p.text).reverse
  let (slash, ns) :=
    if Text.endsWith p.text "/" then (true, ns.tail) else (false, ns)
  match ns with
  | [] => .error .busy
  | name :: before =>
    let parent ← fs.tree.walk true maxLinks (fs.start p.text) before.reverse
    if !(fs.tree.get? parent).any Node.isDirectory then .error .notADirectory
    else if name = "." || name = ".." then .error .busy
    else if maxName < name.utf8ByteSize then .error .nameTooLong
    else .ok ⟨parent, name, slash⟩

/-- Makes the directories that are missing on the way. -/
def Tree.makeDirectories (t : Tree) (loc : Location) : List String → Except Fault Tree
  | [] => .ok t
  | name :: rest =>
    match t.walk true maxLinks loc [name] with
    | .ok next =>
      if (t.get? next).any Node.isDirectory then t.makeDirectories next rest
      else .error (if rest = [] then .alreadyExists else .notADirectory)
    | .error .notFound =>
      if (t.get? (name :: loc)).isSome then .error .alreadyExists
      else (t.insert (name :: loc) (.directory 0o755)).makeDirectories (name :: loc) rest
    | .error fault => .error fault

def makeDirectories (fs : FileSystem) (p : Path) : Except Fault FileSystem := do
  if p.text = "" then return fs
  checkPath p
  return { fs with
    tree := ← fs.tree.makeDirectories (fs.start p.text) ((names p.text).filter (· ≠ ".")) }

/-- Where a file opened for writing lies. Links are followed even to a file that is missing. -/
def Tree.writeTarget (t : Tree) : Nat → Location → Except Fault Location
  | 0, _ => .error .tooManyLinks
  | _ + 1, [] => .error .isADirectory
  | links + 1, name :: parent =>
    match t.get? (name :: parent) with
    | some (.link target) =>
      match (names target).reverse with
      | [] => .error .isADirectory
      | last :: before =>
        match t.walk true maxLinks (if isAbsolute target then [] else parent) before.reverse with
        | .ok dir => t.writeTarget links (last :: dir)
        | .error fault => .error fault
    | some (.directory _) => .error .isADirectory
    | _ => .ok (name :: parent)

/-- Where the file lies that is written to at a path. It need not exist. -/
def writable (fs : FileSystem) (p : Path) : Except Fault Location := do
  let place ← fs.place p
  if place.asDirectory then throw .isADirectory
  let loc ← fs.tree.writeTarget maxLinks place.location
  if (fs.tree.get? loc).any fun n => !n.isWritable then throw .permissionDenied
  return loc

/-- Makes a file, or gives an existing one new content and a new mode. -/
def writeFile (fs : FileSystem) (p : Path) (bytes : Bytes) (mode : Nat) :
    Except Fault FileSystem := do
  return fs.set (← fs.writable p) (.file bytes mode)

def makeLink (fs : FileSystem) (p : Path) (target : String) : Except Fault FileSystem := do
  if target.toList.contains '\x00' then throw .nulInPath
  if target = "" then throw .notFound
  let place ← fs.place p
  if (fs.tree.get? place.location).isSome then .error .alreadyExists
  else if place.asDirectory then .error .notFound
  else .ok (fs.set place.location (.link target))

/-- Removes what a path names, a directory with all that is below it. -/
def remove (fs : FileSystem) (p : Path) : Except Fault FileSystem := do
  match ← fs.locate p false with
  | [] => .error .busy
  | loc => return { fs with tree := fs.tree.erase loc }

/-- The names in a directory, in order. -/
def list (fs : FileSystem) (p : Path) : Except Fault (List String) := do
  let loc ← fs.locate p true
  if (fs.tree.get? loc).any Node.isDirectory then
    return ((fs.tree.children loc).map (·.1)).mergeSort fun a b => decide (a ≤ b)
  else .error .notADirectory

end ImportResolver.FileSystem

import ImportResolver.FileSystem.Change
/- Replacing the content of a file in one step: the new content goes into a file beside it, which
then takes its place. Where that fails, the file beside it goes away again. -/
namespace ImportResolver.FileSystem

/-- The directory that a path's last name stands in. -/
def siblingDirectory (p : Path) : Path :=
  match p.parent? with
  | some parent => if parent.text = "" then ⟨"."⟩ else parent
  | none => ⟨"."⟩

def temporaryName (drawn : String) : String := ".tmp" ++ drawn

/-- The place beside `p` for a new file: the first that is free, with a name from what is drawn. -/
def temporaryLocation (fs : FileSystem) (p : Path) : List String → Except Fault Location
  | [] => .error .alreadyExists
  | drawn :: draws => do
    let place ← fs.place ((siblingDirectory p).join (temporaryName drawn))
    if (fs.tree.get? place.location).isNone then return place.location
    else fs.temporaryLocation p draws

theorem get?_temporaryLocation {fs : FileSystem} {p : Path} {draws : List String} {loc : Location}
    (h : fs.temporaryLocation p draws = .ok loc) : fs.tree.get? loc = none := by
  induction draws with
  | nil => cases h
  | cons drawn draws ih =>
    rw [temporaryLocation] at h
    cases hplace : fs.place ((siblingDirectory p).join (temporaryName drawn)) with
    | error fault =>
      rw [hplace] at h
      cases h
    | ok place =>
      rw [hplace] at h
      change (if (fs.tree.get? place.location).isNone then Except.ok place.location
        else fs.temporaryLocation p draws) = .ok loc at h
      split at h
      · next hfree =>
        cases h
        exact Option.isNone_iff_eq_none.1 hfree
      · exact ih h

/-- New files are for their owner alone. -/
def privateMode : Nat := 0o600

/-- The mode of what a path denotes, for a file that is to replace it. -/
def modeAt (fs : FileSystem) (p : Path) : Nat := ((fs.node? p).map Node.mode).getD privateMode

/-- Takes the node at one location away. -/
def discard (fs : FileSystem) (loc : Location) : FileSystem :=
  { fs with tree := fs.tree.remove loc }

/-- Moves a node to a path. A file or a link there gives way, a directory does not. -/
def move (fs : FileSystem) (loc : Location) (p : Path) : Except Fault FileSystem := do
  let place ← fs.place p
  if place.asDirectory then throw .notADirectory
  if (fs.tree.get? place.location).any Node.isDirectory then throw .isADirectory
  match fs.tree.get? loc with
  | some n => return (fs.discard loc).set place.location n
  | none => throw .notFound

/-- What an operation answers, and the file system after it. -/
abbrev Effect (α : Type) := Except Fault α × FileSystem

/-- Goes on from the file system that an operation leaves, unless it fails. -/
def Effect.andThen {α β : Type} (x : Effect α) (f : FileSystem → Effect β) : Effect β :=
  match x with
  | (.ok _, fs) => f fs
  | (.error fault, fs) => (.error fault, fs)

/-- The operations that the system refuses, beside those that the tree rules out. Of a write that is
refused, some bytes may have been written. -/
structure Refusals where
  read : Option Fault := none
  create : Option Fault := none
  fill : Option (Nat × Fault) := none
  flush : Option Fault := none
  permit : Option Fault := none
  move : Option Fault := none
  deriving DecidableEq

/-- An answer that is given unless it is refused. -/
def granted {α : Type} (refused : Option Fault) (answer : Except Fault α) : Except Fault α :=
  match refused with
  | some fault => .error fault
  | none => answer

namespace Replacement

/-- Writes the new content into the file beside. -/
def fill (refused : Option (Nat × Fault)) (loc : Location) (bytes : Bytes) (fs : FileSystem) :
    Effect Unit :=
  match refused with
  | some (n, fault) => (.error fault, fs.set loc (.file (bytes.take n) privateMode))
  | none => (.ok (), fs.set loc (.file bytes privateMode))

def flush (refused : Option Fault) (fs : FileSystem) : Effect Unit := (granted refused (.ok ()), fs)

/-- Gives the file beside the mode of what the path denotes. Where that is nothing, there is nothing
to refuse. -/
def permit (refused : Option Fault) (loc : Location) (p : Path) (bytes : Bytes) (fs : FileSystem) :
    Effect Unit :=
  match granted (if (fs.node? p).isSome then refused else none) (.ok ()) with
  | .error fault => (.error fault, fs)
  | .ok () => (.ok (), fs.set loc (.file bytes (fs.modeAt p)))

/-- Lets the file beside take its place. -/
def install (refused : Option Fault) (loc : Location) (p : Path) (fs : FileSystem) : Effect Unit :=
  match granted refused (fs.move loc p) with
  | .error fault => (.error fault, fs)
  | .ok done => (.ok (), done)

/-- All that is done with the file beside once it is made. -/
def steps (refused : Refusals) (loc : Location) (p : Path) (bytes : Bytes) (fs : FileSystem) :
    Effect Unit :=
  (((fill refused.fill loc bytes fs).andThen (flush refused.flush)).andThen
    (permit refused.permit loc p bytes)).andThen (install refused.move loc p)

end Replacement

/-- Puts `bytes` at a path. The mode of what the path denotes is kept. A link at the path is
replaced, not followed. -/
def atomicWriteWith (refused : Refusals) (draws : List String) (fs : FileSystem) (p : Path)
    (bytes : Bytes) : Effect Unit :=
  match granted refused.create (fs.temporaryLocation p draws) with
  | .error fault => (.error fault, fs)
  | .ok loc =>
    match Replacement.steps refused loc p bytes (fs.set loc (.file [] privateMode)) with
    | (.error fault, left) => (.error fault, left.discard loc)
    | (.ok (), done) => (.ok (), done)

def atomicWrite (draws : List String) (fs : FileSystem) (p : Path) (bytes : Bytes) : Effect Unit :=
  atomicWriteWith {} draws fs p bytes

/-- Whether the file had to be written. A file that holds `bytes` already is left alone. -/
def writeIfChangedWith (refused : Refusals) (draws : List String) (fs : FileSystem) (p : Path)
    (bytes : Bytes) : Effect Bool :=
  let write : Effect Bool :=
    let (answer, fs) := atomicWriteWith refused draws fs p bytes
    (answer.map fun _ => true, fs)
  match granted refused.read (fs.read p) with
  | .ok old => if old = bytes then (.ok false, fs) else write
  | .error .notFound => write
  | .error fault => (.error fault, fs)

def writeIfChanged (draws : List String) (fs : FileSystem) (p : Path) (bytes : Bytes) :
    Effect Bool :=
  writeIfChangedWith {} draws fs p bytes

end ImportResolver.FileSystem

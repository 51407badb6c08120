import ImportResolver.Extension.Rule
import ImportResolver.FileSystem.Lookup
import ImportResolver.Text.Printable
import ImportResolver.Trail
/- Searching for the extension that makes a path name a file. Directories are never found. -/
namespace ImportResolver.Extension

inductive Mode where
  /-- The base may be a whole file name. -/
  | expand
  /-- The base is taken to lack its extension. -/
  | complete
  deriving DecidableEq

inductive Finding where
  | nothing
  | asWritten
  | append (suffix : String)
  | replace (source destination : String)
  deriving DecidableEq

namespace Finding

/-- The specifier that a finding makes of `text`. -/
def applied? (text : String) : Finding → Option String
  | .nothing => none
  | .asWritten => some text
  | .append suffix => some (text ++ suffix)
  | .replace source destination =>
    let stem := (Text.dropTail? source.toList text.toList).getD text.toList
    some (String.ofList (stem ++ destination.toList))

def note : Finding → String
  | .nothing => "NotFound"
  | .asWritten => "AlreadyCorrect"
  | .append suffix => "Append(" ++ Text.quoted suffix ++ ")"
  | .replace source destination =>
    "Replace \x7b source: " ++ Text.quoted source ++ ", destination: " ++
      Text.quoted destination ++ " \x7d"

end Finding

/-- What a base that names a file turns into: the first source that ends it decides. -/
def expanded (base : Path) (candidates : List Candidate) : Finding :=
  match candidates.find? fun c => Text.endsWith base.text c.source with
  | some c => if c.source = c.emitted then .asWritten else .replace c.source c.emitted
  | none => .asWritten

/-- What comes between a base and an extension: a directory's file is its index. -/
def junction (fs : FileSystem) (base : Path) : String :=
  if Text.endsWith base.text "/" then "index"
  else if fs.isDirectory base then "/index"
  else ""

def candidatePath (base : Path) (between : String) (c : Candidate) : Path :=
  ⟨base.text ++ between ++ c.source⟩

/-- The first candidate whose file exists. -/
def firstPresent? (fs : FileSystem) (base : Path) (between : String)
    (candidates : List Candidate) : Option Candidate :=
  candidates.find? fun c => fs.hasFile (candidatePath base between c)

def probeSteps (fs : FileSystem) (base : Path) (between : String) : List Candidate → List Step
  | [] => []
  | c :: cs =>
    let p := candidatePath base between c
    if fs.hasFile p then
      [{ name := .probeExtension, ok := true, detail := "Matched " ++ c.source, path := some p }]
    else
      { name := .probeExtension, ok := false, detail := "No " ++ c.source, path := some p } ::
        probeSteps fs base between cs

/-- Whether the base itself is the file, so that no candidate is tried. -/
def takesBase (fs : FileSystem) (base : Path) (mode : Mode) : Bool :=
  mode = .expand && fs.hasFile base

def finding (fs : FileSystem) (base : Path) (rules : Rules) (mode : Mode) : Finding :=
  if takesBase fs base mode then expanded base rules.candidates
  else
    match firstPresent? fs base (junction fs base) rules.candidates with
    | some c => .append (junction fs base ++ c.emitted)
    | none => if fs.hasFile base then .asWritten else .nothing

def findingSteps (fs : FileSystem) (base : Path) (rules : Rules) (mode : Mode) : List Step :=
  if takesBase fs base mode then
    [{ name := .fileExists, ok := true, detail := "Base names an existing file",
       path := some base, notes := [(expanded base rules.candidates).note] }]
  else
    (if !Text.endsWith base.text "/" && fs.isDirectory base then
      [{ name := .resolveDirectory, ok := true, detail := "Base is a directory",
         path := some base }]
    else []) ++
    probeSteps fs base (junction fs base) rules.candidates ++
    (if (firstPresent? fs base (junction fs base) rules.candidates).isSome then []
    else if fs.hasFile base then
      [{ name := .fileExists, ok := true,
         detail := "No extension matched; base exists as-is" }]
    else [{ name := .probeExtension, ok := false, detail := "No candidate exists" }])

def search (fs : FileSystem) (base : Path) (rules : Rules) (mode : Mode) : Trail Finding :=
  ⟨findingSteps fs base rules mode, .ok (finding fs base rules mode)⟩

end ImportResolver.Extension

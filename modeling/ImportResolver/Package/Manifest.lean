import ImportResolver.Failure
import ImportResolver.FileSystem.Lookup
import ImportResolver.Json.Reader
import ImportResolver.Json.Strict
/- Package manifests. -/
namespace ImportResolver.Package

structure Manifest where
  path : Path
  value : Json

namespace Manifest

def fileName : String := "package.json"

def exportsKey : String := "exports"

/-- The manifest's value. The whole text has to be strict JSON. -/
def parse? (text : String) : Option Json :=
  (Json.parse? text).filter (·.isStrict Json.maxNesting)

def load (fs : FileSystem) (dir : Path) : Except Failure Manifest :=
  let path := dir.join fileName
  match fs.readText path with
  | .error fault => .error (.manifestUnreadable path fault)
  | .ok text =>
    match parse? text with
    | none => .error (.manifestMalformed path (Json.flaw? text))
    | some value => .ok ⟨path, value⟩

/-- A manifest that is no file counts as missing. -/
def loadOptional (fs : FileSystem) (dir : Path) : Except Failure (Option Manifest) :=
  if fs.isFile (dir.join fileName) then (load fs dir).map some else .ok none

/-- Whether there is an export map, whatever it holds. -/
def hasExports (m : Manifest) : Bool := (m.value.member? exportsKey).isSome

/-- A field that holds a text, unless that is empty. -/
def field? (m : Manifest) (name : String) : Option String :=
  ((m.value.member? name).bind Json.text?).filter (· ≠ "")

end Manifest
end ImportResolver.Package

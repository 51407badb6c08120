import ImportResolver.Extension.Rule
/- Where to look for the entry file of a package. -/
namespace ImportResolver.Package

open Extension

structure RawDescriptor where
  kind : String
  field : Option String
  path : Option String
  extensions : List RawRule
  deriving DecidableEq

inductive Descriptor where
  /-- The path that a field of the manifest holds. -/
  | manifestField (field : String) (rules : Rules)
  /-- A path below the package directory. -/
  | literalPath (path : String) (rules : Rules)
  deriving DecidableEq

def Descriptor.rules : Descriptor → Rules
  | .manifestField _ rules => rules
  | .literalPath _ rules => rules

/-- Faults of the rules come before faults of the kind. -/
def RawDescriptor.normalize (raw : RawDescriptor) : Except Failure Descriptor := do
  let rules ← Extension.normalize raw.extensions
  if raw.kind = "manifestField" then
    match raw.field with
    | some field => return .manifestField field rules
    | none => .error (.configuration .entryWithoutField)
  else if raw.kind = "literalPath" then
    match raw.path with
    | some path => return .literalPath path rules
    | none => .error (.configuration .entryWithoutPath)
  else .error (.configuration (.entryKind raw.kind))

def normalize (raw : List RawDescriptor) : Except Failure (List Descriptor) :=
  raw.mapM RawDescriptor.normalize

end ImportResolver.Package

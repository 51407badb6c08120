import ImportResolver.Package.Descriptor
/- Options: as written in a file, and as the resolver uses them. -/
namespace ImportResolver

open Extension Package

structure RawSubmodule where
  extensions : Option (List RawRule) := none
  ignoreExports : Option Bool := none
  deriving DecidableEq

structure RawModule where
  entry : List RawDescriptor := []
  ignoreExports : Option Bool := none
  deriving DecidableEq

/-- Options as written. `extensionsSubmodule` is an older place for the rules of `submodule`. -/
structure RawOptions where
  extensions : List RawRule := []
  extensionsSubmodule : Option (List RawRule) := none
  submodule : RawSubmodule := {}
  module : RawModule := {}
  ignoreUnresolved : Bool := false
  ignoreExports : Bool := false
  deriving DecidableEq

structure Options where
  /-- For file specifiers. -/
  extensions : Rules := []
  /-- For paths within packages. -/
  submoduleExtensions : Rules := []
  /-- For packages named without a path, in order of preference. -/
  entry : List Descriptor := []
  ignoreUnresolved : Bool := false
  submoduleIgnoreExports : Bool := false
  moduleIgnoreExports : Bool := false
  deriving DecidableEq

namespace RawOptions

/-- The rules written for paths within packages, if there are any. -/
def submoduleRules? (raw : RawOptions) : Option (List RawRule) :=
  raw.submodule.extensions <|> raw.extensionsSubmodule

def normalize (raw : RawOptions) : Except Failure Options := do
  let extensions ← Extension.normalize raw.extensions
  let submoduleExtensions ←
    match raw.submoduleRules? with
    | some rules => Extension.normalize rules
    | none => .ok extensions
  let entry ← Package.normalize raw.module.entry
  return {
    extensions, submoduleExtensions, entry
    ignoreUnresolved := raw.ignoreUnresolved
    submoduleIgnoreExports := raw.submodule.ignoreExports.getD raw.ignoreExports
    moduleIgnoreExports := raw.module.ignoreExports.getD raw.ignoreExports }

end RawOptions

namespace Options

/-- Sets the treatment of export maps for both kinds of package specifier. -/
def withIgnoreExports (o : Options) (ignore : Bool) : Options :=
  { o with submoduleIgnoreExports := ignore, moduleIgnoreExports := ignore }

end Options
end ImportResolver

import ImportResolver.Extension.Search
import ImportResolver.Package.Descriptor
import ImportResolver.Package.Manifest
/- The entry file of a package. -/
namespace ImportResolver.Package

def exportsDetail : String := "Manifest declares exports; leaving specifier to the runtime"

/-- A path without the dots and slashes in front that keep it in its directory. -/
def withoutDots : List Char → List Char
  | '.' :: '/' :: cs => withoutDots cs
  | cs => cs

/-- The path that a descriptor gives, with the manifest if it has been read by then. -/
def describedPath (fs : FileSystem) (dir : Path) (manifest : Option Manifest) :
    Descriptor → Trail (Option Manifest × Option String)
  | .literalPath path _ => pure (manifest, some path)
  | .manifestField field _ => do
    let m ← match manifest with
      | some m => pure m
      | none => do
        let m ← Trail.ofExcept (Manifest.load fs dir)
        Trail.record
          { name := .readManifest, ok := true, detail := "Read manifest", path := some m.path }
        pure m
    match m.field? field with
    | some path => pure (some m, some path)
    | none =>
      Trail.record
        { name := .resolveEntry, ok := false, detail := "Field not set", key := some field }
      pure (some m, none)

/-- The specifier of the file that a path below the package directory leads to. -/
def entryAt (fs : FileSystem) (specifier : String) (dir : Path) (rules : Extension.Rules)
    (path : String) : Trail (Option String) := do
  let relative := String.ofList (withoutDots path.toList)
  if relative = "" then return none
  let base := dir.join relative
  let entry (suffix : String) : Trail (Option String) := do
    let emitted := specifier ++ "/" ++ relative ++ suffix
    Trail.record
      { name := .resolveEntry, ok := true, detail := "Entry: " ++ emitted, path := some base }
    return some emitted
  match ← Extension.search fs base rules .complete with
  | .nothing =>
    Trail.record
      { name := .resolveEntry, ok := false, detail := "Entry candidate not found",
        path := some base }
    return none
  | .append suffix => entry suffix
  | _ => entry ""

/-- The first descriptor that leads to a file decides. -/
def firstEntry (fs : FileSystem) (specifier : String) (dir : Path) (manifest : Option Manifest) :
    List Descriptor → Trail (Option String)
  | [] => pure none
  | d :: ds => do
    let (manifest, path) ← describedPath fs dir manifest d
    match path with
    | none => firstEntry fs specifier dir manifest ds
    | some path =>
      match ← entryAt fs specifier dir d.rules path with
      | some emitted => pure (some emitted)
      | none => firstEntry fs specifier dir manifest ds

/-- The specifier of a package's entry file; `none` if the package is to be left to the runtime
or no descriptor leads to a file. -/
def entry (fs : FileSystem) (specifier : String) (dir : Path) (descriptors : List Descriptor)
    (ignoreExports : Bool) : Trail (Option String) := do
  let manifest ←
    if ignoreExports then Trail.ofExcept (Manifest.loadOptional fs dir) else pure none
  if manifest.any Manifest.hasExports then
    Trail.record
      { name := .checkExports, ok := true, detail := exportsDetail,
        key := some Manifest.exportsKey }
    return none
  else firstEntry fs specifier dir manifest descriptors

end ImportResolver.Package

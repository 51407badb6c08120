import ImportResolver.Options.Basic
import ImportResolver.Package.Entry
import ImportResolver.Package.Location
import ImportResolver.Resolution.Basic
/- Resolving one specifier of one file. -/
namespace ImportResolver

/-- What a resolution depends on, besides the file tree. -/
structure Context where
  /-- The importing file. -/
  file : Path
  options : Options
  globals : List Path
  builtins : Builtins

namespace Context

/-- The outcome of a search. Only here does a fruitless one become a failure. -/
def settle (ctx : Context) (text : String) (unresolved : Failure) :
    Extension.Finding → Except Failure Outcome
  | .nothing =>
    if ctx.options.ignoreUnresolved then .ok (.unchanged .unresolved) else .error unresolved
  | .asWritten => .ok (.unchanged .alreadyCorrect)
  | found => .ok (.replaced ((found.applied? text).getD text))

def resolveFile (ctx : Context) (fs : FileSystem) (text : String) : Trail Outcome := do
  let base := ctx.file.directory.join text
  Trail.record
    { name := .resolveRelative, ok := true, detail := "Joined onto importing directory",
      path := some base }
  let found ← Extension.search fs base ctx.options.extensions .expand
  Trail.ofExcept (ctx.settle text (.pathUnresolved text base) found)

/-- The manifest of a package whose export map takes precedence over the options. -/
def exportsManifest? (ctx : Context) (fs : FileSystem) (dir : Path) :
    Except Failure (Option Package.Manifest) :=
  if ctx.options.submoduleIgnoreExports then
    (Package.Manifest.loadOptional fs dir).map (·.filter Package.Manifest.hasExports)
  else .ok none

def resolveSubmodule (ctx : Context) (fs : FileSystem) (text name subPath : String) :
    Trail Outcome := do
  let dir ← Package.locate fs name ctx.file ctx.globals
  match ← Trail.ofExcept (ctx.exportsManifest? fs dir) with
  | some manifest =>
    Trail.record
      { name := .checkExports, ok := true, detail := Package.exportsDetail,
        path := some manifest.path, key := some Package.Manifest.exportsKey }
    return .unchanged .exportsMap
  | none =>
    let found ←
      Extension.search fs (dir.append subPath) ctx.options.submoduleExtensions .complete
    Trail.ofExcept (ctx.settle text (.moduleUnresolved text ctx.file) found)

def resolvePackage (ctx : Context) (fs : FileSystem) (text name : String) : Trail Outcome := do
  let dir ← Package.locate fs name ctx.file ctx.globals
  if ctx.options.entry.isEmpty then
    Trail.record
      { name := .resolveEntry, ok := true, detail := "No entry descriptors configured" }
    return .unchanged .entryKept
  match ← Package.entry fs text dir ctx.options.entry ctx.options.moduleIgnoreExports with
  | some specifier => return .replaced specifier
  | none => return .unchanged .entryKept

def outcome (ctx : Context) (fs : FileSystem) (text : String) : Specifier.Kind → Trail Outcome
  | .url => pure (.unchanged .url)
  | .builtin => pure (.unchanged .builtin)
  | .unrecognized => pure (.unchanged .unrecognized)
  | .file => ctx.resolveFile fs text
  | .package name subPath =>
    if subPath = "" then ctx.resolvePackage fs text name
    else ctx.resolveSubmodule fs text name subPath

/-- Resolves a specifier and keeps account of every step. -/
def explain (ctx : Context) (fs : FileSystem) (text : String) : Trail Resolution := do
  let kind := Specifier.classify ctx.builtins text
  Trail.record
    { name := .classifySpecifier, ok := true, detail := "Specifier type: " ++ kind.label }
  let outcome ← ctx.outcome fs text kind
  match outcome with
  | .replaced specifier =>
    Trail.record { name := .finalSpecifier, ok := true, detail := specifier }
  | .unchanged _ => pure ()
  return ⟨text, kind, outcome⟩

def resolve (ctx : Context) (fs : FileSystem) (text : String) : Except Failure Resolution :=
  (ctx.explain fs text).result

end Context
end ImportResolver

import ImportResolver.Proofs.Extension.Search
import ImportResolver.Resolution.Resolve
/- What a resolution comes to, without its steps: a search for files and paths in packages, an entry
for packages. -/
namespace ImportResolver

namespace Context

open Extension

variable (ctx : Context) (fs : FileSystem)

/-- A resolution is the outcome for the specifier's kind; recording its steps changes nothing. -/
theorem resolve_eq (text : String) :
    ctx.resolve fs text =
      (ctx.outcome fs text (Specifier.classify ctx.builtins text)).result.map
        fun outcome => ⟨text, Specifier.classify ctx.builtins text, outcome⟩ := by
  simp only [resolve, explain, Trail.bind_result, Trail.record_result]
  change ((ctx.outcome fs text _).result).bind _ = _
  cases (ctx.outcome fs text (Specifier.classify ctx.builtins text)).result with
  | error f => rfl
  | ok outcome => cases outcome <;> rfl

theorem resolve_written {ctx : Context} {fs : FileSystem} {text : String} {r : Resolution}
    (h : ctx.resolve fs text = .ok r) : r.written = text := by
  rw [resolve_eq] at h
  obtain ⟨outcome, -, rfl⟩ := exists_of_map_eq_ok h
  rfl

theorem resolve_kind {ctx : Context} {fs : FileSystem} {text : String} {r : Resolution}
    (h : ctx.resolve fs text = .ok r) : r.kind = Specifier.classify ctx.builtins text := by
  rw [resolve_eq] at h
  obtain ⟨outcome, -, rfl⟩ := exists_of_map_eq_ok h
  rfl

theorem resolveFile_result (text : String) : (ctx.resolveFile fs text).result =
    ctx.settle text (.pathUnresolved text (ctx.file.directory.join text))
      (finding fs (ctx.file.directory.join text) ctx.options.extensions .expand) := by
  simp only [resolveFile, search, Trail.bind_result, Trail.record_result, Trail.ofExcept_result,
    Except.bind]

theorem resolveSubmodule_result (text name subPath : String) :
    (ctx.resolveSubmodule fs text name subPath).result =
      (Package.locate fs name ctx.file ctx.globals).result.bind fun dir =>
        (ctx.exportsManifest? fs dir).bind fun
          | some _ => .ok (.unchanged .exportsMap)
          | none => ctx.settle text (.moduleUnresolved text ctx.file)
              (finding fs (dir.append subPath) ctx.options.submoduleExtensions .complete) := by
  rw [resolveSubmodule, Trail.bind_result]
  cases (Package.locate fs name ctx.file ctx.globals).result with
  | error f => rfl
  | ok dir =>
      simp only [Except.bind, Trail.bind_result, Trail.ofExcept_result]
      cases ctx.exportsManifest? fs dir with
      | error f => rfl
      | ok manifest => cases manifest <;> rfl

theorem resolvePackage_result (text name : String) :
    (ctx.resolvePackage fs text name).result =
      (Package.locate fs name ctx.file ctx.globals).result.bind fun dir =>
        if ctx.options.entry.isEmpty then .ok (.unchanged .entryKept)
        else
          (Package.entry fs text dir ctx.options.entry ctx.options.moduleIgnoreExports).result.map
            fun
            | some specifier => .replaced specifier
            | none => .unchanged .entryKept := by
  rw [resolvePackage, Trail.bind_result]
  cases (Package.locate fs name ctx.file ctx.globals).result with
  | error f => rfl
  | ok dir =>
      simp only [Except.bind]
      split_ifs
      · rfl
      · rw [Trail.bind_result]
        cases (Package.entry fs text dir ctx.options.entry
            ctx.options.moduleIgnoreExports).result with
        | error f => rfl
        | ok found => cases found <;> rfl

variable {ctx fs} {text name subPath : String}

theorem exportsManifest?_eq_error_iff {dir : Path} {f : Failure} : ctx.exportsManifest? fs dir = .error f ↔
    ctx.options.submoduleIgnoreExports = true ∧
      Package.Manifest.loadOptional fs dir = .error f := by
  unfold exportsManifest?
  cases ctx.options.submoduleIgnoreExports with
  | false => simp
  | true => cases Package.Manifest.loadOptional fs dir <;> simp [Except.map]

/-- A path in a package is replaced by what the search comes to, and no export map is in the way. -/
theorem settle_of_resolveSubmodule {specifier : String}
    (h : (ctx.resolveSubmodule fs text name subPath).result = .ok (.replaced specifier)) :
    ∃ dir, (Package.locate fs name ctx.file ctx.globals).result = .ok dir ∧
      ctx.exportsManifest? fs dir = .ok none ∧
      ctx.settle text (.moduleUnresolved text ctx.file)
        (finding fs (dir.append subPath) ctx.options.submoduleExtensions .complete) =
          .ok (.replaced specifier) := by
  rw [resolveSubmodule_result] at h
  obtain ⟨dir, hdir, h⟩ := exists_of_bind_eq_ok h
  obtain ⟨manifest, hmanifest, h⟩ := exists_of_bind_eq_ok h
  cases manifest with
  | some m => cases h
  | none => exact ⟨dir, hdir, hmanifest, h⟩

/-- A package specifier is replaced by the entry of the package. -/
theorem entry_of_resolvePackage {specifier : String}
    (h : (ctx.resolvePackage fs text name).result = .ok (.replaced specifier)) :
    ∃ dir, (Package.locate fs name ctx.file ctx.globals).result = .ok dir ∧
      (Package.entry fs text dir ctx.options.entry ctx.options.moduleIgnoreExports).result =
        .ok (some specifier) := by
  rw [resolvePackage_result] at h
  obtain ⟨dir, hdir, h⟩ := exists_of_bind_eq_ok h
  refine ⟨dir, hdir, ?_⟩
  split at h
  · cases h
  · obtain ⟨found, hentry, hfound⟩ := exists_of_map_eq_ok h
    cases found with
    | none => cases hfound
    | some emitted =>
        cases hfound
        exact hentry

theorem resolve_of_file (h : Specifier.classify ctx.builtins text = .file) :
    ctx.resolve fs text =
      (ctx.settle text (.pathUnresolved text (ctx.file.directory.join text))
        (finding fs (ctx.file.directory.join text) ctx.options.extensions .expand)).map
          fun outcome => ⟨text, .file, outcome⟩ := by
  rw [resolve_eq, h, outcome, resolveFile_result]

/-- URLs and built-in modules are left as they are. -/
theorem resolve_of_url (h : Specifier.classify ctx.builtins text = .url) :
    ctx.resolve fs text = .ok ⟨text, .url, .unchanged .url⟩ := by
  rw [resolve_eq, h]
  rfl

theorem resolve_of_builtin (h : Specifier.classify ctx.builtins text = .builtin) :
    ctx.resolve fs text = .ok ⟨text, .builtin, .unchanged .builtin⟩ := by
  rw [resolve_eq, h]
  rfl

theorem resolve_of_package (h : Specifier.classify ctx.builtins text = .package name subPath) :
    ctx.resolve fs text =
      (if subPath = "" then (ctx.resolvePackage fs text name).result
        else (ctx.resolveSubmodule fs text name subPath).result).map
          fun outcome => ⟨text, .package name subPath, outcome⟩ := by
  rw [resolve_eq, h, outcome]
  split_ifs <;> rfl

end Context
end ImportResolver

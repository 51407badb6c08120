import ImportResolver.Proofs.Package.Entry
import ImportResolver.Proofs.Resolution.Splicing
/- What resolving puts behind the part of a specifier that it keeps, and where it is taken from:
rules, descriptors and manifests. -/
namespace ImportResolver

namespace Context

open Extension

/-- What is kept of a specifier, and what is put behind that. -/
inductive Adds (ctx : Context) (fs : FileSystem) (text : String) :
    List Char → List Char → Prop
  | file {suffix : String} :
      Specifier.classify ctx.builtins text = .file →
      IsSuffix fs (ctx.file.directory.join text) ctx.options.extensions suffix →
      Adds ctx fs text text.toList suffix.toList
  | extension {source destination : String} :
      Specifier.classify ctx.builtins text = .file →
      fs.hasFile (ctx.file.directory.join text) = true →
      ⟨source, destination⟩ ∈ ctx.options.extensions.candidates →
      Adds ctx fs text ((Text.dropTail? source.toList text.toList).getD text.toList)
        destination.toList
  | submodule {name subPath suffix : String} {dir : Path} :
      Specifier.classify ctx.builtins text = .package name subPath → subPath ≠ "" →
      (Package.locate fs name ctx.file ctx.globals).result = .ok dir →
      IsSuffix fs (dir.append subPath) ctx.options.submoduleExtensions suffix →
      Adds ctx fs text text.toList suffix.toList
  | entry {name : String} {dir : Path} {d : Package.Descriptor} {added : List Char} :
      Specifier.classify ctx.builtins text = .package name "" →
      (Package.locate fs name ctx.file ctx.globals).result = .ok dir →
      d ∈ ctx.options.entry → Package.IsEntry fs dir d added →
      Adds ctx fs text text.toList added

variable {ctx : Context} {fs : FileSystem} {text : String}

theorem Adds.kept_prefix {kept added : List Char} (h : ctx.Adds fs text kept added) :
    kept <+: text.toList := by
  cases h with
  | file => exact List.prefix_rfl
  | @extension source destination =>
      cases hstem : Text.dropTail? source.toList text.toList with
      | none => exact List.prefix_rfl
      | some stem => exact ⟨source.toList, Text.dropTail?_eq_some_iff.mp hstem⟩
  | submodule => exact List.prefix_rfl
  | entry => exact List.prefix_rfl

/-- A search replaces a specifier only by what was found. -/
theorem settle_replaced {unresolved : Failure} {found : Finding} {specifier : String}
    (h : ctx.settle text unresolved found = .ok (.replaced specifier)) :
    (∃ suffix, found = .append suffix ∧ specifier.toList = text.toList ++ suffix.toList) ∨
      ∃ source destination, found = .replace source destination ∧
        specifier.toList = (Text.dropTail? source.toList text.toList).getD text.toList ++
          destination.toList := by
  cases found with
  | nothing =>
      rw [settle] at h
      split at h
      · cases h
      · cases h
  | asWritten => cases h
  | append suffix =>
      cases h
      exact .inl ⟨suffix, rfl, by simp [Finding.applied?]⟩
  | replace source destination =>
      cases h
      exact .inr ⟨source, destination, rfl, by simp [Finding.applied?]⟩

theorem resolveFile_replaced {specifier : String}
    (hkind : Specifier.classify ctx.builtins text = .file)
    (h : (ctx.resolveFile fs text).result = .ok (.replaced specifier)) :
    ∃ kept added, ctx.Adds fs text kept added ∧ specifier.toList = kept ++ added := by
  rw [resolveFile_result] at h
  rcases settle_replaced h with ⟨suffix, hfound, hs⟩ | ⟨source, destination, hfound, hs⟩
  · exact ⟨_, _, .file hkind (finding_append hfound), hs⟩
  · obtain ⟨-, hfile, hc, -⟩ := finding_replace hfound
    exact ⟨_, _, .extension hkind hfile hc, hs⟩

theorem resolveSubmodule_replaced {name subPath specifier : String}
    (hkind : Specifier.classify ctx.builtins text = .package name subPath) (hsub : subPath ≠ "")
    (h : (ctx.resolveSubmodule fs text name subPath).result = .ok (.replaced specifier)) :
    ∃ kept added, ctx.Adds fs text kept added ∧ specifier.toList = kept ++ added := by
  obtain ⟨dir, hdir, -, hsettle⟩ := settle_of_resolveSubmodule h
  rcases settle_replaced hsettle with ⟨suffix, hfound, hs⟩ | ⟨source, dest, hfound, -⟩
  · exact ⟨_, _, .submodule hkind hsub hdir (finding_append hfound), hs⟩
  · exact absurd hfound (finding_complete_ne_replace source dest)

theorem resolvePackage_replaced {name specifier : String}
    (hkind : Specifier.classify ctx.builtins text = .package name "")
    (h : (ctx.resolvePackage fs text name).result = .ok (.replaced specifier)) :
    ∃ kept added, ctx.Adds fs text kept added ∧ specifier.toList = kept ++ added := by
  obtain ⟨dir, hdir, hentry⟩ := entry_of_resolvePackage h
  obtain ⟨below, hbelow, rfl⟩ := Package.entry_some hentry
  obtain ⟨d, hd, hadded⟩ := List.exists_of_findSome?_eq_some hbelow
  exact ⟨_, _, .entry hkind hdir hd (Package.isEntry_of_below? hadded), by simp⟩

/-- A changed specifier begins with what is kept and ends with what is added. -/
theorem adds_of_resolve {r : Resolution} (h : ctx.resolve fs text = .ok r)
    (hchanged : r.isChanged = true) :
    ∃ kept added, ctx.Adds fs text kept added ∧ r.specifier.toList = kept ++ added := by
  rw [resolve_eq] at h
  obtain ⟨outcome, ho, rfl⟩ := exists_of_map_eq_ok h
  cases outcome with
  | unchanged reason => simp [Resolution.isChanged, Resolution.specifier] at hchanged
  | replaced specifier =>
      change ∃ kept added, ctx.Adds fs text kept added ∧ specifier.toList = kept ++ added
      cases hkind : Specifier.classify ctx.builtins text with
      | url =>
          rw [hkind] at ho
          cases ho
      | builtin =>
          rw [hkind] at ho
          cases ho
      | unrecognized =>
          rw [hkind] at ho
          cases ho
      | file =>
          rw [hkind] at ho
          exact resolveFile_replaced hkind ho
      | package name subPath =>
          rw [hkind, Context.outcome] at ho
          split at ho
          · next hsub =>
              subst hsub
              exact resolvePackage_replaced hkind ho
          · next hsub => exact resolveSubmodule_replaced hkind hsub ho

end Context
end ImportResolver

import ImportResolver.Proofs.Resolution.Outcome
import ImportResolver.Proofs.Specifier.Kind
/- The file that a lengthened specifier names. A search looks for it behind a path, and what it
finds is put behind the text; the text then denotes the path that was looked at. -/
namespace ImportResolver.Context

open Extension Specifier

/-- The path that a text denotes from the importing file: as a file specifier, or as a path in a
package, behind the directory of the package. -/
def denoted? (ctx : Context) (fs : FileSystem) : Specifier.Kind → String → Option Path
  | .file, text => some (ctx.file.directory.join text)
  | .package _ _, text =>
    (Package.locate fs (String.ofList (splitName text.toList).1) ctx.file
      ctx.globals).result.toOption.map (·.append (String.ofList (splitName text.toList).2))
  | _, _ => none

/-- The rules that a search for a specifier of some kind goes by. -/
def rulesFor (ctx : Context) : Specifier.Kind → Rules
  | .file => ctx.options.extensions
  | _ => ctx.options.submoduleExtensions

/-- What the search for a file or for a path in a package finds, where there is a search. -/
def finding? (ctx : Context) (fs : FileSystem) (text : String) : Option Finding :=
  match classify ctx.builtins text with
  | .file => some (finding fs (ctx.file.directory.join text) ctx.options.extensions .expand)
  | .package name subPath =>
    if subPath = "" then none
    else
      match (Package.locate fs name ctx.file ctx.globals).result with
      | .error _ => none
      | .ok dir =>
        match ctx.exportsManifest? fs dir with
        | .ok none =>
          some (finding fs (dir.append subPath) ctx.options.submoduleExtensions .complete)
        | _ => none
  | _ => none

variable {ctx : Context} {fs : FileSystem} {text : String}

theorem denoted?_of_splitName {a b name subPath : String} {dir : Path}
    (hsplit : splitName text.toList = (name.toList, subPath.toList))
    (hdir : (Package.locate fs name ctx.file ctx.globals).result = .ok dir) :
    ctx.denoted? fs (.package a b) text = some (dir.append subPath) := by
  rw [denoted?, hsplit, String.ofList_toList, String.ofList_toList, hdir]
  rfl

/-- Where there is a search, its finding decides. The search is for the path that the text denotes,
and the text can be lengthened without denoting something else than a longer path. -/
theorem exists_of_finding? {found : Finding} (h : ctx.finding? fs text = some found) :
    ∃ base mode unresolved,
      found = finding fs base (ctx.rulesFor (classify ctx.builtins text)) mode ∧
      (∀ s, ctx.denoted? fs (classify ctx.builtins text) (text ++ s) = some (base.append s)) ∧
      ctx.resolve fs text = (ctx.settle text unresolved found).map
        fun outcome => ⟨text, classify ctx.builtins text, outcome⟩ := by
  unfold finding? at h
  cases hkind : classify ctx.builtins text with
  | url => simp [hkind] at h
  | builtin => simp [hkind] at h
  | unrecognized => simp [hkind] at h
  | file =>
      rw [hkind] at h
      cases h
      refine ⟨_, _, _, rfl, fun s => ?_, resolve_of_file hkind⟩
      rw [denoted?, Path.join_append _ (ne_empty_of_isFile (isFile_of_classify hkind))]
  | package name subPath =>
      rw [hkind] at h
      obtain ⟨-, -, -, -, hsplit⟩ := of_classify_package hkind
      by_cases hsub : subPath = ""
      · simp [hsub] at h
      · cases hdir : (Package.locate fs name ctx.file ctx.globals).result with
        | error f => simp [hsub, hdir] at h
        | ok dir =>
            cases hm : ctx.exportsManifest? fs dir with
            | error f => simp [hsub, hdir, hm] at h
            | ok manifest =>
                cases manifest with
                | some m => simp [hsub, hdir, hm] at h
                | none =>
                    simp only [hsub, hdir, hm, if_false] at h
                    cases h
                    refine ⟨_, _, .moduleUnresolved text ctx.file, rfl, fun s => ?_, ?_⟩
                    · have hpath : (splitName text.toList).2 ≠ [] := by simpa [hsplit] using hsub
                      rw [Path.append_append]
                      refine denoted?_of_splitName ?_ hdir
                      rw [String.toList_append, splitName_append_of_path hpath, hsplit,
                        String.toList_append]
                    · rw [resolve_of_package hkind, if_neg hsub, resolveSubmodule_result, hdir]
                      simp only [Except.bind, hm]

/-- What a search appends makes the specifier name the file that was found, but for the extension
that a rule writes in place of the one that it accepts. No earlier candidate has a file. -/
theorem appended_denotes {r : Resolution} {suffix : String} (h : ctx.resolve fs text = .ok r)
    (hfound : ctx.finding? fs text = some (.append suffix)) :
    ∃ between before c after, (between = "" ∨ between = "index" ∨ between = "/index") ∧
      (ctx.rulesFor r.kind).candidates = before ++ c :: after ∧
      r.outcome = .replaced (text ++ between ++ c.emitted) ∧
      (∃ file, ctx.denoted? fs r.kind (text ++ between ++ c.source) = some file ∧
        fs.hasFile file = true ∧
        ((ctx.rulesFor r.kind).Keeps → ctx.denoted? fs r.kind r.specifier = some file)) ∧
      ∀ e ∈ before, ∃ other, ctx.denoted? fs r.kind (text ++ between ++ e.source) = some other ∧
        fs.hasFile other = false := by
  obtain ⟨base, mode, unresolved, hfinding, hdenoted, hresolve⟩ := exists_of_finding? hfound
  obtain ⟨-, c, hc, rfl⟩ := finding_eq_append_iff.mp hfinding.symm
  obtain ⟨hfile, before, after, hsplit, hbefore⟩ := firstPresent?_eq_some_iff.mp hc
  rw [hresolve] at h
  cases h
  have hcandidate (e : Candidate) :
      ctx.denoted? fs (classify ctx.builtins text) (text ++ junction fs base ++ e.source) =
        some (candidatePath base (junction fs base) e) := by
    rw [String.append_assoc, hdenoted]
    exact congrArg (some ∘ Path.mk) (String.append_assoc ..).symm
  refine ⟨junction fs base, before, c, after, junction_cases fs base, hsplit, ?_,
    ⟨_, hcandidate c, hfile, fun hkeeps => ?_⟩, fun e he => ⟨_, hcandidate e, hbefore e he⟩⟩
  · simp [Finding.applied?, String.append_assoc]
  · have hemitted : c.emitted = c.source := hkeeps c (by simp [hsplit])
    rw [← hcandidate c]
    simp [Resolution.specifier, Finding.applied?, hemitted, String.append_assoc]

/-- A package in a scope, with an index that a rule renames. -/
def scopedIndex : FileSystem :=
  ⟨⟨[(["node_modules"], .directory 0o755), (["@s", "node_modules"], .directory 0o755),
    (["p", "@s", "node_modules"], .directory 0o755),
    (["lib", "p", "@s", "node_modules"], .directory 0o755),
    (["index.mjs", "lib", "p", "@s", "node_modules"], .file [] 0o644)]⟩, []⟩

def asScript : Context :=
  ⟨⟨"/main.js"⟩, { submoduleExtensions := [.keep ".cjs", ⟨[".mjs"], some ".js"⟩] }, [],
    .ofNames []⟩

/-- The index is found with the second rule's extension. -/
theorem appended_denotes_index :
    asScript.resolve scopedIndex "@s/p/lib" =
        .ok ⟨"@s/p/lib", .package "@s/p" "/lib", .replaced "@s/p/lib/index.js"⟩ ∧
      ∃ file other,
        asScript.denoted? scopedIndex (.package "@s/p" "/lib") "@s/p/lib/index.mjs" = some file ∧
        scopedIndex.hasFile file = true ∧
        asScript.denoted? scopedIndex (.package "@s/p" "/lib") "@s/p/lib/index.cjs" = some other ∧
        scopedIndex.hasFile other = false := by
  have h : asScript.resolve scopedIndex "@s/p/lib" =
      .ok ⟨"@s/p/lib", .package "@s/p" "/lib", .replaced "@s/p/lib/index.js"⟩ := by
    decide +kernel
  have hfound : asScript.finding? scopedIndex "@s/p/lib" = some (.append "/index.js") := by
    decide +kernel
  obtain ⟨between, before, c, after, hbetween, hsplit, houtcome, ⟨file, hfile, hthere, -⟩,
    hbefore⟩ := appended_denotes h hfound
  have hrules : [⟨".cjs", ".cjs"⟩, ⟨".mjs", ".js"⟩] = before ++ c :: after := hsplit
  rcases before with _ | ⟨e, _ | ⟨e', before⟩⟩
  · cases hrules
    rcases hbetween with rfl | rfl | rfl
    · exact absurd houtcome (by decide)
    · exact absurd houtcome (by decide)
    · exact absurd houtcome (by decide)
  · cases hrules
    obtain ⟨other, hother, hmissing⟩ := hbefore _ List.mem_cons_self
    rcases hbetween with rfl | rfl | rfl
    · exact absurd houtcome (by decide)
    · exact absurd houtcome (by decide)
    · exact ⟨h, file, other, hfile, hthere, hother, hmissing⟩
  · simp at hrules

end ImportResolver.Context

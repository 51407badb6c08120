import ImportResolver.Proofs.Resolution.Account
import ImportResolver.Proofs.Resolution.ExportMap
/- The reason for which a specifier stays as written, and the steps of its account. A file that is there
and a candidate that is wanting are told by the steps exactly if they are the reason. An export map is
told exactly if it has stopped the resolution; for a path in a package it is then the reason, but for a
package the reason is that the entry is kept, as it is where no descriptor leads to a file. -/
namespace ImportResolver

/-- Steps of these names bear on the reason. -/
def Step.Name.weighty : List Step.Name := [.checkExports, .fileExists, .probeExtension]

namespace Trail

variable {α β : Type} {x : Trail α} {y : Trail β} {f : α → Trail β} {reason : Reason} {gated : Prop}
  {front : List Step} {last : Step}

/-- No step bears on the reason. -/
def IsQuiet (x : Trail α) : Prop := x.All (·.name ∉ Step.Name.weighty)

/-- The steps tell of no reason: of no export map, of no file that is there, and of no candidate that
is wanting in the end. -/
structure IsSilent (x : Trail α) : Prop where
  exported : ¬ ∃ s ∈ x.steps, s.name = .checkExports
  present : ¬ ∃ s ∈ x.steps, s.name = .fileExists ∧ s.ok = true
  missed : ¬ x.FailsAt .probeExtension

/-- What the steps tell of the reason. They tell of an export map exactly if one is in the way. -/
structure Tells (reason : Reason) (gated : Prop) (x : Trail α) : Prop where
  exported : (∃ s ∈ x.steps, s.name = .checkExports) ↔ gated
  alreadyCorrect : reason = .alreadyCorrect ↔ ∃ s ∈ x.steps, s.name = .fileExists ∧ s.ok = true
  unresolved : reason = .unresolved ↔ x.FailsAt .probeExtension

theorem IsQuiet.isSilent (h : x.IsQuiet) : x.IsSilent := by
  refine ⟨?_, ?_, ?_⟩
  · rintro ⟨s, hs, hname⟩
    exact h s hs (by simp [hname, Step.Name.weighty])
  · rintro ⟨s, hs, hname, -⟩
    exact h s hs (by simp [hname, Step.Name.weighty])
  · rintro ⟨s, hs, hname, -⟩
    exact h s (List.mem_of_getLast? hs) (by simp [hname, Step.Name.weighty])

theorem IsSilent.bind (hx : x.IsSilent) (hf : ∀ a, x.result = .ok a → (f a).IsSilent) :
    (x >>= f).IsSilent := by
  refine ⟨?_, ?_, ?_⟩
  · rintro ⟨s, hs, hname⟩
    rcases mem_bind_steps.mp hs with hs | ⟨a, ha, hs⟩
    · exact hx.exported ⟨s, hs, hname⟩
    · exact (hf a ha).exported ⟨s, hs, hname⟩
  · rintro ⟨s, hs, hname⟩
    rcases mem_bind_steps.mp hs with hs | ⟨a, ha, hs⟩
    · exact hx.present ⟨s, hs, hname⟩
    · exact (hf a ha).present ⟨s, hs, hname⟩
  · rintro ⟨s, hs, hfailed⟩
    cases hresult : x.result with
    | error e =>
        rw [bind_of_error f hresult] at hs
        exact hx.missed ⟨s, hs, hfailed⟩
    | ok a =>
        rw [bind_of_ok f hresult, List.getLast?_append] at hs
        cases hrest : (f a).steps.getLast? with
        | none =>
            rw [hrest] at hs
            exact hx.missed ⟨s, hs, hfailed⟩
        | some t =>
            rw [hrest] at hs
            exact (hf a hresult).missed ⟨s, hrest.trans hs, hfailed⟩

/-- Where nothing is told, the reason is one of those that are not told. -/
theorem IsSilent.tells (h : x.IsSilent) (hcorrect : reason ≠ .alreadyCorrect)
    (hunresolved : reason ≠ .unresolved) : Tells reason False x :=
  ⟨iff_of_false h.exported not_false, iff_of_false hcorrect h.present,
    iff_of_false hunresolved h.missed⟩

/-- Steps in front that do not bear on the reason change nothing. -/
theorem Tells.of_append (hfront : ∀ s ∈ front, s.name ∉ Step.Name.weighty)
    (hsteps : y.steps = front ++ x.steps) (h : Tells reason gated x) : Tells reason gated y := by
  have hmem (p : Step → Prop) (hp : ∀ s, p s → s.name ∈ Step.Name.weighty) :
      (∃ s ∈ y.steps, p s) ↔ ∃ s ∈ x.steps, p s := by
    rw [hsteps]
    constructor
    · rintro ⟨s, hs, hps⟩
      rcases List.mem_append.mp hs with hs | hs
      · exact absurd (hp s hps) (hfront s hs)
      · exact ⟨s, hs, hps⟩
    · rintro ⟨s, hs, hps⟩
      exact ⟨s, List.mem_append_right front hs, hps⟩
  have hfails : y.FailsAt .probeExtension ↔ x.FailsAt .probeExtension := by
    rw [FailsAt, FailsAt, hsteps]
    cases hlast : x.steps with
    | nil =>
        rw [List.append_nil]
        refine iff_of_false ?_ (by simp)
        rintro ⟨last, hlast, hname, -⟩
        exact hfront last (List.mem_of_getLast? hlast) (by simp [hname, Step.Name.weighty])
    | cons s steps => rw [List.getLast?_append_of_ne_nil _ (by simp)]
  refine ⟨(hmem (·.name = .checkExports) fun s hs => ?_).trans h.exported,
    h.alreadyCorrect.trans (hmem (fun s => s.name = .fileExists ∧ s.ok = true) fun s hs => ?_).symm,
    h.unresolved.trans hfails.symm⟩
  · rw [hs]
    decide
  · rw [hs.1]
    decide

theorem Tells.bind {a : α} (hx : x.IsQuiet) (ha : x.result = .ok a)
    (h : Tells reason gated (f a)) : Tells reason gated (x >>= f) :=
  h.of_append hx (congrArg Trail.steps (bind_of_ok f ha))

/-- Behind candidates that are tried, the last step tells the reason. -/
theorem tells_of_concat (hsteps : x.steps = front ++ [last])
    (hfront : ∀ s ∈ front, s.name = .resolveDirectory ∨ s.name = .probeExtension)
    (hexported : last.name = .checkExports ↔ gated)
    (hcorrect : reason = .alreadyCorrect ↔ last.name = .fileExists ∧ last.ok = true)
    (hunresolved : reason = .unresolved ↔ last.name = .probeExtension ∧ last.ok = false) :
    Tells reason gated x := by
  have hmem (p : Step → Prop)
      (hp : ∀ s, p s → s.name ≠ .resolveDirectory ∧ s.name ≠ .probeExtension) :
      (∃ s ∈ x.steps, p s) ↔ p last := by
    rw [hsteps]
    constructor
    · rintro ⟨s, hs, hps⟩
      rcases List.mem_append.mp hs with hs | hs
      · exact absurd (hfront s hs) (not_or.mpr (hp s hps))
      · exact List.mem_singleton.mp hs ▸ hps
    · exact fun h => ⟨last, List.mem_append_right _ (List.mem_singleton_self last), h⟩
  refine ⟨(hmem (·.name = .checkExports) fun s hs => ?_).trans hexported,
    hcorrect.trans (hmem (fun s => s.name = .fileExists ∧ s.ok = true) fun s hs => ?_).symm, ?_⟩
  · rw [hs]
    decide
  · rw [hs.1]
    decide
  · rw [hunresolved, FailsAt, hsteps, List.getLast?_concat]
    exact ⟨fun h => ⟨last, rfl, h⟩, fun ⟨s, hs, h⟩ => Option.some.inj hs ▸ h⟩

theorem Tells.isSilent (h : Tells .entryKept False x) : x.IsSilent :=
  ⟨h.exported.mp, fun hpresent => Reason.noConfusion (h.alreadyCorrect.mpr hpresent),
    fun hmissed => Reason.noConfusion (h.unresolved.mpr hmissed)⟩

end Trail

namespace Extension

open Trail

variable {fs : FileSystem} {base : Path} {rules : Rules} {mode : Mode}

theorem probeSteps_name (between : String) (candidates : List Candidate) :
    ∀ s ∈ probeSteps fs base between candidates, s.name = .probeExtension := by
  induction candidates with
  | nil => exact List.forall_mem_nil _
  | cons c cs ih =>
      rw [probeSteps]
      split
      · exact List.forall_mem_singleton.mpr rfl
      · exact List.forall_mem_cons.mpr ⟨rfl, ih⟩

theorem triedSteps_name : ∀ s ∈ triedSteps fs base rules,
    s.name = .resolveDirectory ∨ s.name = .probeExtension := by
  refine List.forall_mem_append.mpr ⟨?_, fun s hs => .inr (probeSteps_name _ _ s hs)⟩
  split
  · exact List.forall_mem_singleton.mpr (.inl rfl)
  · exact List.forall_mem_nil _

/-- A search that finds the base as it is written ends with a file that is there. -/
theorem findingSteps_of_asWritten (h : finding fs base rules mode = .asWritten) :
    ∃ front last, findingSteps fs base rules mode = front ++ [last] ∧
      (∀ s ∈ front, s.name = .resolveDirectory ∨ s.name = .probeExtension) ∧
      last.name = .fileExists ∧ last.ok = true := by
  unfold finding at h
  unfold findingSteps
  cases htakes : takesBase fs base mode with
  | true => exact ⟨[], _, rfl, List.forall_mem_nil _, rfl, rfl⟩
  | false =>
      rw [htakes, if_neg Bool.false_ne_true] at h
      cases hfirst : firstPresent? fs base (junction fs base) rules.candidates with
      | some c =>
          rw [hfirst] at h
          cases h
      | none =>
          rw [hfirst] at h
          dsimp only at h
          split_ifs at h with hbase
          simp only [Bool.false_eq_true, if_false, hbase, Option.isSome_none, if_true]
          exact ⟨triedSteps fs base rules, _, rfl, triedSteps_name, rfl, rfl⟩

end Extension

namespace Package

open Extension Trail

variable {fs : FileSystem} {name specifier : String} {file dir : Path} {globals : List Path}

theorem misses_quiet {step : Step.Name} (h : step ∉ Step.Name.weighty) (places : List Path) :
    ∀ s ∈ misses fs step places, s.name ∉ Step.Name.weighty := by
  intro s hs
  obtain ⟨p, -, rfl⟩ := List.mem_map.mp hs
  exact h

theorem locate_quiet (fs : FileSystem) (name : String) (file : Path) (globals : List Path) :
    (locate fs name file globals).IsQuiet := by
  have hfront : ∀ s ∈ misses fs .searchNodeModules (nearby name file) ++
      misses fs .searchGlobalDirs (global name globals), s.name ∉ Step.Name.weighty :=
    List.forall_mem_append.mpr ⟨misses_quiet (by decide) _, misses_quiet (by decide) _⟩
  have hlast {s : Step} (h : s.name = .findPackageDir) : ∀ t ∈ [s], t.name ∉ Step.Name.weighty :=
    List.forall_mem_singleton.mpr (by rw [h]; decide)
  unfold locate
  dsimp only
  split
  · exact List.forall_mem_append.mpr ⟨misses_quiet (by decide) _, hlast rfl⟩
  · split
    · exact List.forall_mem_append.mpr ⟨hfront, hlast rfl⟩
    · exact List.forall_mem_append.mpr ⟨hfront, hlast rfl⟩

theorem describedPath_quiet (manifest : Option Manifest) (d : Descriptor) :
    (describedPath fs dir manifest d).IsQuiet := by
  cases d with
  | literalPath path rules => exact .pure _
  | manifestField field rules =>
      have hread (m : Manifest) :
          (describedPath fs dir (some m) (.manifestField field rules)).IsQuiet := by
        refine .bind (.pure m) fun m _ => ?_
        dsimp only
        split
        · exact .pure _
        · exact .bind (.record (by simp [Step.Name.weighty])) fun _ _ => .pure _
      cases manifest with
      | some m => exact hread m
      | none =>
          rw [describedPath_none]
          refine .bind (.ofExcept _) fun m _ => ?_
          exact .bind (.record (by simp [Step.Name.weighty])) fun _ _ => hread m

/-- That a path leads to no file is told last, behind the candidates that were tried for it. -/
theorem entryAt_silent {rules : Rules} {path : String}
    (h : (entryAt fs specifier dir rules path).result = .ok none) :
    (entryAt fs specifier dir rules path).IsSilent := by
  rw [entryAt_result, below?] at h
  unfold entryAt
  dsimp only at h ⊢
  split_ifs at h ⊢ with hempty
  · exact IsQuiet.isSilent (.pure _)
  · generalize dir.join (String.ofList (withoutDots path.toList)) = base at h ⊢
    have hnothing : finding fs base rules .complete = .nothing := by
      cases hfound : finding fs base rules .complete with
      | nothing => rfl
      | asWritten => simp [hfound, Finding.added?] at h
      | append suffix => simp [hfound, Finding.added?] at h
      | replace source destination => simp [hfound, Finding.added?] at h
    have hresult : (search fs base rules .complete).result = .ok .nothing :=
      congrArg Except.ok hnothing
    rw [bind_of_ok _ hresult]
    have hsteps : (search fs base rules .complete).steps = _ := findingSteps_of_nothing hnothing
    have htried : ∀ s ∈ triedSteps fs base rules ++
        [{ name := .probeExtension, ok := false, detail := "No candidate exists" }],
        s.name = .resolveDirectory ∨ s.name = .probeExtension :=
      List.forall_mem_append.mpr ⟨triedSteps_name, List.forall_mem_singleton.mpr (.inr rfl)⟩
    refine Tells.isSilent (tells_of_concat (congrArg (· ++ _) hsteps) htried ?_ ?_ ?_)
    · exact iff_of_false (by simp) not_false
    · exact iff_of_false (by simp) (by simp)
    · exact iff_of_false (by simp) (by simp)

/-- Where no descriptor leads to a file, nothing is told of one in the end. -/
theorem firstEntry_silent {manifest : Option Manifest} {ds : List Descriptor}
    (h : (firstEntry fs specifier dir manifest ds).result = .ok none) :
    (firstEntry fs specifier dir manifest ds).IsSilent := by
  induction ds generalizing manifest with
  | nil => exact IsQuiet.isSilent (.pure _)
  | cons d ds ih =>
      unfold firstEntry at h ⊢
      refine .bind (describedPath_quiet manifest d).isSilent fun described hdescribed => ?_
      rw [bind_of_ok _ hdescribed] at h
      obtain ⟨after, path⟩ := described
      cases path with
      | none => exact ih h
      | some path =>
          dsimp only at h ⊢
          cases hfound : (entryAt fs specifier dir d.rules path).result with
          | error f =>
              rw [bind_of_error _ hfound] at h
              cases h
          | ok found =>
              rw [bind_of_ok _ hfound] at h
              cases found with
              | some emitted => cases h
              | none =>
                  refine .bind (entryAt_silent hfound) fun found hok => ?_
                  cases hfound.symm.trans hok
                  exact ih h

/-- A manifest that is asked for has an export map exactly if there is one in the file. -/
theorem exists_loadOptional_iff :
    (∃ m, Manifest.loadOptional fs dir = .ok (some m) ∧ m.hasExports = true) ↔
      ∃ value, HasManifest fs dir value ∧ (value.member? Manifest.exportsKey).isSome = true := by
  constructor
  · rintro ⟨m, hload, hexports⟩
    rcases manifest_cases fs dir with hfile | ⟨value, hvalue⟩ | ⟨f, hbad⟩
    · rw [Manifest.loadOptional, if_neg (by simp [hfile])] at hload
      cases hload
    · rw [hvalue.loadOptional] at hload
      cases hload
      exact ⟨value, hvalue, hexports⟩
    · cases hbad.loadOptional.symm.trans hload
  · rintro ⟨value, hvalue, hexports⟩
    exact ⟨_, hvalue.loadOptional, hexports⟩

/-- A package that is left without an entry tells of its export map if that is heeded. -/
theorem entry_tells {ds : List Descriptor} {heed : Bool}
    (h : (entry fs specifier dir ds heed).result = .ok none) :
    Tells .entryKept (heed = true ∧
        ∃ m, Manifest.loadOptional fs dir = .ok (some m) ∧ m.hasExports = true)
      (entry fs specifier dir ds heed) := by
  cases heed with
  | false =>
      have hentry : (firstEntry fs specifier dir none ds).result = .ok none := h
      have htells : Tells .entryKept False (firstEntry fs specifier dir none ds) :=
        (firstEntry_silent hentry).tells (by simp) (by simp)
      simp only [Bool.false_eq_true, false_and]
      exact htells
  | true =>
      cases hload : Manifest.loadOptional fs dir with
      | error f =>
          rw [entry_result, if_pos rfl, hload] at h
          cases h
      | ok manifest =>
          have hread : (Trail.ofExcept (Manifest.loadOptional fs dir)).result = .ok manifest := hload
          rw [entry_result, if_pos rfl, hload] at h
          simp only [true_and, Except.ok.injEq]
          refine Tells.bind (.ofExcept _) hread ?_
          have hmap : (∃ m, manifest = some m ∧ m.hasExports = true) ↔
              manifest.any Manifest.hasExports = true := by
            rw [Option.any_eq_true]
          rw [hmap]
          dsimp only
          cases hexports : manifest.any Manifest.hasExports with
          | true =>
              rw [if_pos rfl]
              exact tells_of_concat (List.nil_append _).symm (List.forall_mem_nil _)
                (iff_of_true rfl rfl) (by simp) (by simp)
          | false =>
              simp only [Except.bind, hexports, Bool.false_eq_true, if_false] at h ⊢
              exact (firstEntry_silent h).tells (by simp) (by simp)

end Package

namespace Context

open Extension Package Trail

variable {ctx : Context} {fs : FileSystem} {text name subPath : String} {reason : Reason}

/-- An export map stops the resolution: the package has one, and it is heeded where the specifier is
resolved. A package without descriptors is not even asked for one. -/
def Stopped (ctx : Context) (fs : FileSystem) : Specifier.Kind → Prop
  | .package name subPath =>
    (if subPath = "" then ctx.options.entry ≠ [] ∧ ctx.options.moduleIgnoreExports = true
      else ctx.options.submoduleIgnoreExports = true) ∧
    ∃ dir value, (locate fs name ctx.file ctx.globals).result = .ok dir ∧
      HasManifest fs dir value ∧ (value.member? Manifest.exportsKey).isSome = true
  | _ => False

/-- A search tells whether it has found the base as it is written, or nothing. -/
theorem settle_tells {unresolved : Failure} {base : Path} {rules : Rules} {mode : Mode}
    (h : ctx.settle text unresolved (finding fs base rules mode) = .ok (.unchanged reason)) :
    Tells reason False (search fs base rules mode >>= fun found =>
        Trail.ofExcept (ctx.settle text unresolved found)) ∧
      (reason = .alreadyCorrect ∨ reason = .unresolved) := by
  have hsteps : (search fs base rules mode >>= fun found =>
      Trail.ofExcept (ctx.settle text unresolved found)).steps = findingSteps fs base rules mode :=
    List.append_nil _
  cases hfound : finding fs base rules mode with
  | nothing =>
      rw [hfound, settle] at h
      split_ifs at h
      cases h
      rw [findingSteps_of_nothing hfound] at hsteps
      exact ⟨tells_of_concat hsteps triedSteps_name (by simp) (by simp) (by simp), .inr rfl⟩
  | asWritten =>
      rw [hfound] at h
      cases h
      obtain ⟨front, last, hends, hfront, hname, hok⟩ := findingSteps_of_asWritten hfound
      rw [hends] at hsteps
      exact ⟨tells_of_concat hsteps hfront (by simp [hname]) (by simp [hname, hok])
        (by simp [hname]), .inl rfl⟩
  | append suffix =>
      rw [hfound] at h
      cases h
  | replace source destination =>
      rw [hfound] at h
      cases h

theorem resolveFile_tells (h : (ctx.resolveFile fs text).result = .ok (.unchanged reason)) :
    Tells reason False (ctx.resolveFile fs text) ∧
      (reason = .alreadyCorrect ∨ reason = .unresolved) := by
  rw [resolveFile_result] at h
  obtain ⟨htells, hreason⟩ := settle_tells h
  exact ⟨htells.bind (.record (by simp [Step.Name.weighty])) rfl, hreason⟩

theorem exists_manifest_iff {dir : Path}
    (hdir : (locate fs name ctx.file ctx.globals).result = .ok dir) :
    (∃ d value, (locate fs name ctx.file ctx.globals).result = .ok d ∧
        HasManifest fs d value ∧ (value.member? Manifest.exportsKey).isSome = true) ↔
      ∃ m, Manifest.loadOptional fs dir = .ok (some m) ∧ m.hasExports = true := by
  rw [exists_loadOptional_iff, hdir]
  simp

/-- The manifest that takes precedence for a path in a package is there if an export map stops it. -/
theorem stopped_submodule_iff {dir : Path} {manifest : Option Manifest} (hsub : subPath ≠ "")
    (hdir : (locate fs name ctx.file ctx.globals).result = .ok dir)
    (hmanifest : ctx.exportsManifest? fs dir = .ok manifest) :
    Stopped ctx fs (.package name subPath) ↔ manifest.isSome = true := by
  rw [Stopped, if_neg hsub, exists_manifest_iff hdir]
  unfold exportsManifest? at hmanifest
  split_ifs at hmanifest with hheed
  · obtain ⟨found, hload, rfl⟩ := exists_of_map_eq_ok hmanifest
    rw [hload, Option.isSome_filter, Option.any_eq_true]
    simp [hheed]
  · cases hmanifest
    simp [hheed]

/-- For a path in a package, an export map that is in the way is told and is the reason. -/
theorem resolveSubmodule_tells (hsub : subPath ≠ "")
    (h : (ctx.resolveSubmodule fs text name subPath).result = .ok (.unchanged reason)) :
    Tells reason (Stopped ctx fs (.package name subPath))
        (ctx.resolveSubmodule fs text name subPath) ∧
      (reason = .exportsMap ↔ Stopped ctx fs (.package name subPath)) ∧
      (reason = .exportsMap ∨ reason = .alreadyCorrect ∨ reason = .unresolved) := by
  rw [resolveSubmodule_result] at h
  obtain ⟨dir, hdir, h⟩ := exists_of_bind_eq_ok h
  obtain ⟨manifest, hmanifest, h⟩ := exists_of_bind_eq_ok h
  rw [stopped_submodule_iff hsub hdir hmanifest]
  have hread : (Trail.ofExcept (ctx.exportsManifest? fs dir)).result = .ok manifest := hmanifest
  unfold resolveSubmodule
  cases manifest with
  | some m =>
      cases h
      refine ⟨.bind (locate_quiet _ _ _ _) hdir (.bind (.ofExcept _) hread ?_),
        by simp, .inl rfl⟩
      exact tells_of_concat (List.nil_append _).symm (List.forall_mem_nil _)
        (iff_of_true rfl rfl) (by simp) (by simp)
  | none =>
      obtain ⟨hsettled, hreason⟩ := settle_tells h
      refine ⟨.bind (locate_quiet _ _ _ _) hdir (.bind (.ofExcept _) hread ?_),
        iff_of_false ?_ (by simp), .inr hreason⟩
      · simpa using hsettled
      · rintro rfl
        simp at hreason

/-- For a package, an export map that is in the way is told, but the reason is that its entry is
kept, as it is without one. -/
theorem resolvePackage_tells
    (h : (ctx.resolvePackage fs text name).result = .ok (.unchanged reason)) :
    Tells reason (Stopped ctx fs (.package name "")) (ctx.resolvePackage fs text name) ∧
      reason = .entryKept := by
  rw [resolvePackage_result] at h
  obtain ⟨dir, hdir, h⟩ := exists_of_bind_eq_ok h
  rw [Stopped, if_pos rfl, exists_manifest_iff hdir]
  unfold resolvePackage
  cases hentry : ctx.options.entry.isEmpty with
  | true =>
      rw [hentry, if_pos rfl] at h
      cases h
      refine ⟨.bind (locate_quiet _ _ _ _) hdir ?_, rfl⟩
      rw [if_pos rfl]
      refine tells_of_concat (List.nil_append _).symm (List.forall_mem_nil _) ?_
        (by simp) (by simp)
      simp [List.isEmpty_iff.mp hentry]
  | false =>
      rw [hentry, if_neg Bool.false_ne_true] at h
      obtain ⟨found, hfound, hreason⟩ := exists_of_map_eq_ok h
      cases found with
      | some specifier => cases hreason
      | none =>
          cases hreason
          refine ⟨.bind (locate_quiet _ _ _ _) hdir ?_, rfl⟩
          rw [if_neg Bool.false_ne_true, bind_of_ok _ hfound]
          have hne : ctx.options.entry ≠ [] := by simpa using hentry
          simp only [ne_eq, hne, not_false_eq_true, true_and]
          exact .of_append (List.forall_mem_nil _) (List.append_nil _) (entry_tells hfound)

/-- An export map is the reason for no other specifiers than paths in packages, and that the entry is
kept is the reason for packages only. -/
theorem outcome_tells {kind : Specifier.Kind}
    (h : (ctx.outcome fs text kind).result = .ok (.unchanged reason)) :
    Tells reason (Stopped ctx fs kind) (ctx.outcome fs text kind) ∧
      (reason = .url ↔ kind = .url) ∧ (reason = .builtin ↔ kind = .builtin) ∧
      (reason = .unrecognized ↔ kind = .unrecognized) ∧
      (reason = .exportsMap ↔
        (∃ name subPath, subPath ≠ "" ∧ kind = .package name subPath) ∧ Stopped ctx fs kind) ∧
      (reason = .entryKept ↔ ∃ name, kind = .package name "") := by
  have hsilent (kept : Reason) : (Pure.pure (.unchanged kept) : Trail Outcome).IsSilent :=
    IsQuiet.isSilent (.pure _)
  cases kind with
  | url =>
      cases h
      exact ⟨(hsilent _).tells (by simp) (by simp), by simp⟩
  | builtin =>
      cases h
      exact ⟨(hsilent _).tells (by simp) (by simp), by simp⟩
  | unrecognized =>
      cases h
      exact ⟨(hsilent _).tells (by simp) (by simp), by simp⟩
  | file =>
      obtain ⟨htells, hreason⟩ := resolveFile_tells h
      refine ⟨htells, ?_⟩
      rcases hreason with rfl | rfl <;> simp
  | package name subPath =>
      rw [outcome] at h ⊢
      split_ifs at h ⊢ with hsub
      · subst hsub
        obtain ⟨htells, rfl⟩ := resolvePackage_tells h
        exact ⟨htells, by simp⟩
      · obtain ⟨htells, hmap, hreason⟩ := resolveSubmodule_tells hsub h
        refine ⟨htells, ?_⟩
        rcases hreason with rfl | rfl | rfl <;> simp [hsub, hmap.symm]

/-- The reason for which a specifier stays as written is told by its kind and by the steps of its
account. An export map is told exactly if one has stopped the resolution. For a path in a package it
is then the reason; for a package it never is, the reason being that the entry is kept. -/
theorem reason_told {r : Resolution} (h : (ctx.explain fs text).result = .ok r)
    (hreason : r.outcome = .unchanged reason) :
    ((reason = .url ↔ r.kind = .url) ∧ (reason = .builtin ↔ r.kind = .builtin) ∧
      (reason = .unrecognized ↔ r.kind = .unrecognized)) ∧
    ((∃ s ∈ (ctx.explain fs text).steps, s.name = .checkExports) ↔ Stopped ctx fs r.kind) ∧
    (reason = .exportsMap ↔ (∃ name subPath, subPath ≠ "" ∧ r.kind = .package name subPath) ∧
      ∃ s ∈ (ctx.explain fs text).steps, s.name = .checkExports) ∧
    (reason = .entryKept ↔ ∃ name, r.kind = .package name "") ∧
    (reason = .alreadyCorrect ↔
      ∃ s ∈ (ctx.explain fs text).steps, s.name = .fileExists ∧ s.ok = true) ∧
    (reason = .unresolved ↔ (ctx.explain fs text).FailsAt .probeExtension) := by
  have hresolve : ctx.resolve fs text = .ok r := h
  rw [resolve_eq] at hresolve
  obtain ⟨outcome, hresult, rfl⟩ := exists_of_map_eq_ok hresolve
  cases hreason
  obtain ⟨htells, hurl, hbuiltin, hunrecognized, hmap, hkept⟩ := outcome_tells hresult
  have hexplained : Tells reason (Stopped ctx fs (Specifier.classify ctx.builtins text))
      (ctx.explain fs text) := by
    cases explains ctx fs text with
    | replaced _ _ hother _ => cases hresult.symm.trans hother
    | other hfirst _ hsteps =>
        refine htells.of_append (List.forall_mem_singleton.mpr ?_) hsteps
        simp [hfirst, Step.Name.weighty]
  refine ⟨⟨hurl, hbuiltin, hunrecognized⟩, hexplained.exported, ?_, hkept,
    hexplained.alreadyCorrect, hexplained.unresolved⟩
  rw [hexplained.exported]
  exact hmap

/-- The map stops the package as it stops the path in it, but is the reason for the path alone. -/
theorem reason_told_mapped :
    ((wantingScripts.heeding true).resolve threePackages "m" =
        .ok ⟨"m", .package "m" "", .unchanged .entryKept⟩ ∧
      Stopped (wantingScripts.heeding true) threePackages (.package "m" "")) ∧
    ((wantingScripts.heeding true).resolve threePackages "m/x" =
        .ok ⟨"m/x", .package "m" "/x", .unchanged .exportsMap⟩ ∧
      Stopped (wantingScripts.heeding true) threePackages (.package "m" "/x")) := by
  have hroot : (wantingScripts.heeding true).resolve threePackages "m" =
      .ok ⟨"m", .package "m" "", .unchanged .entryKept⟩ := by decide +kernel
  have hchecked : ∃ s ∈ ((wantingScripts.heeding true).explain threePackages "m").steps,
      s.name = .checkExports := by decide +kernel
  have hpath : (wantingScripts.heeding true).resolve threePackages "m/x" =
      .ok ⟨"m/x", .package "m" "/x", .unchanged .exportsMap⟩ := by decide +kernel
  obtain ⟨-, hstopped, -⟩ := reason_told hroot rfl
  obtain ⟨-, hstopped', hmap, -⟩ := reason_told hpath rfl
  exact ⟨⟨hroot, hstopped.mp hchecked⟩, hpath, hstopped'.mp (hmap.mp rfl).2⟩

end Context
end ImportResolver

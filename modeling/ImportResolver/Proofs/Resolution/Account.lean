import ImportResolver.Proofs.Resolution.Unresolved
/- The account that explaining a specifier gives. Whatever a step tells of the file tree is so, and
the last step tells what the specifier has come to. -/
namespace ImportResolver

/-- A candidate that was tried is a file exactly if the step went well, and a place that was passed
over is no directory. -/
structure Step.IsFaithful (fs : FileSystem) (step : Step) : Prop where
  probed : step.name = .probeExtension →
    ∀ p, step.path = some p → (step.ok = true ↔ fs.hasFile p = true)
  searched : step.name = .searchNodeModules ∨ step.name = .searchGlobalDirs →
    ∃ p, step.path = some p ∧ fs.isDirectory p = false

/-- A step that decides nothing: no final specifier, and no package that was not found. -/
structure Step.IsInner (fs : FileSystem) (step : Step) : Prop where
  faithful : step.IsFaithful fs
  ongoing : step.name ≠ .finalSpecifier
  found : step.name = .findPackageDir → step.ok = true

/-- Other steps tell nothing of the file tree. -/
theorem Step.isFaithful_of_name {fs : FileSystem} {step : Step}
    (h : step.name ∉ [.probeExtension, .searchNodeModules, .searchGlobalDirs]) :
    step.IsFaithful fs := by
  simp only [List.mem_cons, not_or] at h
  obtain ⟨hprobe, hnear, hfar, -⟩ := h
  refine ⟨fun hname => absurd hname hprobe, fun hname => ?_⟩
  rcases hname with hname | hname
  · exact absurd hname hnear
  · exact absurd hname hfar

theorem Step.isInner_of_name {fs : FileSystem} {step : Step}
    (h : step.name ∉ [.probeExtension, .searchNodeModules, .searchGlobalDirs, .findPackageDir,
      .finalSpecifier]) : step.IsInner fs := by
  simp only [List.mem_cons, not_or] at h
  obtain ⟨hprobe, hnear, hfar, hfind, hfinal, -⟩ := h
  exact ⟨isFaithful_of_name (by simp [hprobe, hnear, hfar]), hfinal,
    fun hname => absurd hname hfind⟩

namespace Trail

variable {α β : Type} {x : Trail α} {f : α → Trail β} {fs : FileSystem} {name : Step.Name}

/-- Every step on the trail is so. -/
def All (P : Step → Prop) (x : Trail α) : Prop := ∀ s ∈ x.steps, P s

variable {P : Step → Prop}

theorem All.pure (a : α) : (Pure.pure a : Trail α).All P := by
  intro s hs
  cases hs

theorem All.ofExcept (r : Except Failure α) : (Trail.ofExcept r).All P := by
  intro s hs
  cases hs

theorem All.record {s : Step} (h : P s) : (Trail.record s).All P := by
  intro t ht
  rw [List.mem_singleton.mp ht]
  exact h

theorem All.bind (hx : x.All P) (hf : ∀ a, x.result = .ok a → (f a).All P) : (x >>= f).All P := by
  intro s hs
  rcases mem_bind_steps.mp hs with hs | ⟨a, ha, hs⟩
  · exact hx s hs
  · exact hf a ha s hs

def IsInner (fs : FileSystem) (x : Trail α) : Prop := ∀ s ∈ x.steps, s.IsInner fs

theorem IsInner.pure (a : α) : IsInner fs (Pure.pure a : Trail α) := All.pure a

theorem IsInner.ofExcept (r : Except Failure α) : IsInner fs (Trail.ofExcept r) := All.ofExcept r

theorem IsInner.record {s : Step} (h : s.IsInner fs) : IsInner fs (Trail.record s) := All.record h

theorem IsInner.bind (hx : x.IsInner fs) (hf : ∀ a, x.result = .ok a → (f a).IsInner fs) :
    (x >>= f).IsInner fs := All.bind hx hf

/-- The trail ends with a step of that name, and the step has failed. -/
def FailsAt (name : Step.Name) (x : Trail α) : Prop :=
  ∃ step, x.steps.getLast? = some step ∧ step.name = name ∧ step.ok = false

theorem FailsAt.bind {a : α} (ha : x.result = .ok a) (h : (f a).FailsAt name) :
    (x >>= f).FailsAt name := by
  obtain ⟨step, hlast, hstep⟩ := h
  refine ⟨step, ?_, hstep⟩
  rw [bind_of_ok f ha, List.getLast?_append, hlast]
  rfl

theorem failsAt_of_cons {y : Trail β} {first : Step} (h : x.steps = first :: y.steps)
    (hname : first.name ≠ name) : x.FailsAt name ↔ y.FailsAt name := by
  unfold FailsAt
  rw [h, List.getLast?_cons]
  cases y.steps.getLast? with
  | none => simp [hname]
  | some last => rfl

end Trail

namespace Extension

variable {fs : FileSystem} {base : Path} {rules : Rules} {mode : Mode}

theorem isInner_probe {step : Step} (hname : step.name = .probeExtension)
    (h : ∀ p, step.path = some p → (step.ok = true ↔ fs.hasFile p = true)) : step.IsInner fs := by
  refine ⟨⟨fun _ => h, ?_⟩, ?_, ?_⟩
  · intro hsearch
    rcases hsearch with hsearch | hsearch <;> cases hname.symm.trans hsearch
  · intro hfinal
    cases hname.symm.trans hfinal
  · intro hfound
    cases hname.symm.trans hfound

/-- Each candidate is told to be there exactly if it is. -/
theorem probeSteps_inner (between : String) (candidates : List Candidate) :
    ∀ s ∈ probeSteps fs base between candidates, s.IsInner fs := by
  induction candidates with
  | nil =>
      intro s hs
      cases hs
  | cons c cs ih =>
      intro s hs
      rw [probeSteps] at hs
      split at hs
      · next hfile =>
          rw [List.mem_singleton.mp hs]
          refine isInner_probe rfl fun p hp => ?_
          cases hp
          exact iff_of_true rfl hfile
      · next hfile =>
          rcases List.mem_cons.mp hs with rfl | hs
          · refine isInner_probe rfl fun p hp => ?_
            cases hp
            exact iff_of_false Bool.false_ne_true hfile
          · exact ih s hs

theorem search_inner : (search fs base rules mode).IsInner fs := by
  change ∀ s ∈ findingSteps fs base rules mode, s.IsInner fs
  unfold findingSteps
  split
  · exact List.forall_mem_singleton.mpr (Step.isInner_of_name (by simp))
  · refine List.forall_mem_append.mpr
      ⟨List.forall_mem_append.mpr ⟨?directory, probeSteps_inner _ _⟩, ?last⟩
    case directory =>
      split
      · exact List.forall_mem_singleton.mpr (Step.isInner_of_name (by simp))
      · exact List.forall_mem_nil _
    case last =>
      split
      · exact List.forall_mem_nil _
      · split
        · exact List.forall_mem_singleton.mpr (Step.isInner_of_name (by simp))
        · refine List.forall_mem_singleton.mpr (isInner_probe rfl fun p hp => ?_)
          cases hp

/-- What is tried before it is said whether the base is there. -/
def triedSteps (fs : FileSystem) (base : Path) (rules : Rules) : List Step :=
  (if !Text.endsWith base.text "/" && fs.isDirectory base then
    [{ name := .resolveDirectory, ok := true, detail := "Base is a directory", path := some base }]
  else []) ++ probeSteps fs base (junction fs base) rules.candidates

/-- A search that comes to nothing ends with a candidate that is wanting. -/
theorem findingSteps_of_nothing (h : finding fs base rules mode = .nothing) :
    findingSteps fs base rules mode = triedSteps fs base rules ++
      [{ name := .probeExtension, ok := false, detail := "No candidate exists" }] := by
  unfold finding at h
  unfold findingSteps
  cases htakes : takesBase fs base mode with
  | true =>
      rw [htakes, if_pos rfl, expanded] at h
      split at h
      · split_ifs at h
      · cases h
  | false =>
      rw [htakes, if_neg Bool.false_ne_true] at h
      cases hfirst : firstPresent? fs base (junction fs base) rules.candidates with
      | some c =>
          rw [hfirst] at h
          cases h
      | none =>
          rw [hfirst] at h
          dsimp only at h
          split_ifs at h with hbase
          simp only [Bool.false_eq_true, if_false, hbase, Option.isSome_none]
          rfl

/-- A search that finds nothing says so in the end. -/
theorem search_failsAt (h : finding fs base rules mode = .nothing) :
    (search fs base rules mode).FailsAt .probeExtension := by
  refine ⟨{ name := .probeExtension, ok := false, detail := "No candidate exists" }, ?_, rfl, rfl⟩
  change (findingSteps fs base rules mode).getLast? = _
  rw [findingSteps_of_nothing h, List.getLast?_concat]

end Extension

namespace Package

open Extension Trail

variable {fs : FileSystem} {name : String} {file dir : Path} {globals : List Path}
  {specifier : String}

theorem misses_inner {step : Step.Name}
    (hstep : step = .searchNodeModules ∨ step = .searchGlobalDirs) (places : List Path) :
    ∀ s ∈ misses fs step places, s.IsInner fs := by
  intro s hs
  obtain ⟨p, hp, rfl⟩ := List.mem_map.mp hs
  have hdir : fs.isDirectory p = false := by simpa using List.mem_takeWhile_imp hp
  refine ⟨⟨?_, fun _ => ⟨p, rfl, hdir⟩⟩, ?_, ?_⟩
  · intro hname
    rcases hstep with rfl | rfl <;> cases hname
  · intro hname
    rcases hstep with rfl | rfl <;> cases hname
  · intro hname
    rcases hstep with rfl | rfl <;> cases hname

/-- Places are passed over where the package is not. The last step tells whether it is found. -/
theorem locate_steps (fs : FileSystem) (name : String) (file : Path) (globals : List Path) :
    ∃ front last, (locate fs name file globals).steps = front ++ [last] ∧
      (∀ s ∈ front, s.IsInner fs) ∧ last.name = .findPackageDir ∧
      last.ok = (locate fs name file globals).result.isOk := by
  unfold locate
  dsimp only
  cases (nearby name file).find? fs.isDirectory with
  | some dir => exact ⟨_, _, rfl, misses_inner (.inl rfl) _, rfl, rfl⟩
  | none =>
      have hfront : ∀ s ∈ misses fs .searchNodeModules (nearby name file) ++
          misses fs .searchGlobalDirs (global name globals), s.IsInner fs := by
        intro s hs
        rcases List.mem_append.mp hs with hs | hs
        · exact misses_inner (.inl rfl) _ s hs
        · exact misses_inner (.inr rfl) _ s hs
      cases (global name globals).find? fs.isDirectory with
      | some dir => exact ⟨_, _, rfl, hfront, rfl, rfl⟩
      | none => exact ⟨_, _, rfl, hfront, rfl, rfl⟩

theorem locate_inner (h : (locate fs name file globals).result = .ok dir) :
    (locate fs name file globals).IsInner fs := by
  obtain ⟨front, last, hsteps, hfront, hname, hok⟩ := locate_steps fs name file globals
  intro s hs
  rw [hsteps] at hs
  rcases List.mem_append.mp hs with hs | hs
  · exact hfront s hs
  · rw [List.mem_singleton.mp hs]
    refine ⟨Step.isFaithful_of_name (by simp [hname]), by simp [hname], fun _ => ?_⟩
    rw [hok, h]
    rfl

/-- A manifest that has not been read by then is read first. -/
theorem describedPath_none (field : String) (rules : Rules) :
    describedPath fs dir none (.manifestField field rules) =
      (Trail.ofExcept (Manifest.load fs dir) >>= fun m =>
        Trail.record
          { name := .readManifest, ok := true, detail := "Read manifest", path := some m.path } >>=
        fun _ => describedPath fs dir (some m) (.manifestField field rules)) := rfl

theorem describedPath_inner (manifest : Option Manifest) (d : Descriptor) :
    (describedPath fs dir manifest d).IsInner fs := by
  cases d with
  | literalPath path rules => exact .pure _
  | manifestField field rules =>
      have hread (m : Manifest) :
          (describedPath fs dir (some m) (.manifestField field rules)).IsInner fs := by
        refine .bind (.pure m) fun m _ => ?_
        dsimp only
        split
        · exact .pure _
        · exact .bind (.record (Step.isInner_of_name (by simp))) fun _ _ => .pure _
      cases manifest with
      | some m => exact hread m
      | none =>
          rw [describedPath_none]
          refine .bind (.ofExcept _) fun m _ => ?_
          exact .bind (.record (Step.isInner_of_name (by simp))) fun _ _ => hread m

theorem entryAt_inner (rules : Rules) (path : String) :
    (entryAt fs specifier dir rules path).IsInner fs := by
  unfold entryAt
  dsimp only
  split
  · exact .pure none
  · refine .bind search_inner fun found _ => ?_
    cases found with
    | nothing => exact .bind (.record (Step.isInner_of_name (by simp))) fun _ _ => .pure none
    | asWritten => exact .bind (.record (Step.isInner_of_name (by simp))) fun _ _ => .pure _
    | append suffix => exact .bind (.record (Step.isInner_of_name (by simp))) fun _ _ => .pure _
    | replace source destination =>
        exact .bind (.record (Step.isInner_of_name (by simp))) fun _ _ => .pure _

theorem firstEntry_inner (manifest : Option Manifest) (ds : List Descriptor) :
    (firstEntry fs specifier dir manifest ds).IsInner fs := by
  induction ds generalizing manifest with
  | nil => exact .pure none
  | cons d ds ih =>
      unfold firstEntry
      refine .bind (describedPath_inner manifest d) fun described _ => ?_
      obtain ⟨after, path⟩ := described
      cases path with
      | none => exact ih after
      | some path =>
          refine .bind (entryAt_inner d.rules path) fun found _ => ?_
          cases found with
          | some emitted => exact .pure _
          | none => exact ih after

theorem entry_inner (ds : List Descriptor) (ignoreExports : Bool) :
    (entry fs specifier dir ds ignoreExports).IsInner fs := by
  have hrest (manifest : Option Manifest) : IsInner fs
      (if manifest.any Manifest.hasExports then do
        Trail.record
          { name := .checkExports, ok := true, detail := exportsDetail,
            key := some Manifest.exportsKey }
        Pure.pure none
      else firstEntry fs specifier dir manifest ds) := by
    split
    · exact .bind (.record (Step.isInner_of_name (by simp))) fun _ _ => .pure none
    · exact firstEntry_inner manifest ds
  cases ignoreExports with
  | false => exact .bind (.pure none) fun manifest _ => hrest manifest
  | true => exact .bind (.ofExcept _) fun manifest _ => hrest manifest

end Package

namespace Context

open Extension Trail

variable {ctx : Context} {fs : FileSystem} {text : String} {x : Trail Outcome}

/-- A file is wanting: for that the specifier fails, or is left alone. -/
def IsMissed (r : Except Failure Outcome) : Prop :=
  (∃ f, r = .error f ∧ f.isUnresolved = true) ∨ r = .ok (.unchanged .unresolved)

/-- A search that has found something settles the outcome. -/
theorem exists_settle (ctx : Context) (text : String) (unresolved : Failure) {found : Finding}
    (h : found ≠ .nothing) :
    ∃ outcome, ctx.settle text unresolved found = .ok outcome ∧
      outcome ≠ .unchanged .unresolved := by
  cases found with
  | nothing => exact absurd rfl h
  | asWritten => exact ⟨_, rfl, by simp⟩
  | append suffix => exact ⟨_, rfl, by simp⟩
  | replace source destination => exact ⟨_, rfl, by simp⟩

/-- What a trail is like from where files are searched for. -/
structure Searched (fs : FileSystem) (x : Trail Outcome) : Prop where
  inner : x.IsInner fs
  located : ∀ name file, x.result ≠ .error (.packageNotFound name file)
  missed : IsMissed x.result → x.FailsAt .probeExtension

theorem searched_of_ok {outcome : Outcome} (hinner : x.IsInner fs)
    (houtcome : x.result = .ok outcome) (h : outcome ≠ .unchanged .unresolved) :
    Searched fs x := by
  refine ⟨hinner, fun name file hlost => ?_, fun hmissed => ?_⟩
  · cases houtcome.symm.trans hlost
  · rcases hmissed with ⟨f, hf, -⟩ | hmissed
    · cases houtcome.symm.trans hf
    · exact absurd (Except.ok.inj (houtcome.symm.trans hmissed)) h

theorem searched_of_error {dir : Path} {f : Failure} (hinner : x.IsInner fs)
    (hf : x.result = .error f) (h : Package.ManifestFailure dir f) : Searched fs x := by
  refine ⟨hinner, fun name file hlost => ?_, fun hmissed => ?_⟩
  · cases hf.symm.trans hlost
    cases h
  · rcases hmissed with ⟨e, he, hunresolved⟩ | hmissed
    · cases hf.symm.trans he
      rw [h.isUnresolved] at hunresolved
      cases hunresolved
    · cases hf.symm.trans hmissed

/-- Before the search, only manifests fail. -/
theorem Searched.bind {α : Type} {x : Trail α} {f : α → Trail Outcome} (hx : x.IsInner fs)
    (hf : ∀ a, x.result = .ok a → Searched fs (f a))
    (herror : ∀ e, x.result = .error e → ∃ dir, Package.ManifestFailure dir e) :
    Searched fs (x >>= f) := by
  have hinner : (x >>= f).IsInner fs := .bind hx fun a ha => (hf a ha).inner
  cases ha : x.result with
  | ok a =>
      refine ⟨hinner, fun name file hlost => ?_, fun hmissed => ?_⟩
      · rw [bind_of_ok f ha] at hlost
        exact (hf a ha).located name file hlost
      · rw [bind_of_ok f ha] at hmissed
        exact .bind ha ((hf a ha).missed hmissed)
  | error e =>
      obtain ⟨dir, hdir⟩ := herror e ha
      exact searched_of_error hinner (congrArg Trail.result (bind_of_error f ha)) hdir

theorem searched_settle (ctx : Context) (fs : FileSystem) (text : String) {unresolved : Failure}
    (h : unresolved.isUnresolved = true) (base : Path) (rules : Rules) (mode : Mode) :
    Searched fs (Extension.search fs base rules mode >>= fun found =>
      Trail.ofExcept (ctx.settle text unresolved found)) := by
  have hinner : Trail.IsInner fs (Extension.search fs base rules mode >>= fun found =>
      Trail.ofExcept (ctx.settle text unresolved found)) :=
    .bind search_inner fun found _ => .ofExcept _
  by_cases hfound : finding fs base rules mode = .nothing
  · refine ⟨hinner, fun name file hlost => ?_, fun _ => ?_⟩
    · change ctx.settle text unresolved (finding fs base rules mode) = _ at hlost
      rw [hfound, settle] at hlost
      split at hlost
      · cases hlost
      · cases hlost
        cases h
    · -- Nothing is recorded behind the search.
      obtain ⟨step, hlast, hstep⟩ := search_failsAt hfound
      refine ⟨step, ?_, hstep⟩
      change (findingSteps fs base rules mode ++ []).getLast? = _
      rw [List.append_nil]
      exact hlast
  · obtain ⟨outcome, houtcome, hne⟩ := exists_settle ctx text unresolved hfound
    exact searched_of_ok hinner houtcome hne

/-- What the trail of an outcome is like. -/
structure Concluded (fs : FileSystem) (x : Trail Outcome) : Prop where
  faithful : ∀ s ∈ x.steps, s.IsFaithful fs
  ongoing : ∀ s ∈ x.steps, s.name ≠ .finalSpecifier
  lost : x.FailsAt .findPackageDir ↔ ∃ name file, x.result = .error (.packageNotFound name file)
  missed : IsMissed x.result → x.FailsAt .probeExtension

theorem Searched.concluded (h : Searched fs x) : Concluded fs x := by
  refine ⟨fun s hs => (h.inner s hs).faithful, fun s hs => (h.inner s hs).ongoing, ?_, h.missed⟩
  constructor
  · rintro ⟨last, hlast, hname, hok⟩
    have hfound := (h.inner last (List.mem_of_getLast? hlast)).found hname
    rw [hok] at hfound
    cases hfound
  · rintro ⟨name, file, hlost⟩
    exact absurd hlost (h.located name file)

/-- Either there is no package, and that is the last to be said, or files are searched for in it. -/
theorem concluded_locate {name : String} {f : Path → Trail Outcome}
    (h : ∀ dir, Searched fs (f dir)) :
    Concluded fs (Package.locate fs name ctx.file ctx.globals >>= f) := by
  cases hlocate : (Package.locate fs name ctx.file ctx.globals).result with
  | ok dir =>
      refine Searched.concluded (.bind (Package.locate_inner hlocate) (fun dir _ => h dir) ?_)
      intro e he
      cases hlocate.symm.trans he
  | error e =>
      obtain rfl := Package.locate_error hlocate
      obtain ⟨front, last, hsteps, hfront, hname, hok⟩ :=
        Package.locate_steps fs name ctx.file ctx.globals
      rw [hlocate] at hok
      rw [bind_of_error f hlocate, hsteps]
      refine ⟨?_, ?_, ?_, ?_⟩
      · intro s hs
        rcases List.mem_append.mp hs with hs | hs
        · exact (hfront s hs).faithful
        · rw [List.mem_singleton.mp hs]
          exact Step.isFaithful_of_name (by simp [hname])
      · intro s hs
        rcases List.mem_append.mp hs with hs | hs
        · exact (hfront s hs).ongoing
        · rw [List.mem_singleton.mp hs, hname]
          decide
      · exact iff_of_true ⟨last, List.getLast?_concat, hname, hok⟩ ⟨_, _, rfl⟩
      · intro hmissed
        rcases hmissed with ⟨f, hf, hunresolved⟩ | hmissed
        · cases hf
          cases hunresolved
        · cases hmissed

theorem resolveFile_concluded : Concluded fs (ctx.resolveFile fs text) := by
  refine Searched.concluded (.bind (.record (Step.isInner_of_name (by simp))) ?_ ?_)
  · intro _ _
    exact searched_settle ctx fs text
      (show (Failure.pathUnresolved text (ctx.file.directory.join text)).isUnresolved = true
        from rfl)
      (ctx.file.directory.join text) ctx.options.extensions .expand
  · intro e he
    cases he

theorem resolveSubmodule_concluded (name subPath : String) :
    Concluded fs (ctx.resolveSubmodule fs text name subPath) := by
  refine concluded_locate fun dir => .bind (.ofExcept _) ?_ ?_
  · intro manifest _
    cases manifest with
    | some m =>
        refine searched_of_ok (.bind (.record ?_) fun _ _ => .pure _) rfl (by simp)
        exact Step.isInner_of_name (by simp)
    | none =>
        exact searched_settle ctx fs text
          (show (Failure.moduleUnresolved text ctx.file).isUnresolved = true from rfl)
          (dir.append subPath) ctx.options.submoduleExtensions .complete
  · intro e he
    exact ⟨dir, exportsManifest?_error he⟩

theorem resolvePackage_concluded (name : String) :
    Concluded fs (ctx.resolvePackage fs text name) := by
  refine concluded_locate fun dir => ?_
  split
  · refine searched_of_ok (.bind (.record ?_) fun _ _ => .pure _) rfl (by simp)
    exact Step.isInner_of_name (by simp)
  · refine .bind (Package.entry_inner _ _) ?_ ?_
    · intro found _
      cases found with
      | some specifier => exact searched_of_ok (.pure _) rfl (by simp)
      | none => exact searched_of_ok (.pure _) rfl (by simp)
    · intro e he
      exact ⟨dir, Package.entry_error he⟩

theorem outcome_concluded (ctx : Context) (fs : FileSystem) (text : String)
    (kind : Specifier.Kind) : Concluded fs (ctx.outcome fs text kind) := by
  have hkept (reason : Reason) (h : reason ≠ .unresolved) :
      Concluded fs (Pure.pure (.unchanged reason) : Trail Outcome) :=
    (searched_of_ok (.pure _) rfl (by simpa using h)).concluded
  cases kind with
  | url => exact hkept .url (by simp)
  | builtin => exact hkept .builtin (by simp)
  | unrecognized => exact hkept .unrecognized (by simp)
  | file => exact resolveFile_concluded
  | package name subPath =>
      rw [outcome]
      split
      · exact resolvePackage_concluded name
      · exact resolveSubmodule_concluded name subPath

/-- An account of how an outcome came about, with the kind of the specifier in front, and behind it
the specifier that takes its place, if one does. -/
inductive Explains (x : Trail Outcome) (y : Trail Resolution) : Prop
  | replaced {first last : Step} :
      first.name = .classifySpecifier → last.name = .finalSpecifier →
      x.result = .ok (.replaced last.detail) → y.steps = (first :: x.steps) ++ [last] →
      Explains x y
  | other {first : Step} :
      first.name = .classifySpecifier → (∀ s, x.result ≠ .ok (.replaced s)) →
      y.steps = first :: x.steps → Explains x y

theorem explains (ctx : Context) (fs : FileSystem) (text : String) :
    Explains (ctx.outcome fs text (Specifier.classify ctx.builtins text))
      (ctx.explain fs text) := by
  unfold explain
  rw [bind_of_ok _ (record_result _)]
  cases ho : (ctx.outcome fs text (Specifier.classify ctx.builtins text)).result with
  | error f =>
      rw [bind_of_error _ ho]
      exact .other rfl (by simp [ho]) rfl
  | ok outcome =>
      rw [bind_of_ok _ ho]
      cases outcome with
      | unchanged reason =>
          exact .other rfl (by simp [ho]) (congrArg (_ :: ·) (List.append_nil _))
      | replaced specifier => exact .replaced rfl rfl ho rfl

variable {y : Trail Resolution}

theorem Explains.head (h : Explains x y) :
    ∃ first, y.steps.head? = some first ∧ first.name = .classifySpecifier := by
  cases h with
  | replaced hfirst _ _ hsteps => exact ⟨_, by rw [hsteps]; rfl, hfirst⟩
  | other hfirst _ hsteps => exact ⟨_, by rw [hsteps]; rfl, hfirst⟩

theorem Concluded.ongoing_cons (hx : Concluded fs x) {first : Step}
    (hfirst : first.name = .classifySpecifier) :
    ∀ s ∈ first :: x.steps, s.name ≠ .finalSpecifier := by
  intro s hs
  rcases List.mem_cons.mp hs with rfl | hs
  · rw [hfirst]
    simp
  · exact hx.ongoing s hs

theorem Explains.final_iff (h : Explains x y) (hx : Concluded fs x) (specifier : String) :
    (∃ last, y.steps.getLast? = some last ∧ last.name = .finalSpecifier ∧
      last.detail = specifier) ↔ x.result = .ok (.replaced specifier) := by
  cases h with
  | @replaced first final hfirst hfinal hresult hsteps =>
      rw [hsteps, List.getLast?_concat, hresult]
      constructor
      · rintro ⟨last, hlast, -, rfl⟩
        cases hlast
        rfl
      · intro h
        cases h
        exact ⟨final, rfl, hfinal, rfl⟩
  | other hfirst hother hsteps =>
      rw [hsteps]
      constructor
      · rintro ⟨last, hlast, hfinal, -⟩
        exact absurd hfinal (hx.ongoing_cons hfirst last (List.mem_of_getLast? hlast))
      · intro hresult
        exact absurd hresult (hother specifier)

theorem Explains.ongoing (h : Explains x y) (hx : Concluded fs x) :
    ∀ s ∈ y.steps.dropLast, s.name ≠ .finalSpecifier := by
  intro s hs
  cases h with
  | replaced hfirst _ _ hsteps =>
      rw [hsteps, List.dropLast_concat] at hs
      exact hx.ongoing_cons hfirst s hs
  | other hfirst _ hsteps =>
      rw [hsteps] at hs
      exact hx.ongoing_cons hfirst s (List.mem_of_mem_dropLast hs)

theorem Explains.lost_iff (h : Explains x y) (hx : Concluded fs x) :
    y.FailsAt .findPackageDir ↔
      ∃ name file, x.result = .error (.packageNotFound name file) := by
  cases h with
  | replaced _ hfinal hresult hsteps =>
      constructor
      · rintro ⟨last, hlast, hname, -⟩
        rw [hsteps, List.getLast?_concat] at hlast
        cases hlast
        cases hfinal.symm.trans hname
      · rintro ⟨name, file, hlost⟩
        cases hresult.symm.trans hlost
  | other hfirst _ hsteps =>
      rw [failsAt_of_cons hsteps (by simp [hfirst])]
      exact hx.lost

theorem Explains.missed (h : Explains x y) (hx : Concluded fs x) (hmissed : IsMissed x.result) :
    y.FailsAt .probeExtension := by
  cases h with
  | replaced _ _ hresult _ =>
      rcases hmissed with ⟨f, hf, -⟩ | hmissed
      · cases hresult.symm.trans hf
      · cases hresult.symm.trans hmissed
  | other hfirst _ hsteps =>
      rw [failsAt_of_cons hsteps (by simp [hfirst])]
      exact hx.missed hmissed

theorem Explains.faithful (h : Explains x y) (hx : Concluded fs x) :
    ∀ s ∈ y.steps, s.IsFaithful fs := by
  intro s hs
  cases h with
  | replaced hfirst hfinal _ hsteps =>
      rw [hsteps] at hs
      rcases List.mem_append.mp hs with hs | hs
      · rcases List.mem_cons.mp hs with rfl | hs
        · exact Step.isFaithful_of_name (by simp [hfirst])
        · exact hx.faithful s hs
      · rw [List.mem_singleton.mp hs]
        exact Step.isFaithful_of_name (by simp [hfinal])
  | other hfirst _ hsteps =>
      rw [hsteps] at hs
      rcases List.mem_cons.mp hs with rfl | hs
      · exact Step.isFaithful_of_name (by simp [hfirst])
      · exact hx.faithful s hs

/-- Explaining comes to what resolving comes to. Its account begins with the kind of the specifier;
it ends with a final specifier exactly if the specifier is replaced, by that one, and has no other;
it ends without a package exactly if the package is not found; it ends without a candidate if a file
is wanting; and every step is faithful to the file tree. -/
theorem explain_accounts (ctx : Context) (fs : FileSystem) (text : String) :
    (ctx.explain fs text).result = ctx.resolve fs text ∧
    (∃ first, (ctx.explain fs text).steps.head? = some first ∧
      first.name = .classifySpecifier) ∧
    (∀ s, (∃ last, (ctx.explain fs text).steps.getLast? = some last ∧
        last.name = .finalSpecifier ∧ last.detail = s) ↔
      ∃ r, ctx.resolve fs text = .ok r ∧ r.outcome = .replaced s) ∧
    (∀ step ∈ (ctx.explain fs text).steps.dropLast, step.name ≠ .finalSpecifier) ∧
    ((ctx.explain fs text).FailsAt .findPackageDir ↔
      ∃ name file, ctx.resolve fs text = .error (.packageNotFound name file)) ∧
    ((∃ f, ctx.resolve fs text = .error f ∧ f.isUnresolved = true) ∨
        (∃ r, ctx.resolve fs text = .ok r ∧ r.outcome = .unchanged .unresolved) →
      (ctx.explain fs text).FailsAt .probeExtension) ∧
    ∀ step ∈ (ctx.explain fs text).steps, step.IsFaithful fs := by
  have hexplains := explains ctx fs text
  have hx := outcome_concluded ctx fs text (Specifier.classify ctx.builtins text)
  have hresolve := resolve_eq ctx fs text
  generalize ctx.outcome fs text (Specifier.classify ctx.builtins text) = x at *
  have hok (outcome : Outcome) : x.result = .ok outcome ↔
      ∃ r, ctx.resolve fs text = .ok r ∧ r.outcome = outcome := by
    rw [hresolve]
    cases x.result with
    | error f => simp [Except.map]
    | ok found => simp [Except.map]
  have herror (f : Failure) : x.result = .error f ↔ ctx.resolve fs text = .error f := by
    rw [hresolve]
    cases x.result with
    | error e => simp [Except.map]
    | ok found => simp [Except.map]
  refine ⟨rfl, hexplains.head, fun s => ?_, hexplains.ongoing hx, ?_, fun h => ?_,
    hexplains.faithful hx⟩
  · rw [hexplains.final_iff hx, hok]
  · simp only [hexplains.lost_iff hx, herror]
  · apply hexplains.missed hx
    simpa only [IsMissed, hok, herror] using h

/-- A specifier that is replaced, one for which a file is wanting, and one without its package. -/
theorem explain_accounts_scripts :
    (∃ last, (keepingScripts.explain moduleAndPackage "./a").steps.getLast? = some last ∧
      last.name = .finalSpecifier ∧ last.detail = "./a.js") ∧
      (keepingScripts.explain moduleAndPackage "./b").FailsAt .probeExtension ∧
      moduleAndPackage.hasFile ⟨"/./b.js"⟩ = false ∧
      (keepingScripts.explain moduleAndPackage "q/x").FailsAt .findPackageDir := by
  have hprobe : ∃ step ∈ (keepingScripts.explain moduleAndPackage "./b").steps,
      step.name = .probeExtension ∧ step.path = some ⟨"/./b.js"⟩ ∧ step.ok = false := by
    decide +kernel
  obtain ⟨-, -, hfinal, -⟩ := explain_accounts keepingScripts moduleAndPackage "./a"
  obtain ⟨-, -, -, -, -, hmissed, hfaithful⟩ :=
    explain_accounts keepingScripts moduleAndPackage "./b"
  obtain ⟨-, -, -, -, hlost, -⟩ := explain_accounts keepingScripts moduleAndPackage "q/x"
  refine ⟨(hfinal _).mpr ⟨⟨"./a", .file, .replaced "./a.js"⟩, by decide +kernel, rfl⟩,
    hmissed (.inl ⟨.pathUnresolved "./b" ⟨"/./b"⟩, by decide +kernel, rfl⟩), ?_,
    hlost.mpr ⟨"q", ⟨"/main.js"⟩, by decide +kernel⟩⟩
  obtain ⟨step, hstep, hname, hpath, hok⟩ := hprobe
  rw [← Bool.not_eq_true, ← (hfaithful step hstep).probed hname _ hpath, hok]
  decide

end Context
end ImportResolver

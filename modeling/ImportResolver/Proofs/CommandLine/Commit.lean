import ImportResolver.CommandLine.Run
import ImportResolver.Proofs.FileSystem.Rewrite
/- Writing prepared files. They were all prepared in one file system, and the one that is there
when a file's turn comes differs from it only in files that were written before. -/
namespace ImportResolver.CommandLine

open FileSystem

/-- The text that a prepared file is to hold, where it is not the one that it holds. -/
def Prepared.BecomesText (p : Prepared) (source : ResolvedSource) : Prop :=
  p.result = .ok source ∧ source.isChanged = true

/-- The changed files hold what was prepared for them, with the modes that they had, and nothing
else is different. -/
structure Committed (before : FileSystem) (ps : List Prepared) (after : FileSystem) : Prop where
  cwd : after.cwd = before.cwd
  changed : ∀ p ∈ ps, ∀ source, p.BecomesText source → ∃ old mode,
    before.node p.path = .ok (.file old mode) ∧
      after.node p.path = .ok (.file (Text.Utf8.encode source.code) mode)
  other : ∀ loc, (∀ p ∈ ps, ∀ source, p.BecomesText source → p.path ≠ Location.path loc) →
    after.tree.get? loc = before.tree.get? loc

/-- What is reported of a file that is not written to. -/
def Prepared.reported (p : Prepared) : FileReport :=
  match p.result with
  | .error f => { path := p.path, failure := some f }
  | .ok source => { path := p.path, sites := source.sites }

/-- Without writing, or where the text stays, a file is only reported. -/
theorem commitFile_reported (host : Host) {write : Bool} (fs : FileSystem) {p : Prepared}
    (h : write = false ∨ ∀ source, ¬ p.BecomesText source) :
    commitFile host write fs p = (.ok p.reported, fs) := by
  rw [commitFile, Prepared.reported]
  cases hp : p.result with
  | error f => rfl
  | ok source =>
      have hnot : (write && source.isChanged) = false := by
        rcases h with rfl | h
        · rfl
        · rw [Bool.and_eq_false_iff, Bool.eq_false_iff (b := source.isChanged)]
          exact .inr fun hc => h source ⟨hp, hc⟩
      simp only [hnot, Bool.false_eq_true, if_false]

theorem commit_reported (host : Host) {write : Bool} (fs : FileSystem) {ps : List Prepared}
    (h : write = false ∨ ∀ p ∈ ps, ∀ source, ¬ p.BecomesText source) :
    commit host write fs ps = (.ok (ps.map Prepared.reported), fs) := by
  induction ps with
  | nil => rfl
  | cons p ps ih =>
      rw [commit, commitFile_reported host fs (h.imp_right fun h => h p List.mem_cons_self)]
      simp only [ih (h.imp_right fun h q hq => h q (List.mem_cons_of_mem p hq))]
      rfl

variable {host : Host} {before now : FileSystem} {p : Prepared} {ps : List Prepared}

theorem commitFile_of_changed {source : ResolvedSource} (h : p.BecomesText source) :
    commitFile host true now p =
      (((now.writeIfChanged (host.draws p.path) p.path
          (Text.Utf8.encode source.code)).1.map fun written =>
            { path := p.path, sites := source.sites, written }),
        (now.writeIfChanged (host.draws p.path) p.path (Text.Utf8.encode source.code)).2) := by
  rw [commitFile, h.1]
  simp only [h.2, Bool.and_self, if_true]

/-- Files that are still to be committed and are what they were when they were prepared. -/
structure Pending (before : FileSystem) (ps : List Prepared) (now : FileSystem) : Prop where
  alike : Alike before now
  ready : ∀ p ∈ ps, ∀ source, p.BecomesText source → ∃ loc old mode,
    Replaceable before p.path loc old mode
  distinct : ps.Pairwise (·.path ≠ ·.path)
  same : ∀ p ∈ ps, ∀ loc, p.path = Location.path loc → now.tree.get? loc = before.tree.get? loc

/-- What the commit of some files has led to, between the file system that they were prepared in
and the present one. -/
structure Progress (before : FileSystem) (ps : List Prepared) (now after : FileSystem) : Prop where
  alike : Alike before after
  changed : ∀ p ∈ ps, ∀ source, p.BecomesText source → ∃ loc old mode,
    Replaceable before p.path loc old mode ∧
      after.tree.get? loc = some (.file (Text.Utf8.encode source.code) mode)
  other : ∀ loc, (∀ p ∈ ps, ∀ source, p.BecomesText source → p.path ≠ Location.path loc) →
    after.tree.get? loc = now.tree.get? loc

theorem Pending.replaceable (h : Pending before (p :: ps) now) {source : ResolvedSource}
    (hsource : p.BecomesText source) :
    ∃ loc old mode, Replaceable before p.path loc old mode ∧
      Replaceable now p.path loc old mode := by
  obtain ⟨loc, old, mode, hp⟩ := h.ready p List.mem_cons_self source hsource
  exact ⟨loc, old, mode, hp, hp.alike h.alike (h.same p List.mem_cons_self loc hp.path)⟩

/-- The files to come are not the one that was written. -/
theorem Pending.next {next : FileSystem} (h : Pending before (p :: ps) now)
    (hnext : Progress before [p] now next) : Pending before ps next := by
  obtain ⟨hp, hps⟩ := List.pairwise_cons.mp h.distinct
  refine ⟨hnext.alike, fun q hq => h.ready q (List.mem_cons_of_mem p hq), hps,
    fun q hq loc hloc => ?_⟩
  rw [hnext.other loc, h.same q (List.mem_cons_of_mem p hq) loc hloc]
  intro r hr _ _
  rw [List.mem_singleton.mp hr, ← hloc]
  exact hp q hq

theorem commitFile_progress {report : FileReport} {next : FileSystem}
    (h : Pending before (p :: ps) now) (hcommit : commitFile host true now p = (.ok report, next)) :
    Progress before [p] now next := by
  by_cases hp : ∃ source, p.BecomesText source
  · obtain ⟨source, hsource⟩ := hp
    obtain ⟨loc, old, mode, hbefore, hnow⟩ := h.replaceable hsource
    rw [commitFile_of_changed hsource] at hcommit
    have hnext : Rewritten now loc (Text.Utf8.encode source.code) mode next := by
      cases hwrite : now.writeIfChanged (host.draws p.path) p.path (Text.Utf8.encode source.code) with
      | mk answer after =>
          rw [hwrite] at hcommit
          cases answer with
          | error fault => cases hcommit
          | ok written =>
              cases hcommit
              exact hnow.rewritten hwrite
    refine ⟨hnext.alike h.alike hbefore.holds.node, ?_, fun l hl => ?_⟩
    · intro q hq source' hsource'
      obtain rfl := List.mem_singleton.mp hq
      obtain rfl : source = source' := Except.ok.inj (hsource.1.symm.trans hsource'.1)
      exact ⟨loc, old, mode, hbefore, hnext.same⟩
    · refine hnext.other l ?_
      rintro rfl
      exact hl p List.mem_cons_self source hsource hbefore.path
  · have hnone : ∀ source, ¬ p.BecomesText source := fun source hsource => hp ⟨source, hsource⟩
    rw [commitFile_reported host now (.inr hnone)] at hcommit
    cases hcommit
    refine ⟨h.alike, ?_, fun _ _ => rfl⟩
    intro q hq source hsource
    obtain rfl := List.mem_singleton.mp hq
    exact absurd hsource (hnone source)

theorem commitFile_ok (h : Pending before (p :: ps) now)
    (hfree : ∀ source, p.BecomesText source → ∃ tmp,
      before.temporaryLocation p.path (host.draws p.path) = .ok tmp) :
    ∃ report next, commitFile host true now p = (.ok report, next) := by
  by_cases hp : ∃ source, p.BecomesText source
  · obtain ⟨source, hsource⟩ := hp
    obtain ⟨loc, old, mode, -, hnow⟩ := h.replaceable hsource
    obtain ⟨tmp, htmp⟩ := hfree source hsource
    rw [← h.alike.temporaryLocation] at htmp
    obtain ⟨written, next, hwrite⟩ :=
      hnow.writeIfChanged_ok htmp (Text.Utf8.encode source.code)
    rw [commitFile_of_changed hsource, hwrite]
    exact ⟨_, next, rfl⟩
  · exact ⟨_, now, commitFile_reported host now (.inr fun source hsource => hp ⟨source, hsource⟩)⟩

theorem Progress.cons {next after : FileSystem} (hfile : Progress before [p] now next)
    (hps : ∀ q ∈ ps, p.path ≠ q.path) (hrest : Progress before ps next after) :
    Progress before (p :: ps) now after := by
  refine ⟨hrest.alike, fun q hq source hsource => ?_, fun loc hloc => ?_⟩
  · rcases List.mem_cons.mp hq with rfl | hq
    · obtain ⟨loc, old, mode, hq, hnode⟩ := hfile.changed q List.mem_cons_self source hsource
      refine ⟨loc, old, mode, hq, ?_⟩
      rw [hrest.other loc fun r hr _ _ => ?_, hnode]
      rw [← hq.path]
      exact (hps r hr).symm
    · exact hrest.changed q hq source hsource
  · rw [hrest.other loc fun q hq => hloc q (List.mem_cons_of_mem p hq), hfile.other loc]
    intro q hq
    rw [List.mem_singleton.mp hq]
    exact hloc p List.mem_cons_self

/-- One file after another, every changed one gets its text, if no write fails. -/
theorem commit_progress {reports : List FileReport} {after : FileSystem}
    (h : Pending before ps now) (hcommit : commit host true now ps = (.ok reports, after)) :
    Progress before ps now after := by
  induction ps generalizing now reports with
  | nil =>
      cases hcommit
      exact ⟨h.alike, fun p hp => absurd hp List.not_mem_nil, fun _ _ => rfl⟩
  | cons p ps ih =>
      rw [commit] at hcommit
      cases hfile : commitFile host true now p with
      | mk answer next =>
          rw [hfile] at hcommit
          cases answer with
          | error fault => cases hcommit
          | ok report =>
              have hnext := commitFile_progress h hfile
              cases hrest : commit host true next ps with
              | mk answers last =>
                  simp only [hrest] at hcommit
                  cases answers with
                  | error fault => cases hcommit
                  | ok reports' =>
                      cases hcommit
                      exact hnext.cons (List.pairwise_cons.mp h.distinct).1 (ih (h.next hnext) hrest)

/-- No write fails where beside each changed file another one can be made. -/
theorem commit_ok (h : Pending before ps now)
    (hfree : ∀ p ∈ ps, ∀ source, p.BecomesText source →
      ∃ tmp, before.temporaryLocation p.path (host.draws p.path) = .ok tmp) :
    ∃ reports after, commit host true now ps = (.ok reports, after) := by
  induction ps generalizing now with
  | nil => exact ⟨[], now, rfl⟩
  | cons p ps ih =>
      obtain ⟨report, next, hfile⟩ := commitFile_ok h (hfree p List.mem_cons_self)
      obtain ⟨reports, after, hrest⟩ := ih (h.next (commitFile_progress h hfile))
        fun q hq => hfree q (List.mem_cons_of_mem p hq)
      refine ⟨report :: reports, after, ?_⟩
      rw [commit, hfile]
      simp only [hrest]
      rfl

theorem Progress.committed {after : FileSystem} (h : Progress before ps before after) :
    Committed before ps after := by
  refine ⟨h.alike.cwd, fun p hp source hsource => ?_, h.other⟩
  obtain ⟨loc, old, mode, hp, hnode⟩ := h.changed p hp source hsource
  have hholds := h.alike.holds hp.holds hnode nofun
  refine ⟨old, mode, hp.node, ?_⟩
  rw [hp.path]
  exact hholds.node_path (hp.path ▸ hp.checked)

/-- The first failure is that of the first file that fails. -/
theorem firstFailure?_eq_some {f : Failure} {path : Path} (h : firstFailure? ps = some (f, path)) :
    ∃ earlier p later, ps = earlier ++ p :: later ∧ p.path = path ∧ p.result = .error f ∧
      ∀ q ∈ earlier, ∃ source, q.result = .ok source := by
  obtain ⟨earlier, p, later, rfl, hp, hearlier⟩ := List.findSome?_eq_some_iff.mp h
  refine ⟨earlier, p, later, rfl, ?_⟩
  cases hr : p.result with
  | ok source =>
      rw [hr] at hp
      cases hp
  | error g =>
      rw [hr] at hp
      cases hp
      refine ⟨rfl, rfl, fun q hq => ?_⟩
      have hq := hearlier q hq
      cases hr : q.result with
      | error g =>
          rw [hr] at hq
          cases hq
      | ok source => exact ⟨source, rfl⟩

theorem firstFailure?_eq_none (h : firstFailure? ps = none) :
    ∀ p ∈ ps, ∃ source, p.result = .ok source := by
  intro p hp
  have hp := List.findSome?_eq_none_iff.mp h p hp
  cases hr : p.result with
  | error g =>
      rw [hr] at hp
      cases hp
  | ok source => exact ⟨source, rfl⟩

end ImportResolver.CommandLine

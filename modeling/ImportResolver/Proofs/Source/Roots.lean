import ImportResolver.Proofs.Source.Collection
import Mathlib.Data.List.Sort
/- How roots are listed makes no difference to the files that they stand for. -/
namespace ImportResolver

namespace FileSystem

/-- The components of the path of a location: the root and the names. -/
theorem components_path {loc : Location} (h : ∀ name ∈ loc, ProperName name) :
    (Location.path loc).components = .root :: loc.reverse.map Path.Component.name := by
  have hanchor : Path.anchor (Location.path loc).text.toList = ['/'] := by
    rw [toList_path]
    rfl
  have hsegments : (Path.segments (Location.path loc).text.toList).filterMap Path.component? =
      loc.reverse.map Path.Component.name := by
    rw [Path.segments, hanchor, toList_path]
    change (Text.runs '/' (Text.joinRuns '/' (loc.reverse.map String.toList))).filterMap _ = _
    by_cases hloc : loc = []
    · subst hloc
      rfl
    · rw [Text.runs_joinRuns (by simpa using hloc) (noSlash_of_proper h), List.filterMap_map,
        ← List.filterMap_eq_map]
      refine List.filterMap_congr fun name hname => ?_
      have hproper := h name (List.mem_reverse.mp hname)
      have hdot : name.toList ≠ ['.'] := fun hd => hproper.ne_dot (String.toList_inj.mp hd)
      have hup : name.toList ≠ ['.', '.'] := fun hu => hproper.ne_up (String.toList_inj.mp hu)
      simp [Path.component?, Path.isTrivial, hproper.nonempty, hdot, hup]
  rw [Path.components, hanchor]
  exact congrArg (Path.Component.root :: ·) hsegments

end FileSystem

theorem Path.Component.key_injective : Function.Injective Path.Component.key := by
  intro c d h
  have hnames {s t : String} (hst : (Component.name s).key = (Component.name t).key) : s = t :=
    String.toList_inj.mp (List.map_injective_iff.mpr (fun _ _ => Char.toNat_inj.mp)
      (List.cons.inj hst).2)
  cases c <;> cases d <;> first | rfl | exact congrArg Component.name (hnames h) | cases h

namespace Source

open FileSystem

variable {fs : FileSystem} {p q : Path} {ps : List Path}

/-- Paths of locations are the same if they are taken for equal. -/
theorem IsFilePath.eq_of_key (hp : IsFilePath fs p) (hq : IsFilePath fs q) (h : p.key = q.key) :
    p = q := by
  obtain ⟨loc, n, rfl, hloc, -⟩ := hp
  obtain ⟨loc', n', rfl, hloc', -⟩ := hq
  have hcomponents := List.map_injective_iff.mpr Path.Component.key_injective h
  rw [components_path hloc.proper, components_path hloc'.proper] at hcomponents
  have hnames := List.map_injective_iff.mpr (fun _ _ => Path.Component.name.inj)
    (List.cons.inj hcomponents).2
  rw [List.reverse_injective hnames]

theorem mem_insertPath_of_mem (h : q ∈ ps) : q ∈ insertPath p ps := by
  induction ps with
  | nil => cases h
  | cons r ps ih =>
      rw [insertPath]
      split_ifs with hlt heq
      · exact List.mem_cons_of_mem p h
      · exact h
      · rcases List.mem_cons.mp h with rfl | h
        · exact List.mem_cons_self
        · exact List.mem_cons_of_mem r (ih h)

/-- A path is added, or an equal one is there. -/
theorem exists_key_insertPath (p : Path) (ps : List Path) : ∃ q ∈ insertPath p ps, q.key = p.key := by
  induction ps with
  | nil => exact ⟨p, List.mem_singleton_self p, rfl⟩
  | cons r ps ih =>
      rw [insertPath]
      split_ifs with hlt heq
      · exact ⟨p, List.mem_cons_self, rfl⟩
      · exact ⟨r, List.mem_cons_self, heq.symm⟩
      · obtain ⟨q, hq, hkey⟩ := ih
        exact ⟨q, List.mem_cons_of_mem r hq, hkey⟩

theorem mem_foldl_insertPath_of_mem {found : List Path} (h : q ∈ ps) :
    q ∈ found.foldl (fun ps p => insertPath p ps) ps := by
  induction found generalizing ps with
  | nil => exact h
  | cons p found ih => exact ih (mem_insertPath_of_mem h)

theorem exists_key_foldl_insertPath {found : List Path} (h : p ∈ found) (ps : List Path) :
    ∃ q ∈ found.foldl (fun ps p => insertPath p ps) ps, q.key = p.key := by
  induction found generalizing ps with
  | nil => cases h
  | cons r found ih =>
      rw [List.foldl_cons]
      rcases List.mem_cons.mp h with rfl | h
      · obtain ⟨q, hq, hkey⟩ := exists_key_insertPath p ps
        exact ⟨q, mem_foldl_insertPath_of_mem hq, hkey⟩
      · exact ih h _

theorem mem_flatten_iff {roots : List Path} {found : List (List Path)}
    (h : List.Forall₂ (fun root ps => filesOf fs root = .ok ps) roots found) :
    q ∈ found.flatten ↔ ∃ root ∈ roots, ∃ ps, filesOf fs root = .ok ps ∧ q ∈ ps := by
  induction h with
  | nil => simp
  | cons hroot _ ih => simp [ih, hroot]

/-- The files of roots are the files of each of them. -/
theorem mem_files_iff (ht : fs.tree.Sound) {roots : List Path} (hroots : ArePlaces fs roots)
    (h : files fs roots = .ok ps) :
    q ∈ ps ↔ ∃ root ∈ roots, ∃ found, filesOf fs root = .ok found ∧ q ∈ found := by
  obtain ⟨found, hfound, rfl⟩ := found_of_files h
  have hpaths : ∀ p ∈ found.flatten, IsFilePath fs p := by
    clear h
    induction hfound with
    | nil =>
        intro p hp
        cases hp
    | cons hroot _ ih =>
        obtain ⟨loc, n, rfl, hholds, hcheck⟩ := hroots _ List.mem_cons_self
        obtain ⟨first, hfirst, hall⟩ := filesOf_ok ht hholds hcheck
        obtain rfl := Except.ok.inj (hroot.symm.trans hfirst)
        intro p hp
        rcases List.mem_append.mp hp with hp | hp
        · exact hall p hp
        · exact ih (fun root hmem => hroots root (List.mem_cons_of_mem _ hmem)) p hp
  rw [← mem_flatten_iff hfound]
  constructor
  · intro hq
    exact (mem_foldl_insertPath hq).resolve_right List.not_mem_nil
  · intro hq
    obtain ⟨p, hp, hkey⟩ := exists_key_foldl_insertPath hq []
    have hp' := (mem_foldl_insertPath hp).resolve_right List.not_mem_nil
    rwa [← (hpaths p hp').eq_of_key (hpaths q hq) hkey]

/-- Ordered paths are the same if they have the same members. -/
theorem eq_of_ordered {ps qs : List Path} (hps : ps.Pairwise (·.key < ·.key))
    (hqs : qs.Pairwise (·.key < ·.key)) (h : ∀ p, p ∈ ps ↔ p ∈ qs) : ps = qs := by
  have hnodup {ps : List Path} (hps : ps.Pairwise (·.key < ·.key)) : ps.Nodup := by
    refine hps.imp fun hlt => ?_
    rintro rfl
    exact lt_irrefl _ hlt
  refine List.Perm.eq_of_pairwise (fun p q _ _ hpq hqp => ?_) hps hqs
    ((List.perm_ext_iff_of_nodup (hnodup hps) (hnodup hqs)).mpr h)
  exact absurd (hpq.trans hqp) (lt_irrefl _)

/-- Only which roots there are matters, not in which order and how often they are listed. -/
theorem files_congr (ht : fs.tree.Sound) {roots roots' : List Path} (hroots : ArePlaces fs roots)
    (h : ∀ root, root ∈ roots' ↔ root ∈ roots) : files fs roots' = files fs roots := by
  have hroots' : ArePlaces fs roots' := fun root hroot => hroots root ((h root).mp hroot)
  obtain ⟨ps, hps, hsorted, -⟩ := files_ok ht hroots
  obtain ⟨ps', hps', hsorted', -⟩ := files_ok ht hroots'
  rw [hps, hps']
  refine congrArg Except.ok (eq_of_ordered hsorted' hsorted fun p => ?_)
  rw [mem_files_iff ht hroots' hps', mem_files_iff ht hroots hps]
  simp only [h]

end Source
end ImportResolver

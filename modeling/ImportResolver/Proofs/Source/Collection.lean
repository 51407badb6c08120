import ImportResolver.Proofs.FileSystem.Location
import ImportResolver.Source.Files
import Mathlib.Data.List.Lex
/- The files that roots stand for. They come in the order of their paths, no path twice, and each
path spells out the location of its file. -/
namespace ImportResolver

namespace FileSystem

theorem path_text_ne_empty (loc : Location) : (Location.path loc).text ≠ "" := by
  intro h
  have := congrArg String.toList h
  rw [toList_path] at this
  cases this

theorem join_path {loc : Location} {name : String} (hname : ProperName name)
    (hloc : ∀ x ∈ loc, ProperName x) :
    (Location.path loc).join name = Location.path (name :: loc) := by
  have hrelative : (Path.mk name).isAbsolute = false := by
    rw [Path.isAbsolute, decide_eq_false_iff_not]
    intro h
    exact hname.noSlash (List.mem_of_head? h)
  rw [Path.join, hrelative, if_neg (by simp [path_text_ne_empty])]
  cases loc with
  | nil =>
      rw [show Text.endsWith (Location.path []).text "/" = true by decide, if_pos rfl]
      simp [Location.path, Text.joinRuns]
  | cons x loc =>
      rw [endsWith_path (hloc x List.mem_cons_self), if_neg (by simp)]
      have htext : (Location.path (x :: loc)).text ++ "/" ++ name =
          (Location.path (name :: x :: loc)).text := by
        refine String.toList_inj.mp ?_
        rw [String.toList_append, String.toList_append, toList_path, toList_path,
          @List.reverse_cons _ name, List.map_append, Text.joinRuns_append (by simp) (by simp)]
        simp [Text.joinRuns]
      exact congrArg Path.mk htext

theorem foldl_join_path {names : List String} {loc : Location}
    (h : ∀ x ∈ names.reverse ++ loc, ProperName x) :
    names.foldl Path.join (Location.path loc) = Location.path (names.reverse ++ loc) := by
  induction names generalizing loc with
  | nil => rfl
  | cons name names ih =>
      have hrev : (name :: names).reverse ++ loc = names.reverse ++ name :: loc := by simp
      rw [hrev] at h ⊢
      have hbelow : ∀ x ∈ name :: loc, ProperName x := fun x hx =>
        h x (List.mem_append_right _ hx)
      rw [List.foldl_cons, join_path (hbelow name List.mem_cons_self) fun x hx =>
        hbelow x (List.mem_cons_of_mem name hx)]
      exact ih h

end FileSystem

namespace Source

open FileSystem

variable {fs : FileSystem} {p q : Path} {ps : List Path}

theorem mem_insertPath (h : q ∈ insertPath p ps) : q = p ∨ q ∈ ps := by
  induction ps with
  | nil => exact .inl (List.mem_singleton.mp h)
  | cons r ps ih =>
      rw [insertPath] at h
      split_ifs at h with hlt heq
      · exact List.mem_cons.mp h
      · exact .inr h
      · rcases List.mem_cons.mp h with rfl | h
        · exact .inr List.mem_cons_self
        · exact (ih h).imp_right (List.mem_cons_of_mem r)

theorem pairwise_insertPath (h : ps.Pairwise (·.key < ·.key)) :
    (insertPath p ps).Pairwise (·.key < ·.key) := by
  induction ps with
  | nil => exact List.pairwise_singleton _ p
  | cons r ps ih =>
      obtain ⟨hr, hps⟩ := List.pairwise_cons.mp h
      rw [insertPath]
      split_ifs with hlt heq
      · refine List.pairwise_cons.mpr ⟨fun x hx => ?_, h⟩
        rcases List.mem_cons.mp hx with rfl | hx
        · exact hlt
        · exact hlt.trans (hr x hx)
      · exact h
      · have hgt : r.key < p.key := (lt_or_gt_of_ne heq).resolve_left hlt
        refine List.pairwise_cons.mpr ⟨fun x hx => ?_, ih hps⟩
        rcases mem_insertPath hx with rfl | hx
        · exact hgt
        · exact hr x hx

theorem pairwise_foldl_insertPath (found : List Path) (h : ps.Pairwise (·.key < ·.key)) :
    (found.foldl (fun ps p => insertPath p ps) ps).Pairwise (·.key < ·.key) := by
  induction found generalizing ps with
  | nil => exact h
  | cons p found ih => exact ih (pairwise_insertPath h)

theorem mem_foldl_insertPath {found : List Path}
    (h : q ∈ found.foldl (fun ps p => insertPath p ps) ps) : q ∈ found ∨ q ∈ ps := by
  induction found generalizing ps with
  | nil => exact .inr h
  | cons p found ih =>
      rcases ih h with h | h
      · exact .inl (List.mem_cons_of_mem p h)
      · rcases mem_insertPath h with rfl | h
        · exact .inl List.mem_cons_self
        · exact .inr h

/-- The path of the location of a file. -/
def IsFilePath (fs : FileSystem) (p : Path) : Prop :=
  ∃ loc n, p = Location.path loc ∧ fs.tree.Holds loc n ∧ n.isFile = true

theorem isFilePath_of_sourceBelow? (ht : fs.tree.Sound) {top : Location} {e : Location × Node}
    (hmem : e ∈ fs.tree.entries) (h : sourceBelow? (Location.path top) top e = some p) :
    IsFilePath fs p := by
  obtain ⟨loc, n⟩ := e
  rw [sourceBelow?] at h
  obtain ⟨names, hnames, h⟩ := Option.bind_eq_some_iff.mp h
  obtain ⟨below, hbelow, rfl⟩ := Option.map_eq_some_iff.mp hnames
  have hloc : below ++ top = loc := Text.dropTail?_eq_some_iff.mp hbelow
  obtain ⟨hfound, hpath⟩ := Option.ite_none_right_eq_some.mp h
  simp only [Bool.and_eq_true, decide_eq_true_eq] at hfound
  obtain ⟨⟨⟨hne, hfile⟩, -⟩, -⟩ := hfound
  have hnode : fs.tree.get? loc = some n := by
    refine ht.get?_of_mem hmem ?_
    rintro rfl
    exact hne (by simp [(List.append_eq_nil_iff.mp hloc).1])
  have hsolid : ∀ target, n ≠ .link target := by
    rintro target rfl
    cases hfile
  have hholds := ht.holds hnode hsolid
  have hjoin := @foldl_join_path below.reverse top (by
    rw [List.reverse_reverse, hloc]
    exact hholds.proper)
  rw [List.reverse_reverse, hloc] at hjoin
  exact ⟨loc, n, (Option.some.inj hpath).symm.trans hjoin, hholds, hfile⟩

/-- A root that is there stands for files, if only for none. -/
theorem filesOf_ok (ht : fs.tree.Sound) {loc : Location} {n : Node} (h : fs.tree.Holds loc n)
    (hcheck : checkPath (Location.path loc) = .ok ()) :
    ∃ found, filesOf fs (Location.path loc) = .ok found ∧ ∀ p ∈ found, IsFilePath fs p := by
  rw [filesOf, h.locate hcheck]
  simp only [bind, Except.bind, h.node]
  cases n with
  | file bytes mode =>
      refine ⟨_, rfl, fun p hp => ?_⟩
      exact ⟨loc, _, List.mem_singleton.mp hp, h, rfl⟩
  | directory mode =>
      refine ⟨_, rfl, fun p hp => ?_⟩
      obtain ⟨e, he, hsource⟩ := List.mem_filterMap.mp hp
      exact isFilePath_of_sourceBelow? ht he hsource
  | link target => exact absurd rfl (h.solid target)
  | device kind mode => exact ⟨_, rfl, fun p hp => absurd hp List.not_mem_nil⟩
  | pipe number mode => exact ⟨_, rfl, fun p hp => absurd hp List.not_mem_nil⟩
  | tool name =>
      refine ⟨_, rfl, fun p hp => ?_⟩
      exact ⟨loc, _, List.mem_singleton.mp hp, h, rfl⟩

/-- The paths of locations that are there. -/
def ArePlaces (fs : FileSystem) (roots : List Path) : Prop :=
  ∀ root ∈ roots, ∃ loc n, root = Location.path loc ∧ fs.tree.Holds loc n ∧ checkPath root = .ok ()

/-- Roots that are there stand for files in order, without repetition. -/
theorem files_ok (ht : fs.tree.Sound) {roots : List Path} (hroots : ArePlaces fs roots) :
    ∃ ps, files fs roots = .ok ps ∧ ps.Pairwise (·.key < ·.key) ∧ ∀ p ∈ ps, IsFilePath fs p := by
  obtain ⟨found, hfound, hall⟩ : ∃ found, roots.mapM (filesOf fs) = .ok found ∧
      ∀ ps ∈ found, ∀ p ∈ ps, IsFilePath fs p := by
    induction roots with
    | nil => exact ⟨[], rfl, fun ps hps => absurd hps List.not_mem_nil⟩
    | cons root roots ih =>
        obtain ⟨loc, n, rfl, hholds, hcheck⟩ := hroots root List.mem_cons_self
        obtain ⟨ps, hps, hfile⟩ := filesOf_ok ht hholds hcheck
        obtain ⟨rest, hrest, hfiles⟩ := ih fun r hr => hroots r (List.mem_cons_of_mem _ hr)
        refine ⟨ps :: rest, ?_, List.forall_mem_cons.mpr ⟨hfile, hfiles⟩⟩
        rw [List.mapM_cons, hps, hrest]
        rfl
  refine ⟨found.flatten.foldl (fun ps p => insertPath p ps) [], ?_,
    pairwise_foldl_insertPath _ List.Pairwise.nil, fun p hp => ?_⟩
  · rw [files, hfound]
    rfl
  · obtain ⟨ps, hps, hp⟩ :=
      List.mem_flatten.mp ((mem_foldl_insertPath hp).resolve_right List.not_mem_nil)
    exact hall ps hps p hp

/-- Where files are found, every root is there. -/
theorem exists_of_filesOf {root : Path} {found : List Path} (h : filesOf fs root = .ok found) :
    (fs.node? root).isSome = true := by
  rw [filesOf] at h
  rw [node?, node]
  cases hloc : fs.locate root true with
  | error fault =>
      rw [hloc] at h
      cases h
  | ok top =>
      rw [hloc] at h
      simp only [bind, Except.bind] at h ⊢
      cases hn : fs.tree.get? top with
      | none =>
          rw [hn] at h
          cases h
      | some n => rfl

/-- Each root stands for files of its own. -/
theorem found_of_files {roots : List Path} (h : files fs roots = .ok ps) :
    ∃ found, List.Forall₂ (fun root ps => filesOf fs root = .ok ps) roots found ∧
      ps = found.flatten.foldl (fun ps p => insertPath p ps) [] := by
  have hall {found : List (List Path)} (hfound : roots.mapM (filesOf fs) = .ok found) :
      List.Forall₂ (fun root ps => filesOf fs root = .ok ps) roots found := by
    clear h
    induction roots generalizing found with
    | nil =>
        cases hfound
        exact .nil
    | cons root roots ih =>
        rw [List.mapM_cons] at hfound
        cases hroot : filesOf fs root with
        | error fault =>
            rw [hroot] at hfound
            cases hfound
        | ok first =>
            cases hrest : roots.mapM (filesOf fs) with
            | error fault =>
                rw [hroot, hrest] at hfound
                cases hfound
            | ok rest =>
                rw [hroot, hrest] at hfound
                cases hfound
                exact .cons hroot (ih hrest)
  rw [files] at h
  cases hfound : roots.mapM (filesOf fs) with
  | error fault =>
      rw [hfound] at h
      cases h
  | ok found =>
      rw [hfound] at h
      exact ⟨found, hall hfound, (Except.ok.inj h).symm⟩

theorem exists_of_files {roots : List Path} (h : files fs roots = .ok ps) :
    ∀ root ∈ roots, (fs.node? root).isSome = true := by
  obtain ⟨found, hfound, -⟩ := found_of_files h
  clear h
  induction hfound with
  | nil =>
      intro root hroot
      cases hroot
  | cons hroot _ ih => exact List.forall_mem_cons.mpr ⟨exists_of_filesOf hroot, ih⟩

end Source
end ImportResolver

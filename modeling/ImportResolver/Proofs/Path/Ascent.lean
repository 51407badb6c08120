import ImportResolver.Path.Ancestors
import ImportResolver.Proofs.FileSystem.Location
import ImportResolver.Proofs.Path.Joining
import Mathlib.Data.List.TakeWhile
/- Going up from a path. Each step takes away the last component, until the root or nothing is left,
so the components tell how far it is to the top. -/
namespace ImportResolver.Path

/-- The path so many steps up: its parent, the parent of that, and so on. -/
def above? : Nat → Path → Option Path
  | 0, p => some p
  | n + 1, p => p.parent?.bind (above? n)

variable {p q : Path}

theorem component?_of_isTrivial {segment : List Char} (h : isTrivial segment = true) :
    component? segment = none := by
  rw [component?, if_pos h]

theorem component?_of_not_isTrivial {segment : List Char} (h : isTrivial segment = false) :
    ∃ c, component? segment = some c ∧ c ≠ .root := by
  rw [component?, h, if_neg Bool.false_ne_true]
  split
  · exact ⟨_, rfl, by simp⟩
  · exact ⟨_, rfl, by simp⟩

theorem filterMap_component?_of_isTrivial {segments : List (List Char)}
    (h : ∀ s ∈ segments, isTrivial s = true) : segments.filterMap component? = [] :=
  List.filterMap_eq_nil_iff.mpr fun s hs => component?_of_isTrivial (h s hs)

/-- A slash further on leaves what stands before the body as it is. -/
theorem anchor_append_slash {cs : List Char} (h : cs ≠ []) (rest : List Char) :
    anchor (cs ++ '/' :: rest) = anchor cs := by
  match cs with
  | [] => exact absurd rfl h
  | [c] =>
      by_cases hslash : c = '/'
      · subst hslash
        rfl
      · by_cases hdot : c = '.'
        · subst hdot
          rfl
        · simp [anchor, hslash, hdot]
  | c :: d :: cs =>
      by_cases hslash : c = '/'
      · subst hslash
        rfl
      · by_cases hdot : c = '.'
        · subst hdot
          by_cases hd : d = '/'
          · subst hd
            rfl
          · simp [anchor, hd]
        · simp [anchor, hslash, hdot]

theorem anchor_cases (cs : List Char) : anchor cs = ['/'] ∨ anchor cs = ['.'] ∨ anchor cs = [] := by
  unfold anchor
  split <;> simp

theorem anchor_anchor (cs : List Char) : anchor (anchor cs) = anchor cs := by
  rcases anchor_cases cs with h | h | h <;> rw [h] <;> rfl

/-- Breaking a path off behind some of its segments leaves these, and what stands before them. -/
theorem broken_off {cs : List Char} {kept rest : List (List Char)}
    (hsegments : segments cs = kept ++ rest) (hrest : rest ≠ [])
    (hlast : ∀ last ∈ kept.getLast?, isTrivial last = false) :
    anchor (anchor cs ++ Text.joinRuns '/' kept) = anchor cs ∧
      (segments (anchor cs ++ Text.joinRuns '/' kept)).filterMap component? =
        kept.filterMap component? := by
  by_cases hkept : kept = []
  · subst hkept
    rw [Text.joinRuns, List.append_nil, anchor_anchor, segments, anchor_anchor, List.drop_length]
    exact ⟨rfl, rfl⟩
  · -- Behind the kept segments comes a slash.
    have hbody : Text.joinRuns '/' kept ++ '/' :: Text.joinRuns '/' rest =
        cs.drop (anchor cs).length := by
      rw [← Text.joinRuns_append hkept hrest, ← hsegments]
      exact Text.joinRuns_runs '/' _
    have hwhole : (anchor cs ++ Text.joinRuns '/' kept) ++ '/' :: Text.joinRuns '/' rest = cs := by
      rw [List.append_assoc, hbody, anchor_append_drop]
    have hne : anchor cs ++ Text.joinRuns '/' kept ≠ [] := by
      obtain ⟨init, last, rfl⟩ := (List.eq_nil_or_concat' kept).resolve_left hkept
      have htrivial := hlast last (by simp)
      have hlastne : last ≠ [] := by
        rintro rfl
        cases htrivial
      have hjoin : (Text.joinRuns '/' (init ++ [last])).getLast? = some (last.getLast hlastne) :=
        Text.getLast?_joinRuns hlastne
      intro h
      rw [(List.append_eq_nil_iff.mp h).2] at hjoin
      cases hjoin
    have hanchor : anchor (anchor cs ++ Text.joinRuns '/' kept) = anchor cs := by
      conv_rhs => rw [← hwhole]
      exact (anchor_append_slash hne _).symm
    have hclean : ∀ r ∈ kept, '/' ∉ r := by
      intro r hr
      have hmem : r ∈ segments cs := hsegments ▸ List.mem_append_left rest hr
      exact Text.sep_not_mem_of_mem_runs hmem
    refine ⟨hanchor, ?_⟩
    rw [segments, hanchor, List.drop_left, Text.runs_joinRuns hkept hclean]

/-- A list without the idle segments at its end, and these. -/
theorem split_idle (segments : List (List Char)) :
    ∃ idle, segments = (segments.reverse.dropWhile isTrivial).reverse ++ idle ∧
      (∀ s ∈ idle, isTrivial s = true) ∧
      ∀ s ∈ (segments.reverse.dropWhile isTrivial).reverse.getLast?, isTrivial s = false := by
  refine ⟨(segments.reverse.takeWhile isTrivial).reverse, ?_, fun s hs => ?_, fun s hs => ?_⟩
  · rw [← List.reverse_append, List.takeWhile_append_dropWhile, List.reverse_reverse]
  · exact List.mem_takeWhile_imp (List.mem_reverse.mp hs)
  · have hhead := List.head?_dropWhile_not isTrivial segments.reverse
    rw [List.getLast?_reverse] at hs
    rw [hs] at hhead
    simpa using hhead

/-- Where a path has a segment that names something, its parent is what stands in front of the last
one. Otherwise only a dot has a parent. -/
theorem parent?_cases (p : Path) :
    (∃ kept idle last after, segments p.text.toList = kept ++ (idle ++ last :: after) ∧
      (∀ s ∈ idle, isTrivial s = true) ∧ isTrivial last = false ∧
      (∀ s ∈ after, isTrivial s = true) ∧ (∀ s ∈ kept.getLast?, isTrivial s = false) ∧
      p.parent? = some ⟨String.ofList (anchor p.text.toList ++ Text.joinRuns '/' kept)⟩) ∨
    (∀ s ∈ segments p.text.toList, isTrivial s = true) ∧
      p.parent? = if anchor p.text.toList = ['.'] then some ⟨""⟩ else none := by
  obtain ⟨after, hsegments, hafter, hlast⟩ := split_idle (segments p.text.toList)
  cases hback : (segments p.text.toList).reverse.dropWhile isTrivial with
  | nil =>
      rw [hback, List.reverse_nil, List.nil_append] at hsegments
      exact .inr ⟨hsegments ▸ hafter, by simp only [parent?, hback]⟩
  | cons last kept =>
      rw [hback] at hsegments hlast
      obtain ⟨idle, hkept, hidle, hends⟩ := split_idle kept.reverse
      rw [List.reverse_reverse] at hkept hends
      refine .inl ⟨_, idle, last, after, ?_, hidle, hlast last (by simp), hafter, hends, ?_⟩
      · rw [hsegments, List.reverse_cons, hkept]
        simp
      · simp only [parent?, hback]

/-- The last component of a path is what its parent lacks. -/
theorem components_parent? (h : p.parent? = some q) :
    ∃ c, p.components = q.components ++ [c] ∧ c ≠ .root := by
  rcases p.parent?_cases with
    ⟨kept, idle, last, after, hsegments, hidle, hlast, hafter, hkept, hparent⟩ | ⟨hall, hparent⟩
  · cases hparent.symm.trans h
    obtain ⟨hanchor, hcomponents⟩ := broken_off hsegments (by simp) hkept
    obtain ⟨c, hc, hroot⟩ := component?_of_not_isTrivial hlast
    refine ⟨c, ?_, hroot⟩
    simp only [components, String.toList_ofList, hanchor, hcomponents]
    rw [hsegments, List.filterMap_append, List.filterMap_append, List.filterMap_cons_some hc,
      filterMap_component?_of_isTrivial hidle, filterMap_component?_of_isTrivial hafter]
    simp
  · rw [hparent] at h
    split_ifs at h with hdot
    cases h
    refine ⟨.here, ?_, by simp⟩
    simp only [components, hdot, filterMap_component?_of_isTrivial hall]
    rfl

theorem anchor_eq_root_iff : anchor p.text.toList = ['/'] ↔ p.isAbsolute = true := by
  rw [isAbsolute, decide_eq_true_eq, List.head?_eq_some_iff]
  unfold anchor
  split <;> simp_all

/-- There is nothing above the root, nor above the path without components. -/
theorem parent?_eq_none_iff :
    p.parent? = none ↔ p.components = [] ∨ p.components = [.root] := by
  constructor
  · intro h
    rcases p.parent?_cases with ⟨kept, idle, last, after, -, -, -, -, -, hparent⟩ | ⟨hall, hparent⟩
    · cases hparent.symm.trans h
    · have hnone := filterMap_component?_of_isTrivial hall
      rcases anchor_cases p.text.toList with hanchor | hanchor | hanchor
      · exact .inr (by simp only [components, hanchor, hnone]; rfl)
      · rw [hparent, if_pos hanchor] at h
        cases h
      · exact .inl (by simp only [components, hanchor, hnone]; rfl)
  · intro h
    by_contra hparent
    obtain ⟨q, hq⟩ := Option.ne_none_iff_exists'.mp hparent
    obtain ⟨c, hc, hroot⟩ := components_parent? hq
    rcases h with h | h
    · rw [h] at hc
      exact absurd hc.symm (List.append_ne_nil_of_right_ne_nil _ (by simp))
    · obtain ⟨-, hlast⟩ := List.append_inj' ((List.nil_append _).trans (h.symm.trans hc)) rfl
      exact hroot (List.singleton_inj.mp hlast).symm

theorem isAbsolute_iff_components : p.isAbsolute = true ↔ p.components.head? = some .root := by
  have hnames : ((segments p.text.toList).filterMap component?).head? ≠ some .root := by
    intro h
    obtain ⟨segment, -, hsegment⟩ := List.mem_filterMap.mp (List.mem_of_head? h)
    cases htrivial : isTrivial segment with
    | true =>
        rw [component?_of_isTrivial htrivial] at hsegment
        cases hsegment
    | false =>
        obtain ⟨c, hc, hroot⟩ := component?_of_not_isTrivial htrivial
        exact hroot (Option.some.inj (hc.symm.trans hsegment))
  rw [← anchor_eq_root_iff]
  rcases anchor_cases p.text.toList with h | h | h
  · simp [components, h]
  · simp [components, h]
  · simpa [components, h] using hnames

theorem isAbsolute_parent? (h : p.parent? = some q) : q.isAbsolute = p.isAbsolute := by
  obtain ⟨c, hc, hroot⟩ := components_parent? h
  rw [Bool.eq_iff_iff, isAbsolute_iff_components, isAbsolute_iff_components, hc]
  cases q.components with
  | nil => simpa using hroot
  | cons d ds => rfl

theorem directory_isAbsolute (h : p.isAbsolute = true) : p.directory.isAbsolute = true := by
  rw [directory]
  cases hq : p.parent? with
  | none => rfl
  | some q => exact (isAbsolute_parent? hq).trans h

theorem ancestors_isAbsolute (h : p.isAbsolute = true) :
    ∀ q ∈ p.ancestors, q.isAbsolute = true := by
  -- Along the parents of a path, as the walk goes.
  fun_induction ancestors p with
  | case1 p ih =>
      intro q hq
      rcases List.mem_cons.mp hq with rfl | hq
      · exact h
      · split at hq
        · cases hq
        · next parent hparent => exact ih parent hparent ((isAbsolute_parent? hparent).trans h) q hq

/-- The way up ends at the root, or at the path without components. -/
theorem above?_eq_none_iff (p : Path) (n : Nat) :
    above? n p = none ↔ p.components.length < n + if p.isAbsolute then 1 else 0 := by
  induction n generalizing p with
  | zero =>
      refine iff_of_false (by simp [above?]) ?_
      split_ifs with habsolute
      · have := List.length_pos_of_mem
          (List.mem_of_head? (isAbsolute_iff_components.mp habsolute))
        omega
      · omega
  | succ n ih =>
      cases hparent : p.parent? with
      | none =>
          refine iff_of_true (by rw [above?, hparent]; rfl) ?_
          rcases parent?_eq_none_iff.mp hparent with h | h
          · rw [h]
            exact Nat.add_pos_left (Nat.succ_pos n) _
          · have habsolute := isAbsolute_iff_components.mpr (congrArg List.head? h)
            simp [h, habsolute]
      | some q =>
          obtain ⟨c, hc, -⟩ := components_parent? hparent
          rw [above?, hparent, Option.bind_some, ih q, isAbsolute_parent? hparent, hc,
            List.length_append]
          simp only [List.length_singleton]
          omega

theorem getElem?_ancestors (p : Path) (n : Nat) : p.ancestors[n]? = above? n p := by
  induction n generalizing p with
  | zero =>
      rw [ancestors]
      rfl
  | succ n ih =>
      rw [ancestors, above?, List.getElem?_cons_succ]
      split
      · next h => rw [h]; rfl
      · next q h => rw [h, ih]; rfl

end ImportResolver.Path

import ImportResolver.Path.Basic
/- The directories that a path lies in. -/
namespace ImportResolver.Path

theorem anchor_append_drop (cs : List Char) :
    anchor cs ++ cs.drop (anchor cs).length = cs := by
  unfold anchor
  split <;> simp

theorem dropWhile_isTrivial_ne_nil {segments kept : List (List Char)} {last : List Char}
    (h : segments.dropWhile isTrivial = last :: kept) : last ≠ [] := by
  rintro rfl
  have := List.head?_dropWhile_not isTrivial segments
  simp [h, isTrivial] at this

/-- Taking the last component away shortens the text. -/
theorem parent?_length {p q : Path} (h : p.parent? = some q) :
    q.text.toList.length < p.text.toList.length := by
  have hp := anchor_append_drop p.text.toList
  have hb := Text.joinRuns_runs '/' (p.text.toList.drop (anchor p.text.toList).length)
  rw [show Text.runs '/' _ = segments p.text.toList from rfl] at hb
  simp only [parent?] at h
  split at h
  · next last kept hk =>
    obtain rfl := Option.some.inj h
    have hlast := dropWhile_isTrivial_ne_nil hk
    obtain ⟨front, hfront⟩ : ∃ front, front ++ last :: kept = (segments p.text.toList).reverse :=
      ⟨_, by rw [← hk]; exact List.takeWhile_append_dropWhile⟩
    obtain ⟨mid, hmid⟩ : ∃ mid, mid ++ kept.dropWhile isTrivial = kept :=
      ⟨_, List.takeWhile_append_dropWhile⟩
    have hs : segments p.text.toList =
        (kept.dropWhile isTrivial).reverse ++ (mid.reverse ++ last :: front.reverse) := by
      rw [← List.reverse_reverse (segments p.text.toList), ← hfront]
      conv => lhs; rw [← hmid]
      simp
    rw [hs] at hb
    have hlen := congrArg List.length hb
    have hplen := congrArg List.length hp
    rw [List.length_append] at hplen
    simp only [String.toList_ofList, List.length_append]
    generalize (kept.dropWhile isTrivial).reverse = k at *
    by_cases hk : k = []
    · subst hk
      have hle :
          last.length ≤ (Text.joinRuns '/' (mid.reverse ++ last :: front.reverse)).length := by
        cases hm : mid.reverse with
        | nil =>
          have := Text.joinRuns_length_le_append '/' [last] front.reverse
          simpa [Text.joinRuns] using this
        | cons m ms =>
          rw [Text.joinRuns_append (by simp) (by simp), List.length_append]
          have := Text.joinRuns_length_le_append '/' [last] front.reverse
          simp [Text.joinRuns] at this ⊢
          omega
      have := List.length_pos_iff.2 hlast
      simp [Text.joinRuns] at *
      omega
    · rw [Text.joinRuns_append hk (by simp), List.length_append, List.length_cons] at hlen
      omega
  · split at h
    · next ha =>
      obtain rfl := Option.some.inj h
      have := congrArg List.length hp
      rw [List.length_append, ha] at this
      simp at this ⊢
      omega
    · simp at h

/-- A path, its parent, the parent of that, and so on. -/
def ancestors (p : Path) : List Path :=
  p :: match _h : p.parent? with
    | none => []
    | some q => ancestors q
termination_by p.text.toList.length
decreasing_by exact parent?_length _h

/-- The directory of a file; the root for paths that have no parent. -/
def directory (file : Path) : Path := file.parent?.getD ⟨"/"⟩

end ImportResolver.Path

import ImportResolver.Proofs.Source.Locality
/- Comments overwritten by blanks, and blanks as the scanner passes over them. -/
namespace ImportResolver.Source

/-- A line feed stays; for another character there are as many spaces as it has bytes. -/
def blankFor (c : Char) : List Char :=
  if c = '\n' then ['\n'] else List.replicate c.utf8Size ' '

def blanks (text : List Char) : List Char := text.flatMap blankFor

theorem isSpace_of_mem_blanks {text : List Char} : ∀ c ∈ blanks text, isSpace c = true := by
  intro c hc
  obtain ⟨d, -, hd⟩ := List.mem_flatMap.mp hc
  unfold blankFor at hd
  split at hd
  · obtain rfl := List.mem_singleton.mp hd
    rfl
  · obtain rfl := (List.mem_replicate.mp hd).2
    rfl

/-- Comments begin with two characters, the first of them a slash. -/
theorem comment?_head {s text rest : List Char} (h : comment? s = some (text, rest)) :
    ∃ c body, text = '/' :: c :: body ∧ (c = '/' ∨ c = '*') ∧ s.head? = some '/' := by
  unfold comment? at h
  split at h
  · cases h
    exact ⟨'/', _, rfl, .inl rfl, rfl⟩
  · cases h
    exact ⟨'*', _, rfl, .inr rfl, rfl⟩
  · cases h

theorem getLast?_blockBody {s : List Char} (h : (blockBody s).2 ≠ []) :
    (blockBody s).1.getLast? = some '/' := by
  fun_induction blockBody s with
  | case1 => exact absurd rfl h
  | case2 s => rfl
  | case3 c s _ ih => rw [Cut.push_fst, List.getLast?_cons, ih h, Option.getD_some]

/-- A comment that another character than a line feed follows ends with a slash. -/
theorem getLast?_of_comment? {s text rest : List Char} {c : Char}
    (h : comment? s = some (text, rest)) (hrest : rest.head? = some c) (hc : c ≠ '\n') :
    text.getLast? = some '/' := by
  unfold comment? at h
  split at h
  · next s =>
      cases h
      have := head_cutWhile (· ≠ '\n') s c hrest
      exact absurd (by simpa using this) hc
  · next s =>
      cases h
      have hbody : (blockBody s).2 ≠ [] := by
        intro e
        change (blockBody s).2.head? = some c at hrest
        rw [e] at hrest
        cases hrest
      simp [List.getLast?_cons, getLast?_blockBody hbody]
  · cases h

theorem blanks_ne_nil {s text rest : List Char} (h : comment? s = some (text, rest)) :
    blanks text ≠ [] := by
  obtain ⟨c, body, rfl, -, -⟩ := comment?_head h
  exact List.cons_ne_nil _ _

theorem fits_blanks {s text rest : List Char} (h : comment? s = some (text, rest))
    (t : List Char) : Fits s (blanks text ++ t) := by
  obtain ⟨c, body, rfl, -, hs⟩ := comment?_head h
  exact .inr ⟨hs, rfl⟩

end ImportResolver.Source

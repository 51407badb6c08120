import ImportResolver.Proofs.Source.Literal
/- How the search for the literal of a clause passes over words, blanks and comments. -/
namespace ImportResolver.Source

theorem Literal.after_after (a b : List Char) (l : Literal) :
    (l.after b).after a = l.after (a ++ b) := by
  simp [Literal.after]

theorem Literal.map_after_after (a b : List Char) (found : Option Literal) :
    (found.map (Literal.after b)).map (Literal.after a) = found.map (Literal.after (a ++ b)) := by
  cases found with
  | none => rfl
  | some l => exact congrArg some (l.after_after a b)

theorem Literal.map_after_nil (found : Option Literal) : found.map (Literal.after []) = found := by
  cases found <;> rfl

theorem getLast?_cons_or {α : Type} (a : α) (s : List α) (prev : Option α) :
    (a :: s).getLast?.or prev = s.getLast?.or (some a) := by
  rw [List.getLast?_cons]
  cases s.getLast? <;> rfl

theorem getLast?_append_or {α : Type} (s t : List α) (prev : Option α) :
    (s ++ t).getLast?.or prev = t.getLast?.or (s.getLast?.or prev) := by
  rw [List.getLast?_append, Option.or_assoc]

theorem getLast?_or_eq {s : List Char} {c : Char} :
    s.getLast?.or (some c) = some (s.getLast?.getD c) := by
  cases s.getLast? <;> rfl

theorem keyword?_eq_none_of_head? {word s : List Char} {prev : Option Char} {c : Char}
    (h : s.head? ≠ word.head?) (hw : word.head? = some c) : keyword? word prev s = none := by
  rw [Option.eq_none_iff_forall_ne_some]
  intro rest hk
  apply h
  rw [← keyword?_append hk, List.head?_append, hw]
  rfl

theorem clause?_congr {prev prev' : Option Char} {s : List Char}
    (h : s.head? = some 'f' → isTied prev = isTied prev') : clause? prev s = clause? prev' s := by
  cases s with
  | nil => rw [clause?, clause?]
  | cons c s =>
      have hk : keyword? fromWord prev (c :: s) = keyword? fromWord prev' (c :: s) := by
        by_cases hf : c = 'f'
        · exact keyword?_congr (h (congrArg some hf)) _
        · have hne : (c :: s).head? ≠ fromWord.head? := fun e => hf (Option.some.inj e)
          rw [keyword?_eq_none_of_head? hne rfl, keyword?_eq_none_of_head? hne rfl]
      rw [clause?, clause?, hk]

theorem isClauseChar_ne_slash {c : Char} (h : isClauseChar c = true) : c ≠ '/' := by
  rintro rfl
  exact absurd h (by decide)

theorem isQuote_of_isClauseChar {c : Char} (h : isClauseChar c = true) : isQuote c = false := by
  cases hq : isQuote c with
  | false => rfl
  | true =>
      rcases isQuote_iff.mp hq with rfl | rfl | rfl
      · exact absurd h (by decide)
      · exact absurd h (by decide)
      · exact absurd h (by decide)

theorem clause?_stopped {prev : Option Char} {s : List Char} {c : Char}
    (hs : s.head? = some c) (hc : isClauseChar c = false) (hslash : c ≠ '/') :
    clause? prev s = none := by
  obtain ⟨t, rfl⟩ := List.head?_eq_some_iff.mp hs
  have hf : c ≠ 'f' := by
    rintro rfl
    exact absurd hc (by decide)
  have hk : keyword? fromWord prev (c :: t) = none :=
    keyword?_eq_none_of_head? (c := 'f') (by simpa [fromWord] using hf) rfl
  rw [clause?_of_char (comment?_eq_none_of_ne hslash) hk, if_neg (by simp [hc])]

/-- Characters in a clause that do not begin the keyword are passed over. -/
theorem clause?_passed {w : List Char} (hw : ∀ c ∈ w, isClauseChar c = true ∧ c ≠ 'f')
    (prev : Option Char) (s : List Char) :
    clause? prev (w ++ s) = (clause? (w.getLast?.or prev) s).map (Literal.after w) := by
  induction w generalizing prev with
  | nil => exact (Literal.map_after_nil _).symm
  | cons c w ih =>
      obtain ⟨hc, hf⟩ := hw c List.mem_cons_self
      have hk : keyword? fromWord prev (c :: (w ++ s)) = none :=
        keyword?_eq_none_of_head? (c := 'f') (by simpa [fromWord] using hf) rfl
      rw [List.cons_append, clause?_of_char (comment?_eq_none_of_ne (isClauseChar_ne_slash hc)) hk,
        if_pos hc, ih (fun d hd => hw d (List.mem_cons_of_mem c hd)), Literal.map_after_after,
        getLast?_cons_or]
      rfl

theorem isClauseChar_of_isSpace {c : Char} (h : isSpace c = true) : isClauseChar c = true := by
  simp [isClauseChar, h]

theorem isSpace_ne_f {c : Char} (h : isSpace c = true) : c ≠ 'f' := by
  rintro rfl
  exact absurd h (by decide)

theorem clause?_blanks (prev : Option Char) (s : List Char) :
    clause? prev s =
      (clause? ((cutWhile isSpace s).1.getLast?.or prev) (cutWhile isSpace s).2).map
        (Literal.after (cutWhile isSpace s).1) := by
  have hw : ∀ c ∈ (cutWhile isSpace s).1, isClauseChar c = true ∧ c ≠ 'f' := by
    intro c hc
    have hc := List.mem_takeWhile_imp hc
    exact ⟨isClauseChar_of_isSpace hc, isSpace_ne_f hc⟩
  rw [← clause?_passed hw, cutWhile_append]

/-- Blanks and comments are passed over. -/
theorem clause?_trivia (prev : Option Char) (s : List Char) :
    clause? prev s =
      (clause? ((trivia s).1.getLast?.or prev) (trivia s).2).map
        (Literal.after (trivia s).1) := by
  induction s using trivia.induct generalizing prev with
  | case1 s _ =>
      rename_i hc
      rw [trivia_of_none hc]
      exact clause?_blanks prev s
  | case2 s _ text rest hc =>
      rename_i ih
      have htext : ∀ q : Option Char, text.getLast?.or q = text.getLast? := by
        intro q
        rw [List.getLast?_eq_some_getLast (comment?_fst_ne_nil hc)]
        rfl
      rw [trivia_of_comment hc, clause?_blanks prev s, clause?_of_comment hc, ih,
        Literal.map_after_after, Literal.map_after_after, getLast?_append_or, getLast?_append_or,
        htext, List.append_assoc]

end ImportResolver.Source

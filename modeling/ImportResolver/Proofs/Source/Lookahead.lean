import ImportResolver.Proofs.Source.Literal
/- What keywords lead to: the site that is found stays, with another plain text in its literal and
another rest behind it. -/
namespace ImportResolver.Source

theorem clause?_proper {prev : Option Char} {s : List Char} {l : Literal}
    (h : clause? prev s = some l) : l.Proper ∧ 5 ≤ l.lead.length := by
  fun_induction clause? prev s generalizing l with
  | case1 => cases h
  | case2 _ _ _ text _ _ ih =>
      obtain ⟨l, h', rfl⟩ := Option.map_eq_some_iff.mp h
      refine ⟨(ih h').1.after text, ?_⟩
      rw [Literal.after_lead, List.length_append]
      exact Nat.le_add_left_of_le (ih h').2
  | case3 _ _ _ _ rest _ =>
      obtain ⟨l, h', rfl⟩ := Option.map_eq_some_iff.mp h
      refine ⟨(literal?_proper h').after _, ?_⟩
      obtain ⟨-, hl, -⟩ := literal?_eq_some_iff.mp h'
      rw [Literal.after_lead, hl, List.length_append, List.length_append]
      exact Nat.add_le_add_right (Nat.le_add_right 4 _) 1
  | case4 _ c _ _ _ _ ih =>
      obtain ⟨l, h', rfl⟩ := Option.map_eq_some_iff.mp h
      refine ⟨(ih h').1.after [c], ?_⟩
      rw [Literal.after_lead, List.length_append]
      exact Nat.le_add_left_of_le (ih h').2
  | case5 => cases h

theorem Literal.respelled_take {l : Literal} {n : Nat} (h : n ≤ l.lead.length)
    (raw rest : List Char) : (l.respelled raw rest).whole.take n = l.whole.take n := by
  rw [Literal.respelled_whole, Literal.whole, List.append_assoc, List.take_append_of_le_length h,
    List.take_append_of_le_length h]

theorem Literal.Proper.head? {l : Literal} (h : l.Proper) (raw rest : List Char) :
    (l.respelled raw rest).whole.head? = l.whole.head? := by
  have hl : 0 + 1 ≤ l.lead.length := h.lead.length_le
  exact head?_of_take (l.respelled_take hl raw rest)

theorem trivia_literal {s raw : List Char} {l : Literal} (h : literal? (trivia s).2 = some l)
    (rest : List Char) : trivia ((trivia s).1 ++ (l.respelled raw rest).whole) =
      ((trivia s).1, (l.respelled raw rest).whole) := by
  have hp := literal?_proper h
  apply trivia_local
  · rw [hp.head?, literal?_whole h]
  · obtain ⟨-, hl, -⟩ := literal?_eq_some_iff.mp h
    rw [Literal.respelled_whole, hl]
    apply comment?_eq_none_of_ne
    intro e
    have hq := hp.quote
    rw [e] at hq
    cases hq

theorem trivia_call {s rest : List Char} (h : (trivia s).2 = '(' :: rest) (t : List Char) :
    trivia ((trivia s).1 ++ '(' :: t) = ((trivia s).1, '(' :: t) := by
  apply trivia_local
  · rw [h]
    rfl
  · exact comment?_eq_none_of_ne (by decide)

theorem clause?_respelled {prev : Option Char} {s raw : List Char} {l : Literal}
    (h : clause? prev s = some l) (hr : IsPlain l.quote raw) (rest : List Char) :
    clause? prev (l.respelled raw rest).whole = some (l.respelled raw rest) := by
  fun_induction clause? prev s generalizing l with
  | case1 => cases h
  | case2 prev c s text tail hc ih =>
      obtain ⟨l, h', rfl⟩ := Option.map_eq_some_iff.mp h
      have hh : (l.respelled raw rest).whole.head? = tail.head? := by
        rw [(clause?_proper h').1.head?, clause?_whole h']
      rw [Literal.respelled_after, Literal.whole_after,
        clause?_of_comment (comment?_local hc (.inl hh)), ih h' hr]
      rfl
  | case3 prev c s hc tail hk =>
      obtain ⟨l, h', rfl⟩ := Option.map_eq_some_iff.mp h
      have hh : ((trivia tail).1 ++ (l.respelled raw rest).whole).head? = tail.head? := by
        have hw : (l.respelled raw rest).whole.head? = (trivia tail).2.head? := by
          rw [(literal?_proper h').head?, literal?_whole h']
        rw [head?_append_congr hw, trivia_append]
      rw [Literal.respelled_after, Literal.whole_after, List.append_assoc,
        clause?_of_from (keyword?_local hk (.inl hh)),
        trivia_literal h', literal?_respelled h' hr]
      rfl
  | case4 prev c s hc hk hclause ih =>
      obtain ⟨l, h', rfl⟩ := Option.map_eq_some_iff.mp h
      have ht : ∀ n ≤ 6, (c :: (l.respelled raw rest).whole).take n = (c :: s).take n := by
        intro n hn
        cases n with
        | zero => rfl
        | succ n =>
            have hn' : n ≤ l.lead.length :=
              Nat.le_trans (Nat.le_of_succ_le_succ hn) (clause?_proper h').2
            rw [List.take_succ_cons, List.take_succ_cons, l.respelled_take hn', clause?_whole h']
      rw [Literal.respelled_after, Literal.whole_after, List.singleton_append,
        clause?_of_char (comment?_none_local hc (ht 2 (by decide)))
          (keyword?_none_local hk (ht 5 (by decide))), if_pos hclause, ih h' hr]
      rfl
  | case5 => cases h

/-- A call has the literal as its only argument or as the first of several. -/
theorem callArgument?_eq_some_iff {s : List Char} {l : Literal} :
    callArgument? s = some l ↔
      ∃ l', literal? (trivia s).2 = some l' ∧ l'.after (trivia s).1 = l ∧
        ∃ c, (trivia l'.rest).2.head? = some c ∧ (c = ')' ∨ c = ',') := by
  constructor
  · intro h
    unfold callArgument? at h
    split at h
    · cases h
    · next l' hl =>
        split at h
        · next c hc =>
            split at h
            · next hend =>
                cases h
                exact ⟨l', hl, rfl, c, hc, by simpa using hend⟩
            · cases h
        · cases h
  · rintro ⟨l', hl, rfl, c, hc, hend⟩
    unfold callArgument?
    rw [hl]
    dsimp only
    rw [hc]
    dsimp only
    rw [if_pos (by simpa using hend)]

theorem callArgument?_proper {s : List Char} {l : Literal} (h : callArgument? s = some l) :
    l.Proper := by
  obtain ⟨l', hl, rfl, -⟩ := callArgument?_eq_some_iff.mp h
  exact (literal?_proper hl).after _

theorem callArgument?_respelled {s raw rest : List Char} {l : Literal}
    (h : callArgument? s = some l) (hr : IsPlain l.quote raw)
    (hrest : (trivia rest).2.head? = (trivia l.rest).2.head?) :
    callArgument? (l.respelled raw rest).whole = some (l.respelled raw rest) := by
  obtain ⟨l', hl, rfl, c, hc, hend⟩ := callArgument?_eq_some_iff.mp h
  have ht : trivia ((l'.after (trivia s).1).respelled raw rest).whole =
      ((trivia s).1, (l'.respelled raw rest).whole) := by
    rw [Literal.respelled_after, Literal.whole_after, trivia_literal hl]
  refine callArgument?_eq_some_iff.mpr ⟨l'.respelled raw rest, ?_, ?_, c, ?_, hend⟩
  · rw [ht]
    exact literal?_respelled hl hr rest
  · rw [ht]
    rfl
  · exact hrest.trans hc

theorem importSpecifier?_of_call {s rest : List Char} (h : (trivia s).2 = '(' :: rest) :
    importSpecifier? s =
      (callArgument? rest).map fun l => (.dynamic, l.after ((trivia s).1 ++ ['('])) := by
  unfold importSpecifier?
  simp only [h, if_true]

theorem importSpecifier?_of_quote {s rest : List Char} {c : Char} (h : (trivia s).2 = c :: rest)
    (hc : c = '"' ∨ c = '\'') :
    importSpecifier? s =
      (literal? (trivia s).2).map fun l => (.imported, l.after (trivia s).1) := by
  unfold importSpecifier?
  rcases hc with rfl | rfl
  · simp only [h]
    rfl
  · simp only [h]
    rfl

theorem importSpecifier?_of_clause {s rest : List Char} {c : Char} (h : (trivia s).2 = c :: rest)
    (hp : c ≠ '(') (hc : ¬ (c = '"' ∨ c = '\'')) :
    importSpecifier? s =
      (clause? (some ((trivia s).1.getLast?.getD 't')) (trivia s).2).map
        fun l => (.imported, l.after (trivia s).1) := by
  unfold importSpecifier?
  simp only [h, if_neg hp]
  rw [if_neg]
  simpa using hc

/-- The three forms of an import: a call, a literal alone, and a clause in front of it. -/
theorem importSpecifier?_cases {s : List Char} {k : SiteKind} {l : Literal}
    (h : importSpecifier? s = some (k, l)) :
    (∃ rest l', (trivia s).2 = '(' :: rest ∧ callArgument? rest = some l' ∧ k = .dynamic ∧
      l = l'.after ((trivia s).1 ++ ['('])) ∨
    (∃ c rest l', (trivia s).2 = c :: rest ∧ (c = '"' ∨ c = '\'') ∧
      literal? (trivia s).2 = some l' ∧ k = .imported ∧ l = l'.after (trivia s).1) ∨
    (∃ c rest l', (trivia s).2 = c :: rest ∧ c ≠ '(' ∧ ¬ (c = '"' ∨ c = '\'') ∧
      clause? (some ((trivia s).1.getLast?.getD 't')) (trivia s).2 = some l' ∧ k = .imported ∧
      l = l'.after (trivia s).1) := by
  cases ht : (trivia s).2 with
  | nil => simp [importSpecifier?, ht] at h
  | cons c rest =>
      by_cases hp : c = '('
      · subst hp
        rw [importSpecifier?_of_call ht] at h
        obtain ⟨l', hl, he⟩ := Option.map_eq_some_iff.mp h
        cases he
        exact .inl ⟨rest, l', rfl, hl, rfl, rfl⟩
      · by_cases hc : c = '"' ∨ c = '\''
        · rw [importSpecifier?_of_quote ht hc] at h
          obtain ⟨l', hl, he⟩ := Option.map_eq_some_iff.mp h
          cases he
          exact .inr (.inl ⟨c, rest, l', rfl, hc, ht ▸ hl, rfl, rfl⟩)
        · rw [importSpecifier?_of_clause ht hp hc] at h
          obtain ⟨l', hl, he⟩ := Option.map_eq_some_iff.mp h
          cases he
          exact .inr (.inr ⟨c, rest, l', rfl, hp, hc, ht ▸ hl, rfl, rfl⟩)

theorem importSpecifier?_proper {s : List Char} {k : SiteKind} {l : Literal}
    (h : importSpecifier? s = some (k, l)) : l.Proper := by
  rcases importSpecifier?_cases h with ⟨_, l', -, hl, -, rfl⟩ | ⟨_, _, l', -, -, hl, -, rfl⟩ |
    ⟨_, _, l', -, -, -, hl, -, rfl⟩
  · exact (callArgument?_proper hl).after _
  · exact (literal?_proper hl).after _
  · exact (clause?_proper hl).1.after _

theorem importSpecifier?_respelled {s raw rest : List Char} {k : SiteKind} {l : Literal}
    (h : importSpecifier? s = some (k, l)) (hr : IsPlain l.quote raw)
    (hrest : (trivia rest).2.head? = (trivia l.rest).2.head?) :
    importSpecifier? (l.respelled raw rest).whole = some (k, l.respelled raw rest) := by
  rcases importSpecifier?_cases h with ⟨tail, l', ht, hl, rfl, rfl⟩ |
    ⟨c, tail, l', ht, hc, hl, rfl, rfl⟩ | ⟨c, tail, l', ht, hp, hc, hl, rfl, rfl⟩
  · have ht' := trivia_call ht (l'.respelled raw rest).whole
    have hcall := congrArg Prod.snd ht'
    rw [Literal.respelled_after, Literal.whole_after, List.append_assoc, List.singleton_append,
      importSpecifier?_of_call hcall, ht',
      callArgument?_respelled hl hr hrest]
    rfl
  · have ht' := @trivia_literal s raw l' hl rest
    have hh : (l'.respelled raw rest).whole.head? = some c := by
      rw [(literal?_proper hl).head?, literal?_whole hl, ht]
      rfl
    obtain ⟨tail', hw⟩ : ∃ tail', (l'.respelled raw rest).whole = c :: tail' :=
      List.head?_eq_some_iff.mp hh
    rw [Literal.respelled_after, Literal.whole_after,
      importSpecifier?_of_quote (by rw [ht', hw]) hc, ht', literal?_respelled hl hr]
    rfl
  · have hh : (l'.respelled raw rest).whole.take 2 = (trivia s).2.take 2 := by
      rw [l'.respelled_take (Nat.le_trans (by decide) (clause?_proper hl).2), clause?_whole hl]
    have ht' : trivia ((trivia s).1 ++ (l'.respelled raw rest).whole) =
        ((trivia s).1, (l'.respelled raw rest).whole) :=
      trivia_local (head?_of_take hh) (comment?_none_local (comment?_trivia s) hh)
    obtain ⟨tail', hw⟩ : ∃ tail', (l'.respelled raw rest).whole = c :: tail' := by
      rw [← List.head?_eq_some_iff, head?_of_take hh, ht]
      rfl
    rw [Literal.respelled_after, Literal.whole_after,
      importSpecifier?_of_clause (by rw [ht', hw]) hp hc, ht', clause?_respelled hl hr]
    rfl

theorem site?_of_import {prev : Option Char} {s rest : List Char}
    (h : keyword? importWord prev s = some rest) :
    site? prev s = (importSpecifier? rest).map fun (k, l) => (k, l.after importWord) := by
  unfold site?
  rw [h]

theorem keyword?_import_of_export {prev : Option Char} {s rest : List Char}
    (h : keyword? exportWord prev s = some rest) : keyword? importWord prev s = none := by
  obtain rfl := keyword?_append h
  rw [Option.eq_none_iff_forall_ne_some]
  intro t ht
  cases keyword?_append ht

theorem site?_of_export {prev : Option Char} {s rest : List Char}
    (h : keyword? exportWord prev s = some rest) :
    site? prev s = (clause? (some 't') rest).map fun l => (.exported, l.after exportWord) := by
  unfold site?
  rw [keyword?_import_of_export h]
  dsimp only
  rw [h]

theorem site?_cases {prev : Option Char} {s : List Char} {k : SiteKind} {l : Literal}
    (h : site? prev s = some (k, l)) :
    (∃ rest l', keyword? importWord prev s = some rest ∧ importSpecifier? rest = some (k, l') ∧
      l = l'.after importWord) ∨
    (∃ rest l', keyword? exportWord prev s = some rest ∧ clause? (some 't') rest = some l' ∧
      k = .exported ∧ l = l'.after exportWord) := by
  cases hi : keyword? importWord prev s with
  | some rest =>
      rw [site?_of_import hi] at h
      obtain ⟨⟨k', l'⟩, hl, he⟩ := Option.map_eq_some_iff.mp h
      cases he
      exact .inl ⟨rest, l', rfl, hl, rfl⟩
  | none =>
      cases he : keyword? exportWord prev s with
      | some rest =>
          rw [site?_of_export he] at h
          obtain ⟨l', hl, he⟩ := Option.map_eq_some_iff.mp h
          cases he
          exact .inr ⟨rest, l', rfl, hl, rfl, rfl⟩
      | none => simp [site?, hi, he] at h

/-- The keyword and the opening quote stand in front of a site. -/
theorem site?_proper {prev : Option Char} {s : List Char} {k : SiteKind} {l : Literal}
    (h : site? prev s = some (k, l)) : l.Proper ∧ 7 ≤ l.lead.length := by
  rcases site?_cases h with ⟨rest, l', -, hl, rfl⟩ | ⟨rest, l', -, hl, -, rfl⟩
  · have hp := importSpecifier?_proper hl
    refine ⟨hp.after _, ?_⟩
    rw [Literal.after_lead, List.length_append]
    exact Nat.add_le_add_left hp.lead.length_le 6
  · have hp := (clause?_proper hl).1
    refine ⟨hp.after _, ?_⟩
    rw [Literal.after_lead, List.length_append]
    exact Nat.add_le_add_left hp.lead.length_le 6

theorem site?_respelled {prev : Option Char} {s raw rest : List Char} {k : SiteKind} {l : Literal}
    (h : site? prev s = some (k, l)) (hr : IsPlain l.quote raw)
    (hrest : (trivia rest).2.head? = (trivia l.rest).2.head?) :
    site? prev (l.respelled raw rest).whole = some (k, l.respelled raw rest) := by
  rcases site?_cases h with ⟨tail, l', hk, hl, rfl⟩ | ⟨tail, l', hk, hl, rfl, rfl⟩
  · have hh : (l'.respelled raw rest).whole.head? = tail.head? := by
      rw [(importSpecifier?_proper hl).head?, importSpecifier?_whole hl]
    rw [Literal.respelled_after, Literal.whole_after, site?_of_import (keyword?_local hk (.inl hh)),
      importSpecifier?_respelled hl hr hrest]
    rfl
  · have hh : (l'.respelled raw rest).whole.head? = tail.head? := by
      rw [(clause?_proper hl).1.head?, clause?_whole hl]
    rw [Literal.respelled_after, Literal.whole_after, site?_of_export (keyword?_local hk (.inl hh)),
      clause?_respelled hl hr]
    rfl

theorem site?_eq_none_of_ne {prev : Option Char} {c : Char} {s : List Char} (hi : c ≠ 'i')
    (he : c ≠ 'e') : site? prev (c :: s) = none := by
  rw [Option.eq_none_iff_forall_ne_some]
  rintro ⟨k, l⟩ h
  rcases site?_cases h with ⟨rest, _, hk, -⟩ | ⟨rest, _, hk, -⟩
  · exact hi (List.cons.inj (keyword?_append hk)).1.symm
  · exact he (List.cons.inj (keyword?_append hk)).1.symm

end ImportResolver.Source

import ImportResolver.Source.Piece
import Mathlib.Data.List.TakeWhile
/- What the readers of source text depend on: the part they take and at most two characters after
it. Each main lemma puts another rest behind the part that is taken; for most, a space may stand
there in the place of a slash. -/
namespace ImportResolver.Source

/-- The second text begins as the first does, or with a space where the first has a slash. -/
def Fits (s t : List Char) : Prop :=
  t.head? = s.head? ∨ (s.head? = some '/' ∧ t.head? = some ' ')

theorem head?_append_congr {α : Type} {s t t' : List α} (h : t.head? = t'.head?) :
    (s ++ t).head? = (s ++ t').head? := by
  cases s with
  | nil => exact h
  | cons => rfl

theorem head?_of_take {α : Type} {n : Nat} {s t : List α} (h : s.take (n + 1) = t.take (n + 1)) :
    s.head? = t.head? := by
  simpa [List.head?_take] using congrArg List.head? h

theorem cutWhile_eq {p : Char → Bool} {s t : List Char} (hs : ∀ c ∈ s, p c = true)
    (ht : ∀ c ∈ t.head?, p c = false) : cutWhile p (s ++ t) = (s, t) := by
  rw [cutWhile, List.takeWhile_append_of_pos hs, List.dropWhile_append_of_pos hs]
  cases t with
  | nil => simp
  | cons c t => simp [ht c (by simp)]

theorem Fits.nil {t : List Char} (h : Fits [] t) : t = [] := by
  rcases h with h | ⟨h, -⟩
  · exact List.head?_eq_none_iff.mp h
  · cases h

theorem Fits.cons {c : Char} {s t : List Char} (h : Fits (c :: s) t) (hc : c ≠ '/') :
    ∃ u, t = c :: u := by
  rcases h with h | ⟨h, -⟩
  · exact List.head?_eq_some_iff.mp h
  · exact absurd (Option.some.inj h) hc

theorem Fits.append {s t : List Char} (h : Fits s t) (w : List Char) : Fits (w ++ s) (w ++ t) := by
  cases w with
  | nil => exact h
  | cons c w => exact .inl rfl

theorem Fits.any_isWord {s t : List Char} (h : Fits s t) :
    t.head?.any isWord = s.head?.any isWord := by
  rcases h with h | ⟨hs, ht⟩
  · rw [h]
  · rw [hs, ht]
    rfl

theorem head_cutWhile (p : Char → Bool) (s : List Char) :
    ∀ c ∈ (cutWhile p s).2.head?, p c = false := by
  intro c hc
  have := List.head?_dropWhile_not p s
  rw [show s.dropWhile p = (cutWhile p s).2 from rfl, hc] at this
  simpa using this

theorem cutWhile_local {p : Char → Bool} {s t : List Char}
    (h : t.head? = (cutWhile p s).2.head?) :
    cutWhile p ((cutWhile p s).1 ++ t) = ((cutWhile p s).1, t) := by
  apply cutWhile_eq
  · intro c hc
    exact List.mem_takeWhile_imp hc
  · intro c hc
    exact head_cutWhile p s c (h ▸ hc)

theorem cutWhile_fits {p : Char → Bool} (hp : p ' ' = p '/') {s t : List Char}
    (h : Fits (cutWhile p s).2 t) :
    cutWhile p ((cutWhile p s).1 ++ t) = ((cutWhile p s).1, t) := by
  apply cutWhile_eq
  · intro c hc
    exact List.mem_takeWhile_imp hc
  · intro c hc
    rcases h with h | ⟨hs, ht⟩
    · exact head_cutWhile p s c (h ▸ hc)
    · obtain rfl : ' ' = c := Option.some.inj (ht.symm.trans hc)
      rw [hp, head_cutWhile p s '/' hs]

theorem blockBody_local {s t : List Char} (h : Fits (blockBody s).2 t) :
    blockBody ((blockBody s).1 ++ t) = ((blockBody s).1, t) := by
  fun_induction blockBody s with
  | case1 =>
      obtain rfl := h.nil
      rfl
  | case2 s => rfl
  | case3 c s hs ih =>
      simp only [Cut.push_fst, Cut.push_snd, List.cons_append] at h ⊢
      have hfits := h.append (blockBody s).1
      rw [blockBody_append] at hfits
      rw [blockBody, ih h]
      · rfl
      · rintro s' rfl hs'
        rw [hs'] at hfits
        rcases hfits with hhead | ⟨-, hhead⟩
        · obtain ⟨s, rfl⟩ := List.head?_eq_some_iff.mp hhead.symm
          exact hs s rfl rfl
        · cases hhead

theorem comment?_eq_none_iff {s : List Char} :
    comment? s = none ↔ s.take 2 ≠ ['/', '/'] ∧ s.take 2 ≠ ['/', '*'] := by
  fun_cases comment? s with
  | case1 => simp
  | case2 => simp
  | case3 s h₁ h₂ =>
      simp only [true_iff]
      constructor
      · intro h
        exact h₁ (s.drop 2) (by rw [← List.take_append_drop 2 s, h]; rfl)
      · intro h
        exact h₂ (s.drop 2) (by rw [← List.take_append_drop 2 s, h]; rfl)

theorem comment?_none_local {s t : List Char} (h : comment? s = none) (ht : t.take 2 = s.take 2) :
    comment? t = none := by
  rw [comment?_eq_none_iff] at h ⊢
  rwa [ht]

theorem comment?_eq_none_of_ne {c : Char} {s : List Char} (h : c ≠ '/') :
    comment? (c :: s) = none := by
  rw [comment?_eq_none_iff]
  cases s <;> simp [h]

theorem comment?_none_of_fits {c : Char} {s t : List Char} (h : comment? (c :: s) = none)
    (ht : Fits s t) : comment? (c :: t) = none := by
  rcases ht with ht | ⟨hs, ht⟩
  · apply comment?_none_local h
    rw [List.take_succ_cons, List.take_succ_cons, List.take_one, List.take_one, ht]
  · apply comment?_eq_none_of_ne
    rintro rfl
    obtain ⟨s, rfl⟩ := List.head?_eq_some_iff.mp hs
    cases h

theorem comment?_local {s t : List Char} {cut : Cut} (h : comment? s = some cut)
    (ht : Fits cut.2 t) : comment? (cut.1 ++ t) = some (cut.1, t) := by
  unfold comment? at h
  split at h
  · obtain rfl := Option.some.inj h
    have := cutWhile_fits rfl ht
    simp only [Cut.push_fst, List.cons_append, comment?] at this ⊢
    rw [this]
    rfl
  · obtain rfl := Option.some.inj h
    have := blockBody_local ht
    simp only [Cut.push_fst, List.cons_append, comment?] at this ⊢
    rw [this]
    rfl
  · cases h

/-- An escape at the end of a part would need a character that is not there. -/
theorem not_escape {c : Char} {s u : List Char} (h : Fits s u)
    (hs : ∀ d s', c = '\\' → s = d :: s' → False) : ∀ d u', c = '\\' → u = d :: u' → False := by
  rintro d u' hc rfl
  cases s with
  | nil => cases h.nil
  | cons e s => exact hs e s hc rfl

theorem regexBody_local {inClass : Bool} {s t : List Char}
    (h : Fits (regexBody inClass s).2 t) :
    regexBody inClass ((regexBody inClass s).1 ++ t) = ((regexBody inClass s).1, t) := by
  fun_induction regexBody inClass s with
  | case1 =>
      obtain rfl := h.nil
      rfl
  | case2 inClass c s ih =>
      simp only [Cut.push_fst, List.cons_append, regexBody]
      rw [ih h]
      rfl
  | case3 inClass s hs =>
      obtain ⟨t, rfl⟩ := h.cons (by decide)
      simp [regexBody]
  | case4 inClass s hs hc ih =>
      simp only [Cut.push_fst, Cut.push_snd, List.cons_append] at h ⊢
      have hu := h.append (regexBody true s).1
      rw [regexBody_append] at hu
      rw [regexBody, if_neg hc, if_pos rfl, ih h]
      · rfl
      · exact not_escape hu hs
  | case5 inClass s hs hc hb ih =>
      simp only [Cut.push_fst, Cut.push_snd, List.cons_append] at h ⊢
      have hu := h.append (regexBody false s).1
      rw [regexBody_append] at hu
      rw [regexBody, if_neg hc, if_neg hb, if_pos rfl, ih h]
      · rfl
      · exact not_escape hu hs
  | case6 inClass c s hs hc hb hb' he =>
      simp only [Cut.push_fst, Cut.push_snd, List.cons_append] at h ⊢
      have hu := h.append (cutWhile isWord s).1
      rw [cutWhile_append] at hu
      rw [regexBody, if_neg hc, if_neg hb, if_neg hb', if_pos he, cutWhile_fits rfl h]
      · rfl
      · exact not_escape hu hs
  | case7 inClass c s hs hc hb hb' he ih =>
      simp only [Cut.push_fst, Cut.push_snd, List.cons_append] at h ⊢
      have hu := h.append (regexBody inClass s).1
      rw [regexBody_append] at hu
      rw [regexBody, if_neg hc, if_neg hb, if_neg hb', if_neg he, ih h]
      · rfl
      · exact not_escape hu hs

theorem stringBody_local {quote : Char} {s t : List Char} (h : Fits (stringBody quote s).2 t) :
    stringBody quote ((stringBody quote s).1 ++ t) = ((stringBody quote s).1, t) := by
  fun_induction stringBody quote s with
  | case1 =>
      obtain rfl := h.nil
      rfl
  | case2 c s ih =>
      simp only [Cut.push_fst, List.cons_append, stringBody]
      rw [ih h]
      rfl
  | case3 s hs =>
      rw [List.singleton_append, stringBody, if_pos rfl]
      exact not_escape (s := s) h hs
  | case4 c s hs hq hc =>
      have hslash : c ≠ '/' := by
        rintro rfl
        simp at hc
      obtain ⟨t, rfl⟩ := h.cons hslash
      rw [List.nil_append, stringBody, if_neg hq, if_pos hc]
      rintro e u rfl hu
      simp at hc
  | case5 c s hs hq hc ih =>
      simp only [Cut.push_fst, Cut.push_snd, List.cons_append] at h ⊢
      have hu := h.append (stringBody quote s).1
      rw [stringBody_append] at hu
      rw [stringBody, if_neg hq, if_neg hc, ih h]
      · rfl
      · exact not_escape hu hs

theorem trivia_of_none {s : List Char} (h : comment? (cutWhile isSpace s).2 = none) :
    trivia s = cutWhile isSpace s := by
  rw [trivia]
  split
  · rfl
  · next hc =>
      rw [h] at hc
      cases hc

theorem trivia_of_comment {s text rest : List Char}
    (h : comment? (cutWhile isSpace s).2 = some (text, rest)) :
    trivia s = ((cutWhile isSpace s).1 ++ text ++ (trivia rest).1, (trivia rest).2) := by
  rw [trivia]
  split
  · next hc =>
      rw [h] at hc
      cases hc
  · next hc =>
      rw [h] at hc
      cases hc
      rfl

theorem comment?_trivia (s : List Char) : comment? (trivia s).2 = none := by
  fun_induction trivia s with
  | case1 s blanks hc => exact hc
  | case2 s blanks text rest hc more ih => exact ih

theorem trivia_local {s t : List Char} (h : t.head? = (trivia s).2.head?)
    (hc : comment? t = none) : trivia ((trivia s).1 ++ t) = ((trivia s).1, t) := by
  fun_induction trivia s with
  | case1 s blanks _ =>
      have hb : cutWhile isSpace (blanks.1 ++ t) = (blanks.1, t) := cutWhile_local h
      rw [trivia_of_none (by rwa [hb]), hb]
  | case2 s blanks text rest htext more ih =>
      have hm : (more.1 ++ t).head? = rest.head? := by
        rw [← trivia_append rest]
        exact head?_append_congr h
      have ht : (text ++ (more.1 ++ t)).head? = blanks.2.head? := by
        rw [← comment?_append htext]
        exact head?_append_congr hm
      have hb : cutWhile isSpace (blanks.1 ++ (text ++ (more.1 ++ t))) =
          (blanks.1, text ++ (more.1 ++ t)) := cutWhile_local ht
      have htext' : comment? (cutWhile isSpace (blanks.1 ++ (text ++ (more.1 ++ t)))).2 =
          some (text, more.1 ++ t) := by
        rw [hb]
        exact comment?_local htext (.inl hm)
      simp only [List.append_assoc]
      rw [trivia_of_comment htext', hb, ih h]
      simp only [more, List.append_assoc]

theorem keyword?_eq_some_iff {word s rest : List Char} {prev : Option Char} :
    keyword? word prev s = some rest ↔
      (prev.any fun c => isWord c || c = '.') = false ∧ s = word ++ rest ∧
        rest.head?.any isWord = false := by
  unfold keyword?
  split
  · next h => simp [h]
  · next h =>
      split
      · next hd =>
          simp only [reduceCtorEq, false_iff, not_and]
          rintro - rfl
          rw [Text.dropLead?_eq_some_iff.mpr rfl] at hd
          cases hd
      · next r hd =>
          have hw := Text.dropLead?_eq_some_iff.mp hd
          split
          · next hr =>
              simp only [reduceCtorEq, false_iff, not_and]
              rintro - he
              rw [← hw] at he
              rw [← List.append_cancel_left he, hr]
              simp
          · next hr =>
              simp only [Bool.not_eq_true] at h hr
              constructor
              · rintro he
                cases he
                exact ⟨h, hw.symm, hr⟩
              · rintro ⟨-, he, -⟩
                rw [← hw] at he
                rw [List.append_cancel_left he]

/-- What stands before a text tells only whether a keyword may begin it. -/
def isTied (prev : Option Char) : Bool := prev.any fun c => isWord c || c = '.'

theorem keyword?_congr {word : List Char} {prev prev' : Option Char} (h : isTied prev = isTied prev')
    (s : List Char) : keyword? word prev s = keyword? word prev' s := by
  rw [isTied, isTied] at h
  simp only [keyword?, h]

theorem keyword?_local {word s rest t : List Char} {prev : Option Char}
    (h : keyword? word prev s = some rest) (ht : Fits rest t) :
    keyword? word prev (word ++ t) = some t := by
  obtain ⟨hp, -, hr⟩ := keyword?_eq_some_iff.mp h
  exact keyword?_eq_some_iff.mpr ⟨hp, rfl, by rw [ht.any_isWord, hr]⟩

theorem keyword?_none_local {word s t : List Char} {prev : Option Char}
    (h : keyword? word prev s = none)
    (ht : t.take (word.length + 1) = s.take (word.length + 1)) : keyword? word prev t = none := by
  rw [Option.eq_none_iff_forall_ne_some] at h ⊢
  intro rest hk
  obtain ⟨hp, rfl, hr⟩ := keyword?_eq_some_iff.mp hk
  have hw : word <+: s := by
    have hp := List.prefix_take_iff.mpr ⟨List.prefix_append word rest, Nat.le_succ word.length⟩
    rw [ht] at hp
    exact (List.prefix_take_iff.mp hp).1
  obtain ⟨rest', rfl⟩ := hw
  have hr' : rest.take (0 + 1) = rest'.take (0 + 1) := by
    simpa [List.take_append] using ht
  exact h rest' (keyword?_eq_some_iff.mpr ⟨hp, rfl, by rw [← head?_of_take hr', hr]⟩)

end ImportResolver.Source

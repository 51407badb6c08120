import ImportResolver.Source.Piece
import Mathlib.Data.List.Infix
/- Texts that can stand between quotes as they are, and the literals that hold them. -/
namespace ImportResolver.Source

/-- The literal of such a text ends where the text ends and has the text as its value. -/
structure IsPlain (quote : Char) (text : List Char) : Prop where
  unquoted : quote ∉ text
  unescaped : '\\' ∉ text
  oneLine : '\n' ∉ text
  literal : quote = '\x60' → ¬ ['$', '\x7b'] <:+: text

theorem IsPlain.nil (quote : Char) : IsPlain quote [] :=
  ⟨List.not_mem_nil, List.not_mem_nil, List.not_mem_nil, fun _ h => by simp at h⟩

theorem substitution_infix_cons {c : Char} {text : List Char} :
    ['$', '\x7b'] <:+: c :: text ↔
      (c = '$' ∧ text.head? = some '\x7b') ∨ ['$', '\x7b'] <:+: text := by
  rw [List.infix_cons_iff, List.cons_prefix_cons]
  cases text with
  | nil => simp
  | cons d text => simp only [List.cons_prefix_cons, List.nil_prefix, and_true, List.head?_cons,
      Option.some.injEq, eq_comm]

theorem isPlain_cons_iff {quote c : Char} {text : List Char} :
    IsPlain quote (c :: text) ↔
      (c ≠ quote ∧ c ≠ '\\' ∧ c ≠ '\n' ∧
        ¬ (c = '$' ∧ quote = '\x60' ∧ text.head? = some '\x7b')) ∧ IsPlain quote text := by
  constructor
  · intro h
    refine ⟨⟨?_, ?_, ?_, ?_⟩, ⟨?_, ?_, ?_, ?_⟩⟩
    · exact fun e => h.unquoted (e ▸ List.mem_cons_self)
    · exact fun e => h.unescaped (e ▸ List.mem_cons_self)
    · exact fun e => h.oneLine (e ▸ List.mem_cons_self)
    · exact fun e => h.literal e.2.1 (substitution_infix_cons.mpr (.inl ⟨e.1, e.2.2⟩))
    · exact fun e => h.unquoted (List.mem_cons_of_mem c e)
    · exact fun e => h.unescaped (List.mem_cons_of_mem c e)
    · exact fun e => h.oneLine (List.mem_cons_of_mem c e)
    · exact fun q e => h.literal q (substitution_infix_cons.mpr (.inr e))
  · rintro ⟨⟨hq, hb, hl, hs⟩, h⟩
    refine ⟨?_, ?_, ?_, ?_⟩
    · exact fun e => (List.mem_cons.mp e).elim (fun e => hq e.symm) h.unquoted
    · exact fun e => (List.mem_cons.mp e).elim (fun e => hb e.symm) h.unescaped
    · exact fun e => (List.mem_cons.mp e).elim (fun e => hl e.symm) h.oneLine
    · intro q e
      exact (substitution_infix_cons.mp e).elim (fun e => hs ⟨e.1, q, e.2⟩) (h.literal q)

theorem substitution_infix_append {s t : List Char} :
    ['$', '\x7b'] <:+: s ++ t ↔
      ['$', '\x7b'] <:+: s ∨ ['$', '\x7b'] <:+: t ∨ (['$'] <:+ s ∧ ['\x7b'] <+: t) := by
  rw [List.infix_append_iff_ne_nil]
  refine or_congr_right (or_congr_right ?_)
  constructor
  · rintro ⟨l₁, l₂, h₁, h₂, h, hs, ht⟩
    obtain ⟨c, l₁, rfl⟩ := List.exists_cons_of_ne_nil h₁
    obtain ⟨rfl, hrest⟩ : '$' = c ∧ ['\x7b'] = l₁ ++ l₂ := List.cons.inj h
    cases l₁ with
    | nil =>
        obtain rfl : ['\x7b'] = l₂ := hrest
        exact ⟨hs, ht⟩
    | cons d l₁ =>
        obtain ⟨-, hnil⟩ : '\x7b' = d ∧ [] = l₁ ++ l₂ := List.cons.inj hrest
        exact absurd (List.append_eq_nil_iff.mp hnil.symm).2 h₂
  · rintro ⟨hs, ht⟩
    exact ⟨['$'], ['\x7b'], by simp, by simp, rfl, hs, ht⟩

/-- Two plain texts make a plain one, unless a substitution begins where they meet. -/
theorem isPlain_append_iff {quote : Char} {s t : List Char} :
    IsPlain quote (s ++ t) ↔
      IsPlain quote s ∧ IsPlain quote t ∧
        ¬ (quote = '\x60' ∧ ['$'] <:+ s ∧ ['\x7b'] <+: t) := by
  constructor
  · intro h
    refine ⟨⟨?_, ?_, ?_, ?_⟩, ⟨?_, ?_, ?_, ?_⟩, ?_⟩
    · exact fun e => h.unquoted (List.mem_append_left t e)
    · exact fun e => h.unescaped (List.mem_append_left t e)
    · exact fun e => h.oneLine (List.mem_append_left t e)
    · exact fun q e => h.literal q (substitution_infix_append.mpr (.inl e))
    · exact fun e => h.unquoted (List.mem_append_right s e)
    · exact fun e => h.unescaped (List.mem_append_right s e)
    · exact fun e => h.oneLine (List.mem_append_right s e)
    · exact fun q e => h.literal q (substitution_infix_append.mpr (.inr (.inl e)))
    · exact fun e => h.literal e.1 (substitution_infix_append.mpr (.inr (.inr e.2)))
  · rintro ⟨hs, ht, hmeet⟩
    refine ⟨?_, ?_, ?_, ?_⟩
    · exact fun e => (List.mem_append.mp e).elim hs.unquoted ht.unquoted
    · exact fun e => (List.mem_append.mp e).elim hs.unescaped ht.unescaped
    · exact fun e => (List.mem_append.mp e).elim hs.oneLine ht.oneLine
    · intro q e
      rcases substitution_infix_append.mp e with e | e | e
      · exact hs.literal q e
      · exact ht.literal q e
      · exact hmeet ⟨q, e⟩

theorem plainContent?_of_isPlain {quote : Char} {text : List Char} (h : IsPlain quote text)
    (rest : List Char) : plainContent? quote (text ++ quote :: rest) = some (text, rest) := by
  induction text with
  | nil => simp [plainContent?]
  | cons c text ih =>
      obtain ⟨⟨hq, hb, hl, hs⟩, h⟩ := isPlain_cons_iff.mp h
      have hs' : ¬ (c = '$' ∧ quote = '\x60' ∧
          (text ++ quote :: rest).head? = some '\x7b') := by
        rintro ⟨hc, rfl, hh⟩
        cases text with
        | nil => simp at hh
        | cons d text => exact hs ⟨hc, rfl, hh⟩
      rw [List.cons_append, plainContent?, if_neg hq, if_neg (by simp [hb, hl]),
        if_neg (by simpa [and_assoc] using hs'), ih h]
      rfl

theorem isPlain_of_plainContent? {quote : Char} {s : List Char} {cut : Cut}
    (h : plainContent? quote s = some cut) : IsPlain quote cut.1 := by
  fun_induction plainContent? quote s generalizing cut with
  | case1 => cases h
  | case2 s =>
      cases h
      exact .nil quote
  | case3 => cases h
  | case4 => cases h
  | case5 c s hq hbl hs ih =>
      obtain ⟨cut, hcut, rfl⟩ := Option.map_eq_some_iff.mp h
      have hw := plainContent?_append hcut
      simp only [Bool.or_eq_true, decide_eq_true_eq, not_or] at hbl
      refine isPlain_cons_iff.mpr ⟨⟨hq, hbl.1, hbl.2, ?_⟩, ih hcut⟩
      rintro ⟨hc, hqt, hh⟩
      apply hs
      obtain ⟨text, rest⟩ := cut
      cases text with
      | nil => cases hh
      | cons d text => simp_all [← hw]

/-- What is read between quotes is a plain text up to the closing quote, and every plain text is
read so. -/
theorem plainContent?_eq_some_iff {quote : Char} {s text rest : List Char} :
    plainContent? quote s = some (text, rest) ↔ s = text ++ quote :: rest ∧ IsPlain quote text := by
  constructor
  · intro h
    exact ⟨(plainContent?_append h).symm, isPlain_of_plainContent? h⟩
  · rintro ⟨rfl, h⟩
    exact plainContent?_of_isPlain h rest

instance (quote : Char) (text : List Char) : Decidable (IsPlain quote text) :=
  decidable_of_iff (plainContent? quote (text ++ [quote]) = some (text, []))
    (plainContent?_eq_some_iff.trans (and_iff_right rfl))

end ImportResolver.Source

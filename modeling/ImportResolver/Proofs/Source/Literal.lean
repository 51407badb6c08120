import ImportResolver.Proofs.Source.Locality
import ImportResolver.Proofs.Source.Plain
/- The literals that keywords lead to. Each is read the same way with any other plain text in its
place, and a text that holds no literal for a reader gets none by a change behind it. -/
namespace ImportResolver.Source

theorem isQuote_iff {c : Char} : isQuote c = true ↔ c = '"' ∨ c = '\'' ∨ c = '\x60' := by
  simp [isQuote, or_assoc]

theorem isSpace_of_isQuote {c : Char} (h : isQuote c = true) : isSpace c = false := by
  rcases isQuote_iff.mp h with rfl | rfl | rfl <;> decide

theorem isWord_of_isQuote {c : Char} (h : isQuote c = true) : isWord c = false := by
  rcases isQuote_iff.mp h with rfl | rfl | rfl <;> decide

/-- The same literal with another text in it and another rest behind it. -/
def Literal.respelled (l : Literal) (raw rest : List Char) : Literal :=
  { l with raw := raw, rest := rest }

@[simp] theorem Literal.respelled_after (text raw rest : List Char) (l : Literal) :
    (l.after text).respelled raw rest = (l.respelled raw rest).after text := rfl

@[simp] theorem Literal.after_quote (text : List Char) (l : Literal) :
    (l.after text).quote = l.quote := rfl

@[simp] theorem Literal.after_raw (text : List Char) (l : Literal) :
    (l.after text).raw = l.raw := rfl

@[simp] theorem Literal.after_rest (text : List Char) (l : Literal) :
    (l.after text).rest = l.rest := rfl

@[simp] theorem Literal.after_lead (text : List Char) (l : Literal) :
    (l.after text).lead = text ++ l.lead := rfl

@[simp] theorem Literal.respelled_whole (raw rest : List Char) (l : Literal) :
    (l.respelled raw rest).whole = l.lead ++ (raw ++ l.quote :: rest) := by
  simp [Literal.whole, Literal.respelled]

/-- What the readers of literals promise of each. -/
structure Literal.Proper (l : Literal) : Prop where
  quote : isQuote l.quote = true
  plain : IsPlain l.quote l.raw
  lead : [l.quote] <:+ l.lead

theorem Literal.Proper.after {l : Literal} (h : l.Proper) (text : List Char) :
    (l.after text).Proper :=
  ⟨h.quote, h.plain, h.lead.trans (List.suffix_append text l.lead)⟩

theorem literal?_eq_some_iff {s : List Char} {l : Literal} :
    literal? s = some l ↔
      l.whole = s ∧ l.lead = [l.quote] ∧ isQuote l.quote = true ∧ IsPlain l.quote l.raw := by
  constructor
  · intro h
    refine ⟨literal?_whole h, ?_⟩
    cases s with
    | nil => cases h
    | cons c s =>
        simp only [literal?] at h
        split at h
        · next hq =>
            obtain ⟨cut, hc, rfl⟩ := Option.map_eq_some_iff.mp h
            exact ⟨rfl, hq, isPlain_of_plainContent? hc⟩
        · cases h
  · rintro ⟨rfl, hl, hq, hp⟩
    obtain ⟨lead, raw, quote, rest⟩ := l
    obtain rfl : lead = [quote] := hl
    have hc : plainContent? quote (raw ++ quote :: rest) = some (raw, rest) :=
      plainContent?_of_isPlain hp rest
    have hq' : isQuote quote = true := hq
    simp [Literal.whole, literal?, hq', hc]

theorem literal?_proper {s : List Char} {l : Literal} (h : literal? s = some l) : l.Proper := by
  obtain ⟨-, hl, hq, hp⟩ := literal?_eq_some_iff.mp h
  exact ⟨hq, hp, by rw [hl]⟩

theorem literal?_respelled {s raw : List Char} {l : Literal} (h : literal? s = some l)
    (hr : IsPlain l.quote raw) (rest : List Char) :
    literal? (l.respelled raw rest).whole = some (l.respelled raw rest) := by
  obtain ⟨-, hl, hq, -⟩ := literal?_eq_some_iff.mp h
  exact literal?_eq_some_iff.mpr ⟨rfl, hl, hq, hr⟩

theorem literal?_eq_none_of_head? {s : List Char} (h : s.head?.any isQuote = false) :
    literal? s = none := by
  cases s with
  | nil => rfl
  | cons c s =>
      have hc : ¬ isQuote c = true := by simpa using h
      rw [literal?, if_neg hc]

theorem stringBody_of_isPlain {quote : Char} {text : List Char} (hq : isQuote quote = true)
    (h : IsPlain quote text) (rest : List Char) :
    stringBody quote (text ++ quote :: rest) = (text ++ [quote], rest) := by
  induction text with
  | nil =>
      rw [List.nil_append, stringBody, if_pos rfl]
      · rfl
      · rintro d s rfl -
        cases hq
  | cons c text ih =>
      obtain ⟨⟨hc, hb, hl, -⟩, h⟩ := isPlain_cons_iff.mp h
      rw [List.cons_append, stringBody, if_neg hc, if_neg (by simp [hl]), ih h]
      · rfl
      · exact fun _ _ e _ => hb e

/-- A string that is no literal is none with another rest behind it. -/
theorem literal?_none_local {quote : Char} {s t : List Char} (hq : isQuote quote = true)
    (h : literal? (quote :: s) = none) (ht : Fits (stringBody quote s).2 t) :
    literal? (quote :: ((stringBody quote s).1 ++ t)) = none := by
  rw [Option.eq_none_iff_forall_ne_some] at h ⊢
  intro l hl
  obtain ⟨hw, hlead, -, hp⟩ := literal?_eq_some_iff.mp hl
  obtain ⟨lead, raw, quote', rest⟩ := l
  obtain rfl : lead = [quote'] := hlead
  obtain ⟨rfl, hw⟩ := List.cons.inj hw
  change raw ++ quote' :: rest = _ at hw
  have hbody := stringBody_local ht
  rw [← hw, stringBody_of_isPlain hq hp] at hbody
  have hs := stringBody_append quote' s
  rw [← congrArg Prod.fst hbody] at hs
  refine h ⟨[quote'], raw, quote', (stringBody quote' s).2⟩ (literal?_eq_some_iff.mpr ?_)
  refine ⟨?_, rfl, hq, hp⟩
  simpa [Literal.whole] using hs

theorem clause?_of_comment {prev : Option Char} {s text rest : List Char}
    (h : comment? s = some (text, rest)) :
    clause? prev s = (clause? text.getLast? rest).map (Literal.after text) := by
  cases s with
  | nil => cases h
  | cons c s =>
      rw [clause?]
      split
      · next hc =>
          rw [h] at hc
          cases hc
          rfl
      · next hc =>
          rw [h] at hc
          cases hc

theorem clause?_of_from {prev : Option Char} {s rest : List Char}
    (h : keyword? fromWord prev s = some rest) :
    clause? prev s =
      (literal? (trivia rest).2).map (Literal.after (fromWord ++ (trivia rest).1)) := by
  obtain rfl := keyword?_append h
  change clause? prev ('f' :: (['r', 'o', 'm'] ++ rest)) = _
  rw [clause?]
  split
  · next hc =>
      rw [comment?_eq_none_of_ne (by decide)] at hc
      cases hc
  · have hk : keyword? fromWord prev ('f' :: (['r', 'o', 'm'] ++ rest)) = some rest := h
    rw [hk]

theorem clause?_of_char {prev : Option Char} {c : Char} {s : List Char}
    (hc : comment? (c :: s) = none) (h : keyword? fromWord prev (c :: s) = none) :
    clause? prev (c :: s) =
      if isClauseChar c then (clause? (some c) s).map (Literal.after [c]) else none := by
  rw [clause?]
  split
  · next hc' =>
      rw [hc] at hc'
      cases hc'
  · rw [h]

end ImportResolver.Source

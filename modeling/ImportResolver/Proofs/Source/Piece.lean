import ImportResolver.Proofs.Source.Lookahead
/- The pieces of a source text, case by case, and what every site among them is like. -/
namespace ImportResolver.Source

theorem pieces_cons {before s rest : List Char} {c : Char} {p : Piece}
    (h : piece before c s = (p, rest)) :
    pieces before (c :: s) = p :: pieces (p.text.reverse ++ before) rest := by
  rw [pieces]
  split
  next h' =>
    rw [h] at h'
    cases h'
    rfl

theorem piece_of_comment {before s text rest : List Char} {c : Char}
    (h : comment? (c :: s) = some (text, rest)) : piece before c s = (.other text, rest) := by
  unfold piece
  rw [h]

theorem piece_of_regex {before s : List Char} {c : Char} (hc : comment? (c :: s) = none)
    (h : c = '/') (hr : regexAllowed before = true) :
    piece before c s = (.other (c :: (regexBody false s).1), (regexBody false s).2) := by
  unfold piece
  rw [hc]
  dsimp only
  rw [if_pos (by simp [h, hr])]

theorem isQuote_ne_slash {c : Char} (h : isQuote c = true) : c ≠ '/' := by
  rintro rfl
  cases h

theorem piece_of_quote {before s : List Char} {c : Char} (h : isQuote c = true) :
    piece before c s = (.other (c :: (stringBody c s).1), (stringBody c s).2) := by
  unfold piece
  rw [comment?_eq_none_of_ne (isQuote_ne_slash h)]
  dsimp only
  rw [if_neg (by simp [isQuote_ne_slash h]), if_pos h]

theorem piece_of_site? {before s : List Char} {c : Char} (hc : comment? (c :: s) = none)
    (hr : ¬ (c = '/' ∧ regexAllowed before = true)) (hq : isQuote c = false) :
    piece before c s =
      match site? before.head? (c :: s) with
      | some (kind, l) => (.site kind l.lead l.raw l.quote, l.rest)
      | none => (.other [c], s) := by
  unfold piece
  rw [hc]
  exact (if_neg (by simpa using hr)).trans (if_neg (by simp [hq]))

/-- The five ways in which a piece begins. -/
theorem piece_cases (before s : List Char) (c : Char) :
    (∃ text rest, comment? (c :: s) = some (text, rest) ∧
      piece before c s = (.other text, rest)) ∨
    (comment? (c :: s) = none ∧ c = '/' ∧ regexAllowed before = true ∧
      piece before c s = (.other (c :: (regexBody false s).1), (regexBody false s).2)) ∨
    (isQuote c = true ∧
      piece before c s = (.other (c :: (stringBody c s).1), (stringBody c s).2)) ∨
    (comment? (c :: s) = none ∧ ¬ (c = '/' ∧ regexAllowed before = true) ∧ isQuote c = false ∧
      ∃ kind l, site? before.head? (c :: s) = some (kind, l) ∧
        piece before c s = (.site kind l.lead l.raw l.quote, l.rest)) ∨
    (comment? (c :: s) = none ∧ ¬ (c = '/' ∧ regexAllowed before = true) ∧ isQuote c = false ∧
      site? before.head? (c :: s) = none ∧ piece before c s = (.other [c], s)) := by
  cases hc : comment? (c :: s) with
  | some cut => exact .inl ⟨cut.1, cut.2, rfl, piece_of_comment hc⟩
  | none =>
      by_cases hr : c = '/' ∧ regexAllowed before = true
      · exact .inr (.inl ⟨rfl, hr.1, hr.2, piece_of_regex hc hr.1 hr.2⟩)
      · cases hq : isQuote c with
        | true => exact .inr (.inr (.inl ⟨rfl, piece_of_quote hq⟩))
        | false =>
            have hp := piece_of_site? hc hr hq
            cases hs : site? before.head? (c :: s) with
            | some found =>
                rw [hs] at hp
                exact .inr (.inr (.inr (.inl ⟨rfl, hr, rfl, found.1, found.2, rfl, hp⟩)))
            | none =>
                rw [hs] at hp
                exact .inr (.inr (.inr (.inr ⟨rfl, hr, rfl, rfl, hp⟩)))

section Property

/- What holds of every site that a keyword leads to, and of all that is no site. -/
variable {P : Piece → Prop} (hother : ∀ text, P (.other text))
  (hsite : ∀ prev s kind l, site? prev s = some (kind, l) → P (.site kind l.lead l.raw l.quote))

include hother hsite

theorem piece_satisfies (before s : List Char) (c : Char) : P (piece before c s).1 := by
  rcases piece_cases before s c with ⟨text, _, -, h⟩ | ⟨-, -, -, h⟩ | ⟨-, h⟩ |
    ⟨-, -, -, kind, l, hs, h⟩ | ⟨-, -, -, -, h⟩
  · rw [h]
    exact hother text
  · rw [h]
    exact hother _
  · rw [h]
    exact hother _
  · rw [h]
    exact hsite before.head? (c :: s) kind l hs
  · rw [h]
    exact hother [c]

theorem pieces_satisfy (before s : List Char) : ∀ p ∈ pieces before s, P p := by
  fun_induction pieces before s with
  | case1 => exact fun p hp => absurd hp List.not_mem_nil
  | case2 before c s p rest h ih =>
      have hp := piece_satisfies hother hsite before s c
      rw [h] at hp
      exact List.forall_mem_cons.mpr ⟨hp, ih⟩

end Property

/-- A site begins with a keyword and an opening quote, and a plain text stands between its
quotes. -/
def Piece.Proper : Piece → Prop
  | .other _ => True
  | .site _ lead raw quote => (Literal.mk lead raw quote []).Proper ∧ 7 ≤ lead.length

theorem proper_of_site? {prev : Option Char} {s : List Char} {kind : SiteKind} {l : Literal}
    (h : site? prev s = some (kind, l)) : (Piece.site kind l.lead l.raw l.quote).Proper := by
  obtain ⟨hp, hl⟩ := site?_proper h
  exact ⟨⟨hp.quote, hp.plain, hp.lead⟩, hl⟩

theorem piece_proper (before s : List Char) (c : Char) : (piece before c s).1.Proper :=
  piece_satisfies (fun _ => trivial) (fun _ _ _ _ h => proper_of_site? h) before s c

theorem pieces_proper (before s : List Char) : ∀ p ∈ pieces before s, p.Proper :=
  pieces_satisfy (fun _ => trivial) (fun _ _ _ _ h => proper_of_site? h) before s

end ImportResolver.Source

import ImportResolver.Proofs.Source.Respelling
import Mathlib.Data.List.Forall2
/- Scanning a text with other plain texts in its sites: the pieces are the same, but for these. -/
namespace ImportResolver.Source

/-- The scanner does not tell apart what stands in front, whatever comes between. -/
structure SameBefore (before before' : List Char) : Prop where
  tied : isTied before.head? = isTied before'.head?
  regex : ∀ text, regexAllowed (text ++ before) = regexAllowed (text ++ before')

theorem SameBefore.refl (before : List Char) : SameBefore before before := ⟨rfl, fun _ => rfl⟩

theorem SameBefore.append {before before' : List Char} (h : SameBefore before before')
    (text : List Char) : SameBefore (text ++ before) (text ++ before') := by
  constructor
  · cases text with
    | nil => exact h.tied
    | cons c text => rfl
  · intro more
    rw [← List.append_assoc, ← List.append_assoc]
    exact h.regex (more ++ text)

theorem SameBefore.regexAllowed {before before' : List Char} (h : SameBefore before before') :
    Source.regexAllowed before = Source.regexAllowed before' := h.regex []

theorem SameBefore.site? {before before' : List Char} (h : SameBefore before before')
    (s : List Char) : Source.site? before.head? s = Source.site? before'.head? s := by
  rw [Source.site?, Source.site?, keyword?_congr h.tied, keyword?_congr h.tied]

theorem dropWhile_append_stop {p : Char → Bool} {c : Char} (hc : p c = false) (s t : List Char) :
    (s ++ c :: t).dropWhile p = s.dropWhile p ++ c :: t := by
  induction s with
  | nil => simp [hc]
  | cons d s ih =>
      cases hd : p d with
      | true => simp [hd, ih]
      | false => simp [hd]

theorem takeWhile_append_stop {p : Char → Bool} {c : Char} (hc : p c = false) (s t : List Char) :
    (s ++ c :: t).takeWhile p = s.takeWhile p := by
  induction s with
  | nil => simp [hc]
  | cons d s ih =>
      cases hd : p d with
      | true => simp [hd, ih]
      | false => simp [hd]

/-- A character that is neither a blank nor part of a word is as far as the look back goes. -/
theorem regexAllowed_stop {c : Char} (hspace : isSpace c = false) (hword : isWord c = false)
    (near far : List Char) : regexAllowed (near ++ c :: far) = regexAllowed (near ++ [c]) := by
  simp only [regexAllowed, dropWhile_append_stop hspace]
  cases near.dropWhile isSpace with
  | nil => simp [hword]
  | cons d near =>
      simp only [takeWhile_append_stop hword]
      rfl

theorem SameBefore.stop {c : Char} (hspace : isSpace c = false) (hword : isWord c = false)
    (far far' : List Char) : SameBefore (c :: far) (c :: far') := by
  refine ⟨rfl, fun near => ?_⟩
  rw [regexAllowed_stop hspace hword near far, regexAllowed_stop hspace hword near far']

/-- A closing quote is such a character. -/
theorem SameBefore.quote {quote : Char} (hq : isQuote quote = true) (far far' : List Char) :
    SameBefore (quote :: far) (quote :: far') :=
  .stop (isSpace_of_isQuote hq) (isWord_of_isQuote hq) far far'

/-- One step of the scanner, with other specifiers in the text that the step leaves. -/
theorem piece_respelled {before before' s rest t : List Char} {c : Char} {p q : Piece}
    (hp : piece before c s = (p, rest)) (hlike : p.Like q) (hrest : Altered rest t)
    (hb : SameBefore before before') :
    ∃ d u, q.text ++ t = d :: u ∧ piece before' d u = (q, t) := by
  have hfits := hrest.fits
  rcases piece_cases before s c with ⟨text, rest', hc, h⟩ | ⟨hc, hslash, hreg, h⟩ | ⟨hq, h⟩ |
    ⟨hc, hreg, hq, kind, l, hs, h⟩ | ⟨hc, hreg, hq, hs, h⟩
  · rw [hp] at h
    cases h
    cases hlike
    have htext := comment?_local hc hfits
    obtain ⟨d, text, rfl⟩ := List.exists_cons_of_ne_nil (comment?_fst_ne_nil hc)
    exact ⟨d, text ++ t, rfl, piece_of_comment htext⟩
  · rw [hp] at h
    cases h
    cases hlike
    have hbody := regexBody_local hfits
    have hs := hfits.append (regexBody false s).1
    rw [regexBody_append] at hs
    refine ⟨c, (regexBody false s).1 ++ t, rfl, ?_⟩
    rw [piece_of_regex (comment?_none_of_fits hc hs) hslash (hb.regexAllowed ▸ hreg), hbody]
  · rw [hp] at h
    cases h
    cases hlike
    have hbody := stringBody_local hfits
    refine ⟨c, (stringBody c s).1 ++ t, rfl, ?_⟩
    rw [piece_of_quote hq, hbody]
  · rw [hp] at h
    cases h
    cases hlike with
    | @site _ _ _ raw _ hraw =>
        have hw : (Piece.site kind l.lead raw l.quote).text ++ t = (l.respelled raw t).whole := by
          simp [Piece.text]
        have htake : (l.respelled raw t).whole.take 2 = (c :: s).take 2 := by
          rw [l.respelled_take (Nat.le_trans (by decide) (site?_proper hs).2), site?_whole hs]
        obtain ⟨u, hu⟩ : ∃ u, (l.respelled raw t).whole = c :: u :=
          List.head?_eq_some_iff.mp (head?_of_take htake)
        have hsite := site?_respelled hs hraw hrest.head?_trivia
        rw [hu] at hw htake hsite
        refine ⟨c, u, hw, ?_⟩
        rw [piece_of_site? (comment?_none_local hc htake) (hb.regexAllowed ▸ hreg) hq, ← hb.site?,
          hsite]
        rfl
  · rw [hp] at h
    cases h
    cases hlike
    refine ⟨c, t, rfl, ?_⟩
    rw [piece_of_site? (comment?_none_of_fits hc hfits) (hb.regexAllowed ▸ hreg) hq, ← hb.site?,
      hrest.site_none hs]

theorem SameBefore.step {before before' : List Char} {p q : Piece} (h : SameBefore before before')
    (hp : p.Proper) (hlike : p.Like q) :
    SameBefore (p.text.reverse ++ before) (q.text.reverse ++ before') := by
  cases hlike with
  | other text => exact h.append text.reverse
  | site kind lead raw hraw =>
      simp only [Piece.text, List.reverse_append, List.reverse_singleton, List.append_assoc,
        List.singleton_append]
      exact .quote hp.1.quote _ _

/-- The scanner cuts a text with other specifiers at the same places, given that it is cut there
with these. -/
theorem pieces_respelled {before before' s : List Char} {ps : List Piece}
    (h : List.Forall₂ Piece.Like (pieces before s) ps) (hb : SameBefore before before') :
    pieces before' (ps.flatMap Piece.text) = ps := by
  induction before, s using pieces.induct generalizing before' ps with
  | case1 before =>
      rw [pieces] at h
      cases h
      rw [List.flatMap_nil, pieces]
  | case2 before c s p rest hp ih =>
      rw [pieces_cons hp] at h
      cases h with
      | @cons _ q _ qs hlike htail =>
          obtain ⟨d, u, hu, hq⟩ := piece_respelled hp hlike (altered_of_like htail) hb
          have hproper := piece_proper before s c
          rw [hp] at hproper
          rw [List.flatMap_cons, hu, pieces_cons hq, ih htail (hb.step hproper hlike)]

/-- What cannot be told apart in front makes no difference. -/
theorem pieces_congr {before before' : List Char} (h : SameBefore before before')
    (s : List Char) : pieces before s = pieces before' s := by
  have hlike : List.Forall₂ Piece.Like (pieces before s) (pieces before s) :=
    List.forall₂_same.mpr fun p hp => .refl (pieces_proper before s p hp)
  have hps := pieces_respelled hlike h
  rwa [flatMap_text_pieces, eq_comm] at hps

end ImportResolver.Source

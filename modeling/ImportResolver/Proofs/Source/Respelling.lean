import ImportResolver.Proofs.Source.Blanks
import ImportResolver.Proofs.Source.Piece
import ImportResolver.Proofs.Source.Spelling
import Mathlib.Data.Bool.AllAny
/- Texts that differ only in the specifiers of their sites, and in blanks for some of their comments.
No reader looks into either, on its way to a site or from behind, so where there is no site in the
one there is none in the other. -/
namespace ImportResolver.Source

/-- The same piece, but for a plain text in place of the specifier. -/
inductive Piece.Like : Piece → Piece → Prop
  | other (text : List Char) : Like (.other text) (.other text)
  | site (kind : SiteKind) (lead raw : List Char) {raw' : List Char} {quote : Char} :
      IsPlain quote raw' → Like (.site kind lead raw quote) (.site kind lead raw' quote)

theorem Piece.Like.refl {p : Piece} (h : p.Proper) : p.Like p := by
  cases p with
  | other text => exact .other text
  | site kind lead raw quote => exact .site kind lead raw h.1.plain

/-- The second text is the first, which the scanner comes upon at the start of a piece, with plain
texts in place of its specifiers and blanks in place of some comments. -/
inductive Altered : List Char → List Char → Prop
  | refl (s : List Char) : Altered s s
  | blanked {s text rest t : List Char} : comment? s = some (text, rest) → Altered rest t →
      Altered s (blanks text ++ t)
  | piece {before s rest t : List Char} {c : Char} {p q : Piece} :
      Source.piece before c s = (p, rest) → p.Like q → Altered rest t →
      Altered (c :: s) (q.text ++ t)

theorem altered_of_like {before s : List Char} {ps : List Piece}
    (h : List.Forall₂ Piece.Like (pieces before s) ps) :
    Altered s (ps.flatMap Piece.text) := by
  induction before, s using pieces.induct generalizing ps with
  | case1 before =>
      rw [pieces] at h
      cases h
      exact .refl []
  | case2 before c s p rest hp ih =>
      rw [pieces_cons hp] at h
      cases h with
      | cons hlike htail => exact .piece hp hlike (ih htail)

theorem fits_of_like {before s rest t : List Char} {c : Char} {p q : Piece}
    (hp : piece before c s = (p, rest)) (hlike : p.Like q) (ht : Fits rest t) :
    ∃ u, q.text ++ t = c :: u ∧ Fits s u := by
  have htext := piece_append before c s
  have hne := piece_text_ne_nil before c s
  have hproper := piece_proper before s c
  rw [hp] at htext hne hproper
  cases hlike with
  | other text =>
      obtain ⟨d, text, rfl⟩ := List.exists_cons_of_ne_nil hne
      obtain ⟨rfl, rfl⟩ := List.cons.inj htext
      exact ⟨text ++ t, rfl, ht.append text⟩
  | site kind lead raw hraw =>
      obtain ⟨d, e, lead, rfl⟩ : ∃ d e lead', lead = d :: e :: lead' := by
        match lead, hproper.2 with
        | d :: e :: lead, _ => exact ⟨d, e, lead, rfl⟩
      obtain ⟨rfl, rfl⟩ := List.cons.inj htext
      exact ⟨_, rfl, .inl rfl⟩

theorem Altered.fits {s t : List Char} (h : Altered s t) : Fits s t := by
  induction h with
  | refl s => exact .inl rfl
  | blanked hc _ _ => exact fits_blanks hc _
  | piece hp hlike _ ih =>
      obtain ⟨u, hu, -⟩ := fits_of_like hp hlike ih
      rw [hu]
      exact .inl rfl

theorem Altered.nil {t : List Char} (h : Altered [] t) : t = [] := h.fits.nil

theorem Altered.comment {s rest text t : List Char} (hc : comment? s = some (text, rest))
    (h : Altered s t) : ∃ u, Altered rest u ∧ (t = text ++ u ∨ t = Source.blanks text ++ u) := by
  cases h with
  | refl => exact ⟨rest, .refl rest, .inl (comment?_append hc).symm⟩
  | blanked hc' h =>
      rw [hc] at hc'
      cases hc'
      exact ⟨_, h, .inr rfl⟩
  | piece hp hlike h =>
      rw [piece_of_comment hc] at hp
      cases hp
      cases hlike
      exact ⟨_, h, .inl rfl⟩

theorem Altered.uncommented {s t : List Char} {c : Char} (hc : comment? (c :: s) = none)
    (h : Altered (c :: s) t) : ∃ u, t = c :: u ∧ Fits s u := by
  cases h with
  | refl => exact ⟨s, rfl, .inl rfl⟩
  | blanked hc' =>
      rw [hc] at hc'
      cases hc'
  | piece hp hlike h => exact fits_of_like hp hlike h.fits

theorem Altered.comment_none {s t : List Char} (h : Altered s t) (hc : comment? s = none) :
    comment? t = none ∧ t.head? = s.head? := by
  cases s with
  | nil =>
      rw [h.nil]
      exact ⟨hc, rfl⟩
  | cons c s =>
      obtain ⟨u, rfl, hu⟩ := h.uncommented hc
      exact ⟨comment?_none_of_fits hc hu, rfl⟩

theorem Altered.string {s t : List Char} {quote : Char} (hq : isQuote quote = true)
    (h : Altered (quote :: s) t) :
    ∃ u, t = quote :: ((stringBody quote s).1 ++ u) ∧ Altered (stringBody quote s).2 u := by
  cases h with
  | refl => exact ⟨_, by rw [stringBody_append], .refl _⟩
  | blanked hc =>
      rw [comment?_eq_none_of_ne (isQuote_ne_slash hq)] at hc
      cases hc
  | piece hp hlike h =>
      rw [piece_of_quote hq] at hp
      cases hp
      cases hlike
      exact ⟨_, rfl, h⟩

/-- A character that begins neither a comment nor a string stands alone or begins a site. -/
theorem Altered.char {s t : List Char} {c : Char} (hc : c ≠ '/') (hq : isQuote c = false)
    (h : Altered (c :: s) t) :
    (∃ u, t = c :: u ∧ Altered s u) ∨
    ∃ prev kind l raw u, site? prev (c :: s) = some (kind, l) ∧
      t = (l.respelled raw u).whole := by
  have hnone : comment? (c :: s) = none := comment?_eq_none_of_ne hc
  cases h with
  | refl => exact .inl ⟨s, rfl, .refl s⟩
  | blanked hc' =>
      rw [hnone] at hc'
      cases hc'
  | @piece before _ rest t _ p q hp hlike h =>
      rw [piece_of_site? hnone (fun e => hc e.1) hq] at hp
      cases hs : site? before.head? (c :: s) with
      | none =>
          rw [hs] at hp
          cases hp
          cases hlike
          exact .inl ⟨t, rfl, h⟩
      | some found =>
          rw [hs] at hp
          cases hp
          cases hlike with
          | @site _ _ _ raw _ hraw =>
              refine .inr ⟨before.head?, found.1, found.2, raw, t, hs, ?_⟩
              rw [Literal.respelled_whole]
              simp [Piece.text]

/-- Characters that stand alone wherever a piece begins with them. -/
def isInert (c : Char) : Bool := !isQuote c && c ≠ '/' && c ≠ 'i' && c ≠ 'e'

theorem isInert_iff {c : Char} :
    isInert c = true ↔ ((isQuote c = false ∧ c ≠ '/') ∧ c ≠ 'i') ∧ c ≠ 'e' := by
  simp [isInert]

theorem Altered.inert {w s t : List Char} (hw : ∀ c ∈ w, isInert c = true)
    (h : Altered (w ++ s) t) : ∃ u, t = w ++ u ∧ Altered s u := by
  induction w generalizing t with
  | nil => exact ⟨t, rfl, h⟩
  | cons c w ih =>
      obtain ⟨⟨⟨hq, hslash⟩, hi⟩, he⟩ := isInert_iff.mp (hw c List.mem_cons_self)
      rcases Altered.char hslash hq h with ⟨u, rfl, hu⟩ | ⟨prev, kind, l, _, _, hs, -⟩
      · obtain ⟨v, rfl, hv⟩ := ih (fun d hd => hw d (List.mem_cons_of_mem c hd)) hu
        exact ⟨v, rfl, hv⟩
      · rw [site?_eq_none_of_ne hi he] at hs
        cases hs

/-- Nor do such characters come from elsewhere, spaces apart. -/
theorem Altered.inert_back {w s u : List Char} (hw : ∀ c ∈ w, isInert c = true ∧ c ≠ ' ')
    (h : Altered s (w ++ u)) : ∃ rest, s = w ++ rest ∧ Altered rest u := by
  induction w generalizing s with
  | nil => exact ⟨s, rfl, h⟩
  | cons c w ih =>
      obtain ⟨hin, hspace⟩ := hw c List.mem_cons_self
      obtain ⟨⟨⟨hq, hslash⟩, hi⟩, he⟩ := isInert_iff.mp hin
      have hs : s.head? = some c := by
        rcases h.fits with hh | ⟨-, hh⟩
        · exact hh.symm
        · exact absurd (Option.some.inj hh) hspace
      obtain ⟨s, rfl⟩ := List.head?_eq_some_iff.mp hs
      rcases Altered.char hslash hq h with ⟨v, hv, hr⟩ | ⟨prev, kind, l, _, _, hsite, -⟩
      · obtain rfl := (List.cons.inj hv).2
        obtain ⟨rest, rfl, hrest⟩ := ih (fun d hd => hw d (List.mem_cons_of_mem c hd)) hr
        exact ⟨rest, rfl, hrest⟩
      · rw [site?_eq_none_of_ne hi he] at hsite
        cases hsite

/-- A keyword that is not there does not come about. -/
theorem Altered.keyword_none {prev : Option Char} {s t w : List Char} {c d : Char}
    (hw : ∀ c ∈ w, isInert c = true ∧ c ≠ ' ') (h : Altered s t)
    (hk : keyword? (d :: w) prev (c :: s) = none) : keyword? (d :: w) prev (c :: t) = none := by
  rw [Option.eq_none_iff_forall_ne_some] at hk ⊢
  intro rest hrest
  obtain ⟨hprev, he, hhead⟩ := keyword?_eq_some_iff.mp hrest
  obtain ⟨rfl, rfl⟩ := List.cons.inj he
  obtain ⟨rest', rfl, hr⟩ := h.inert_back hw
  exact hk rest' (keyword?_eq_some_iff.mpr ⟨hprev, rfl, by rw [← hr.fits.any_isWord, hhead]⟩)

theorem isInert_of_isSpace {c : Char} (h : isSpace c = true) : isInert c = true := by
  simp only [isSpace, Bool.or_eq_true, decide_eq_true_eq] at h
  rcases h with (((rfl | rfl) | rfl) | rfl) | rfl <;> rfl

theorem trivia_snd_append {w : List Char} (hw : ∀ c ∈ w, isSpace c = true) (s : List Char) :
    (trivia (w ++ s)).2 = (trivia s).2 := by
  induction w with
  | nil => rfl
  | cons c w ih =>
      rw [List.cons_append, trivia_blank (hw c List.mem_cons_self)]
      exact ih fun d hd => hw d (List.mem_cons_of_mem c hd)

theorem Altered.trivia {s t : List Char} (h : Altered s t) :
    Altered (Source.trivia s).2 (Source.trivia t).2 := by
  induction s using Source.trivia.induct generalizing t with
  | case1 s _ =>
      rename_i hc
      have hw : ∀ c ∈ (cutWhile isSpace s).1, isSpace c = true :=
        fun c hc => List.mem_takeWhile_imp hc
      have hhead := head_cutWhile isSpace s
      rw [← cutWhile_append isSpace s] at h
      obtain ⟨u, rfl, hu⟩ := h.inert fun c hc => isInert_of_isSpace (hw c hc)
      obtain ⟨hnone, hh⟩ := hu.comment_none hc
      have hcut : cutWhile isSpace u = ([], u) :=
        cutWhile_eq (s := []) (fun c hc => absurd hc List.not_mem_nil)
          (fun c hc => hhead c (hh ▸ hc))
      rw [trivia_of_none hc, trivia_snd_append hw, trivia_of_none (by rw [hcut]; exact hnone), hcut]
      exact hu
  | case2 s _ text rest hc =>
      rename_i ih
      have hw : ∀ c ∈ (cutWhile isSpace s).1, isSpace c = true :=
        fun c hc => List.mem_takeWhile_imp hc
      rw [← cutWhile_append isSpace s] at h
      obtain ⟨u, rfl, hu⟩ := h.inert fun c hc => isInert_of_isSpace (hw c hc)
      obtain ⟨v, hv, rfl | rfl⟩ := hu.comment hc
      · rw [trivia_of_comment hc, trivia_snd_append hw, trivia_comment (comment?_local hc hv.fits)]
        exact ih hv
      · rw [trivia_of_comment hc, trivia_snd_append hw, trivia_snd_append isSpace_of_mem_blanks]
        exact ih hv

theorem Altered.head?_trivia {s t : List Char} (h : Altered s t) :
    (Source.trivia t).2.head? = (Source.trivia s).2.head? :=
  (h.trivia.comment_none (comment?_trivia s)).2

theorem Altered.literal_none {s t : List Char} (h : Altered s t) (hl : literal? s = none) :
    literal? t = none := by
  cases hq : s.head?.any isQuote with
  | false =>
      apply literal?_eq_none_of_head?
      rcases h.fits with hh | ⟨-, hh⟩
      · rw [hh, hq]
      · rw [hh]
        rfl
  | true =>
      cases s with
      | nil => cases hq
      | cons quote s =>
          obtain ⟨u, rfl, hu⟩ := Altered.string hq h
          exact literal?_none_local hq hl hu.fits

theorem Altered.literal_some {s t : List Char} {l : Literal} (h : Altered s t)
    (hl : literal? s = some l) :
    ∃ u, literal? t = some (l.respelled l.raw u) ∧ Altered l.rest u := by
  obtain ⟨rfl, hlead, hq, hp⟩ := literal?_eq_some_iff.mp hl
  have hw : l.whole = l.quote :: (l.raw ++ l.quote :: l.rest) := by
    rw [Literal.whole, hlead]
    rfl
  rw [hw] at h
  obtain ⟨u, rfl, hu⟩ := Altered.string hq h
  rw [stringBody_of_isPlain hq hp] at hu ⊢
  refine ⟨u, literal?_eq_some_iff.mpr ⟨?_, hlead, hq, hp⟩, hu⟩
  rw [Literal.respelled_whole, hlead]
  simp

theorem importWord_passed : ∀ c ∈ importWord, isClauseChar c = true ∧ c ≠ 'f' :=
  List.all_iff_forall_prop.mp (by decide)

theorem exportWord_passed : ∀ c ∈ exportWord, isClauseChar c = true ∧ c ≠ 'f' :=
  List.all_iff_forall_prop.mp (by decide)

/-- A search that fails before a site comes upon the start of the site and does not get past the
character in front of its literal. -/
theorem clause?_site {prev prev' : Option Char} {s raw rest : List Char} {kind : SiteKind}
    {l : Literal} (hs : site? prev' s = some (kind, l)) (h : clause? prev s = none) :
    clause? prev (l.respelled raw rest).whole = none := by
  rcases site?_cases hs with ⟨tail, l, hk, hfound, rfl⟩ | ⟨tail, l, hk, hl, -, rfl⟩
  · obtain rfl := keyword?_append hk
    rw [Literal.respelled_after, Literal.whole_after, clause?_passed importWord_passed,
      Option.map_eq_none_iff]
    rcases importSpecifier?_cases hfound with ⟨after, l, ht, hl, -, rfl⟩ |
      ⟨c, after, l, ht, hc, hl, -, rfl⟩ | ⟨c, after, l, ht, hp, hc, hl, -, rfl⟩
    · rw [Literal.respelled_after, Literal.whole_after, List.append_assoc, List.singleton_append,
        clause?_trivia, trivia_call ht, clause?_stopped rfl (by decide) (by decide)]
      rfl
    · have hh : (l.respelled raw rest).whole.head? = some c := by
        rw [(literal?_proper hl).head?, literal?_whole hl, ht]
        rfl
      have hstop : isClauseChar c = false ∧ c ≠ '/' := by
        rcases hc with rfl | rfl <;> decide
      rw [Literal.respelled_after, Literal.whole_after, clause?_trivia, trivia_literal hl,
        clause?_stopped hh hstop.1 hstop.2]
      rfl
    · rw [clause?_passed importWord_passed, Option.map_eq_none_iff, clause?_trivia,
        Option.map_eq_none_iff] at h
      have hi : importWord.getLast?.or prev = some 't' := rfl
      rw [hi, getLast?_or_eq, hl] at h
      cases h
  · obtain rfl := keyword?_append hk
    rw [clause?_passed exportWord_passed, Option.map_eq_none_iff] at h
    have he : exportWord.getLast?.or prev = some 't' := rfl
    rw [he, hl] at h
    cases h

theorem isInert_of_mem_from : ∀ c ∈ fromWord.tail, isInert c = true ∧ c ≠ ' ' :=
  List.all_iff_forall_prop.mp (by decide)

theorem Altered.clause_none {prev : Option Char} {s t : List Char} (h : Altered s t)
    (hn : clause? prev s = none) : clause? prev t = none := by
  induction prev, s using clause?.induct generalizing t with
  | case1 prev =>
      rw [h.nil]
      exact hn
  | case2 prev c s text rest hc ih =>
      rw [clause?_of_comment hc, Option.map_eq_none_iff] at hn
      obtain ⟨u, hu, rfl | rfl⟩ := h.comment hc
      · rw [clause?_of_comment (comment?_local hc hu.fits), ih hu hn]
        rfl
      · have hw : ∀ d ∈ blanks text, isClauseChar d = true ∧ d ≠ 'f' := fun d hd =>
          ⟨isClauseChar_of_isSpace (isSpace_of_mem_blanks d hd),
            isSpace_ne_f (isSpace_of_mem_blanks d hd)⟩
        have hlast : u.head? = some 'f' →
            isTied ((blanks text).getLast?.or prev) = isTied text.getLast? := by
          intro hf
          have hrest : rest.head? = some 'f' := by
            rcases hu.fits with hh | ⟨-, hh⟩
            · rw [← hh, hf]
            · rw [hf] at hh
              cases hh
          rw [getLast?_of_comment? hc hrest (by decide),
            List.getLast?_eq_some_getLast (blanks_ne_nil hc)]
          exact isTied_of_isSpace (isSpace_of_mem_blanks _ (List.getLast_mem _))
        rw [clause?_passed hw, clause?_congr hlast, ih hu hn]
        rfl
  | case3 prev c s hc rest hk =>
      rw [clause?_of_from hk, Option.map_eq_none_iff] at hn
      obtain ⟨rfl, hs⟩ := List.cons.inj (keyword?_append hk)
      obtain ⟨u, rfl, -⟩ := h.uncommented hc
      have hw : ∀ d ∈ fromWord, isInert d = true := List.all_eq_true.mp (by decide)
      rw [← keyword?_append hk] at h
      obtain ⟨v, hv, hr⟩ := h.inert hw
      rw [hv, clause?_of_from (keyword?_local hk hr.fits), hr.trivia.literal_none hn]
      rfl
  | case4 prev c s hc hk hclause ih =>
      rw [clause?_of_char hc hk, if_pos hclause, Option.map_eq_none_iff] at hn
      have hslash := isClauseChar_ne_slash hclause
      rcases h.char hslash (isQuote_of_isClauseChar hclause) with
        ⟨u, rfl, hu⟩ | ⟨_, _, l, raw, u, hs, rfl⟩
      · rw [clause?_of_char (comment?_eq_none_of_ne hslash) (hu.keyword_none isInert_of_mem_from hk),
          if_pos hclause, ih hu hn]
        rfl
      · refine clause?_site hs ?_
        rw [clause?_of_char hc hk, if_pos hclause, hn]
        rfl
  | case5 prev c s hc hk hclause =>
      obtain ⟨u, rfl, hu⟩ := h.uncommented hc
      have hf : c ≠ 'f' := by
        rintro rfl
        exact hclause (by decide)
      have hne : (c :: u).head? ≠ fromWord.head? := fun e => hf (Option.some.inj e)
      rw [clause?_of_char (comment?_none_of_fits hc hu) (keyword?_eq_none_of_head? hne rfl),
        if_neg hclause]

theorem Altered.call_none {s t : List Char} (h : Altered s t)
    (hn : callArgument? s = none) : callArgument? t = none := by
  rw [Option.eq_none_iff_forall_ne_some] at hn ⊢
  intro l' hl'
  obtain ⟨l'', hl'', -, c, hc, hend⟩ := callArgument?_eq_some_iff.mp hl'
  cases hl : literal? (Source.trivia s).2 with
  | none =>
      rw [h.trivia.literal_none hl] at hl''
      cases hl''
  | some l =>
      obtain ⟨v, hv, hrest⟩ := h.trivia.literal_some hl
      rw [hv] at hl''
      cases hl''
      exact hn _ (callArgument?_eq_some_iff.mpr ⟨l, hl, rfl, c, hrest.head?_trivia ▸ hc, hend⟩)

theorem clause?_trivia_none {s : List Char} :
    clause? (some ((trivia s).1.getLast?.getD 't')) (trivia s).2 = none ↔
      clause? (some 't') s = none := by
  rw [clause?_trivia (some 't') s, Option.map_eq_none_iff, getLast?_or_eq]

theorem Altered.importSpecifier_none {s t : List Char} (h : Altered s t)
    (hn : importSpecifier? s = none) : importSpecifier? t = none := by
  have hr := h.trivia
  have hnone := comment?_trivia s
  cases ht : (Source.trivia s).2 with
  | nil =>
      rw [ht] at hr
      simp [importSpecifier?, hr.nil]
  | cons c rest =>
      rw [ht] at hr hnone
      obtain ⟨v, hu, -⟩ := hr.uncommented hnone
      by_cases hp : c = '('
      · subst hp
        rw [importSpecifier?_of_call ht, Option.map_eq_none_iff] at hn
        obtain ⟨w, hw, hrest⟩ := Altered.inert (w := ['('])
          (List.forall_mem_singleton.mpr (by decide)) hr
        have hw : (Source.trivia t).2 = '(' :: w := hw
        rw [importSpecifier?_of_call hw, hrest.call_none hn]
        rfl
      · by_cases hc : c = '"' ∨ c = '\''
        · rw [importSpecifier?_of_quote ht hc, Option.map_eq_none_iff] at hn
          rw [importSpecifier?_of_quote hu hc, h.trivia.literal_none hn]
          rfl
        · rw [importSpecifier?_of_clause ht hp hc, Option.map_eq_none_iff,
            clause?_trivia_none] at hn
          rw [importSpecifier?_of_clause hu hp hc, Option.map_eq_none_iff, clause?_trivia_none]
          exact h.clause_none hn

theorem isInert_of_mem_import : ∀ c ∈ importWord.tail, isInert c = true ∧ c ≠ ' ' :=
  List.all_iff_forall_prop.mp (by decide)

theorem isInert_of_mem_export : ∀ c ∈ exportWord.tail, isInert c = true ∧ c ≠ ' ' :=
  List.all_iff_forall_prop.mp (by decide)

/-- A keyword that leads to no site leads to none with such changes behind it. -/
theorem Altered.site_none {prev : Option Char} {s t : List Char} {c : Char}
    (h : Altered s t) (hn : site? prev (c :: s) = none) : site? prev (c :: t) = none := by
  cases hi : keyword? importWord prev (c :: s) with
  | some rest =>
      rw [site?_of_import hi, Option.map_eq_none_iff] at hn
      obtain ⟨rfl, hs⟩ := List.cons.inj (keyword?_append hi)
      rw [← hs] at h
      obtain ⟨u, rfl, hu⟩ := Altered.inert (fun d hd => (isInert_of_mem_import d hd).1) h
      have hk : keyword? importWord prev ('i' :: (importWord.tail ++ u)) = some u :=
        keyword?_local hi hu.fits
      rw [site?_of_import hk, hu.importSpecifier_none hn]
      rfl
  | none =>
      have hi' : keyword? importWord prev (c :: t) = none :=
        h.keyword_none isInert_of_mem_import hi
      cases he : keyword? exportWord prev (c :: s) with
      | some rest =>
          rw [site?_of_export he, Option.map_eq_none_iff] at hn
          obtain ⟨rfl, hs⟩ := List.cons.inj (keyword?_append he)
          rw [← hs] at h
          obtain ⟨u, rfl, hu⟩ := Altered.inert (fun d hd => (isInert_of_mem_export d hd).1) h
          have hk : keyword? exportWord prev ('e' :: (exportWord.tail ++ u)) = some u :=
            keyword?_local he hu.fits
          rw [site?_of_export hk, hu.clause_none hn]
          rfl
      | none =>
          have he' : keyword? exportWord prev (c :: t) = none :=
            h.keyword_none isInert_of_mem_export he
          simp [site?, hi', he']

end ImportResolver.Source

import ImportResolver.Proofs.Source.Stability
/- How far the scanner looks back. It is over blanks, and over a word in front of them, but only to
tell whether a slash begins a regular expression. -/
namespace ImportResolver.Source

/-- The slash at the start of a text begins a regular expression if one may stand there, and more
than the slash alone. -/
def opensRegex : List Char → Bool
  | '/' :: c :: _ => c ≠ '/' && c ≠ '*' && c ≠ '\n'
  | _ => false

theorem regexAllowed_blanks {text : List Char} (h : ∀ c ∈ text, isSpace c = true)
    (before : List Char) : regexAllowed (text ++ before) = regexAllowed before := by
  rw [regexAllowed, regexAllowed, List.dropWhile_append_of_pos h]

/-- Behind other characters than blanks, the look back ends at what is no part of a word. -/
theorem regexAllowed_append {text before : List Char} (h : text.dropWhile isSpace ≠ [])
    (hb : ∀ c ∈ before.head?, isWord c = false) :
    regexAllowed (text ++ before) = regexAllowed text := by
  obtain ⟨c, near, hc⟩ := List.exists_cons_of_ne_nil h
  have hdrop : (text ++ before).dropWhile isSpace = c :: (near ++ before) := by
    rw [List.dropWhile_append, hc]
    rfl
  have htake : (c :: (near ++ before)).takeWhile isWord = (c :: near).takeWhile isWord := by
    cases before with
    | nil => rw [List.append_nil]
    | cons d far => exact takeWhile_append_stop (hb d rfl) (c :: near) far
  simp only [regexAllowed, hdrop, hc, htake]

theorem isWord_of_untied {prev : Option Char} (h : isTied prev = false) :
    ∀ c ∈ prev, isWord c = false := by
  intro c hc
  rw [Option.mem_def.mp hc] at h
  simp only [isTied, Option.any_some, Bool.or_eq_false_iff] at h
  exact h.1

theorem SameBefore.untied {before before' : List Char} (hb : isTied before.head? = false)
    (hb' : isTied before'.head? = false) (h : Source.regexAllowed before = Source.regexAllowed before') :
    SameBefore before before' := by
  refine ⟨hb.trans hb'.symm, fun text => ?_⟩
  by_cases htext : text.dropWhile isSpace = []
  · have hspace : ∀ c ∈ text, isSpace c = true := List.dropWhile_eq_nil_iff.mp htext
    rw [regexAllowed_blanks hspace, regexAllowed_blanks hspace, h]
  · rw [regexAllowed_append htext (isWord_of_untied hb),
      regexAllowed_append htext (isWord_of_untied hb')]

/-- Behind a piece that is not blank nothing is told apart that was not tied to it. -/
theorem SameBefore.solid {before before' text : List Char} (hb : isTied before.head? = false)
    (hb' : isTied before'.head? = false) (h : text.dropWhile isSpace ≠ []) :
    SameBefore (text ++ before) (text ++ before') := by
  constructor
  · cases text with
    | nil => exact absurd rfl h
    | cons c text => rfl
  · intro more
    have hmore : (more ++ text).dropWhile isSpace ≠ [] := by
      intro e
      apply h
      rw [List.dropWhile_eq_nil_iff] at e ⊢
      exact fun c hc => e c (List.mem_append_right more hc)
    rw [← List.append_assoc, ← List.append_assoc,
      regexAllowed_append hmore (isWord_of_untied hb),
      regexAllowed_append hmore (isWord_of_untied hb')]

/-- A slash alone is the same piece whether or not a regular expression may begin with it. -/
theorem piece_slash {before s : List Char} (hc : comment? ('/' :: s) = none)
    (h : opensRegex ('/' :: s) = false) : piece before '/' s = (.other ['/'], s) := by
  by_cases hr : regexAllowed before = true
  · rw [piece_of_regex hc rfl hr]
    cases s with
    | nil => rfl
    | cons c s =>
        rw [comment?_eq_none_iff] at hc
        have hfeed : c = '\n' := by simp_all [opensRegex]
        subst hfeed
        simp [regexBody]
  · rw [piece_of_site? hc (fun e => hr e.2) rfl, site?_eq_none_of_ne (by decide) (by decide)]

theorem head?_of_regexBody_nil {inClass : Bool} {s : List Char} :
    (regexBody inClass s).1 = [] → ∀ c ∈ s.head?, c = '\n' := by
  fun_cases regexBody inClass s with
  | case1 => exact fun _ c hc => absurd hc (by simp)
  | case2 => exact fun h => absurd h (List.cons_ne_nil _ _)
  | case3 s _ => exact fun _ c hc => (Option.some.inj hc).symm
  | case4 => exact fun h => absurd h (List.cons_ne_nil _ _)
  | case5 => exact fun h => absurd h (List.cons_ne_nil _ _)
  | case6 => exact fun h => absurd h (List.cons_ne_nil _ _)
  | case7 => exact fun h => absurd h (List.cons_ne_nil _ _)

theorem piece_opensRegex (before : List Char) {s : List Char} (h : opensRegex ('/' :: s) = true) :
    (piece before '/' s).1 = .other ['/'] ↔ regexAllowed before = false := by
  cases s with
  | nil => cases h
  | cons c s =>
      simp only [opensRegex, Bool.and_eq_true, decide_eq_true_eq] at h
      obtain ⟨⟨hslash, hstar⟩, hfeed⟩ := h
      have hc : comment? ('/' :: c :: s) = none := by
        rw [comment?_eq_none_iff]
        simp [hslash, hstar]
      cases hr : regexAllowed before with
      | true =>
          rw [piece_of_regex hc rfl hr]
          simpa using fun e => hfeed (head?_of_regexBody_nil e c rfl)
      | false =>
          rw [piece_of_site? hc (fun e => by simp [hr] at e) rfl,
            site?_eq_none_of_ne (by decide) (by decide)]
          simp

variable {before before' : List Char}

theorem pieces_blank {c : Char} (h : isSpace c = true) (before s : List Char) :
    pieces before (c :: s) = .other [c] :: pieces (c :: before) s := by
  have hin := isInert_iff.mp (isInert_of_isSpace h)
  have hp : piece before c s = _ :=
    piece_of_site? (comment?_eq_none_of_ne hin.1.1.2) (fun e => hin.1.1.2 e.1) hin.1.1.1
  rw [site?_eq_none_of_ne hin.1.2 hin.2] at hp
  exact pieces_cons hp

/-- Blanks are pieces of their own. -/
theorem pieces_blanks {w : List Char} (hw : ∀ c ∈ w, isSpace c = true) (before s : List Char) :
    pieces before (w ++ s) = w.map (fun c => .other [c]) ++ pieces (w.reverse ++ before) s := by
  induction w generalizing before with
  | nil => rfl
  | cons c w ih =>
      rw [List.cons_append, pieces_blank (hw c List.mem_cons_self),
        ih fun d hd => hw d (List.mem_cons_of_mem c hd)]
      simp

theorem pieces_step (before : List Char) (c : Char) (s : List Char) :
    pieces before (c :: s) = (piece before c s).1 ::
      pieces ((piece before c s).1.text.reverse ++ before) (piece before c s).2 :=
  pieces_cons rfl

theorem piece_congr {c : Char} {s : List Char} (h : isTied before.head? = isTied before'.head?)
    (ho : opensRegex (c :: s) = false) : piece before c s = piece before' c s := by
  by_cases hslash : c = '/'
  · subst hslash
    cases hcomment : comment? ('/' :: s) with
    | some cut => rw [piece_of_comment hcomment, piece_of_comment hcomment]
    | none => rw [piece_slash hcomment ho, piece_slash hcomment ho]
  · have hnone : comment? (c :: s) = none := comment?_eq_none_of_ne hslash
    cases hq : isQuote c with
    | true => rw [piece_of_quote hq, piece_of_quote hq]
    | false =>
        rw [piece_of_site? hnone (fun e => hslash e.1) hq,
          piece_of_site? hnone (fun e => hslash e.1) hq, site?, site?, keyword?_congr h,
          keyword?_congr h]

theorem piece_solid {c : Char} (hc : isSpace c = false) (before s : List Char) :
    (piece before c s).1.text.reverse.dropWhile isSpace ≠ [] := by
  intro e
  have happend := piece_append before c s
  obtain ⟨d, text, he⟩ := List.exists_cons_of_ne_nil (piece_text_ne_nil before c s)
  rw [he] at happend e
  obtain ⟨rfl, -⟩ := List.cons.inj happend
  have := List.dropWhile_eq_nil_iff.mp e d (by simp)
  rw [hc] at this
  cases this

theorem pieces_eq_iff_of_solid {c : Char} {s : List Char} (hc : isSpace c = false)
    (hb : isTied before.head? = false) (hb' : isTied before'.head? = false) :
    pieces before (c :: s) = pieces before' (c :: s) ↔
      (opensRegex (c :: s) = true → regexAllowed before = regexAllowed before') := by
  cases ho : opensRegex (c :: s) with
  | true =>
      obtain rfl : c = '/' := by
        unfold opensRegex at ho
        split at ho
        · next h => exact (List.cons.inj h).1
        · cases ho
      constructor
      · intro h _
        rw [pieces_step, pieces_step] at h
        have hfirst := (List.cons.inj h).1
        have hiff := piece_opensRegex before ho
        rw [hfirst, piece_opensRegex before' ho] at hiff
        exact Bool.eq_iff_iff.mpr (by simpa using not_congr hiff.symm)
      · intro h
        exact pieces_congr (.untied hb hb' (h rfl)) _
  | false =>
      have hsame := piece_congr (hb.trans hb'.symm) ho
      have hsolid := piece_solid hc before s
      constructor
      · intro _ h
        cases h
      · intro _
        rw [pieces_step, pieces_step, ← hsame, pieces_congr (.solid hb hb' hsolid)]

/-- What stands in front of a text tells on how it is cut if a slash, with no more than blanks in
front of it, begins a regular expression behind the one and not behind the other. -/
theorem pieces_eq_iff {s : List Char}
    (h : ∀ c ∈ s.head?, isSpace c = false →
      isTied before.head? = false ∧ isTied before'.head? = false) :
    pieces before s = pieces before' s ↔
      (opensRegex (s.dropWhile isSpace) = true → regexAllowed before = regexAllowed before') := by
  induction s generalizing before before' with
  | nil => simp [pieces, opensRegex]
  | cons c s ih =>
      cases hc : isSpace c with
      | true =>
          have hspace : ∀ d ∈ [c], isSpace d = true := List.forall_mem_singleton.mpr hc
          have hrest := @ih (c :: before) (c :: before')
            fun _ _ _ => ⟨isTied_of_isSpace hc, isTied_of_isSpace hc⟩
          rw [pieces_blank hc, pieces_blank hc, List.cons_inj_right, hrest,
            List.dropWhile_cons_of_pos hc]
          exact Iff.of_eq (congrArg₂ (fun a b => _ → a = b) (regexAllowed_blanks hspace before)
            (regexAllowed_blanks hspace before'))
      | false =>
          obtain ⟨hb, hb'⟩ := h c rfl hc
          rw [pieces_eq_iff_of_solid hc hb hb', List.dropWhile_cons_of_neg (by simp [hc])]

end ImportResolver.Source

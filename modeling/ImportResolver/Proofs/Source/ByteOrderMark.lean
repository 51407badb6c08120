import ImportResolver.Proofs.Source.LexemeScan
import ImportResolver.Proofs.Source.LookBehind
/- A byte order mark in front of a text. The scanner reads it as a letter, so it belongs to the
first word of the text, or is a word of its own. -/
namespace ImportResolver.Source

variable {before before' : List Char}

theorem site?_of_head {c : Char} (h : isWord c = false) (prev : Option Char) (s : List Char) :
    site? prev (c :: s) = none := by
  apply site?_eq_none_of_ne
  · rintro rfl
    cases h
  · rintro rfl
    cases h

/-- What stands in front tells on a piece that begins no word only if the piece may be a regular
expression. -/
theorem piece_eq_iff_of_head {c : Char} {s : List Char} (hword : isWord c = false) :
    piece before c s = piece before' c s ↔
      (opensRegex (c :: s) = true → regexAllowed before = regexAllowed before') := by
  have hsite (prev : Option Char) : site? prev (c :: s) = none := site?_of_head hword prev s
  by_cases hslash : c = '/'
  · subst hslash
    cases ho : opensRegex ('/' :: s) with
    | true =>
        constructor
        · intro h _
          have hiff := piece_opensRegex before ho
          rw [h, piece_opensRegex before' ho] at hiff
          exact Bool.eq_iff_iff.mpr (by simpa using not_congr hiff.symm)
        · intro h
          rw [piece, piece, h rfl, hsite, hsite]
    | false =>
        cases hcomment : comment? ('/' :: s) with
        | some cut => simp [piece_of_comment hcomment]
        | none => simp [piece_slash hcomment ho]
  · have ho : opensRegex (c :: s) = false := by
      cases s with
      | nil => simp [opensRegex]
      | cons d s => simp [opensRegex, hslash]
    have hpiece : piece before c s = piece before' c s := by
      rw [piece, piece, hsite, hsite, comment?_eq_none_of_ne hslash]
      simp [hslash]
    simp [ho, hpiece]

/-- What stands in front of a text that begins no word tells on how the text is cut only if, with no
more than blanks in front of it, a regular expression may begin there. -/
theorem pieces_eq_iff_of_head {s : List Char} (h : ∀ c ∈ s.head?, isWord c = false) :
    pieces before s = pieces before' s ↔
      (opensRegex (s.dropWhile isSpace) = true → regexAllowed before = regexAllowed before') := by
  cases s with
  | nil => simp [pieces, opensRegex]
  | cons c s =>
      have hword := h c rfl
      cases hspace : isSpace c with
      | true =>
          refine pieces_eq_iff fun d hd hsolid => ?_
          obtain rfl := Option.some.inj hd
          rw [hspace] at hsolid
          cases hsolid
      | false =>
          rw [List.dropWhile_cons_of_neg (by simp [hspace]), ← piece_eq_iff_of_head hword]
          have happend := piece_append before c s
          constructor
          · intro heq
            rw [pieces_step, pieces_step] at heq
            have hfirst := (List.cons.inj heq).1
            refine Prod.ext hfirst ?_
            rw [← piece_append before' c s, hfirst] at happend
            exact List.append_cancel_left happend
          · intro heq
            obtain ⟨d, text, htext⟩ := List.exists_cons_of_ne_nil (piece_text_ne_nil before c s)
            rw [htext] at happend
            obtain ⟨rfl, -⟩ := List.cons.inj happend
            have hsame := (SameBefore.stop hspace hword before before').append text.reverse
            rw [pieces_step, pieces_step, ← heq, htext, List.reverse_cons, List.append_assoc,
              List.append_assoc, List.singleton_append, List.singleton_append, pieces_congr hsame]

/-- A letter that begins no site is a piece. -/
theorem pieces_letter {c : Char} {s : List Char} (hc : isWord c = true)
    (hs : site? before.head? (c :: s) = none) :
    pieces before (c :: s) = .other [c] :: pieces (c :: before) s := by
  have hpiece := @piece_of_clauseChar before s c (isClauseChar_of_isWord hc)
  rw [hs] at hpiece
  exact pieces_cons hpiece

theorem pieces_within {w : List Char} (hw : ∀ c ∈ w, isWord c = true) {p : Char}
    (hp : isWord p = true) (hb : before.head? = some p) (s : List Char) :
    pieces before (w ++ s) = w.map (fun c => .other [c]) ++ pieces (w.reverse ++ before) s := by
  induction w generalizing before p with
  | nil => rfl
  | cons c w ih =>
      obtain ⟨hc, hrest⟩ := List.forall_mem_cons.mp hw
      rw [List.cons_append, pieces_letter hc (hb ▸ site?_within hp), ih hrest hc rfl]
      simp

theorem pieces_word {w s : List Char} (hw : ∀ c ∈ w, isWord c = true)
    (hs : site? before.head? (w ++ s) = none) :
    pieces before (w ++ s) = w.map (fun c => .other [c]) ++ pieces (w.reverse ++ before) s := by
  cases w with
  | nil => rfl
  | cons c w =>
      obtain ⟨hc, hrest⟩ := List.forall_mem_cons.mp hw
      rw [List.cons_append] at hs ⊢
      rw [pieces_letter hc hs, pieces_within hrest hc rfl]
      simp

def mark : Char := '\uFEFF'

theorem isWord_mark : isWord mark = true := by decide

theorem regexAllowed_mark {w : List Char} (hw : ∀ c ∈ w, isWord c = true) :
    regexAllowed (w.reverse ++ [mark]) = false := by
  have hall : ∀ c ∈ w.reverse ++ [mark], isWord c = true := by
    intro c hc
    rcases List.mem_append.mp hc with hc | hc
    · exact hw c (List.mem_reverse.mp hc)
    · obtain rfl := List.mem_singleton.mp hc
      exact isWord_mark
  have hno : regexWords.contains (String.ofList (mark :: w)) = false := by
    have hheads : ∀ word ∈ regexWords, word.toList.head? ≠ some mark := by decide
    cases hcontains : regexWords.contains (String.ofList (mark :: w)) with
    | false => rfl
    | true => exact absurd (by simp) (hheads _ (List.contains_iff_mem.mp hcontains))
  have htake : ((w.reverse ++ [mark]).takeWhile isWord).reverse = mark :: w := by
    rw [List.takeWhile_eq_self_iff.mpr hall]
    simp
  obtain ⟨c, text, htext⟩ : ∃ c text, w.reverse ++ [mark] = c :: text :=
    List.exists_cons_of_ne_nil (by simp)
  rw [htext] at hall htake ⊢
  have hc := hall c List.mem_cons_self
  have hspace := isSpace_of_isWord hc
  have hbracket : c ≠ ')' ∧ c ≠ ']' := by
    constructor
    · rintro rfl
      cases hc
    · rintro rfl
      cases hc
  simp only [regexAllowed, List.dropWhile_cons_of_neg (by simp [hspace] : ¬ isSpace c = true)]
  rw [if_neg (by simp [hbracket]), if_pos hc, htake, hno]

/-- What a letter in front of the text leaves as it is: no site begins with its first word, and no
regular expression behind that. -/
structure StartsPlainly (s : List Char) : Prop where
  site : site? none s = none
  regex : opensRegex ((s.dropWhile isWord).dropWhile isSpace) = true →
    regexAllowed (s.takeWhile isWord).reverse = false

theorem pieces_mark (s : List Char) :
    pieces [mark] s = (s.takeWhile isWord).map (fun c => .other [c]) ++
      pieces ((s.takeWhile isWord).reverse ++ [mark]) (s.dropWhile isWord) := by
  have h := @pieces_within [mark] (s.takeWhile isWord) (fun c hc => List.mem_takeWhile_imp hc) mark
    isWord_mark rfl (s.dropWhile isWord)
  rwa [List.takeWhile_append_dropWhile] at h

/-- A site at the start is cut out whole; behind the mark it is passed letter by letter. -/
theorem pieces_mark_ne {s : List Char} {found : SiteKind × Literal}
    (h : site? none s = some found) : pieces [mark] s ≠ pieces [] s := by
  cases s with
  | nil => cases h
  | cons c s =>
      have hc : isWord c = true := by
        cases hword : isWord c with
        | true => rfl
        | false =>
            rw [site?_of_head hword] at h
            cases h
      have hpiece := @piece_of_clauseChar [] s c (isClauseChar_of_isWord hc)
      rw [List.head?_nil, h] at hpiece
      have hletter := @pieces_letter [mark] c s hc (site?_within isWord_mark)
      rw [hletter, pieces_cons hpiece]
      intro heq
      cases (List.cons.inj heq).1

theorem pieces_mark_iff (s : List Char) : pieces [mark] s = pieces [] s ↔ StartsPlainly s := by
  have hword (c : Char) (hc : c ∈ s.takeWhile isWord) : isWord c = true := List.mem_takeWhile_imp hc
  have hhead : ∀ c ∈ (s.dropWhile isWord).head?, isWord c = false := head_cutWhile isWord s
  cases hsite : site? none s with
  | some found =>
      refine iff_of_false (pieces_mark_ne hsite) fun hplain => ?_
      rw [hplain.site] at hsite
      cases hsite
  | none =>
      have hplain := @pieces_word [] _ (s.dropWhile isWord) hword
        (by rw [List.takeWhile_append_dropWhile]; exact hsite)
      rw [List.takeWhile_append_dropWhile, List.append_nil] at hplain
      rw [pieces_mark, hplain, List.append_cancel_left_eq, pieces_eq_iff_of_head hhead,
        regexAllowed_mark hword]
      constructor
      · exact fun h => ⟨hsite, fun ho => (h ho).symm⟩
      · exact fun h ho => (h.regex ho).symm

/-- The same site behind `n` more bytes. -/
def Site.moved (n : Nat) (site : Site) : Site :=
  { site with start := site.start + n, stop := site.stop + n }

theorem sitesFrom_moved (n start line : Nat) (ps : List Piece) :
    sitesFrom (start + n) line ps = (sitesFrom start line ps).map (Site.moved n) := by
  induction ps generalizing start line with
  | nil => rfl
  | cons p ps ih =>
      cases p with
      | other text =>
          rw [sitesFrom, sitesFrom, ← ih, Nat.add_right_comm]
      | site kind lead raw quote =>
          rw [sitesFrom_site, sitesFrom_site, List.map_cons, ← ih]
          simp only [Site.moved, Nat.add_right_comm]

def marked (s : String) : String := String.ofList (mark :: s.toList)

theorem sites_marked_eq (s : String) :
    sites (marked s) = sitesFrom (byteSize [mark]) 1 (pieces [mark] s.toList) := by
  have hpiece := @pieces_letter [] mark s.toList isWord_mark
    (site?_eq_none_of_ne (by decide) (by decide))
  rw [sites, marked, String.toList_ofList, hpiece]
  rfl

/-- The sites of a text with a mark in front are those of the text, moved by the mark, unless a site
begins with the first word of the text or a regular expression behind that: just then the text is
cut in another way. Always the first word is read as one that begins with the mark. -/
theorem sites_marked (s : String) :
    (StartsPlainly s.toList →
      sites (marked s) = (sites s).map (Site.moved (byteSize [mark]))) ∧
    (pieces [mark] s.toList = pieces [] s.toList ↔ StartsPlainly s.toList) ∧
    sites (marked s) = sitesFrom (byteSize (mark :: s.toList.takeWhile isWord)) 1
      (pieces (mark :: s.toList.takeWhile isWord).reverse (s.toList.dropWhile isWord)) := by
  refine ⟨fun h => ?_, pieces_mark_iff s.toList, ?_⟩
  · have hpieces := (pieces_mark_iff s.toList).mpr h
    have hmoved := sitesFrom_moved (byteSize [mark]) 0 1 (pieces [] s.toList)
    rw [sites_marked_eq, hpieces, sites, ← hmoved, Nat.zero_add]
  · have hword (c : Char) (hc : c ∈ s.toList.takeWhile isWord) : isWord c = true :=
      List.mem_takeWhile_imp hc
    have hfeeds : lineFeeds (s.toList.takeWhile isWord) = 0 :=
      List.count_eq_zero.mpr fun hmem => absurd (hword '\n' hmem) (by decide)
    have hpassed := @passed_within _ [mark] hword mark isWord_mark rfl (s.toList.dropWhile isWord)
      (byteSize [mark]) 1
    rw [List.takeWhile_append_dropWhile, hfeeds, ← byteSize_append] at hpassed
    rw [sites_marked_eq, hpassed, List.reverse_cons]
    rfl

/-- A directive in front of the imports. -/
def strict : String := "'use strict'\nimport './x'"

theorem sites_marked_strict :
    StartsPlainly strict.toList ∧ sites strict = [⟨"./x", .imported, 21, 24, 2⟩] ∧
      sites (marked strict) = [⟨"./x", .imported, 24, 27, 2⟩] := by
  have hplain : StartsPlainly strict.toList :=
    ⟨site?_eq_none_of_ne (by decide) (by decide), fun h => absurd h (by decide)⟩
  have hsites : sites strict = [⟨"./x", .imported, 21, 24, 2⟩] := by decide +kernel
  refine ⟨hplain, hsites, ?_⟩
  rw [(sites_marked strict).1 hplain, hsites]
  rfl

/-- With the import first, or a regular expression, the sites of a text are not those behind a
mark. -/
theorem sites_marked_ne :
    (sites "import './x'" = [⟨"./x", .imported, 8, 11, 1⟩] ∧
      sites (marked "import './x'") = []) ∧
    (sites "/'/;import './x'" = [⟨"./x", .imported, 12, 15, 1⟩] ∧
      sites (marked "/'/;import './x'") = []) ∧
    ¬ ∀ s, sites (marked s) = (sites s).map (Site.moved (byteSize [mark])) := by
  have himport : sites "import './x'" = [⟨"./x", .imported, 8, 11, 1⟩] := by decide +kernel
  have hmarked : sites (marked "import './x'") = [] := by decide +kernel
  refine ⟨⟨himport, hmarked⟩, ⟨by decide +kernel, by decide +kernel⟩, fun h => ?_⟩
  have hsame := h "import './x'"
  rw [himport, hmarked] at hsame
  cases hsame

end ImportResolver.Source

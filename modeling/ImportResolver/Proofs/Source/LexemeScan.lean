import ImportResolver.Proofs.Source.Piece
import ImportResolver.Proofs.Source.Splice
import ImportResolver.Proofs.Source.Spelling
/- The scanner on lexemes: a clause leads from a keyword to the first `from` behind it, and so the
sites are those of keywords that one `from` comes after. -/
namespace ImportResolver.Source

/-- What the text behind some lexemes is like, and the literal that a clause finds there. `next` is
the first lexeme in it. -/
structure Ending (next : Lexeme) (tail : List Char) (found : Option Literal) : Prop where
  apart : next.isName = false → ∀ c ∈ tail.head?, isWord c = false
  clause : ∀ prev, (next.isName = true → (prev.any fun c => isWord c || c = '.') = false) →
    clause? prev tail = found
  head : ∀ c ∈ (trivia tail).2.head?, isQuote c = false ∧ c ≠ '('
  silent : ∀ before start line, sitesFrom start line (pieces before tail) = []
  last : ∀ l ∈ found, l.rest = []

/-- What the text behind some lexemes is like where more may come after the literal. -/
structure Follows (next : Lexeme) (tail : List Char) (found : Option Literal) : Prop where
  apart : next.isName = false → ∀ c ∈ tail.head?, isWord c = false
  clause : ∀ prev, (next.isName = true → isTied prev = false) → clause? prev tail = found
  head : ∀ c ∈ (trivia tail).2.head?, isQuote c = false ∧ c ≠ '('

/-- Lexemes in front of others, no two words of them side by side. -/
structure Apart (ls : List Lexeme) (next : Lexeme) : Prop where
  valid : ∀ l ∈ ls, l.Valid
  chain : List.IsChain Lexeme.Apart (ls ++ [next])

/-- A word may begin here. -/
def Opens (prev : Option Char) (ls : List Lexeme) (next : Lexeme) : Prop :=
  ∀ m ∈ (ls ++ [next]).head?, m.isName = true →
    (prev.any fun c => isWord c || c = '.') = false

variable {ls : List Lexeme} {l next : Lexeme} {tail : List Char} {found : Option Literal}

theorem Ending.follows (h : Ending next tail found) : Follows next tail found :=
  ⟨h.apart, h.clause, h.head⟩

theorem Apart.rest (h : Apart (l :: ls) next) : Apart ls next :=
  ⟨fun m hm => h.valid m (List.mem_cons_of_mem l hm), List.isChain_of_isChain_cons h.chain⟩

theorem Apart.opens (h : Apart (l :: ls) next) : Opens l.text.getLast? ls next := by
  intro m hm hname
  have hrel : l.Apart m := by
    have := h.chain
    cases hls : ls ++ [next] with
    | nil => simp at hls
    | cons n ns =>
        rw [hls] at hm
        obtain rfl := Option.some.inj hm
        rw [List.cons_append, hls, List.isChain_cons_cons] at this
        exact this.1
  cases hl : l.isName with
  | true => exact absurd ⟨hl, hname⟩ hrel
  | false => exact getLast?_other (h.valid l List.mem_cons_self) hl

/-- What comes after a word does not continue it. -/
theorem Apart.head (h : Apart (l :: ls) next) (hl : l.isName = true)
    (hf : Follows next tail found) : ∀ c ∈ (spelled ls ++ tail).head?, isWord c = false := by
  have hc := h.chain
  cases ls with
  | nil =>
      rw [List.cons_append, List.nil_append, List.isChain_cons_cons] at hc
      refine hf.apart ?_
      cases hn : next.isName with
      | true => exact absurd ⟨hl, hn⟩ hc.1
      | false => rfl
  | cons m ls =>
      rw [List.cons_append, List.cons_append, List.isChain_cons_cons] at hc
      have hm : m.isName = false := by
        cases hn : m.isName with
        | true => exact absurd ⟨hl, hn⟩ hc.1
        | false => rfl
      rw [spelled_cons, List.append_assoc]
      exact head?_other (h.rest.valid m List.mem_cons_self) hm _

theorem head_trivia_spelled (h : Apart ls next) (hf : Follows next tail found) :
    ∀ c ∈ (trivia (spelled ls ++ tail)).2.head?, isQuote c = false ∧ c ≠ '(' := by
  induction ls with
  | nil => exact hf.head
  | cons l ls ih =>
      have hv := h.valid l List.mem_cons_self
      rw [spelled_cons, List.append_assoc]
      cases hs : l.isSpacing with
      | true =>
          rw [trivia_spacing hv hs]
          exact ih h.rest
      | false =>
          obtain ⟨c, s, htext, hc, hspace⟩ := text_of_not_spacing hv hs
          rw [htext, List.cons_append, trivia_of_head hspace (isClauseChar_ne_slash hc)]
          intro d hd
          obtain rfl := Option.some.inj hd
          refine ⟨isQuote_of_isClauseChar hc, ?_⟩
          rintro rfl
          exact absurd hc (by decide)

/-- Of a clause only the first `from` counts. -/
theorem clause?_spelled (h : Apart ls next) (hf : Follows next tail found) {prev : Option Char}
    (hprev : Opens prev ls next) :
    clause? prev (spelled ls ++ tail) =
      if .word fromWord ∈ ls then none else found.map (Literal.after (spelled ls)) := by
  induction ls generalizing prev with
  | nil =>
      rw [spelled_nil, List.nil_append, hf.clause prev (hprev next rfl), if_neg List.not_mem_nil]
      exact (Literal.map_after_nil found).symm
  | cons l ls ih =>
      have hv := h.valid l List.mem_cons_self
      have hih := ih h.rest h.opens
      rw [spelled_cons, List.append_assoc]
      by_cases hl : l = .word fromWord
      · subst hl
        have hk : keyword? fromWord prev (fromWord ++ (spelled ls ++ tail)) = some _ :=
          keyword?_of_word (hprev _ rfl rfl) (h.head rfl hf)
        have hnone : literal? (trivia (spelled ls ++ tail)).2 = none := by
          apply literal?_eq_none_of_head?
          have := head_trivia_spelled h.rest hf
          cases hh : (trivia (spelled ls ++ tail)).2.head? with
          | none => rfl
          | some c => exact (this c hh).1
        rw [if_pos List.mem_cons_self]
        change clause? prev (fromWord ++ _) = none
        rw [clause?_of_from hk, hnone]
        rfl
      · have hpass : clause? prev (l.text ++ (spelled ls ++ tail)) =
            (clause? l.text.getLast? (spelled ls ++ tail)).map (Literal.after l.text) := by
          cases hname : l.isName with
          | false => exact clause?_other hv hname prev _
          | true =>
              obtain ⟨w, rfl⟩ := Lexeme.exists_of_isName hname
              exact clause?_word hv (fun e => hl (e ▸ rfl)) (h.head rfl hf) prev
        have hmem : .word fromWord ∈ l :: ls ↔ .word fromWord ∈ ls := by
          rw [List.mem_cons, or_iff_right (fun e => hl e.symm)]
        rw [hpass, hih]
        by_cases hfrom : .word fromWord ∈ ls
        · rw [if_pos hfrom, if_pos (hmem.mpr hfrom)]
          rfl
        · rw [if_neg hfrom, if_neg (fun e => hfrom (hmem.mp e)), Literal.map_after_after]

theorem importSpecifier?_of_head {s : List Char}
    (h : ∀ c ∈ (trivia s).2.head?, isQuote c = false ∧ c ≠ '(') :
    importSpecifier? s = (clause? (some 't') s).map fun l => (.imported, l) := by
  rw [clause?_trivia (some 't') s, getLast?_or_eq]
  cases hs : (trivia s).2 with
  | nil =>
      rw [clause?, importSpecifier?]
      simp only [hs]
      rfl
  | cons c rest =>
      rw [hs] at h
      obtain ⟨hq, hp⟩ := h c rfl
      have hc : ¬ (c = '"' ∨ c = '\'') := by
        rintro (rfl | rfl)
        · cases hq
        · cases hq
      rw [importSpecifier?_of_clause hs hp hc, hs]
      cases clause? _ (c :: rest) <;> rfl

/-- The kind of site that a lexeme begins. -/
def Lexeme.kind? : Lexeme → Option SiteKind
  | .word w => if w = importWord then some .imported else if w = exportWord then some .exported
      else none
  | _ => none

theorem site?_spelled {w : List Char} (h : Apart (.word w :: ls) next)
    (hf : Follows next tail found) {prev : Option Char}
    (hprev : (prev.any fun c => isWord c || c = '.') = false) :
    site? prev (w ++ (spelled ls ++ tail)) =
      if .word fromWord ∈ ls then none
      else (Lexeme.word w).kind?.bind fun kind =>
        found.map fun l => (kind, l.after (w ++ spelled ls)) := by
  have hw := (h.valid _ List.mem_cons_self).2
  have hs := h.head rfl hf
  have hopens := h.opens
  by_cases hi : w = importWord
  · subst hi
    have hclause := clause?_spelled h.rest hf hopens
    change clause? (some 't') _ = _ at hclause
    rw [site?_of_import (keyword?_of_word hprev hs),
      importSpecifier?_of_head (head_trivia_spelled h.rest hf), hclause]
    split
    · rfl
    · cases found <;> rfl
  · by_cases hx : w = exportWord
    · subst hx
      have hclause := clause?_spelled h.rest hf hopens
      change clause? (some 't') _ = _ at hclause
      rw [site?_of_export (keyword?_of_word hprev hs), hclause]
      split
      · rfl
      · cases found <;> rfl
    · have hnone : (Lexeme.word w).kind? = none := by rw [Lexeme.kind?, if_neg hi, if_neg hx]
      rw [hnone, Option.bind_none, ite_self, Option.eq_none_iff_forall_ne_some]
      rintro ⟨k, l⟩ hsite
      rcases site?_cases hsite with ⟨rest, _, hk, -⟩ | ⟨rest, _, hk, -⟩
      · exact hi (eq_of_keyword? isWord_of_mem_import hw hs hk).1
      · exact hx (eq_of_keyword? isWord_of_mem_export hw hs hk).1

/-- No site begins in these characters. -/
def Passed (before s t : List Char) : Prop :=
  ∀ start line, sitesFrom start line (pieces before (s ++ t)) =
    sitesFrom (start + byteSize s) (line + lineFeeds s) (pieces (s.reverse ++ before) t)

theorem Passed.nil (before t : List Char) : Passed before [] t := fun _ _ => rfl

theorem Passed.append {before s t u : List Char} (hs : Passed before s (t ++ u))
    (ht : Passed (s.reverse ++ before) t u) : Passed before (s ++ t) u := by
  intro start line
  rw [List.append_assoc, hs, ht, byteSize_append, lineFeeds_append, List.reverse_append,
    List.append_assoc, Nat.add_assoc, Nat.add_assoc]

theorem passed_of_piece {before s text rest : List Char} {c : Char}
    (h : piece before c s = (.other text, rest)) : Passed before text rest := by
  have htext : text ++ rest = c :: s := by
    have := piece_append before c s
    rwa [h] at this
  intro start line
  rw [htext, pieces_cons h]
  rfl

/-- In a clause, only a site can be a longer piece than a character. -/
theorem piece_of_clauseChar {before s : List Char} {c : Char} (hc : isClauseChar c = true) :
    piece before c s =
      match site? before.head? (c :: s) with
      | some (kind, l) => (.site kind l.lead l.raw l.quote, l.rest)
      | none => (.other [c], s) := by
  have hslash := isClauseChar_ne_slash hc
  exact piece_of_site? (comment?_eq_none_of_ne hslash) (fun e => hslash e.1)
    (isQuote_of_isClauseChar hc)

theorem passed_char {before s : List Char} {c : Char} (hc : isClauseChar c = true)
    (hs : site? before.head? (c :: s) = none) : Passed before [c] s := by
  have hp := @piece_of_clauseChar before s c hc
  rw [hs] at hp
  exact passed_of_piece hp

theorem site?_within {s : List Char} {p : Char} (hp : isWord p = true) :
    site? (some p) s = none := by
  rw [Option.eq_none_iff_forall_ne_some]
  rintro ⟨k, l⟩ h
  rcases site?_cases h with ⟨rest, _, hk, -⟩ | ⟨rest, _, hk, -⟩
  · rw [keyword?_within hp] at hk
    cases hk
  · rw [keyword?_within hp] at hk
    cases hk

theorem head?_behind (hv : l.Valid) (before : List Char) :
    (l.text.reverse ++ before).head? = l.text.getLast? := by
  rw [List.head?_append, List.head?_reverse, List.getLast?_eq_some_getLast (text_ne_nil hv)]
  rfl

theorem passed_within {w before : List Char} (hw : ∀ c ∈ w, isWord c = true) {p : Char}
    (hp : isWord p = true) (hb : before.head? = some p) (s : List Char) :
    Passed before w s := by
  induction w generalizing before p with
  | nil => exact .nil before s
  | cons c w ih =>
      have hc := hw c List.mem_cons_self
      have hfirst : Passed before [c] (w ++ s) :=
        passed_char (isClauseChar_of_isWord hc) (by rw [hb]; exact site?_within hp)
      exact hfirst.append
        (ih (fun d hd => hw d (List.mem_cons_of_mem c hd)) hc rfl)

theorem passed_word {w before s : List Char} (hv : (Lexeme.word w).Valid)
    (hs : site? before.head? (w ++ s) = none) : Passed before w s := by
  obtain ⟨hne, hw⟩ := hv
  obtain ⟨c, w, rfl⟩ := List.exists_cons_of_ne_nil hne
  have hc := hw c List.mem_cons_self
  have hfirst : Passed before [c] (w ++ s) := passed_char (isClauseChar_of_isWord hc) hs
  exact hfirst.append (passed_within (fun d hd => hw d (List.mem_cons_of_mem c hd)) hc rfl s)

theorem passed_other (hv : l.Valid) (hl : l.isName = false) (before s : List Char) :
    Passed before l.text s := by
  cases l with
  | word text => cases hl
  | mark c =>
      refine passed_char ?_ (site?_eq_none_of_ne ?_ ?_)
      · rcases hv with rfl | rfl | rfl | rfl <;> decide
      · rcases hv with rfl | rfl | rfl | rfl <;> decide
      · rcases hv with rfl | rfl | rfl | rfl <;> decide
  | blank c =>
      have hc : isSpace c = true := hv
      refine passed_char (isClauseChar_of_isSpace hc) (site?_eq_none_of_ne ?_ ?_)
      · rintro rfl
        exact absurd hc (by decide)
      · rintro rfl
        exact absurd hc (by decide)
  | block body => exact passed_of_piece (piece_of_comment (comment?_block hv s))
  | line body =>
      have hs : ∀ c ∈ ('\n' :: s).head?, c = '\n' := fun c hc => (Option.some.inj hc).symm
      have hcomment : Passed before ('/' :: '/' :: body) (['\n'] ++ s) :=
        passed_of_piece (piece_of_comment (comment?_line hv hs))
      have hfeed : Passed (('/' :: '/' :: body).reverse ++ before) ['\n'] s :=
        passed_char (by decide) (site?_eq_none_of_ne (by decide) (by decide))
      exact hcomment.append hfeed

/-- The kind of the site among some lexemes and the `from` behind them: that of the first keyword
that no other `from` comes after. -/
def siteKind? : List Lexeme → Option SiteKind
  | [] => none
  | l :: ls => if .word fromWord ∈ ls then siteKind? ls else l.kind?.or (siteKind? ls)

/-- The site of a literal behind `lead`. -/
def siteBehind (start line : Nat) (kind : SiteKind) (lead raw : List Char) : Site :=
  ⟨String.ofList raw, kind, start + byteSize lead, start + byteSize lead + byteSize raw,
    line + lineFeeds lead⟩

theorem siteBehind_append (start line : Nat) (kind : SiteKind) (s lead raw : List Char) :
    siteBehind (start + byteSize s) (line + lineFeeds s) kind lead raw =
      siteBehind start line kind (s ++ lead) raw := by
  simp [siteBehind, Nat.add_assoc]

theorem Lexeme.kind?_of_other (hl : l.isName = false) : l.kind? = none := by
  cases l with
  | word w => cases hl
  | mark c => rfl
  | blank c => rfl
  | block body => rfl
  | line body => rfl

theorem siteKind?_cons_of_none (hl : l.kind? = none) : siteKind? (l :: ls) = siteKind? ls := by
  rw [siteKind?, hl, Option.none_or, ite_self]

/-- The first site in these characters is that of the literal. -/
def Reported (before s : List Char) (kind : SiteKind) (l : Literal) : Prop :=
  ∀ start line, sitesFrom start line (pieces before s) =
    siteBehind start line kind l.lead l.raw ::
      sitesFrom (start + byteSize (l.lead ++ (l.raw ++ [l.quote])))
        (line + lineFeeds (l.lead ++ (l.raw ++ [l.quote])))
        (pieces ((l.lead ++ (l.raw ++ [l.quote])).reverse ++ before) l.rest)

theorem Passed.reported {before s t : List Char} {kind : SiteKind} {l : Literal}
    (hs : Passed before s t) (ht : Reported (s.reverse ++ before) t kind l) :
    Reported before (s ++ t) kind (l.after s) := by
  intro start line
  rw [hs, ht, siteBehind_append]
  simp only [Literal.after_lead, Literal.after_raw, Literal.after_quote, Literal.after_rest,
    List.append_assoc, byteSize_append s, lineFeeds_append s, List.reverse_append, Nat.add_assoc]

theorem reported_of_site? {before s : List Char} {c : Char} {kind : SiteKind} {l : Literal}
    (hc : isWord c = true) (h : site? before.head? (c :: s) = some (kind, l)) :
    Reported before (c :: s) kind l := by
  intro start line
  have hp := @piece_of_clauseChar before s c (isClauseChar_of_isWord hc)
  rw [h] at hp
  have hfeed : lineFeeds [l.quote] = 0 := lineFeeds_quote (site?_proper h).1.quote
  have hsize : start + byteSize (l.lead ++ (l.raw ++ [l.quote])) =
      start + byteSize l.lead + byteSize l.raw + l.quote.utf8Size := by
    simp [Nat.add_assoc]
  have hfeeds : line + lineFeeds (l.lead ++ (l.raw ++ [l.quote])) =
      line + lineFeeds l.lead + lineFeeds l.raw := by
    rw [lineFeeds_append, lineFeeds_append, hfeed, Nat.add_zero, Nat.add_assoc]
  rw [pieces_cons hp, sitesFrom_site, hsize, hfeeds, Piece.text, List.append_assoc]
  rfl

/-- The scanner passes the lexemes, or finds the site of the first keyword from which a clause leads
to the literal. -/
theorem passed_or_reported (h : Apart ls next) (hf : Follows next tail found)
    {before : List Char} (hb : Opens before.head? ls next) :
    (found = none ∨ siteKind? ls = none → Passed before (spelled ls) tail) ∧
    ∀ f kind, found = some f → siteKind? ls = some kind →
      Reported before (spelled ls ++ tail) kind (f.after (spelled ls)) := by
  induction ls generalizing before with
  | nil => exact ⟨fun _ => .nil before tail, fun _ _ _ hkind => by cases hkind⟩
  | cons l ls ih =>
      have hv := h.valid l List.mem_cons_self
      obtain ⟨hpass, hreport⟩ :=
        @ih h.rest (l.text.reverse ++ before) (head?_behind hv before ▸ h.opens)
      have hshift (f : Literal) :
          f.after (spelled (l :: ls)) = (f.after (spelled ls)).after l.text := by
        rw [Literal.after_after, spelled_cons]
      -- Where no site begins the induction goes on, with the same keyword.
      have hskip (hpassed : Passed before l.text (spelled ls ++ tail))
          (hkind : found = none ∨ siteKind? (l :: ls) = siteKind? ls) :
          (found = none ∨ siteKind? (l :: ls) = none → Passed before (spelled (l :: ls)) tail) ∧
          ∀ f kind, found = some f → siteKind? (l :: ls) = some kind →
            Reported before (spelled (l :: ls) ++ tail) kind (f.after (spelled (l :: ls))) := by
        constructor
        · intro hnone
          refine hpassed.append (hpass ?_)
          rcases hkind with hfound | hkind
          · exact .inl hfound
          · rwa [← hkind]
        · rintro f kind rfl hsome
          rcases hkind with hfound | hkind
          · cases hfound
          · rw [hshift, spelled_cons, List.append_assoc]
            exact hpassed.reported (hreport f kind rfl (hkind ▸ hsome))
      cases hname : l.isName with
      | false =>
          exact hskip (passed_other hv hname before _)
            (.inr (siteKind?_cons_of_none (Lexeme.kind?_of_other hname)))
      | true =>
          obtain ⟨w, rfl⟩ := Lexeme.exists_of_isName hname
          have hsite := site?_spelled h hf (hb _ rfl rfl)
          by_cases hfrom : .word fromWord ∈ ls
          · rw [if_pos hfrom] at hsite
            exact hskip (passed_word hv hsite) (.inr (by rw [siteKind?, if_pos hfrom]))
          · rw [if_neg hfrom] at hsite
            cases hk : (Lexeme.word w).kind? with
            | none =>
                rw [hk] at hsite
                exact hskip (passed_word hv hsite) (.inr (siteKind?_cons_of_none hk))
            | some kind =>
                rw [hk, Option.bind_some] at hsite
                cases found with
                | none => exact hskip (passed_word hv hsite) (.inl rfl)
                | some f =>
                    have hkind : siteKind? (.word w :: ls) = some kind := by
                      rw [siteKind?, if_neg hfrom, hk, Option.some_or]
                    refine ⟨fun hnone => ?_, fun f' kind' hf' hkind' => ?_⟩
                    · rw [hkind] at hnone
                      rcases hnone with hnone | hnone <;> cases hnone
                    · cases hf'
                      obtain rfl := Option.some.inj (hkind.symm.trans hkind')
                      obtain ⟨c, w, rfl⟩ := List.exists_cons_of_ne_nil hv.1
                      rw [spelled_cons, List.append_assoc]
                      exact reported_of_site? (hv.2 c List.mem_cons_self) hsite

/-- The site in front of the ending is that of the first keyword from which a clause leads to the
literal. -/
theorem sitesFrom_spelled (h : Apart ls next) (he : Ending next tail found)
    {before : List Char} (hb : Opens before.head? ls next) (start line : Nat) :
    sitesFrom start line (pieces before (spelled ls ++ tail)) =
      (found.bind fun l => (siteKind? ls).map fun kind =>
        siteBehind start line kind (spelled ls ++ l.lead) l.raw).toList := by
  obtain ⟨hpass, hreport⟩ := passed_or_reported h he.follows hb
  cases hfound : found with
  | none =>
      rw [hpass (.inl hfound), he.silent]
      rfl
  | some f =>
      cases hkind : siteKind? ls with
      | none =>
          rw [hpass (.inr hkind), he.silent]
          rfl
      | some kind =>
          have hrest : f.rest = [] := he.last f hfound
          rw [hreport f kind hfound hkind, Literal.after_rest, hrest]
          simp [pieces, sitesFrom]

theorem passed_spacings (hv : ∀ l ∈ ls, l.Valid) (hl : ∀ l ∈ ls, l.isSpacing = true)
    (before s : List Char) : Passed before (spelled ls) s := by
  induction ls generalizing before with
  | nil => exact .nil before s
  | cons l ls ih =>
      have hname := Lexeme.isName_of_isSpacing (hl l List.mem_cons_self)
      exact (passed_other (hv l List.mem_cons_self) hname before _).append
        (ih (fun m hm => hv m (List.mem_cons_of_mem l hm))
          (fun m hm => hl m (List.mem_cons_of_mem l hm)) _)

end ImportResolver.Source

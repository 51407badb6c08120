import ImportResolver.Proofs.Source.Declaration
/- Source text as tokens: words, signs, blanks, comments and literals. No reader stops within a
token, and a literal is read as one whether its text is wanted or skipped. -/
namespace ImportResolver.Source

/-- A character of a literal, or one behind a backslash. -/
inductive Letter where
  | plain (c : Char)
  | escaped (c : Char)
  deriving DecidableEq

namespace Letter

def text : Letter → List Char
  | .plain c => [c]
  | .escaped c => ['\\', c]

/-- Line feeds stand between backticks, or escaped. -/
def Valid (quote : Char) : Letter → Prop
  | .plain c => c ≠ quote ∧ c ≠ '\\' ∧ (c = '\n' → quote = '\x60')
  | .escaped _ => True

instance (quote : Char) (l : Letter) : Decidable (l.Valid quote) :=
  match l with
  | .plain c => inferInstanceAs (Decidable (c ≠ quote ∧ c ≠ '\\' ∧ (c = '\n' → quote = '\x60')))
  | .escaped _ => inferInstanceAs (Decidable True)

/-- No substitution begins with the first of two letters. -/
def Apart (a b : Letter) : Prop := ¬ (a = .plain '$' ∧ b = .plain '\x7b')

instance : DecidableRel Apart := fun _ _ => inferInstanceAs (Decidable (¬ (_ ∧ _)))

end Letter

def content (body : List Letter) : List Char := body.flatMap Letter.text

inductive Token where
  | lexeme (l : Lexeme)
  | sign (c : Char)
  | literal (quote : Char) (body : List Letter)
  deriving DecidableEq

namespace Token

def text : Token → List Char
  | .lexeme l => l.text
  | .sign c => [c]
  | .literal quote body => quote :: (content body ++ [quote])

def Valid : Token → Prop
  | .lexeme l => l.Valid
  | .sign c => isClauseChar c = false ∧ isQuote c = false ∧ c ≠ '/' ∧ c ≠ '\\'
  | .literal quote body => isQuote quote = true ∧ (∀ l ∈ body, l.Valid quote) ∧
      (quote = '\x60' → List.IsChain Letter.Apart body)

instance (t : Token) : Decidable t.Valid :=
  match t with
  | .lexeme l => inferInstanceAs (Decidable l.Valid)
  | .sign c =>
    inferInstanceAs (Decidable (isClauseChar c = false ∧ isQuote c = false ∧ c ≠ '/' ∧ c ≠ '\\'))
  | .literal quote body => inferInstanceAs (Decidable (isQuote quote = true ∧
      (∀ l ∈ body, l.Valid quote) ∧ (quote = '\x60' → List.IsChain Letter.Apart body)))

abbrev word (w : List Char) : Token := .lexeme (.word w)

def isName : Token → Bool
  | .lexeme l => l.isName
  | _ => false

/-- Blanks and comments. -/
def isSpacing : Token → Bool
  | .lexeme l => l.isSpacing
  | _ => false

def isLexeme : Token → Bool
  | .lexeme _ => true
  | _ => false

/-- Two words would run into each other. -/
def Apart (a b : Token) : Prop := ¬ (a.isName = true ∧ b.isName = true)

instance : DecidableRel Apart := fun _ _ => inferInstanceAs (Decidable (¬ (_ ∧ _)))

end Token

def written (ts : List Token) : List Char := ts.flatMap Token.text

@[simp] theorem written_nil : written [] = [] := rfl

@[simp] theorem written_cons (t : Token) (ts : List Token) :
    written (t :: ts) = t.text ++ written ts := rfl

@[simp] theorem written_append (ts us : List Token) :
    written (ts ++ us) = written ts ++ written us := List.flatMap_append

structure WellSpaced (ts : List Token) : Prop where
  valid : ∀ t ∈ ts, t.Valid
  chain : List.IsChain Token.Apart ts

variable {ts : List Token} {t : Token} {tail : List Char}

theorem WellSpaced.rest (h : WellSpaced (t :: ts)) : WellSpaced ts :=
  ⟨fun m hm => h.valid m (List.mem_cons_of_mem t hm), List.isChain_of_isChain_cons h.chain⟩

theorem WellSpaced.behind {pre : List Token} (h : WellSpaced (pre ++ ts)) : WellSpaced ts := by
  induction pre with
  | nil => exact h
  | cons t pre ih => exact ih h.rest

/-- The tokens are followed by nothing, or by a last comment. -/
abbrev Closing (tail : List Char) : Prop := Ending (.line []) tail none

theorem closing_nil : Closing [] := by
  refine ⟨fun _ c hc => ?_, fun prev _ => ?_, fun c hc => ?_, fun before start line => ?_,
    fun l hl => ?_⟩
  · cases hc
  · rw [clause?]
  · rw [trivia_of_none rfl] at hc
    cases hc
  · rw [pieces]
    rfl
  · cases hl

theorem isWord_of_not_isClauseChar {c : Char} (h : isClauseChar c = false) : isWord c = false := by
  cases hw : isWord c with
  | false => rfl
  | true =>
      rw [isClauseChar_of_isWord hw] at h
      cases h

theorem isSpace_of_not_isClauseChar {c : Char} (h : isClauseChar c = false) :
    isSpace c = false := by
  cases hs : isSpace c with
  | false => rfl
  | true =>
      rw [isClauseChar_of_isSpace hs] at h
      cases h

theorem Token.head?_text (hv : t.Valid) (hn : t.isName = false) (s : List Char) :
    ∀ c ∈ (t.text ++ s).head?, isWord c = false := by
  intro c hc
  cases t with
  | lexeme l => exact head?_other hv hn s c hc
  | sign d =>
      obtain rfl := Option.some.inj hc
      exact isWord_of_not_isClauseChar hv.1
  | literal quote body =>
      obtain rfl := Option.some.inj hc
      exact isWord_of_isQuote hv.1

/-- What comes after a word does not continue it. -/
theorem WellSpaced.head (h : WellSpaced (t :: ts)) (hn : t.isName = true) (hc : Closing tail) :
    ∀ c ∈ (written ts ++ tail).head?, isWord c = false := by
  cases ts with
  | nil => exact hc.apart rfl
  | cons m ts =>
      have hm : m.isName = false := by
        cases hm : m.isName with
        | false => rfl
        | true => exact absurd ⟨hn, hm⟩ (List.isChain_cons_cons.mp h.chain).1
      rw [written_cons, List.append_assoc]
      exact Token.head?_text (h.valid m (by simp)) hm _

/-- A word may begin here. -/
def Begins (prev : Option Char) (ts : List Token) : Prop :=
  ∀ m ∈ ts.head?, m.isName = true → isTied prev = false

theorem WellSpaced.begins_word (h : WellSpaced (t :: ts)) (hn : t.isName = true)
    (prev : Option Char) : Begins prev ts := by
  intro m hm hname
  obtain ⟨us, rfl⟩ := List.head?_eq_some_iff.mp hm
  exact absurd ⟨hn, hname⟩ (List.isChain_cons_cons.mp h.chain).1

theorem WellSpaced.begins {l : Lexeme} (h : WellSpaced (.lexeme l :: ts)) :
    Begins l.text.getLast? ts := by
  cases hn : l.isName with
  | true => exact h.begins_word hn _
  | false => exact fun _ _ _ => getLast?_other (h.valid _ List.mem_cons_self) hn

theorem stringBody_letters {quote : Char} (hq : isQuote quote = true) {body : List Letter}
    (hv : ∀ l ∈ body, l.Valid quote) (s : List Char) :
    stringBody quote (content body ++ quote :: s) = (content body ++ [quote], s) := by
  induction body with
  | nil => exact stringBody_of_isPlain hq (IsPlain.nil quote) s
  | cons l body ih =>
      have hbody := ih fun m hm => hv m (List.mem_cons_of_mem l hm)
      cases l with
      | plain c =>
          obtain ⟨hne, hescape, hfeed⟩ : Letter.Valid quote (.plain c) := hv _ List.mem_cons_self
          change stringBody quote (c :: (content body ++ quote :: s)) = _
          rw [stringBody, if_neg hne, if_neg (by simpa using hfeed), hbody]
          · rfl
          · exact fun _ _ e _ => hescape e
      | escaped c =>
          change stringBody quote ('\\' :: c :: (content body ++ quote :: s)) = _
          rw [stringBody, hbody]
          rfl

theorem plainContent?_letters {quote : Char} (hq : isQuote quote = true) {body : List Letter}
    (hv : ∀ l ∈ body, l.Valid quote) {s : List Char} {cut : Cut}
    (h : plainContent? quote (content body ++ quote :: s) = some cut) :
    cut = (content body, s) := by
  induction body generalizing cut with
  | nil =>
      change plainContent? quote (quote :: s) = some cut at h
      rw [plainContent?, if_pos rfl] at h
      exact (Option.some.inj h).symm
  | cons l body ih =>
      have hbody := fun m hm => hv m (List.mem_cons_of_mem l hm)
      cases l with
      | plain c =>
          obtain ⟨hne, -, -⟩ : Letter.Valid quote (.plain c) := hv _ List.mem_cons_self
          change plainContent? quote (c :: (content body ++ quote :: s)) = some cut at h
          rw [plainContent?, if_neg hne] at h
          split_ifs at h
          obtain ⟨cut', hcut, rfl⟩ := Option.map_eq_some_iff.mp h
          rw [ih hbody hcut]
          rfl
      | escaped c =>
          change plainContent? quote ('\\' :: c :: (content body ++ quote :: s)) = some cut at h
          have hne : '\\' ≠ quote := by
            rintro rfl
            cases hq
          rw [plainContent?, if_neg hne, if_pos (by simp)] at h
          cases h

/-- Letters without escapes and line feeds are their own value. -/
theorem isPlain_content {quote : Char} {body : List Letter} (hv : ∀ l ∈ body, l.Valid quote)
    (hs : quote = '\x60' → List.IsChain Letter.Apart body) (hescape : '\\' ∉ content body)
    (hfeed : '\n' ∉ content body) : IsPlain quote (content body) := by
  induction body with
  | nil => exact .nil quote
  | cons l body ih =>
      cases l with
      | plain c =>
          obtain ⟨hne, -, -⟩ : Letter.Valid quote (.plain c) := hv _ List.mem_cons_self
          have hcontent : content (.plain c :: body) = c :: content body := rfl
          rw [hcontent, List.mem_cons, not_or] at hescape hfeed
          rw [hcontent, isPlain_cons_iff]
          refine ⟨⟨hne, fun e => hescape.1 e.symm, fun e => hfeed.1 e.symm, ?_⟩,
            ih (fun m hm => hv m (List.mem_cons_of_mem _ hm))
              (fun e => List.isChain_of_isChain_cons (hs e)) hescape.2 hfeed.2⟩
          rintro ⟨rfl, rfl, hhead⟩
          cases body with
          | nil => cases hhead
          | cons m body =>
              cases m with
              | plain d =>
                  obtain rfl := Option.some.inj hhead
                  exact (List.isChain_cons_cons.mp (hs rfl)).1 ⟨rfl, rfl⟩
              | escaped d => cases Option.some.inj hhead
      | escaped c => exact absurd (List.mem_append_left _ List.mem_cons_self) hescape

theorem trivia_written {gap : List Token} (hv : ∀ t ∈ gap, t.Valid)
    (hgap : ∀ t ∈ gap, t.isSpacing = true) (s : List Char) :
    trivia (written gap ++ s) = (written gap ++ (trivia s).1, (trivia s).2) := by
  induction gap with
  | nil => rfl
  | cons t gap ih =>
      have hrest := ih (fun m hm => hv m (List.mem_cons_of_mem t hm))
        (fun m hm => hgap m (List.mem_cons_of_mem t hm))
      have ht := hgap t List.mem_cons_self
      cases t with
      | lexeme l =>
          have hl : l.Valid := hv _ List.mem_cons_self
          have hfirst : trivia (l.text ++ (written gap ++ s)) = _ := trivia_spacing hl ht _
          rw [hrest] at hfirst
          rw [written_cons, List.append_assoc, List.append_assoc]
          exact hfirst
      | sign c => cases ht
      | literal quote body => cases ht

theorem Token.trivia_solid (hv : t.Valid) (ht : t.isSpacing = false) (s : List Char) :
    trivia (t.text ++ s) = ([], t.text ++ s) := by
  cases t with
  | lexeme l =>
      obtain ⟨c, text, htext, hc, hspace⟩ := text_of_not_spacing hv ht
      rw [Token.text, htext, List.cons_append, trivia_of_head hspace (isClauseChar_ne_slash hc)]
  | sign c => exact trivia_of_head (isSpace_of_not_isClauseChar hv.1) hv.2.2.1
  | literal quote body => exact trivia_of_head (isSpace_of_isQuote hv.1) (isQuote_ne_slash hv.1)

theorem exists_gap (ts : List Token) : ∃ gap rest, ts = gap ++ rest ∧
    (∀ t ∈ gap, t.isSpacing = true) ∧ ∀ t ∈ rest.head?, t.isSpacing = false := by
  refine ⟨ts.takeWhile Token.isSpacing, ts.dropWhile Token.isSpacing, ?_, ?_, ?_⟩
  · exact List.takeWhile_append_dropWhile.symm
  · exact fun t ht => List.mem_takeWhile_imp ht
  · intro t ht
    have := List.head?_dropWhile_not Token.isSpacing ts
    rw [Option.mem_def.mp ht] at this
    simpa using this

/-- The literal behind some tokens. -/
def literalBehind (pre : List Token) (quote : Char) (body : List Letter) (rest : List Char) :
    Literal := ⟨written pre ++ [quote], content body, quote, rest⟩

theorem literalBehind_after (us pre : List Token) (quote : Char) (body : List Letter)
    (rest : List Char) :
    (literalBehind pre quote body rest).after (written us) =
      literalBehind (us ++ pre) quote body rest := by
  simp [literalBehind, Literal.after]

theorem Lexeme.begins {l : Lexeme} (hv : l.Valid) :
    ∃ c s, l.text = c :: s ∧ (isClauseChar c = true ∨ c = '/') := by
  cases l with
  | word w =>
      obtain ⟨hne, hw⟩ := hv
      obtain ⟨c, w, rfl⟩ := List.exists_cons_of_ne_nil hne
      exact ⟨c, w, rfl, .inl (isClauseChar_of_isWord (hw c List.mem_cons_self))⟩
  | mark c =>
      refine ⟨c, [], rfl, .inl ?_⟩
      rcases hv with rfl | rfl | rfl | rfl <;> rfl
  | blank c => exact ⟨c, [], rfl, .inl (isClauseChar_of_isSpace hv)⟩
  | block body => exact ⟨'/', _, rfl, .inr rfl⟩
  | line body => exact ⟨'/', _, rfl, .inr rfl⟩

theorem literal?_token (hv : t.Valid) {s : List Char} {l : Literal}
    (h : literal? (t.text ++ s) = some l) :
    ∃ quote body, t = .literal quote body ∧ l = literalBehind [] quote body s := by
  cases t with
  | lexeme lex =>
      obtain ⟨c, text, htext, hc⟩ := Lexeme.begins hv
      have hquote : isQuote c = false := by
        rcases hc with hc | rfl
        · exact isQuote_of_isClauseChar hc
        · rfl
      have hnone : literal? (lex.text ++ s) = none := by
        rw [htext]
        exact literal?_eq_none_of_head? hquote
      cases hnone.symm.trans h
  | sign c =>
      have hnone : literal? (c :: s) = none := literal?_eq_none_of_head? hv.2.1
      cases hnone.symm.trans h
  | literal quote body =>
      refine ⟨quote, body, rfl, ?_⟩
      change literal? (quote :: (content body ++ [quote] ++ s)) = some l at h
      rw [literal?, if_pos hv.1, List.append_assoc] at h
      obtain ⟨cut, hcut, rfl⟩ := Option.map_eq_some_iff.mp h
      rw [plainContent?_letters hv.1 hv.2.1 hcut]
      rfl

/-- Behind blanks and comments there is a token, or nothing that a keyword leads to. -/
theorem trivia_tokens (h : WellSpaced ts) (hc : Closing tail) :
    (∀ c ∈ (trivia (written ts ++ tail)).2.head?, isQuote c = false ∧ c ≠ '(') ∨
    ∃ gap t post, ts = gap ++ t :: post ∧ (∀ t ∈ gap, t.isSpacing = true) ∧
      trivia (written ts ++ tail) = (written gap, t.text ++ (written post ++ tail)) := by
  obtain ⟨gap, rest, rfl, hgap, hrest⟩ := exists_gap ts
  have ht := trivia_written (fun t ht => h.valid t (List.mem_append_left rest ht)) hgap
    (written rest ++ tail)
  rw [← List.append_assoc, ← written_append] at ht
  cases rest with
  | nil =>
      rw [ht]
      exact .inl hc.head
  | cons t post =>
      have hsolid := Token.trivia_solid (h.valid t (by simp)) (hrest t rfl) (written post ++ tail)
      rw [← List.append_assoc, ← written_cons] at hsolid
      refine .inr ⟨gap, t, post, rfl, hgap, ?_⟩
      rw [ht, hsolid, List.append_nil, written_cons, List.append_assoc]

theorem literal?_written (h : WellSpaced ts) (hc : Closing tail) {l : Literal}
    (hl : literal? (trivia (written ts ++ tail)).2 = some l) :
    ∃ gap quote body post, ts = gap ++ .literal quote body :: post ∧
      (∀ t ∈ gap, t.isSpacing = true) ∧ (trivia (written ts ++ tail)).1 = written gap ∧
      l = literalBehind [] quote body (written post ++ tail) := by
  rcases trivia_tokens h hc with hhead | ⟨gap, t, post, rfl, hgap, ht⟩
  · rw [literal?_eq_none_of_head?] at hl
    · cases hl
    · cases hh : (trivia (written ts ++ tail)).2.head? with
      | none => rfl
      | some c => exact (hhead c hh).1
  · rw [ht] at hl ⊢
    obtain ⟨quote, body, rfl, rfl⟩ := literal?_token (h.valid t (by simp)) hl
    exact ⟨gap, quote, body, post, rfl, hgap, rfl, rfl⟩

theorem callArgument?_written (h : WellSpaced ts) (hc : Closing tail) {l : Literal}
    (hl : callArgument? (written ts ++ tail) = some l) :
    ∃ gap quote body post, ts = gap ++ .literal quote body :: post ∧
      (∀ t ∈ gap, t.isSpacing = true) ∧
      l = literalBehind gap quote body (written post ++ tail) := by
  obtain ⟨l', hl', rfl, -⟩ := callArgument?_eq_some_iff.mp hl
  obtain ⟨gap, quote, body, post, hts, hgap, htrivia, rfl⟩ := literal?_written h hc hl'
  refine ⟨gap, quote, body, post, hts, hgap, ?_⟩
  rw [htrivia, literalBehind_after, List.append_nil]

theorem clause?_written (h : WellSpaced ts) (hc : Closing tail) {prev : Option Char}
    (hprev : Begins prev ts) {l : Literal} (hl : clause? prev (written ts ++ tail) = some l) :
    ∃ mid gap quote body post,
      ts = mid ++ .word fromWord :: (gap ++ .literal quote body :: post) ∧
      (∀ t ∈ mid, t.isLexeme = true) ∧ (∀ t ∈ gap, t.isSpacing = true) ∧
      l = literalBehind (mid ++ .word fromWord :: gap) quote body (written post ++ tail) := by
  induction ts generalizing prev l with
  | nil =>
      rw [written_nil, List.nil_append, hc.clause prev (fun e => by cases e)] at hl
      cases hl
  | cons t ts ih =>
      have hv := h.valid t List.mem_cons_self
      rw [written_cons, List.append_assoc] at hl
      cases t with
      | sign c =>
          rw [clause?_stopped rfl hv.1 hv.2.2.1] at hl
          cases hl
      | literal quote body =>
          have hstop : isClauseChar quote = false := by
            rcases isQuote_iff.mp hv.1 with rfl | rfl | rfl <;> decide
          rw [clause?_stopped rfl hstop (isQuote_ne_slash hv.1)] at hl
          cases hl
      | lexeme lex =>
          by_cases hf : lex = .word fromWord
          · subst hf
            have hk : keyword? fromWord prev (fromWord ++ (written ts ++ tail)) = some _ :=
              keyword?_of_word (hprev _ rfl rfl) (h.head rfl hc)
            change clause? prev (fromWord ++ (written ts ++ tail)) = some l at hl
            rw [clause?_of_from hk] at hl
            obtain ⟨l', hl', rfl⟩ := Option.map_eq_some_iff.mp hl
            obtain ⟨gap, quote, body, post, rfl, hgap, htrivia, rfl⟩ := literal?_written h.rest hc hl'
            refine ⟨[], gap, quote, body, post, rfl, fun t ht => absurd ht List.not_mem_nil, hgap, ?_⟩
            have hlead : fromWord ++ written gap = written (.word fromWord :: gap) := rfl
            rw [htrivia, hlead, literalBehind_after, List.append_nil, List.nil_append]
          · have hpass : clause? prev (lex.text ++ (written ts ++ tail)) =
                (clause? lex.text.getLast? (written ts ++ tail)).map (Literal.after lex.text) := by
              cases hname : lex.isName with
              | false => exact clause?_other hv hname prev _
              | true =>
                  obtain ⟨w, rfl⟩ := Lexeme.exists_of_isName hname
                  exact clause?_word hv (fun e => hf (e ▸ rfl)) (h.head rfl hc) prev
            change clause? prev (lex.text ++ (written ts ++ tail)) = some l at hl
            rw [hpass] at hl
            obtain ⟨l', hl', rfl⟩ := Option.map_eq_some_iff.mp hl
            obtain ⟨mid, gap, quote, body, post, rfl, hmid, hgap, rfl⟩ := ih h.rest h.begins hl'
            refine ⟨.lexeme lex :: mid, gap, quote, body, post, rfl, ?_, hgap, ?_⟩
            · exact List.forall_mem_cons.mpr ⟨rfl, hmid⟩
            · have := literalBehind_after [.lexeme lex] (mid ++ .word fromWord :: gap) quote body
                (written post ++ tail)
              simpa [written, Token.text] using this

end ImportResolver.Source

import ImportResolver.Proofs.Source.Clause
/- The words, marks, blanks and comments that import and export clauses are written with, and what
the readers make of their text. -/
namespace ImportResolver.Source

inductive Lexeme where
  | word (text : List Char)
  | mark (c : Char)
  | blank (c : Char)
  | block (body : List Char)
  | line (body : List Char)
  deriving DecidableEq

namespace Lexeme

/-- A line comment is written with the line feed that ends it. -/
def text : Lexeme → List Char
  | .word text => text
  | .mark c => [c]
  | .blank c => [c]
  | .block body => '/' :: '*' :: (body ++ ['*', '/'])
  | .line body => '/' :: '/' :: (body ++ ['\n'])

def Valid : Lexeme → Prop
  | .word text => text ≠ [] ∧ ∀ c ∈ text, isWord c = true
  | .mark c => c = '*' ∨ c = '\x7b' ∨ c = '\x7d' ∨ c = ','
  | .blank c => isSpace c = true
  | .block body => ¬ ['*', '/'] <:+: body
  | .line body => '\n' ∉ body

def isName : Lexeme → Bool
  | .word _ => true
  | _ => false

/-- Blanks and comments. -/
def isSpacing : Lexeme → Bool
  | .word _ => false
  | .mark _ => false
  | _ => true

/-- Two words would run into each other. -/
def Apart (a b : Lexeme) : Prop := ¬ (a.isName = true ∧ b.isName = true)

theorem exists_of_isName {l : Lexeme} (h : l.isName = true) : ∃ w, l = .word w := by
  cases l with
  | word w => exact ⟨w, rfl⟩
  | mark c => cases h
  | blank c => cases h
  | block body => cases h
  | line body => cases h

theorem isName_of_isSpacing {l : Lexeme} (h : l.isSpacing = true) : l.isName = false := by
  cases l with
  | word w => cases h
  | mark c => rfl
  | blank c => rfl
  | block body => rfl
  | line body => rfl

instance (l : Lexeme) : Decidable l.Valid :=
  match l with
  | .word text =>
    decidable_of_iff (text ≠ [] ∧ text.all Source.isWord = true)
      (and_congr_right fun _ => List.all_eq_true)
  | .mark c => inferInstanceAs (Decidable (c = '*' ∨ c = '\x7b' ∨ c = '\x7d' ∨ c = ','))
  | .blank c => inferInstanceAs (Decidable (isSpace c = true))
  | .block body => inferInstanceAs (Decidable (¬ ['*', '/'] <:+: body))
  | .line body => inferInstanceAs (Decidable ('\n' ∉ body))

instance : DecidableRel Apart := fun _ _ => inferInstanceAs (Decidable (¬ (_ ∧ _)))

end Lexeme

def spelled (ls : List Lexeme) : List Char := ls.flatMap Lexeme.text

@[simp] theorem spelled_nil : spelled [] = [] := rfl

@[simp] theorem spelled_cons (l : Lexeme) (ls : List Lexeme) :
    spelled (l :: ls) = l.text ++ spelled ls := rfl

theorem blockBody_of_valid {body : List Char} (h : ¬ ['*', '/'] <:+: body) (s : List Char) :
    blockBody (body ++ ('*' :: '/' :: s)) = (body ++ ['*', '/'], s) := by
  induction body with
  | nil => rfl
  | cons c body ih =>
      have hbody : ¬ ['*', '/'] <:+: body := fun hb => h (List.infix_cons hb)
      rw [List.cons_append, blockBody, ih hbody]
      · rfl
      · rintro t rfl ht
        cases body with
        | nil => cases ht
        | cons d body =>
            obtain ⟨rfl, -⟩ := List.cons.inj ht
            exact h ⟨[], body, rfl⟩

theorem comment?_block {body : List Char} (h : ¬ ['*', '/'] <:+: body) (s : List Char) :
    comment? ((Lexeme.block body).text ++ s) = some ((Lexeme.block body).text, s) := by
  have hbody := blockBody_of_valid h s
  simp only [Lexeme.text, List.cons_append, List.append_assoc, List.nil_append, comment?, hbody]
  rfl

theorem comment?_line {body : List Char} (h : '\n' ∉ body) {s : List Char}
    (hs : ∀ c ∈ s.head?, c = '\n') :
    comment? ('/' :: '/' :: (body ++ s)) = some ('/' :: '/' :: body, s) := by
  have hcut : cutWhile (· ≠ '\n') (body ++ s) = (body, s) := by
    apply cutWhile_eq
    · intro c hc
      simpa using fun e : c = '\n' => h (e ▸ hc)
    · intro c hc
      simpa using hs c hc
  rw [comment?, hcut]
  rfl

theorem trivia_blank {c : Char} (h : isSpace c = true) (s : List Char) :
    trivia (c :: s) = (c :: (trivia s).1, (trivia s).2) := by
  have hcut : cutWhile isSpace (c :: s) =
      (c :: (cutWhile isSpace s).1, (cutWhile isSpace s).2) := by
    simp [cutWhile, h]
  cases hc : comment? (cutWhile isSpace s).2 with
  | none => rw [trivia_of_none hc, trivia_of_none (by rw [hcut]; exact hc), hcut]
  | some cut =>
      rw [trivia_of_comment hc, @trivia_of_comment (c :: s) cut.1 cut.2 (by rw [hcut]; exact hc),
        hcut]
      rfl

theorem trivia_comment {s text rest : List Char} (h : comment? s = some (text, rest)) :
    trivia s = (text ++ (trivia rest).1, (trivia rest).2) := by
  have hcut : cutWhile isSpace s = ([], s) := by
    cases s with
    | nil => cases h
    | cons c s =>
        have hc : c = '/' := by
          by_contra hne
          rw [comment?_eq_none_of_ne hne] at h
          cases h
        subst hc
        rfl
  rw [@trivia_of_comment s text rest (by rw [hcut]; exact h), hcut]
  rfl

/-- Blanks and comments are skipped. -/
theorem trivia_spacing {l : Lexeme} (hv : l.Valid) (hl : l.isSpacing = true) (s : List Char) :
    trivia (l.text ++ s) = (l.text ++ (trivia s).1, (trivia s).2) := by
  cases l with
  | word text => cases hl
  | mark c => cases hl
  | blank c => exact trivia_blank hv s
  | block body => exact trivia_comment (comment?_block hv s)
  | line body =>
      have hs : ∀ c ∈ ('\n' :: s).head?, c = '\n' := fun c hc => (Option.some.inj hc).symm
      have hc := comment?_line hv hs
      rw [Lexeme.text, List.cons_append, List.cons_append, List.append_assoc,
        List.singleton_append, trivia_comment hc, trivia_blank (by decide)]
      simp

theorem trivia_of_head {c : Char} {s : List Char} (hspace : isSpace c = false) (hc : c ≠ '/') :
    trivia (c :: s) = ([], c :: s) := by
  have hcut : cutWhile isSpace (c :: s) = ([], c :: s) := by simp [cutWhile, hspace]
  rw [trivia_of_none (by rw [hcut]; exact comment?_eq_none_of_ne hc), hcut]

theorem trivia_spacings {ls : List Lexeme} (hv : ∀ l ∈ ls, l.Valid)
    (hl : ∀ l ∈ ls, l.isSpacing = true) (s : List Char) :
    trivia (spelled ls ++ s) = (spelled ls ++ (trivia s).1, (trivia s).2) := by
  induction ls with
  | nil => rfl
  | cons l ls ih =>
      rw [spelled_cons, List.append_assoc, trivia_spacing (hv l List.mem_cons_self)
        (hl l List.mem_cons_self), ih (fun m hm => hv m (List.mem_cons_of_mem l hm))
        (fun m hm => hl m (List.mem_cons_of_mem l hm)), List.append_assoc]

theorem text_ne_nil {l : Lexeme} (hv : l.Valid) : l.text ≠ [] := by
  cases l with
  | word w => exact hv.1
  | mark c => exact List.cons_ne_nil c []
  | blank c => exact List.cons_ne_nil c []
  | block body => exact List.cons_ne_nil _ _
  | line body => exact List.cons_ne_nil _ _

theorem isClauseChar_of_isWord {c : Char} (h : isWord c = true) : isClauseChar c = true := by
  simp [isClauseChar, h]

theorem isWord_ne_slash {c : Char} (h : isWord c = true) : c ≠ '/' :=
  isClauseChar_ne_slash (isClauseChar_of_isWord h)

theorem isWord_of_mem_from : ∀ c ∈ fromWord, isWord c = true := List.all_eq_true.mp (by decide)

theorem isWord_of_mem_import : ∀ c ∈ importWord, isWord c = true :=
  List.all_eq_true.mp (by decide)

theorem isWord_of_mem_export : ∀ c ∈ exportWord, isWord c = true :=
  List.all_eq_true.mp (by decide)

/-- A keyword at the start of a word is all of the word. -/
theorem eq_of_keyword? {word w s rest : List Char} {prev : Option Char}
    (hword : ∀ c ∈ word, isWord c = true) (hw : ∀ c ∈ w, isWord c = true)
    (hs : ∀ c ∈ s.head?, isWord c = false) (h : keyword? word prev (w ++ s) = some rest) :
    w = word ∧ s = rest := by
  obtain ⟨-, he, hr⟩ := keyword?_eq_some_iff.mp h
  have hrest : ∀ c ∈ rest.head?, isWord c = false := by
    intro c hc
    rw [hc] at hr
    exact hr
  have hcut := cutWhile_eq hw hs
  rw [he, cutWhile_eq hword hrest] at hcut
  cases hcut
  exact ⟨rfl, rfl⟩

theorem keyword?_of_word {word s : List Char} {prev : Option Char}
    (hprev : (prev.any fun c => isWord c || c = '.') = false)
    (hs : ∀ c ∈ s.head?, isWord c = false) : keyword? word prev (word ++ s) = some s := by
  refine keyword?_eq_some_iff.mpr ⟨hprev, rfl, ?_⟩
  cases hh : s.head? with
  | none => rfl
  | some c => exact hs c hh

theorem keyword?_within {word s : List Char} {p : Char} (hp : isWord p = true) :
    keyword? word (some p) s = none := by
  rw [Option.eq_none_iff_forall_ne_some]
  intro rest h
  obtain ⟨hprev, -⟩ := keyword?_eq_some_iff.mp h
  simp [hp] at hprev

/-- Within a word no keyword begins. -/
theorem clause?_within {w : List Char} (hw : ∀ c ∈ w, isWord c = true) {p : Char}
    (hp : isWord p = true) (s : List Char) :
    clause? (some p) (w ++ s) = (clause? (w.getLast?.or (some p)) s).map (Literal.after w) := by
  induction w generalizing p with
  | nil => exact (Literal.map_after_nil _).symm
  | cons c w ih =>
      have hc := hw c List.mem_cons_self
      rw [List.cons_append, clause?_of_char (comment?_eq_none_of_ne (isWord_ne_slash hc))
        (keyword?_within hp), if_pos (isClauseChar_of_isWord hc),
        ih (fun d hd => hw d (List.mem_cons_of_mem c hd)) hc, Literal.map_after_after,
        getLast?_cons_or]
      rfl

/-- Words other than the keyword are passed over. -/
theorem clause?_word {w s : List Char} (hv : (Lexeme.word w).Valid) (hf : w ≠ fromWord)
    (hs : ∀ c ∈ s.head?, isWord c = false) (prev : Option Char) :
    clause? prev (w ++ s) = (clause? w.getLast? s).map (Literal.after w) := by
  obtain ⟨hne, hw⟩ := hv
  cases w with
  | nil => exact absurd rfl hne
  | cons c w =>
      have hc := hw c List.mem_cons_self
      have hk : keyword? fromWord prev (c :: (w ++ s)) = none := by
        rw [Option.eq_none_iff_forall_ne_some]
        intro rest h
        exact hf (eq_of_keyword? isWord_of_mem_from hw hs h).1
      rw [List.cons_append, clause?_of_char (comment?_eq_none_of_ne (isWord_ne_slash hc)) hk,
        if_pos (isClauseChar_of_isWord hc),
        clause?_within (fun d hd => hw d (List.mem_cons_of_mem c hd)) hc, Literal.map_after_after,
        ← getLast?_cons_or c w none, Option.or_none]
      rfl

/-- So is everything that is no word. -/
theorem clause?_other {l : Lexeme} (hv : l.Valid) (hl : l.isName = false) (prev : Option Char)
    (s : List Char) :
    clause? prev (l.text ++ s) = (clause? l.text.getLast? s).map (Literal.after l.text) := by
  cases l with
  | word text => cases hl
  | mark c =>
      have hc : ∀ d ∈ [c], isClauseChar d = true ∧ d ≠ 'f' := by
        intro d hd
        obtain rfl := List.mem_singleton.mp hd
        rcases hv with rfl | rfl | rfl | rfl <;> decide
      exact clause?_passed hc prev s
  | blank c =>
      have hc : ∀ d ∈ [c], isClauseChar d = true ∧ d ≠ 'f' := by
        intro d hd
        obtain rfl := List.mem_singleton.mp hd
        exact ⟨isClauseChar_of_isSpace hv, isSpace_ne_f hv⟩
      exact clause?_passed hc prev s
  | block body => exact clause?_of_comment (comment?_block hv s)
  | line body =>
      have hs : ∀ c ∈ ('\n' :: s).head?, c = '\n' := fun c hc => (Option.some.inj hc).symm
      have hfeed : ∀ d ∈ ['\n'], isClauseChar d = true ∧ d ≠ 'f' :=
        List.forall_mem_singleton.mpr (by decide)
      have htext : (Lexeme.line body).text ++ s = '/' :: '/' :: (body ++ '\n' :: s) := by
        simp [Lexeme.text]
      have hlast : (Lexeme.line body).text.getLast? = some '\n' := by
        simp [Lexeme.text, List.getLast?_cons]
      have hpass := clause?_passed hfeed ('/' :: '/' :: body).getLast? s
      rw [List.singleton_append] at hpass
      rw [htext, clause?_of_comment (comment?_line hv hs), hpass, Literal.map_after_after, hlast]
      rfl

theorem isWord_of_isSpace {c : Char} (h : isSpace c = true) : isWord c = false := by
  simp only [isSpace, Bool.or_eq_true, decide_eq_true_eq] at h
  rcases h with (((rfl | rfl) | rfl) | rfl) | rfl <;> decide

theorem isTied_of_isSpace {c : Char} (h : isSpace c = true) : isTied (some c) = false := by
  have hdot : c ≠ '.' := by
    rintro rfl
    exact absurd h (by decide)
  simp [isTied, isWord_of_isSpace h, hdot]

theorem isSpace_of_isWord {c : Char} (h : isWord c = true) : isSpace c = false := by
  cases hs : isSpace c with
  | false => rfl
  | true =>
      rw [isWord_of_isSpace hs] at h
      cases h

/-- What ends a lexeme other than a word is no part of a word. -/
theorem getLast?_other {l : Lexeme} (hv : l.Valid) (hl : l.isName = false) :
    (l.text.getLast?.any fun c => isWord c || c = '.') = false := by
  cases l with
  | word text => cases hl
  | mark c => rcases hv with rfl | rfl | rfl | rfl <;> decide
  | blank c =>
      have hc : isSpace c = true := hv
      have hdot : c ≠ '.' := by
        rintro rfl
        exact absurd hc (by decide)
      simp [Lexeme.text, isWord_of_isSpace hc, hdot]
  | block body => simp [Lexeme.text, List.getLast?_cons, isWord]
  | line body => simp [Lexeme.text, List.getLast?_cons, isWord]

/-- Words and marks are written in the characters of clauses. -/
theorem text_of_not_spacing {l : Lexeme} (hv : l.Valid) (hl : l.isSpacing = false) :
    ∃ c s, l.text = c :: s ∧ isClauseChar c = true ∧ isSpace c = false := by
  cases l with
  | word w =>
      obtain ⟨hne, hw⟩ := hv
      obtain ⟨c, s, rfl⟩ := List.exists_cons_of_ne_nil hne
      have hc := hw c List.mem_cons_self
      exact ⟨c, s, rfl, isClauseChar_of_isWord hc, isSpace_of_isWord hc⟩
  | mark c =>
      refine ⟨c, [], rfl, ?_⟩
      rcases hv with rfl | rfl | rfl | rfl <;> decide
  | blank c => cases hl
  | block body => cases hl
  | line body => cases hl

/-- Nor is what begins one. -/
theorem head?_other {l : Lexeme} (hv : l.Valid) (hl : l.isName = false) (s : List Char) :
    ∀ c ∈ (l.text ++ s).head?, isWord c = false := by
  intro c hc
  cases l with
  | word text => cases hl
  | mark d =>
      obtain rfl := Option.some.inj hc
      rcases hv with rfl | rfl | rfl | rfl <;> decide
  | blank d =>
      obtain rfl := Option.some.inj hc
      exact isWord_of_isSpace hv
  | block body =>
      obtain rfl := Option.some.inj hc
      decide
  | line body =>
      obtain rfl := Option.some.inj hc
      decide

end ImportResolver.Source

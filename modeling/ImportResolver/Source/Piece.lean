import ImportResolver.Source.Lexeme
import ImportResolver.Text.Affix
/- Source text cut into pieces, so that every import specifier stands in a piece of its own and
the pieces together are the text. -/
namespace ImportResolver.Source

inductive SiteKind where
  | imported
  | exported
  | dynamic
  deriving DecidableEq

def SiteKind.label : SiteKind → String
  | .imported => "import"
  | .exported => "export"
  | .dynamic => "dynamic_import"

inductive Piece where
  | other (text : List Char)
  /-- From the keyword through the closing quote. `lead` ends with the opening quote. -/
  | site (kind : SiteKind) (lead raw : List Char) (quote : Char)
  deriving DecidableEq

def Piece.text : Piece → List Char
  | .other text => text
  | .site _ lead raw quote => lead ++ raw ++ [quote]

/-- A literal and the text that leads to it, with the text left after it. -/
structure Literal where
  lead : List Char
  raw : List Char
  quote : Char
  rest : List Char

def Literal.after (text : List Char) (l : Literal) : Literal := { l with lead := text ++ l.lead }

def Literal.whole (l : Literal) : List Char := l.lead ++ l.raw ++ l.quote :: l.rest

@[simp] theorem Literal.whole_after (text : List Char) (l : Literal) :
    (l.after text).whole = text ++ l.whole := by
  simp [Literal.after, Literal.whole]

def literal? : List Char → Option Literal
  | [] => none
  | c :: s =>
    if isQuote c then (plainContent? c s).map fun cut => ⟨[c], cut.1, c, cut.2⟩ else none

/-- What follows a keyword that stands at the start of `s` as a word of its own. After a dot, a
word is a member's name. -/
def keyword? (word : List Char) (prev : Option Char) (s : List Char) : Option (List Char) :=
  if prev.any fun c => isWord c || c = '.' then none
  else
    match Text.dropLead? word s with
    | none => none
    | some rest => if rest.head?.any isWord then none else some rest

def fromWord : List Char := ['f', 'r', 'o', 'm']

def importWord : List Char := ['i', 'm', 'p', 'o', 'r', 't']

def exportWord : List Char := ['e', 'x', 'p', 'o', 'r', 't']

/-- Characters of import and export clauses, besides comments. -/
def isClauseChar (c : Char) : Bool :=
  isSpace c || isWord c || c = '*' || c = '\x7b' || c = '\x7d' || c = ','

/-- The literal after the first `from` of a clause. -/
def clause? (prev : Option Char) : List Char → Option Literal
  | [] => none
  | c :: s =>
    match _h : comment? (c :: s) with
    | some (text, rest) => (clause? text.getLast? rest).map (Literal.after text)
    | none =>
      match keyword? fromWord prev (c :: s) with
      | some rest => (literal? (trivia rest).2).map (Literal.after (fromWord ++ (trivia rest).1))
      | none => if isClauseChar c then (clause? (some c) s).map (Literal.after [c]) else none
termination_by s => s.length
decreasing_by
  · exact comment?_length _h
  · simp

/-- The literal between parentheses that a comma or the closing one follows. -/
def callArgument? (s : List Char) : Option Literal :=
  match literal? (trivia s).2 with
  | none => none
  | some l =>
    match (trivia l.rest).2.head? with
    | some c => if c = ')' || c = ',' then some (l.after (trivia s).1) else none
    | none => none

/-- The specifier that belongs to the keyword `import`, given what follows the keyword. -/
def importSpecifier? (s : List Char) : Option (SiteKind × Literal) :=
  let gap := (trivia s).1
  match (trivia s).2 with
  | [] => none
  | c :: rest =>
    if c = '(' then
      (callArgument? rest).map fun l => (.dynamic, l.after (gap ++ [c]))
    else if c = '"' || c = '\'' then
      (literal? (c :: rest)).map fun l => (.imported, l.after gap)
    else
      (clause? (some (gap.getLast?.getD 't')) (c :: rest)).map fun l => (.imported, l.after gap)

/-- The site that a keyword at the start of `s` begins. -/
def site? (prev : Option Char) (s : List Char) : Option (SiteKind × Literal) :=
  match keyword? importWord prev s with
  | some rest => (importSpecifier? rest).map fun (k, l) => (k, l.after importWord)
  | none =>
    match keyword? exportWord prev s with
    | some rest => (clause? (some 't') rest).map fun l => (.exported, l.after exportWord)
    | none => none

/-- The piece that begins with `c`, and the text after it. What stands before it, last character
first, tells keywords from parts of words and regular expressions from divisions. -/
def piece (before : List Char) (c : Char) (s : List Char) : Piece × List Char :=
  match comment? (c :: s) with
  | some (text, rest) => (.other text, rest)
  | none =>
    if c = '/' && regexAllowed before then
      (.other (c :: (regexBody false s).1), (regexBody false s).2)
    else if isQuote c then
      (.other (c :: (stringBody c s).1), (stringBody c s).2)
    else
      match site? before.head? (c :: s) with
      | some (kind, l) => (.site kind l.lead l.raw l.quote, l.rest)
      | none => (.other [c], s)

theorem literal?_whole {s : List Char} {l : Literal} (h : literal? s = some l) : l.whole = s := by
  unfold literal? at h
  split at h
  · simp at h
  · next c s =>
    split at h
    · obtain ⟨cut, hc, rfl⟩ := Option.map_eq_some_iff.1 h
      simp [Literal.whole, plainContent?_append hc]
    · simp at h

theorem keyword?_append {word s rest : List Char} {prev : Option Char}
    (h : keyword? word prev s = some rest) : word ++ rest = s := by
  unfold keyword? at h
  split at h
  · simp at h
  · split at h
    · simp at h
    · next hr =>
      split at h
      · simp at h
      · cases h
        exact Text.dropLead?_eq_some_iff.1 hr

theorem clause?_whole {prev : Option Char} {s : List Char} {l : Literal}
    (h : clause? prev s = some l) : l.whole = s := by
  fun_induction clause? prev s generalizing l with
  | case1 => simp at h
  | case2 _ _ _ _ _ hc ih =>
    obtain ⟨l', h', rfl⟩ := Option.map_eq_some_iff.1 h
    simpa [ih h'] using comment?_append hc
  | case3 _ _ _ _ _ hk =>
    obtain ⟨l', h', rfl⟩ := Option.map_eq_some_iff.1 h
    simpa [literal?_whole h', trivia_append] using keyword?_append hk
  | case4 _ _ _ _ _ _ ih =>
    obtain ⟨l', h', rfl⟩ := Option.map_eq_some_iff.1 h
    simp [ih h']
  | case5 => simp at h

theorem callArgument?_whole {s : List Char} {l : Literal} (h : callArgument? s = some l) :
    l.whole = s := by
  unfold callArgument? at h
  split at h
  · simp at h
  · next hl =>
    split at h
    · split at h
      · cases h
        simp [literal?_whole hl, trivia_append]
      · simp at h
    · simp at h

theorem importSpecifier?_whole {s : List Char} {k : SiteKind} {l : Literal}
    (h : importSpecifier? s = some (k, l)) : l.whole = s := by
  have ht := trivia_append s
  unfold importSpecifier? at h
  split at h
  · simp at h
  · next c rest hr =>
    rw [hr] at ht
    split at h
    · obtain ⟨l', h', he⟩ := Option.map_eq_some_iff.1 h
      cases he
      simp [callArgument?_whole h', ht]
    · split at h
      · obtain ⟨l', h', he⟩ := Option.map_eq_some_iff.1 h
        cases he
        simp [literal?_whole h', ht]
      · obtain ⟨l', h', he⟩ := Option.map_eq_some_iff.1 h
        cases he
        simp [clause?_whole h', ht]

theorem site?_whole {prev : Option Char} {s : List Char} {k : SiteKind} {l : Literal}
    (h : site? prev s = some (k, l)) : l.whole = s := by
  unfold site? at h
  split at h
  · next hk =>
    obtain ⟨⟨k', l'⟩, h', he⟩ := Option.map_eq_some_iff.1 h
    cases he
    simp [importSpecifier?_whole h', keyword?_append hk]
  · split at h
    · next hk =>
      obtain ⟨l', h', he⟩ := Option.map_eq_some_iff.1 h
      cases he
      simp [clause?_whole h', keyword?_append hk]
    · simp at h

/-- Nothing is lost between a piece and the text after it. -/
theorem piece_append (before : List Char) (c : Char) (s : List Char) :
    (piece before c s).1.text ++ (piece before c s).2 = c :: s := by
  unfold piece
  split
  · next hc => exact comment?_append hc
  · split
    · simp [Piece.text, regexBody_append]
    · split
      · simp [Piece.text, stringBody_append]
      · split
        · next hs => simpa [Piece.text, Literal.whole] using site?_whole hs
        · rfl

theorem piece_text_ne_nil (before : List Char) (c : Char) (s : List Char) :
    (piece before c s).1.text ≠ [] := by
  unfold piece
  split
  · next hc => exact comment?_fst_ne_nil hc
  · split
    · simp [Piece.text]
    · split
      · simp [Piece.text]
      · split <;> simp [Piece.text]

theorem piece_length (before : List Char) (c : Char) (s : List Char) :
    (piece before c s).2.length ≤ s.length := by
  have := congrArg List.length (piece_append before c s)
  have := List.length_pos_iff.2 (piece_text_ne_nil before c s)
  simp at *
  omega

def pieces (before : List Char) : List Char → List Piece
  | [] => []
  | c :: s =>
    match _h : piece before c s with
    | (p, rest) => p :: pieces (p.text.reverse ++ before) rest
termination_by s => s.length
decreasing_by
  have h := piece_length before c s
  rw [_h] at h
  exact Nat.lt_succ_of_le h

/-- The pieces together are the text. -/
theorem flatMap_text_pieces (before s : List Char) : (pieces before s).flatMap Piece.text = s := by
  fun_induction pieces before s with
  | case1 => rfl
  | case2 before c s p rest h ih =>
    have hp := piece_append before c s
    rw [h] at hp
    rw [List.flatMap_cons, ih]
    exact hp

end ImportResolver.Source

/- The lexical parts of JavaScript source that matter for finding import specifiers: words, blanks,
comments, regular expressions and string literals. Each reader cuts a text in two. -/
namespace ImportResolver.Source

/-- Characters of words. Every character beyond ASCII counts as one. -/
def isWord (c : Char) : Bool := c.isAlphanum || c = '_' || c = '$' || 0x80 ≤ c.toNat

def isSpace (c : Char) : Bool :=
  c = ' ' || c = '\t' || c = '\n' || c = '\r' || c = '\x0c'

def isQuote (c : Char) : Bool := c = '"' || c = '\'' || c = '\x60'

abbrev Cut := List Char × List Char

def Cut.push (c : Char) (cut : Cut) : Cut := (c :: cut.1, cut.2)

@[simp] theorem Cut.push_fst (c : Char) (cut : Cut) : (Cut.push c cut).1 = c :: cut.1 := rfl

@[simp] theorem Cut.push_snd (c : Char) (cut : Cut) : (Cut.push c cut).2 = cut.2 := rfl

def cutWhile (p : Char → Bool) (s : List Char) : Cut := (s.takeWhile p, s.dropWhile p)

/-- Through the end mark of a block comment, or all of the text if there is none. -/
def blockBody : List Char → Cut
  | [] => ([], [])
  | '*' :: '/' :: s => (['*', '/'], s)
  | c :: s => (blockBody s).push c

/-- The comment at the start of a text. A line comment leaves the line feed that ends it. -/
def comment? : List Char → Option Cut
  | '/' :: '/' :: s => some (((cutWhile (· ≠ '\n') s).push '/').push '/')
  | '/' :: '*' :: s => some (((blockBody s).push '*').push '/')
  | _ => none

/-- What follows the opening slash of a regular expression, flags included. A line feed ends it;
a slash in a character class does not. -/
def regexBody (inClass : Bool) : List Char → Cut
  | [] => ([], [])
  | '\\' :: c :: s => ((regexBody inClass s).push c).push '\\'
  | c :: s =>
    if c = '\n' then ([], c :: s)
    else if c = '[' then (regexBody true s).push c
    else if c = ']' then (regexBody false s).push c
    else if c = '/' && !inClass then (cutWhile isWord s).push c
    else (regexBody inClass s).push c

/-- What follows the opening quote of a string. A line feed ends it, except between backticks. -/
def stringBody (quote : Char) : List Char → Cut
  | [] => ([], [])
  | '\\' :: c :: s => ((stringBody quote s).push c).push '\\'
  | c :: s =>
    if c = quote then ([c], s)
    else if c = '\n' && quote ≠ '\x60' then ([], c :: s)
    else (stringBody quote s).push c

/-- The content of a literal whose text is its value, and what follows the closing quote: no
escapes, no line feed, and no substitution between backticks. -/
def plainContent? (quote : Char) : List Char → Option Cut
  | [] => none
  | c :: s =>
    if c = quote then some ([], s)
    else if c = '\\' || c = '\n' then none
    else if c = '$' && quote = '\x60' && s.head? = some '\x7b' then none
    else (plainContent? quote s).map (Cut.push c)

/-- Words after which a slash begins a regular expression. -/
def regexWords : List String :=
  ["return", "typeof", "instanceof", "in", "of", "new", "delete", "void", "throw", "case", "do",
   "else", "yield", "await"]

/-- Whether a slash begins a regular expression rather than a division, given what stands before
it, last character first. -/
def regexAllowed (before : List Char) : Bool :=
  let before := before.dropWhile isSpace
  match before with
  | [] => true
  | c :: _ =>
    if c = ')' || c = ']' then false
    else if isWord c then regexWords.contains (String.ofList (before.takeWhile isWord).reverse)
    else true

@[simp] theorem cutWhile_append (p : Char → Bool) (s : List Char) :
    (cutWhile p s).1 ++ (cutWhile p s).2 = s := List.takeWhile_append_dropWhile

theorem blockBody_append (s : List Char) : (blockBody s).1 ++ (blockBody s).2 = s := by
  fun_induction blockBody s <;> simp_all

theorem comment?_append {s : List Char} {cut : Cut} (h : comment? s = some cut) :
    cut.1 ++ cut.2 = s := by
  unfold comment? at h
  split at h
  · obtain rfl := Option.some.inj h
    simp
  · obtain rfl := Option.some.inj h
    simp [blockBody_append]
  · simp at h

theorem regexBody_append (inClass : Bool) (s : List Char) :
    (regexBody inClass s).1 ++ (regexBody inClass s).2 = s := by
  fun_induction regexBody inClass s <;> simp_all

theorem stringBody_append (quote : Char) (s : List Char) :
    (stringBody quote s).1 ++ (stringBody quote s).2 = s := by
  fun_induction stringBody quote s <;> simp_all

theorem plainContent?_append {quote : Char} {s : List Char} {cut : Cut}
    (h : plainContent? quote s = some cut) : cut.1 ++ quote :: cut.2 = s := by
  fun_induction plainContent? quote s generalizing cut with
  | case1 => simp at h
  | case2 => simp_all [← Option.some.inj h]
  | case3 => simp at h
  | case4 => simp at h
  | case5 c s _ _ _ ih =>
    obtain ⟨cut', h', rfl⟩ := Option.map_eq_some_iff.1 h
    simp [ih h']

theorem comment?_fst_ne_nil {s : List Char} {cut : Cut} (h : comment? s = some cut) :
    cut.1 ≠ [] := by
  unfold comment? at h
  split at h
  · simp [← Option.some.inj h]
  · simp [← Option.some.inj h]
  · simp at h

theorem comment?_length {s : List Char} {cut : Cut} (h : comment? s = some cut) :
    cut.2.length < s.length := by
  have := List.length_pos_iff.2 (comment?_fst_ne_nil h)
  have := congrArg List.length (comment?_append h)
  simp at this
  omega

theorem cutWhile_length (p : Char → Bool) (s : List Char) :
    (cutWhile p s).2.length ≤ s.length := by
  have := congrArg List.length (cutWhile_append p s)
  rw [List.length_append] at this
  omega

/-- Blanks and comments. -/
def trivia (s : List Char) : Cut :=
  let blanks := cutWhile isSpace s
  match _h : comment? blanks.2 with
  | none => blanks
  | some (text, rest) =>
    let more := trivia rest
    (blanks.1 ++ text ++ more.1, more.2)
termination_by s.length
decreasing_by exact Nat.lt_of_lt_of_le (comment?_length _h) (cutWhile_length isSpace s)

theorem trivia_append (s : List Char) : (trivia s).1 ++ (trivia s).2 = s := by
  fun_induction trivia s with
  | case1 s => exact cutWhile_append isSpace s
  | case2 s blanks text rest h more ih =>
    have := comment?_append h
    have := cutWhile_append isSpace s
    simp_all [blanks, more]

end ImportResolver.Source

/- The tokens of a JSON text. -/
namespace ImportResolver.Json

inductive Token where
  | openArray
  | closeArray
  | openObject
  | closeObject
  | colon
  | comma
  | null
  | bool (value : Bool)
  | number (literal : String)
  | string (text : Option String)
  deriving DecidableEq, Inhabited

def isSpace (c : Char) : Bool := c = ' ' || c = '\t' || c = '\n' || c = '\r'

def hexValue? (c : Char) : Option Nat :=
  if '0' ≤ c && c ≤ '9' then some (c.toNat - '0'.toNat)
  else if 'a' ≤ c && c ≤ 'f' then some (c.toNat - 'a'.toNat + 10)
  else if 'A' ≤ c && c ≤ 'F' then some (c.toNat - 'A'.toNat + 10)
  else none

def hexUnit? (a b c d : Char) : Option Nat := do
  return (((← hexValue? a) * 16 + (← hexValue? b)) * 16 + (← hexValue? c)) * 16 + (← hexValue? d)

/-- What a string literal spells, item by item: a character, or a UTF-16 unit given in hex. -/
inductive Spelled where
  | char (c : Char)
  | unit (n : Nat)
  deriving DecidableEq

def shortEscape? : Char → Option Char
  | '"' => some '"'
  | '\\' => some '\\'
  | '/' => some '/'
  | 'b' => some '\x08'
  | 'f' => some '\x0c'
  | 'n' => some '\n'
  | 'r' => some '\r'
  | 't' => some '\t'
  | _ => none

/-- Reads up to the closing quote. Control characters have to be escaped. -/
def spelled? : List Char → Option (List Spelled × List Char)
  | [] => none
  | '"' :: s => some ([], s)
  | '\\' :: 'u' :: a :: b :: c :: d :: s => do
    let n ← hexUnit? a b c d
    let (rest, s) ← spelled? s
    return (.unit n :: rest, s)
  | '\\' :: e :: s => do
    let c ← shortEscape? e
    let (rest, s) ← spelled? s
    return (.char c :: rest, s)
  | c :: s =>
    if c.toNat < 0x20 || c = '\\' then none
    else do
      let (rest, s) ← spelled? s
      return (.char c :: rest, s)

def isHigh (n : Nat) : Bool := 0xD800 ≤ n && n < 0xDC00

def isLow (n : Nat) : Bool := 0xDC00 ≤ n && n < 0xE000

/-- Joins surrogate pairs; `none` if a half is left over. -/
def assemble : List Spelled → Option (List Char)
  | [] => some []
  | .char c :: r => (assemble r).map (c :: ·)
  | .unit n :: r =>
    if isLow n then none
    else if isHigh n then
      match r with
      | .unit m :: r =>
        if isLow m then
          (assemble r).map (Char.ofNat (0x10000 + (n - 0xD800) * 0x400 + (m - 0xDC00)) :: ·)
        else none
      | _ => none
    else (assemble r).map (Char.ofNat n :: ·)

theorem spelled?_length {s rest : List Char} {items : List Spelled}
    (h : spelled? s = some (items, rest)) : rest.length < s.length := by
  fun_induction spelled? s generalizing items rest <;>
    simp_all [Option.bind_eq_some_iff] <;> grind

/-- One digit or more. -/
def digits? (s : List Char) : Option (List Char × List Char) :=
  match s.takeWhile Char.isDigit with
  | [] => none
  | ds => some (ds, s.dropWhile Char.isDigit)

/-- The whole part has no leading zero. -/
def whole? : List Char → Option (List Char × List Char)
  | '0' :: s => some (['0'], s)
  | s => digits? s

def fraction? : List Char → Option (List Char × List Char)
  | '.' :: s => (digits? s).map fun (ds, s) => ('.' :: ds, s)
  | s => some ([], s)

def exponentSign : List Char → List Char × List Char
  | '+' :: s => (['+'], s)
  | '-' :: s => (['-'], s)
  | s => ([], s)

def exponent? : List Char → Option (List Char × List Char)
  | c :: s =>
    if c = 'e' || c = 'E' then
      let (sign, s) := exponentSign s
      (digits? s).map fun (ds, s) => (c :: sign ++ ds, s)
    else some ([], c :: s)
  | [] => some ([], [])

def unsigned? (s : List Char) : Option (List Char × List Char) := do
  let (whole, s) ← whole? s
  let (fraction, s) ← fraction? s
  let (exponent, s) ← exponent? s
  return (whole ++ fraction ++ exponent, s)

def number? : List Char → Option (List Char × List Char)
  | '-' :: s => (unsigned? s).map fun (ds, s) => ('-' :: ds, s)
  | s => unsigned? s

theorem digits?_length {s ds rest : List Char} (h : digits? s = some (ds, rest)) :
    rest.length < s.length := by
  unfold digits? at h
  split at h
  · simp at h
  · next hne =>
    simp only [Option.some.injEq, Prod.mk.injEq] at h
    have hl := congrArg List.length (List.takeWhile_append_dropWhile (p := Char.isDigit) (l := s))
    have := List.length_pos_iff.2 hne
    rw [List.length_append] at hl
    grind

theorem whole?_length {s ds rest : List Char} (h : whole? s = some (ds, rest)) :
    rest.length < s.length := by
  unfold whole? at h
  split at h
  · grind
  · exact digits?_length h

theorem fraction?_length {s ds rest : List Char} (h : fraction? s = some (ds, rest)) :
    rest.length ≤ s.length := by
  unfold fraction? at h
  split at h
  · obtain ⟨⟨a, b⟩, hd, he⟩ := Option.map_eq_some_iff.1 h
    have := digits?_length hd
    grind
  · grind

theorem exponentSign_length (s : List Char) : (exponentSign s).2.length ≤ s.length := by
  unfold exponentSign
  split <;> simp

theorem exponent?_length {s ds rest : List Char} (h : exponent? s = some (ds, rest)) :
    rest.length ≤ s.length := by
  unfold exponent? at h
  split at h
  · next c s =>
    split at h
    · obtain ⟨⟨a, b⟩, hd, he⟩ := Option.map_eq_some_iff.1 h
      have := digits?_length hd
      have := exponentSign_length s
      grind
    · grind
  · grind

theorem number?_length {s ds rest : List Char} (h : number? s = some (ds, rest)) :
    rest.length < s.length := by
  have key : ∀ {s ds rest : List Char}, unsigned? s = some (ds, rest) →
      rest.length < s.length := by
    intro s ds rest h
    simp only [unsigned?, Option.bind_eq_bind, Option.bind_eq_some_iff, Option.pure_def,
      Option.some.injEq] at h
    obtain ⟨⟨w, s₁⟩, hw, ⟨f, s₂⟩, hf, ⟨e, s₃⟩, he, h⟩ := h
    have := whole?_length hw
    have := fraction?_length hf
    have := exponent?_length he
    grind
  unfold number? at h
  split at h
  · obtain ⟨⟨a, b⟩, hd, he⟩ := Option.map_eq_some_iff.1 h
    have := key hd
    grind
  · exact key h

/-- The token at the start of a text. -/
def token? : List Char → Option (Token × List Char)
  | '[' :: s => some (.openArray, s)
  | ']' :: s => some (.closeArray, s)
  | '\x7b' :: s => some (.openObject, s)
  | '\x7d' :: s => some (.closeObject, s)
  | ':' :: s => some (.colon, s)
  | ',' :: s => some (.comma, s)
  | 'n' :: 'u' :: 'l' :: 'l' :: s => some (.null, s)
  | 't' :: 'r' :: 'u' :: 'e' :: s => some (.bool true, s)
  | 'f' :: 'a' :: 'l' :: 's' :: 'e' :: s => some (.bool false, s)
  | '"' :: s => (spelled? s).map fun (items, s) =>
    (.string ((assemble items).map String.ofList), s)
  | s => (number? s).map fun (literal, s) => (.number (String.ofList literal), s)

theorem token?_length {s rest : List Char} {t : Token} (h : token? s = some (t, rest)) :
    rest.length < s.length := by
  unfold token? at h
  split at h
  case h_10 =>
    obtain ⟨⟨a, b⟩, hd, he⟩ := Option.map_eq_some_iff.1 h
    have := spelled?_length hd
    grind
  case h_11 =>
    obtain ⟨⟨a, b⟩, hd, he⟩ := Option.map_eq_some_iff.1 h
    have := number?_length hd
    grind
  all_goals grind

/-- All tokens of a text, with blanks between them ignored. -/
def tokens? : List Char → Option (List Token)
  | [] => some []
  | c :: s =>
    if isSpace c then tokens? s
    else
      match _h : token? (c :: s) with
      | none => none
      | some (t, rest) => (tokens? rest).map (t :: ·)
termination_by s => s.length
decreasing_by
  · simp
  · exact token?_length _h

end ImportResolver.Json

import ImportResolver.Json.Strict
import ImportResolver.Json.Token
import ImportResolver.Text.Utf8
/- What is wrong with a text that is no strict JSON, and where. A text is read byte by byte; a byte
is given as the character of its number. -/
namespace ImportResolver.Json

/-- The first thing that is wrong. -/
inductive Defect where
  | endInList
  | endInObject
  | endInString
  | endInValue
  | noColon
  | noListEnd
  | noObjectEnd
  | noWord
  | noValue
  | noName
  | badEscape
  | badNumber
  | numberRange
  | control
  | loneHalf
  | noSecondHalf
  | trailingComma
  | trailing
  | nesting
  deriving DecidableEq

def Defect.message : Defect → String
  | .endInList => "EOF while parsing a list"
  | .endInObject => "EOF while parsing an object"
  | .endInString => "EOF while parsing a string"
  | .endInValue => "EOF while parsing a value"
  | .noColon => "expected \x60:\x60"
  | .noListEnd => "expected \x60,\x60 or \x60]\x60"
  | .noObjectEnd => "expected \x60,\x60 or \x60\x7d\x60"
  | .noWord => "expected ident"
  | .noValue => "expected value"
  | .noName => "key must be a string"
  | .badEscape => "invalid escape"
  | .badNumber => "invalid number"
  | .numberRange => "number out of range"
  | .control => "control character (\\u0000-\\u001F) found while parsing a string"
  | .loneHalf => "lone leading surrogate in hex escape"
  | .noSecondHalf => "unexpected end of hex escape"
  | .trailingComma => "trailing comma"
  | .trailing => "trailing characters"
  | .nesting => "recursion limit exceeded"

/-- A defect and how many lines and bytes of the last line were read before it was noticed. -/
structure Flaw where
  defect : Defect
  line : Nat
  column : Nat
  deriving DecidableEq

def Flaw.message (f : Flaw) : String :=
  f.defect.message ++ " at line " ++ toString f.line ++ " column " ++ toString f.column

/-- What a reader gives; a defect comes with the number of bytes that are left. -/
abbrev Sound (α : Type) := Except (Defect × Nat) α

/-- The defect is noticed with these bytes left. -/
def stop {α : Type} (d : Defect) (rest : List Char) : Sound α := .error (d, rest.length)

/-- What follows a string, whose opening quote was read. `isHalf` says whether the first half of a
surrogate pair stands before. -/
def afterString (isHalf : Bool) : List Char → Sound (List Char)
  | [] => stop .endInString []
  | '\\' :: 'u' :: a :: b :: c :: d :: s =>
    match hexUnit? a b c d with
    | none => stop .badEscape s
    | some n => if isLow n = isHalf then afterString (!isHalf && isHigh n) s else stop .loneHalf s
  | '\\' :: 'u' :: _ => stop .endInString []
  | ['\\'] => stop .endInString []
  | c :: s =>
    if isHalf then if c = '\\' then stop .noSecondHalf (s.drop 1) else stop .noSecondHalf s
    else if c = '"' then .ok s
    else if c.toNat < 0x20 then stop .control s
    else if c ≠ '\\' then afterString false s
    else
      match s with
      | [] => stop .endInString []
      | e :: s => if (shortEscape? e).isSome then afterString false s else stop .badEscape s

/-- What follows a word, of which these letters are to come. -/
def afterWord : List Char → List Char → Sound (List Char)
  | [], s => .ok s
  | _ :: _, [] => stop .endInValue []
  | w :: ws, c :: s => if c = w then afterWord ws s else stop .noWord s

/-- What follows the digits of an exponent. A number other than zero is given up as soon as an
exponent exceeds all bounds. -/
def afterExponent (isLarge : Bool) : Nat → List Char → Sound (List Char)
  | n, c :: s =>
    if c.isDigit then
      let n := n * 10 + (c.toNat - '0'.toNat)
      if isLarge && 2147483647 < n then stop .numberRange s else afterExponent isLarge n s
    else .ok (c :: s)
  | _, [] => .ok []

/-- What follows a number without its sign. -/
def afterUnsigned (s : List Char) : Sound (List Char) := do
  let whole ←
    match s with
    | [] => stop .endInValue []
    | '0' :: c :: s => if c.isDigit then stop .badNumber s else .ok (c :: s)
    | c :: s => if c.isDigit then .ok (s.dropWhile Char.isDigit) else stop .badNumber s
  let fraction ←
    match whole with
    | ['.'] => stop .endInValue []
    | '.' :: c :: s => if c.isDigit then .ok (s.dropWhile Char.isDigit) else stop .badNumber s
    | s => .ok s
  let significand := s.take (s.length - fraction.length)
  match fraction with
  | e :: more =>
    if e ≠ 'e' && e ≠ 'E' then return fraction
    let (sign, digits) := exponentSign more
    match digits with
    | [] => stop .endInValue []
    | c :: s =>
      if c.isDigit then
        let isLarge := sign ≠ ['-'] && significand.any fun c => '1' ≤ c && c ≤ '9'
        afterExponent isLarge 0 digits
      else stop .badNumber s
  | [] => return []

/-- What follows a number. -/
def afterNumber (s : List Char) : Sound (List Char) := do
  let rest ← afterUnsigned (if s.head? = some '-' then s.drop 1 else s)
  if inRange (String.ofList (s.take (s.length - rest.length))) then return rest
  else stop .numberRange rest

inductive Container where
  | list
  | object
  deriving DecidableEq

/-- What is to come, inside of the containers that are open. -/
inductive Stage where
  | value (outer : List Container)
  /-- The first member of a container, or its end. -/
  | first (c : Container) (outer : List Container)
  /-- A member after a comma. -/
  | next (c : Container) (outer : List Container)
  /-- What follows a value. -/
  | ended (outer : List Container)

/-- What follows the first bytes of a value, and what is to come there. -/
def beginning (outer : List Container) : List Char → Sound (Stage × List Char)
  | [] => stop .endInValue []
  | c :: s =>
    let ended (rest : Sound (List Char)) : Sound (Stage × List Char) :=
      rest.map fun s => (.ended outer, s)
    let opened (container : Container) : Sound (Stage × List Char) :=
      if outer.length = maxNesting then stop .nesting s else .ok (.first container outer, s)
    match c with
    | 'n' => ended (afterWord ['u', 'l', 'l'] s)
    | 't' => ended (afterWord ['r', 'u', 'e'] s)
    | 'f' => ended (afterWord ['a', 'l', 's', 'e'] s)
    | '"' => ended (afterString false s)
    | '[' => opened .list
    | '\x7b' => opened .object
    | c => if c = '-' || c.isDigit then ended (afterNumber (c :: s)) else stop .noValue s

/-- What follows the name of a member, whose opening quote was read, and its colon. -/
def named (outer : List Container) (s : List Char) : Sound (Stage × List Char) := do
  match (← afterString false s).dropWhile isSpace with
  | [] => stop .endInObject []
  | ':' :: s => return (.value (.object :: outer), s)
  | _ :: s => stop .noColon s

/-- Goes on by a value, a name or a mark; nothing is to come at the end of a sound text. -/
def Stage.step (stage : Stage) (s : List Char) : Sound (Option (Stage × List Char)) :=
  match stage, s.dropWhile isSpace with
  | .value outer, s => (beginning outer s).map some
  | .first .list _, [] => stop .endInList []
  | .first .list outer, ']' :: s => .ok (some (.ended outer, s))
  | .first .list outer, s => (beginning (.list :: outer) s).map some
  | .first .object _, [] => stop .endInObject []
  | .first .object outer, '\x7d' :: s => .ok (some (.ended outer, s))
  | .first .object outer, '"' :: s => (named outer s).map some
  | .first .object _, _ :: s => stop .noName s
  | .next .list _, ']' :: s => stop .trailingComma s
  | .next .list outer, s => (beginning (.list :: outer) s).map some
  | .next .object _, [] => stop .endInValue []
  | .next .object _, '\x7d' :: s => stop .trailingComma s
  | .next .object outer, '"' :: s => (named outer s).map some
  | .next .object _, _ :: s => stop .noName s
  | .ended [], [] => .ok none
  | .ended [], _ :: s => stop .trailing s
  | .ended (.list :: _), [] => stop .endInList []
  | .ended (.list :: outer), ']' :: s => .ok (some (.ended outer, s))
  | .ended (.object :: _), [] => stop .endInObject []
  | .ended (.object :: outer), '\x7d' :: s => .ok (some (.ended outer, s))
  | .ended (c :: outer), ',' :: s => .ok (some (.next c outer, s))
  | .ended (.list :: _), _ :: s => stop .noListEnd s
  | .ended (.object :: _), _ :: s => stop .noObjectEnd s

/-- Goes on to the end or the first defect; every step takes a byte at least. -/
def defect? : Nat → Stage → List Char → Option (Defect × Nat)
  | 0, _, _ => none
  | n + 1, stage, s =>
    match stage.step s with
    | .error found => some found
    | .ok none => none
    | .ok (some (stage, s)) => defect? n stage s

/-- What is wrong with a text; nothing if it is strict JSON. -/
def flaw? (text : String) : Option Flaw :=
  let bytes := (Text.Utf8.encode text).map fun b => Char.ofNat b.toNat
  (defect? (bytes.length + 1) (.value []) bytes).map fun (defect, left) =>
    let before := bytes.take (bytes.length - left)
    { defect
      line := before.count '\n' + 1
      column := (before.reverse.takeWhile (· ≠ '\n')).length }

end ImportResolver.Json

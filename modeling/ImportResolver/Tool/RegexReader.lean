import ImportResolver.Shell.Arithmetic
import ImportResolver.Tool.Regex
/- Reading regular expressions, in the basic form or in the extended one, which asks for fewer
backslashes. -/
namespace ImportResolver.Tool.Regex

open Shell

structure Dialect where
  extended : Bool
  /-- Whether signs of repetition with nothing to repeat are refused. -/
  strict : Bool := false
  /-- Whether it is told that they mean nothing. -/
  warns : Bool := false
  /-- Whether escapes such as `\t` stand for control characters. -/
  controls : Bool := false

structure Source where
  rest : Chars
  groups : Nat := 0
  /-- How many groups are open. -/
  depth : Nat := 0
  warnings : List String := []

abbrev Reading (α : Type) := StateT Source (Except String) α

/-- What comes next in an expression. -/
inductive Symbol where
  | character (c : Char)
  | any
  | bracket
  | caret
  | dollar
  | opening
  | closing
  | bar
  | star
  | plus
  | question
  | bound
  | escaped (c : Char)
  | ending
  | lone
  deriving DecidableEq

def symbol (extended : Bool) : Chars → Symbol × Chars
  | [] => (.ending, [])
  | ['\\'] => (.lone, [])
  | '\\' :: c :: cs =>
    let special : Option Symbol :=
      match c with
      | '(' => some .opening
      | ')' => some .closing
      | '|' => some .bar
      | '+' => some .plus
      | '?' => some .question
      | '\x7b' => some .bound
      | _ => none
    match special with
    | some s => (if extended then .character c else s, cs)
    | none => (.escaped c, cs)
  | c :: cs =>
    let s : Symbol :=
      match c with
      | '.' => .any
      | '[' => .bracket
      | '^' => .caret
      | '$' => .dollar
      | '*' => .star
      | '(' => if extended then .opening else .character c
      | ')' => if extended then .closing else .character c
      | '|' => if extended then .bar else .character c
      | '+' => if extended then .plus else .character c
      | '?' => if extended then .question else .character c
      | '\x7b' => if extended then .bound else .character c
      | c => .character c
    (s, cs)

def mostRepeated : Nat := 32767

/-- The numbers of a bound such as `2,5`, whose opening brace was read; none if it is none. -/
def bound? (d : Dialect) (cs : Chars) : Except String (Option (Nat × Option Nat × Chars)) :=
  let (low, rest) := cs.span Char.isDigit
  let (high, hasComma, rest) :=
    match rest with
    | ',' :: more =>
      let (ds, rest) := more.span Char.isDigit
      (if ds = [] then none else some (Arithmetic.numeral 10 ds), true, rest)
    | _ => (some (Arithmetic.numeral 10 low), false, rest)
  let closed :=
    match rest with
    | '\\' :: '\x7d' :: rest => if d.extended then none else some rest
    | '\x7d' :: rest => if d.extended then some rest else none
    | _ => none
  let low' := Arithmetic.numeral 10 low
  let lenient := d.extended && !d.strict
  match closed with
  | none =>
    if lenient then .ok none
    else if rest = [] then .error "Unmatched \\\x7b"
    else .error "Invalid content of \\\x7b\\\x7d"
  | some rest =>
    if low = [] && !hasComma then
      if lenient then .ok none else .error "Invalid content of \\\x7b\\\x7d"
    else if high.any (· < low') then .error "Invalid content of \\\x7b\\\x7d"
    else if mostRepeated < low' || high.any (mostRepeated < ·) then
      .error "Regular expression too big"
    else .ok (some (low', high, rest))

def unmatchedBracket : String := "Unmatched [, [^, [:, [., or [="

/-- The character at the end of a range, and what follows it; none if a class stands there. -/
def rangeEnd? : Chars → Option (Char × Chars)
  | '[' :: '.' :: c :: '.' :: ']' :: rest => some (c, rest)
  | '[' :: ':' :: _ => none
  | '[' :: '=' :: _ => none
  | c :: rest => some (c, rest)
  | [] => none

def members : Nat → Bool → Chars → List (Char × Char) → List (Char → Bool) →
    Except String (List (Char × Char) × List (Char → Bool) × Chars)
  | 0, _, _, _, _ => .error unmatchedBracket
  | n + 1, first, cs, ranges, classes =>
    let from_ (c : Char) (rest : Chars) :
        Except String (List (Char × Char) × List (Char → Bool) × Chars) :=
      match rest with
      | '-' :: ']' :: _ => members n false rest ((c, c) :: ranges) classes
      | '-' :: more =>
        match more with
        | [] => .error unmatchedBracket
        | _ =>
          match rangeEnd? more with
          | none => .error "Invalid range end"
          | some (d, rest) =>
            if d < c then .error "Invalid range end"
            else
              match rest with
              | '-' :: e :: _ =>
                if e = ']' then members n false rest ((c, d) :: ranges) classes
                else .error "Invalid range end"
              | _ => members n false rest ((c, d) :: ranges) classes
      | _ => members n false rest ((c, c) :: ranges) classes
    match cs with
    | [] => .error unmatchedBracket
    | ']' :: rest => if first then from_ ']' rest else .ok (ranges, classes, rest)
    | '[' :: ':' :: rest =>
      let name := rest.takeWhile fun c => c ≠ ':' && c ≠ ']'
      match rest.drop name.length with
      | ':' :: ']' :: rest =>
        match Pattern.classes.find? (·.1 = String.ofList name), rest with
        | none, _ => .error "Invalid character class name"
        | some _, '-' :: c :: _ =>
          if c = ']' then
            members n false rest ranges
              (((Pattern.classes.find? (·.1 = String.ofList name)).map (·.2)).toList ++ classes)
          else .error "Invalid range end"
        | some k, _ => members n false rest ranges (k.2 :: classes)
      | _ => .error unmatchedBracket
    | '[' :: '=' :: c :: '=' :: ']' :: rest => members n false rest ((c, c) :: ranges) classes
    | '[' :: '=' :: _ => .error unmatchedBracket
    | '[' :: '.' :: c :: '.' :: ']' :: rest => from_ c rest
    | '[' :: '.' :: _ => .error unmatchedBracket
    | c :: rest => from_ c rest

def bracket (cs : Chars) : Except String (Regex × Chars) := do
  let (negated, rest) :=
    match cs with
    | '^' :: rest => (true, rest)
    | _ => (false, cs)
  if rest = [] then throw (if negated then unmatchedBracket else "Invalid regular expression")
  let (ranges, classes, after) ← members (rest.length + 1) true rest [] []
  let text := cs.take (cs.length - after.length)
  if text.head? = some ':' && 2 < text.length && text.drop (text.length - 2) = [':', ']'] then
    throw "character class syntax is [[:space:]], not [:space:]"
  return (.oneOf negated ranges classes, after)

def wordSet (negated : Bool) : Regex := .oneOf negated [] [isWordCharacter]

def blankSet (negated : Bool) : Regex := .oneOf negated [] [Arithmetic.isSpace]

def ofEscape (d : Dialect) (c : Char) : Regex :=
  let control (n : Nat) : Regex := .character (if d.controls then Char.ofNat n else c)
  match c with
  | 'w' => wordSet false
  | 'W' => wordSet true
  | 's' => blankSet false
  | 'S' => blankSet true
  | 'b' => .wordEdge true true
  | 'B' => .insideWord
  | '<' => .wordEdge true false
  | '>' => .wordEdge false true
  | '\x60' => .textStart
  | '\'' => .textEnd
  | 'n' => control 10
  | 't' => control 9
  | 'f' => control 12
  | 'v' => control 11
  | 'a' => control 7
  | 'r' => control 13
  | c => if c.isDigit then .reference (c.toNat - '0'.toNat) else .character c

def nothingToRepeat : String := "Invalid preceding regular expression"

/-- Reads the signs of repetition after an expression; `again` says that there was one. -/
def repetitions (d : Dialect) : Nat → Bool → Regex → Chars → Except String (Regex × Chars)
  | 0, _, _, _ => .error "too deep"
  | n + 1, again, r, cs =>
    let (s, rest) := symbol d.extended cs
    let isSign := match s with
      | .star => true
      | .plus => true
      | .question => true
      | .bound => true
      | _ => false
    if isSign && again && d.strict && !d.extended then .error nothingToRepeat
    else
      match s with
      | .star => repetitions d n true (.times 0 none r) rest
      | .plus => repetitions d n true (.times 1 none r) rest
      | .question => repetitions d n true (.times 0 (some 1) r) rest
      | .bound =>
        match bound? d rest with
        | .error why => .error why
        | .ok (some (low, high, rest)) => repetitions d n true (.times low high r) rest
        | .ok none => .ok (r, cs)
      | _ => .ok (r, cs)

mutual

def alternatives (d : Dialect) : Nat → Reading Regex
  | 0 => throw "too deep"
  | n + 1 => do
    let r ← sequence d n true .empty
    let (s, rest) := symbol d.extended (← get).rest
    if s = .bar then
      modify fun st => { st with rest }
      return .either r (← alternatives d n)
    else return r

def sequence (d : Dialect) : Nat → Bool → Regex → Reading Regex
  | 0, _, _ => throw "too deep"
  | n + 1, first, r => do
    let st ← get
    let (s, rest) := symbol d.extended st.rest
    let also (q : Regex) (rest : Chars) (repeatable : Bool) : Reading Regex := do
      if repeatable then
        let (q, rest) ← repetitions d (rest.length + 1) false q rest
        modify fun st => { st with rest }
        sequence d n false (.seq r q)
      else
        modify fun st => { st with rest }
        sequence d n true (.seq r q)
    /- A sign of repetition with nothing before it. -/
    let stray (shown : String) (rest : Chars) : Reading Regex := do
      if d.strict then throw nothingToRepeat
      if d.warns then
        modify fun st =>
          { st with warnings := (shown ++ " at start of expression") :: st.warnings }
      modify fun st => { st with rest }
      sequence d n first r
    match s with
    | .ending => return r
    | .lone => throw "Trailing backslash"
    | .bar => return r
    | .closing =>
      if 0 < st.depth then return r
      else if d.extended && !d.strict then also (.character ')') rest true
      else throw "Unmatched ) or \\)"
    | .opening =>
      let k := st.groups + 1
      set { st with rest, groups := k, depth := st.depth + 1 }
      let inner ← alternatives d n
      let (s, rest) := symbol d.extended (← get).rest
      if s ≠ .closing then throw "Unmatched ( or \\("
      modify fun st => { st with depth := st.depth - 1 }
      also (.group k inner) rest true
    | .caret =>
      if d.extended || first then also .lineStart rest false
      else also (.character '^') rest true
    | .dollar =>
      let (next, _) := symbol d.extended rest
      if d.extended || [Symbol.ending, .closing, .bar].contains next then
        also .lineEnd rest d.extended
      else also (.character '$') rest true
    | .any => also .any rest true
    | .bracket =>
      let (q, rest) ← bracket rest
      also q rest true
    | .star =>
      if !d.extended then also (.character '*') rest true else stray "*" rest
    | .plus => if d.extended then stray "+" rest else also (.character '+') rest true
    | .question => if d.extended then stray "?" rest else also (.character '?') rest true
    | .bound =>
      match ← bound? d rest with
      | some (_, _, rest) => stray "\x7b...\x7d" rest
      | none => also (.character '\x7b') rest true
    | .escaped c =>
      if c.isDigit && st.groups < c.toNat - '0'.toNat then throw "Invalid back reference"
      also (ofEscape d c) rest true
    | .character c => also (.character c) rest true

end

/-- A regular expression as it is written, and what is to be said of it. -/
def read (d : Dialect) (cs : Chars) : Except String (Regex × List String) := do
  let (r, st) ← (alternatives d (4 * cs.length + 8)).run { rest := cs }
  if st.rest ≠ [] then throw "Unmatched ) or \\)"
  return (r, st.warnings.reverse)

def ofText (d : Dialect) (cs : Chars) : Except String Regex := (read d cs).map (·.1)

def hasGroup : Regex → Bool
  | .group _ _ => true
  | .seq r s => r.hasGroup || s.hasGroup
  | .either r s => r.hasGroup || s.hasGroup
  | .times _ _ r => r.hasGroup
  | _ => false

/-- What a basic expression finds in front of a text: its first group if it has one, otherwise how
many characters it matches. -/
def frontMatch (text pattern : Chars) : Except String Chars := do
  let s : Subject := { text }
  let r ← ofText { extended := false } pattern
  let missing : Chars := if r.hasGroup then [] else ['0']
  match r.longestAt s (r.largestReference ≠ 0) { before := none, rest := text, position := 0 } with
  | some m => return if r.hasGroup then m.group s 1 else (toString m.stop).toList
  | none => return missing

end ImportResolver.Tool.Regex

import ImportResolver.Shell.Format
import ImportResolver.Tool.Arguments
import ImportResolver.Tool.RegexReader
/- Counting and calculating. -/
namespace ImportResolver.Tool

open Shell Shell.Action

/-- A decimal number: a numerator over a power of ten. -/
structure Fixed where
  numerator : Int
  places : Nat

namespace Fixed

/-- The number that is written: in decimal digits, perhaps with an exponent, or as a whole number
in hexadecimal ones. -/
def ofText? (cs : Chars) : Option Fixed :=
  let (negative, ds) :=
    match cs with
    | '-' :: ds => (true, ds)
    | '+' :: ds => (false, ds)
    | _ => (false, cs)
  let signed (n : Nat) : Int := if negative then -(n : Int) else n
  let hex? : Option Fixed :=
    match ds with
    | '0' :: x :: hs =>
      if (x = 'x' || x = 'X') && hs ≠ [] && hs.all fun c => Arithmetic.digitValue c < 16 then
        some ⟨signed (Arithmetic.numeral 16 hs), 0⟩
      else none
    | _ => none
  let (whole, rest) := ds.span Char.isDigit
  let (fraction, rest) :=
    match rest with
    | '.' :: more => more.span Char.isDigit
    | _ => ([], rest)
  let exponent? : Option Int :=
    match rest with
    | [] => some 0
    | _ =>
      match Floating.exponentAfter? ['e', 'E'] rest with
      | some (e, []) => some e
      | _ => none
  hex? <|>
    if whole ++ fraction = [] then none
    else
      exponent?.map fun e =>
        let n := Arithmetic.numeral 10 (whole ++ fraction)
        let places : Int := (fraction.length : Int) - e
        if 0 ≤ places then ⟨signed n, places.toNat⟩
        else ⟨signed (n * Nat.pow 10 (-places).toNat), 0⟩

def scaled (f : Fixed) (places : Nat) : Int := f.numerator * Nat.pow 10 (places - f.places)

end Fixed

def fixedText (places : Nat) (n : Int) : Chars :=
  let digits := (toString n.natAbs).toList
  let digits := List.replicate (places + 1 - digits.length) '0' ++ digits
  let whole := digits.take (digits.length - places)
  (if n < 0 then ['-'] else []) ++ whole ++
    if places = 0 then [] else '.' :: digits.drop (digits.length - places)

namespace Sequence

/-- A number as an argument: what it is, and how it is written. -/
structure Bound where
  value : Fixed
  /-- How many characters it takes. -/
  width : Nat

def bound? (cs : Chars) : Option Bound :=
  let cs := cs.dropWhile Arithmetic.isSpace
  (Fixed.ofText? cs).map fun value =>
    ⟨value, (if cs.head? = some '+' then cs.drop 1 else cs).length⟩

def formatProblem? (format : Chars) : Option Chars :=
  let shown : Chars := "format ".toList ++ inQuotes format
  let rec after : Nat → Nat → Chars → Option Chars
    | 0, _, _ => none
    | _, directives, [] =>
      if directives = 0 then some (shown ++ " has no % directive".toList) else none
    | n + 1, directives, '%' :: '%' :: cs => after n directives cs
    | n + 1, directives, '%' :: cs =>
      let cs := cs.dropWhile "-+#0 '".toList.contains
      let cs := cs.dropWhile Char.isDigit
      let cs := match cs with
        | '.' :: ds => ds.dropWhile Char.isDigit
        | _ => cs
      match cs with
      | [] => some (shown ++ " ends in %".toList)
      | c :: rest =>
        if "aAeEfFgG".toList.contains c then
          if directives = 0 then after n 1 rest
          else some (shown ++ " has too many % directives".toList)
        else some (shown ++ " has unknown %".toList ++ [c] ++ " directive".toList)
    | n + 1, directives, _ :: cs => after n directives cs
  after (format.length + 1) 0 format

/-- The numbers from `i` up to the last one, each printed by `show_`. -/
def countUp (step : Int) (last : Option Int) (show_ : Bool → Int → Action Unit) :
    Nat → Bool → Int → Action Bool
  | 0, _, _ => throw .exhausted
  | n + 1, first, i => do
    if last.any fun l => 0 < step && l < i || step < 0 && i < l then return !first
    show_ first i
    countUp step last show_ n false (i + step)

/-- Arguments with a mark where a number ends the options; `isValue` says that the first one is a
value. -/
def beforeNumbers : Bool → List Chars → List Chars
  | _, [] => []
  | true, v :: rest => v :: beforeNumbers false rest
  | false, a :: rest =>
    match a with
    | ['-', '-'] => a :: rest
    | ['-', c] =>
      if c.isDigit then ['-', '-'] :: a :: rest
      else a :: beforeNumbers (c = 's' || c = 'f') rest
    | '-' :: c :: _ =>
      if c.isDigit || c = '.' then ['-', '-'] :: a :: rest else a :: beforeNumbers false rest
    | _ => a :: rest

end Sequence

open Sequence in
def seq (args : List Chars) : Action Nat := do
  let known : Known :=
    { flags := "w", valued := "sf", anywhere := false
      long := [("equal-width", 'w'), ("separator", 's'), ("format", 'f')] }
  withArguments known 1 (beforeNumbers false args) fun a => do
    let refuse (why : Chars) : Action Nat := misused known 1 why
    match a.operands with
    | [] => refuse "missing operand".toList
    | _ :: _ :: _ :: extra :: _ => refuse ("extra operand ".toList ++ quotedFully extra)
    | operands =>
      if a.has 'w' && a.has 'f' then
        return ← refuse
          "format string may not be specified when printing equal width strings".toList
      if let some why := (a.value? 'f').bind formatProblem? then
        warn why
        return 1
      let isEndless (cs : Chars) : Bool :=
        ["inf", "+inf", "infinity", "+infinity"].any fun s => cs.map Char.toLower = s.toList
      let isNothing (cs : Chars) : Bool :=
        ["nan", "-nan", "+nan"].any fun s => cs.map Char.toLower = s.toList
      if let some cs := operands.find? isNothing then
        return ← refuse ("invalid 'not-a-number' argument: ".toList ++ inQuotes cs)
      let isLastEndless := operands.getLast?.any isEndless
      let numbers := if isLastEndless then operands.dropLast else operands
      if let some cs := numbers.find? fun cs => (bound? cs).isNone then
        return ← refuse ("invalid floating point argument: ".toList ++ inQuotes cs)
      let one : Bound := ⟨⟨1, 0⟩, 1⟩
      let (first, step, last?) : Bound × Bound × Option Bound :=
        match numbers.filterMap bound?, isLastEndless with
        | [], _ => (one, one, none)
        | [a], true => (a, one, none)
        | a :: b :: _, true => (a, b, none)
        | [a], false => (one, one, some a)
        | [a, b], false => (a, one, some b)
        | a :: b :: c :: _, false => (a, b, some c)
      if step.value.numerator = 0 then
        return ← refuse ("invalid Zero increment value: ".toList ++ inQuotes (operands.getD 1 []))
      let lastPlaces := (last?.map fun b => b.value.places).getD 0
      let places := max first.value.places (max step.value.places lastPlaces)
      let shown := max first.value.places step.value.places
      let widthOf (b : Bound) : Nat :=
        let k := b.width + (shown - b.value.places)
        if b.value.places = 0 && 0 < shown then k + 1
        else if shown < b.value.places then
          b.width - (b.value.places - shown) - if shown = 0 then 1 else 0
        else k
      let width := if !a.has 'w' then 0 else max (widthOf first) ((last?.map widthOf).getD 0)
      let text (i : Int) : Chars :=
        let t := fixedText shown (i / Nat.pow 10 (places - shown))
        match a.value? 'f' with
        | some format => (formatted format [t]).1
        | none =>
          let zeros := List.replicate (width - t.length) '0'
          match t with
          | '-' :: ds => '-' :: zeros ++ ds
          | ds => zeros ++ ds
      let separator := (a.value? 's').getD ['\n']
      let some_ ← countUp (step.value.scaled places) (last?.map fun b => b.value.scaled places)
        (fun isFirst i => print ((if isFirst then [] else separator) ++ text i))
        loopLimit true (first.value.scaled places)
      if some_ then print ['\n']
      return 0

namespace Calculation

abbrev Reading (α : Type) := StateT (List Chars × Chars) (Except Chars) α

def integer? (cs : Chars) : Option Int :=
  match cs with
  | '-' :: ds => (natural? ds).map fun n => -(n : Int)
  | ds => (natural? ds).map fun n => (n : Int)

def integer (cs : Chars) : Except Chars Int :=
  match integer? cs with
  | some n => .ok n
  | none => .error "non-integer argument".toList

def ofInteger (n : Int) : Chars := (toString n).toList

/-- Whether a value counts as false: nothing, or only zeros. -/
def isFalse (cs : Chars) : Bool :=
  match cs with
  | [] => true
  | '-' :: ds => ds ≠ [] && ds.all (· = '0')
  | ds => ds.all (· = '0')

def peek? : Reading (Option Chars) := do return (← get).1.head?

def skip : Reading Unit := modify fun st => (st.1.drop 1, st.1.headD [])

def accept (operators : List String) : Reading (Option String) := do
  match ← peek? with
  | some a =>
    let s := String.ofList a
    if operators.contains s then
      skip
      return some s
    else return none
  | none => return none

def refuse {α : Type} (why : Chars) : Reading α := throw ("syntax error: ".toList ++ why)

def take : Reading Chars := do
  match ← peek? with
  | some a =>
    skip
    return a
  | none => refuse ("missing argument after ".toList ++ inQuotes (← get).2)

def levels : List (List String) :=
  [["|"], ["&"], ["<", "<=", "=", "==", "!=", ">=", ">"], ["+", "-"], ["*", "/", "%"], [":"]]

def compared (operator : String) (a b : Chars) : Bool :=
  let o :=
    match integer? a, integer? b with
    | some m, some n => compare m n
    | _, _ => if a = b then .eq else if a < b then .lt else .gt
  match operator with
  | "<" => o = .lt
  | "<=" => o ≠ .gt
  | ">" => o = .gt
  | ">=" => o ≠ .lt
  | "!=" => o ≠ .eq
  | _ => o = .eq

def matched (text pattern : Chars) : Except Chars Chars :=
  match Regex.frontMatch text pattern with
  | .ok cs => .ok cs
  | .error why => .error why.toList

def apply (operator : String) (a b : Chars) : Except Chars Chars := do
  match operator with
  | "|" => return if !isFalse a then a else if !isFalse b then b else ['0']
  | "&" => return if isFalse a || isFalse b then ['0'] else a
  | "+" => return ofInteger ((← integer a) + (← integer b))
  | "-" => return ofInteger ((← integer a) - (← integer b))
  | "*" => return ofInteger ((← integer a) * (← integer b))
  | "/" =>
    let m ← integer a
    let n ← integer b
    if n = 0 then throw "division by zero".toList
    return ofInteger (Int.tdiv m n)
  | "%" =>
    let m ← integer a
    let n ← integer b
    if n = 0 then throw "division by zero".toList
    return ofInteger (Int.tmod m n)
  | ":" => matched a b
  | _ => return if compared operator a b then ['1'] else ['0']

mutual

/-- Reads operands with operators of a level between them; nothing is calculated unless `active`
is set. -/
def level (active : Bool) : Nat → List (List String) → Reading Chars
  | 0, _ => refuse "too deep".toList
  | n + 1, [] => operand active n
  | n + 1, operators :: tighter => do
    let a ← level active n tighter
    levelFrom active n operators tighter a

def levelFrom (active : Bool) :
    Nat → List String → List (List String) → Chars → Reading Chars
  | 0, _, _, _ => refuse "too deep".toList
  | n + 1, operators, tighter, a => do
    match ← accept operators with
    | none => return a
    | some s =>
      let needed := active && !(s = "|" && !isFalse a) && !(s = "&" && isFalse a)
      let b ← level needed n tighter
      let v ← if active then (apply s a b : Except Chars Chars) else pure []
      levelFrom active n operators tighter v

def operand (active : Bool) : Nat → Reading Chars
  | 0 => refuse "too deep".toList
  | n + 1 => do
    match String.ofList (← take) with
    | "(" =>
      let v ← level active n levels
      match ← peek? with
      | none => refuse ("expecting ')' after ".toList ++ inQuotes (← get).2)
      | some [')'] =>
        skip
        return v
      | some a => refuse ("expecting ')' instead of ".toList ++ inQuotes a)
    | ")" => refuse "unexpected ')'".toList
    | "+" => take
    | "length" => return decimal (← operand active n).length
    | "match" =>
      let a ← operand active n
      let b ← operand active n
      if active then (matched a b : Except Chars Chars) else return []
    | "index" =>
      let a ← operand active n
      let set ← operand active n
      return decimal (((a.findIdx? set.contains).map (· + 1)).getD 0)
    | "substr" =>
      let a ← operand active n
      let start ← operand active n
      let count ← operand active n
      match integer? start, integer? count with
      | some s, some k =>
        return if s ≤ 0 || k ≤ 0 then [] else (a.drop (s.toNat - 1)).take k.toNat
      | _, _ => return []
    | s => return s.toList

end

end Calculation

open Calculation in
def expr (args : List Chars) : Action Nat := do
  let known : Known := { flags := "" }
  let args := if args.head? = some ['-', '-'] then args.drop 1 else args
  if args.isEmpty then return ← misused known 2 "missing operand".toList
  match (level true (20 * args.length + 20) levels).run (args, []) with
  | .ok (v, ([], _)) =>
    printLine v
    return if isFalse v then 1 else 0
  | .ok (_, (a :: _, _)) =>
    warn ("syntax error: unexpected argument ".toList ++ inQuotes a)
    return 2
  | .error why =>
    warn why
    return 2

end ImportResolver.Tool

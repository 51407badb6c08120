import ImportResolver.Tool.Arguments
import ImportResolver.Tool.Names
/- Numbers with units: reading them, and writing them with others. -/
namespace ImportResolver.Tool

open Shell Shell.Action

namespace Measures

structure Ratio where
  top : Int
  bottom : Nat

namespace Ratio

def times (r : Ratio) (n : Nat) : Ratio := ⟨r.top * n, r.bottom⟩

def divided (r : Ratio) (n : Nat) : Ratio := ⟨r.top, r.bottom * n⟩

def isBelow (r : Ratio) (n : Nat) : Bool := r.top.natAbs < n * r.bottom

end Ratio

inductive Rounding where
  | up
  | down
  | fromZero
  | towardsZero
  | nearest

def Rounding.whole (how : Rounding) (r : Ratio) : Int :=
  let size := r.top.natAbs
  let low : Nat := size / r.bottom
  let high : Nat := (size + r.bottom - 1) / r.bottom
  let isNegative := r.top < 0
  let n : Nat :=
    match how with
    | .up => if isNegative then low else high
    | .down => if isNegative then high else low
    | .fromZero => high
    | .towardsZero => low
    | .nearest => (2 * size + r.bottom) / (2 * r.bottom)
  if isNegative then -(n : Int) else n

inductive Scale where
  | none
  | auto
  | si
  | iec
  /-- Units of 1024 that have an `i`. -/
  | iecI
  deriving DecidableEq

def Scale.ofName? (name : String) : Option Scale :=
  match name with
  | "none" => some .none
  | "auto" => some .auto
  | "si" => some .si
  | "iec" => some .iec
  | "iec-i" => some .iecI
  | _ => Option.none

def Scale.factor (s : Scale) : Nat := if s = .iec || s = .iecI then 1024 else 1000

def letters : List Char := ['K', 'M', 'G', 'T', 'P', 'E', 'Z', 'Y', 'R', 'Q']

def power? (c : Char) : Option Nat :=
  if letters.contains c then some (letters.idxOf c + 1) else none

structure Plan where
  source : Scale := .none
  goal : Scale := .none
  sourceUnit : Nat := 1
  goalUnit : Nat := 1
  rounding : Rounding := .fromZero
  suffix : Chars := []
  /-- Columns to fill; below zero from the left. -/
  padding : Int := 0
  fillsZeros : Bool := false
  precision : Option Nat := none
  front : Chars := []
  back : Chars := []
  delimiter : Option Char := none
  ending : Char := '\n'

/-- The value of a number with its unit, and how many digits it has after the point. -/
def value? (scale : Scale) (text : Chars) : Except Chars (Ratio × Nat) :=
  let shown := inQuotes text
  let (sign, cs) : Int × Chars := match text with
    | '-' :: cs => (-1, cs)
    | cs => (1, cs)
  let (whole, rest) := cs.span Char.isDigit
  let (fraction, rest) := match rest with
    | '.' :: more => more.span Char.isDigit
    | rest => ([], rest)
  let isPoint := (cs.drop whole.length).head? = some '.'
  if whole.isEmpty && fraction.isEmpty || isPoint && fraction.isEmpty then
    .error ("invalid number: ".toList ++ shown)
  else
    let number : Ratio :=
      ⟨sign * Arithmetic.numeral 10 (whole ++ fraction), Nat.pow 10 fraction.length⟩
    let isBlank (c : Char) : Bool := c = ' ' || c = '\t'
    let trailing (rest : Chars) (n : Ratio) (precision : Nat) : Except Chars (Ratio × Nat) :=
      if rest.isEmpty then .ok (n, precision)
      else .error ("invalid suffix in input ".toList ++ shown ++ ": ".toList ++ inQuotes rest)
    match rest.dropWhile isBlank with
    | [] =>
      if !rest.isEmpty then .error ("invalid suffix in input: ".toList ++ shown)
      else .ok (number, fraction.length)
    | c :: more =>
      match power? c with
      | none => .error ("invalid suffix in input: ".toList ++ shown)
      | some power =>
        if scale = .none then
          .error ("rejecting suffix in input: ".toList ++ shown ++
            " (consider using --from)".toList)
        else
          let hasI := more.head? = some 'i'
          if scale = .iecI && !hasI then
            .error ("missing 'i' suffix in input: ".toList ++ shown ++ " (e.g Ki/Mi/Gi)".toList)
          else
            let taken := hasI && (scale = .iecI || scale = .auto)
            let factor := if scale = .auto && hasI then 1024 else scale.factor
            trailing (if taken then more.drop 1 else more) (number.times (Nat.pow factor power)) 0

/-- A number with so many digits after the point, of which it has no more. -/
def plain (n : Ratio) (digits : Nat) : Chars :=
  let all := n.top.natAbs * Nat.pow 10 digits / n.bottom
  let whole := decimal (all / Nat.pow 10 digits)
  let part := decimal (all % Nat.pow 10 digits)
  (if n.top < 0 then ['-'] else []) ++ whole ++
    if digits = 0 then [] else '.' :: List.replicate (digits - part.length) '0' ++ part

def rounded (how : Rounding) (n : Ratio) (digits : Nat) : Ratio :=
  ⟨how.whole (n.times (Nat.pow 10 digits)), Nat.pow 10 digits⟩

def reduced (factor : Nat) : Nat → Ratio → Nat → Ratio × Nat
  | 0, n, power => (n, power)
  | fuel + 1, n, power =>
    if n.isBelow factor then (n, power) else reduced factor fuel (n.divided factor) (power + 1)

def written (p : Plan) (n : Ratio) (precision : Nat) : Chars :=
  if p.goal = .none then
    let digits := p.precision.getD precision
    plain (rounded p.rounding n digits) digits
  else
    let factor := p.goal.factor
    let (n, power) := reduced factor 60 n 0
    let digits := match p.precision with
      | some d => min (power * 3) d
      | none => if n.isBelow 10 then 1 else 0
    let n := rounded p.rounding n digits
    let (n, power) := if n.isBelow factor then (n, power) else (n.divided factor, power + 1)
    let isSmall := n.top ≠ 0 && n.isBelow 10 && 0 < power
    let unit := if power = 0 then [] else (letters[power - 1]?).toList
    plain n (p.precision.getD (if isSmall then 1 else 0)) ++ unit ++
      if p.goal = .iecI && 0 < power then ['i'] else []

def filled (p : Plan) (width : Int) (cs : Chars) : Chars :=
  let missing := width.natAbs - cs.length
  if width < 0 then cs ++ List.replicate missing ' '
  else if p.fillsZeros then
    let (sign, digits) := cs.span (· = '-')
    sign ++ List.replicate missing '0' ++ digits
  else List.replicate missing ' ' ++ cs

/-- Converts a field; fields are filled up to what they had if nothing else is asked for. -/
def field? (p : Plan) (isFirst : Bool) (text : Chars) : Except Chars Chars := do
  let isBlank (c : Char) : Bool := c = ' ' || c = '\t'
  let n := p.suffix.length
  let body :=
    if n ≠ 0 && n < text.length && text.drop (text.length - n) = p.suffix then
      text.take (text.length - n)
    else text
  let number := body.dropWhile isBlank
  let isAuto := p.padding = 0 && p.delimiter.isNone
  let width : Int :=
    if isAuto then if number.length < body.length || !isFirst then (body.length : Int) else 0
    else p.padding
  let (value, precision) ← value? p.source number
  let value := (value.times p.sourceUnit).divided p.goalUnit
  return p.front ++ filled p width (written p value precision ++ p.suffix) ++ p.back

/-- The fields of a line. Without a delimiter the blanks before a field belong to it, but for one
that is put between any two. -/
def fields (delimiter : Option Char) : Nat → Chars → List Chars
  | 0, cs => [cs]
  | n + 1, cs =>
    let isBlank (c : Char) : Bool := c = ' ' || c = '\t' || c = '\n'
    let one :=
      match delimiter with
      | some d => cs.takeWhile (· ≠ d)
      | none =>
        let lead := cs.takeWhile isBlank
        lead ++ (cs.drop lead.length).takeWhile (!isBlank ·)
    match cs.drop one.length with
    | [] => [one]
    | _ :: rest => one :: fields delimiter n rest

def chosen? (cs : Chars) : Option (Nat → Bool) :=
  let one (part : Chars) : Option (Nat → Bool) :=
    let (low, rest) := part.span (· ≠ '-')
    match natural? low, rest with
    | some n, [] => if n = 0 then none else some (· == n)
    | some n, ['-'] => some fun k => n ≤ k
    | some n, _ :: high => (natural? high).map fun m k => n ≤ k && k ≤ m
    | none, '-' :: high =>
      if !low.isEmpty then none
      else if high.isEmpty then some fun _ => true
      else (natural? high).map fun m k => k ≤ m
    | none, _ => none
  (Text.runs ',' cs).foldr (fun part rest => do
    let p ← one part
    let q ← rest
    return fun k => p k || q k) (some fun _ => false)

def withFormat (p : Plan) (format : Chars) : Except Chars Plan := do
  let literal (cs : Chars) : Chars × Chars := cs.span (· ≠ '%')
  let (front, rest) := literal format
  match rest with
  | [] => throw ("format ".toList ++ inQuotes format ++ " has no % directive".toList)
  | _ :: body =>
    let flags := body.takeWhile fun c => ['0', '-', '\'', ' '].contains c
    let body := body.drop flags.length
    let (width, body) := body.span Char.isDigit
    let (precision, body) := match body with
      | '.' :: more =>
        let (digits, rest) := more.span Char.isDigit
        (some (Arithmetic.numeral 10 digits), rest)
      | body => (none, body)
    match body with
    | 'f' :: back =>
      if back.contains '%' then
        throw ("format ".toList ++ inQuotes format ++ " has too many % directives".toList)
      let width : Int := Arithmetic.numeral 10 width
      let padding := if flags.contains '-' then -width else width
      return { p with
        front, back, precision := precision.or p.precision
        padding := if width = 0 then p.padding else padding
        fillsZeros := flags.contains '0' && !flags.contains '-' }
    | _ =>
      throw ("invalid format ".toList ++ inQuotes format ++
        ", directive must be %[0]['][-][N][.][N]f".toList)

def known : Known :=
  { flags := "zg\x0a", valued := "d\x01\x02\x03\x04\x05\x06\x07\x08\x0b\x0c", free := "\x0e"
    long := [("delimiter", 'd'), ("zero-terminated", 'z'), ("grouping", 'g'), ("debug", '\x0a'),
      ("field", '\x01'), ("format", '\x02'), ("from", '\x03'), ("from-unit", '\x04'),
      ("invalid", '\x05'), ("padding", '\x06'), ("round", '\x07'), ("suffix", '\x08'),
      ("to", '\x0b'), ("to-unit", '\x0c'), ("header", '\x0e')] }

def roundings : List (String × Rounding) :=
  [("up", .up), ("down", .down), ("from-zero", .fromZero), ("towards-zero", .towardsZero),
    ("nearest", .nearest)]

def integer? (cs : Chars) : Option Int :=
  match cs with
  | '-' :: ds => (natural? ds).map fun n => -(n : Int)
  | ds => (natural? ds).map fun n => (n : Int)

def plan (a : Arguments) : Except (Bool × Chars) Plan := do
  let value (c : Char) : Option String := (a.value? c).map String.ofList
  let choice {α : Type} (c : Char) (option : String) (known : String → Option α)
      (all : List String) (usual : α) : Except (Bool × Chars) α :=
    match value c with
    | none => .ok usual
    | some name =>
      match known name with
      | some x => .ok x
      | none =>
        .error (true, "invalid argument ".toList ++ inQuotes name.toList ++ " for '".toList ++
          option.toList ++ "'\nValid arguments are:".toList ++
          all.flatMap fun w => "\n  - ".toList ++ inQuotes w.toList)
  let scales := ["none", "si", "iec", "iec-i"]
  let source ← choice '\x03' "--from" Scale.ofName? ("none" :: "auto" :: scales.drop 1) Scale.none
  let goal ← choice '\x0b' "--to" (fun n => (Scale.ofName? n).filter (· ≠ .auto)) scales Scale.none
  let rounding ← choice '\x07' "--round" (fun n => (roundings.find? (·.1 = n)).map (·.2))
    (roundings.map (·.1)) Rounding.fromZero
  let unit (c : Char) : Except (Bool × Chars) Nat :=
    match (a.value? c).getD ['1'] with
    | cs =>
      match size? cs with
      | some (n + 1) => .ok (n + 1)
      | _ => .error (false, "invalid unit size: ".toList ++ inQuotes cs)
  let padding ← match a.value? '\x06' with
    | none => pure 0
    | some cs =>
      match integer? cs with
      | some 0 | none => throw (false, "invalid padding value ".toList ++ inQuotes cs)
      | some n => pure n
  let delimiter ← match a.value? 'd' with
    | none => pure none
    | some [c] => pure (some c)
    | some _ => throw (false, "the delimiter must be a single character".toList)
  let p : Plan :=
    { source, goal, rounding, padding, delimiter
      sourceUnit := ← unit '\x04', goalUnit := ← unit '\x0c'
      suffix := (a.value? '\x08').getD [], ending := lineEnd a 'z' }
  match a.value? '\x02' with
  | none => return p
  | some format => (withFormat p format).mapError fun why => (false, why)

/-- What is done about numbers that cannot be read. -/
structure Treatment where
  isChosen : Nat → Bool
  invalid : String

/-- Converts a line; answers with whether all of it could be converted. -/
def convert (p : Plan) (m : Treatment) (line : Chars) : Action (Option Bool) := do
  let all := (fields p.delimiter (line.length + 1) line).zipIdx 1
  let gap := [p.delimiter.getD ' ']
  let rec go : List (Chars × Nat) → Chars → Bool → Action (Option (Chars × Bool))
    | [], text, whole => return some (text, whole)
    | (one, k) :: rest, text, whole => do
      let text := if k = 1 then text else text ++ gap
      if !m.isChosen k then go rest (text ++ one) whole
      else
        match field? p (k = 1) one with
        | .ok cs => go rest (text ++ cs) whole
        | .error why =>
          if m.invalid = "abort" then
            print text
            warn why
            return none
          if m.invalid ≠ "ignore" then warn why
          go rest (text ++ one) false
  match ← go all [] true with
  | none => return none
  | some (text, whole) =>
    print (text ++ [p.ending])
    return some whole

end Measures

open Measures in
def numfmt (args : List Chars) : Action Nat :=
  withArguments known 1 args fun a => do
    let refuse (why : Chars) : Action Nat := do
      warn why
      return 1
    let chosen := (a.value? '\x01').getD ['1']
    let header := (a.value? '\x0e').map fun n => if n.isEmpty then some 1 else natural? n
    match plan a, chosen? chosen, header with
    | .error (isMisuse, why), _, _ => if isMisuse then misused known 1 why else refuse why
    | _, none, _ => misused known 1 ("invalid field value ".toList ++ inQuotes chosen)
    | _, _, some none => refuse ("invalid header value ".toList ++
        inQuotes ((a.value? '\x0e').getD []))
    | .ok p, some isChosen, header =>
      let m : Treatment := ⟨isChosen, String.ofList ((a.value? '\x05').getD "abort".toList)⟩
      let skipped := (header.bind fun n => n).getD 0
      let ls ←
        if a.operands.isEmpty then do
          match ← contentOf ['-'] with
          | .ok cs =>
            let runs := Text.runs p.ending cs
            pure (if runs.getLast? = some [] then runs.dropLast else runs)
          | .error _ => pure []
        else pure a.operands
      let skipped := if a.operands.isEmpty then skipped else 0
      (ls.take skipped).forM fun l => print (l ++ [p.ending])
      let rec each : List Chars → Bool → Action Nat
        | [], whole => return if whole || ["warn", "ignore"].contains m.invalid then 0 else 2
        | l :: rest, whole => do
          match ← convert p m l with
          | none => return 2
          | some one => each rest (whole && one)
      each (ls.drop skipped) true

end ImportResolver.Tool

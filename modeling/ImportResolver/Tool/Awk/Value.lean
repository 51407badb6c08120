import ImportResolver.Shell.Format
import ImportResolver.Tool.Awk.Syntax
/- Values: numbers, texts, and texts from outside that count as numbers if they look like some. -/
namespace ImportResolver.Tool.Awk

open Shell

inductive Value where
  | none
  | number (x : Float)
  | text (cs : Chars)
  | input (cs : Chars)

/-- The number that a machine number stands for. What is undefined came of an operation, and has the
sign that machines give to that. -/
def floatingOf (x : Float) : Floating :=
  let bits := x.toBits.toNat
  let negative := bits / Nat.pow 2 63 = 1
  let exponent : Nat := bits / Nat.pow 2 52 % 2048
  let fraction : Nat := bits % Nat.pow 2 52
  if exponent = 2047 then
    if fraction = 0 then .infinite negative else .undefined true
  else if exponent = 0 then .finite negative fraction Floating.leastExponent
  else .finite negative (fraction + Nat.pow 2 52) ((exponent : Int) - 1075)

def zero : Float := Float.ofNat 0

def floatOf : Floating → Float
  | .finite negative m e =>
    let x := (Float.ofNat m).scaleB e
    if negative then -x else x
  | .infinite negative =>
    let x := Float.ofNat 1 / zero
    if negative then -x else x
  | .undefined negative =>
    let x := Float.ofBits 0x7ff8000000000000
    if negative then -x else x

def leadingNumber (cs : Chars) : Float :=
  match Floating.ofText? cs with
  | some (v, _, _) => floatOf v
  | .none => zero

/-- Whether a text is a number and nothing else, but for blanks around it. -/
def looksNumeric (cs : Chars) : Bool :=
  let body := cs.dropWhile Arithmetic.isSpace
  let starts := body.head?.any fun c => c.isDigit || ['+', '-', '.'].contains c
  starts && match Floating.ofText? body with
    | some (.finite .., rest, _) => rest.all Arithmetic.isSpace
    | _ => false

def whole? (x : Float) : Option Int :=
  if zero ≤ x then
    let n := x.toUInt64
    if n.toFloat == x then some n.toNat else .none
  else
    let n := x.toInt64
    if n.toFloat == x then some n.toInt else .none

/-- Why a format cannot be followed, and what was made of it before. -/
inductive Misfit where
  | missing (before : Chars)
  | improper (place : Nat) (before : Chars)

namespace Value

def toFloat : Value → Float
  | .none => zero
  | .number x => x
  | .text cs => leadingNumber cs
  | .input cs => leadingNumber cs

def isNumeric : Value → Bool
  | .none => true
  | .number _ => true
  | .text _ => false
  | .input cs => looksNumeric cs

def holds : Value → Bool
  | .none => false
  | .number x => x != zero
  | .text cs => !cs.isEmpty
  | .input cs => if looksNumeric cs then leadingNumber cs != zero else !cs.isEmpty

end Value

namespace Formatting

def wholeOf (x : Float) : Int :=
  if zero ≤ x then x.toUInt64.toNat
  else if x.isNaN then -Nat.pow 2 63
  else max x.toInt64.toInt (-(Nat.pow 2 63 - 1))

def bitsOf (x : Float) : Nat :=
  if zero ≤ x then x.toUInt64.toNat else (x.toInt64.toInt % Nat.pow 2 64).toNat

/-- The characters of a directive in front of its letter: flags, width and precision. Stars take
numbers from the arguments. -/
def measure? (numbers : List Value) (cs : Chars) :
    Option (Option Int × Chars × List Value) :=
  match cs with
  | '*' :: rest =>
    match numbers with
    | v :: numbers => some (some (wholeOf v.toFloat), rest, numbers)
    | [] => .none
  | _ =>
    let (ds, rest) := cs.span Char.isDigit
    some (if ds = [] then .none else some (Arithmetic.numeral 10 ds), rest, numbers)

/-- One argument as a directive shows it; none if there is no such directive. -/
def shown? (text : Value → Chars) (d : Shell.Format.Directive) (short : Bool) (c : Char)
    (v : Value) : Option Chars :=
  let x := v.toFloat
  let narrowed (n : Int) : Int :=
    if short then (n + Nat.pow 2 15) % Nat.pow 2 16 - Nat.pow 2 15 else n
  let bits := if short then bitsOf x % Nat.pow 2 16 else bitsOf x
  match c with
  | 'd' => some (d.signed (narrowed (wholeOf x)))
  | 'i' => some (d.signed (narrowed (wholeOf x)))
  | 'u' => some (d.unsigned 10 false bits)
  | 'o' => some (d.unsigned 8 false bits)
  | 'x' => some (d.unsigned 16 false bits)
  | 'X' => some (d.unsigned 16 true bits)
  | 's' =>
    let cs := text v
    some (d.pad ((d.precision.map cs.take).getD cs))
  | 'c' =>
    let letter : Char :=
      match v with
      | .text cs => cs.head?.getD (Char.ofNat 0)
      | .none => Char.ofNat 0
      | .number x => Char.ofNat (bitsOf x % 256)
      | .input cs =>
        if looksNumeric cs then Char.ofNat (bitsOf x % 256) else cs.head?.getD (Char.ofNat 0)
    some (d.pad [letter])
  | c => if "fFeEgGaA".toList.contains c then some (d.floating c (floatingOf x)) else .none

/-- What a format prints for values; `place` counts the directives. -/
def printed (text : Value → Chars) : Nat → Nat → Chars → List Value → List Chars →
    Except Misfit Chars
  | 0, _, _, _, acc => .ok acc.reverse.flatten
  | _, _, [], _, acc => .ok acc.reverse.flatten
  | n + 1, place, '%' :: '%' :: cs, vs, acc => printed text n place cs vs (['%'] :: acc)
  | n + 1, place, '%' :: directive, vs, acc =>
    let (flags, cs) := directive.span fun c => ['#', '-', '+', ' ', '0'].contains c
    match measure? vs cs with
    | .none => .error (.missing acc.reverse.flatten)
    | some (width, cs, vs) =>
      let precision? : Option (Option Int × Chars × List Value) :=
        match cs with
        | '.' :: cs => (measure? vs cs).map fun (p, cs, vs) => (some (p.getD 0), cs, vs)
        | cs => some (.none, cs, vs)
      match precision? with
      | .none => .error (.missing acc.reverse.flatten)
      | some (precision, cs, vs) =>
        let (lengths, cs) := cs.span fun c => ['h', 'l', 'L', 'q', 'j', 'z', 't'].contains c
        let d : Shell.Format.Directive :=
          { flags
            width := width.map Int.natAbs
            precision := precision.bind fun p => if p < 0 then .none else some p.toNat
            leftAligned := flags.contains '-' || width.any (· < 0) }
        match cs with
        | [] => .error (.improper place acc.reverse.flatten)
        | c :: cs =>
          if (shown? text d false c .none).isNone || lengths.contains 'z' then
            .error (.improper place acc.reverse.flatten)
          else
            match vs with
            | [] => .error (.missing acc.reverse.flatten)
            | v :: vs =>
              printed text n (place + 1) cs vs
                ((shown? text d (lengths = ['h']) c v).getD [] :: acc)
  | n + 1, place, c :: cs, vs, acc =>
    let (plain, rest) := (c :: cs).span (· ≠ '%')
    printed text n place rest vs (plain :: acc)

end Formatting

def formatted (text : Value → Chars) (format : Chars) (vs : List Value) : Except Misfit Chars :=
  Formatting.printed text (format.length + 1) 1 format vs []

/-- A number as a text: with a format of its own unless it is whole. -/
def numberText (format : Chars) (x : Float) : Chars :=
  match whole? x with
  | some n => (toString n).toList
  | .none =>
    match formatted (fun _ => []) format [.number x] with
    | .ok cs => cs
    | .error _ => format

def Value.toText (format : Chars) : Value → Chars
  | .none => []
  | .number x => numberText format x
  | .text cs => cs
  | .input cs => cs

/-- How two values are compared: as numbers, if both can be. -/
def compareValues (format : Chars) (op : Operator) (a b : Value) : Bool :=
  if a.isNumeric && b.isNumeric then
    let x := a.toFloat
    let y := b.toFloat
    match op with
    | .less => x < y
    | .atMost => x ≤ y
    | .equal => x == y
    | .unequal => x != y
    | .greater => y < x
    | _ => y ≤ x
  else
    let o := compare (a.toText format) (b.toText format)
    match op with
    | .less => o.isLT
    | .atMost => o.isLE
    | .equal => o.isEq
    | .unequal => o.isNe
    | .greater => o.isGT
    | _ => o.isGE

def remainder (x y : Float) : Float :=
  match floatingOf x, floatingOf y with
  | .finite negative m e, .finite _ k f =>
    if k = 0 then -(zero / zero)
    else
      let low := min e f
      let a := m * Nat.pow 2 (e - low).toNat
      let b := k * Nat.pow 2 (f - low).toNat
      floatOf (.finite negative (a % b) low)
  | .finite .., .infinite _ => x
  | _, _ => zero / zero

end ImportResolver.Tool.Awk

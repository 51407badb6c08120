import ImportResolver.Shell.Arithmetic
/- Binary floating-point numbers of 64 bits: reading them, and writing them with a number of
digits. Each step is exact, and rounded once: to the nearest number, of two the even one. -/
namespace ImportResolver.Shell

/-- A number `mantissa * 2 ^ exponent`, or what stands for none. -/
inductive Floating where
  | finite (negative : Bool) (mantissa : Nat) (exponent : Int)
  | infinite (negative : Bool)
  | undefined (negative : Bool)
  deriving DecidableEq

namespace Floating

def roundHalfEven (numerator denominator : Nat) : Nat :=
  let q := numerator / denominator
  let r := numerator % denominator
  if 2 * r < denominator then q
  else if denominator < 2 * r then q + 1
  else if q % 2 = 0 then q
  else q + 1

def precision : Nat := 53

def leastExponent : Int := -1074

def largestExponent : Int := 971

/-- The quotient of two numbers, rounded; also says whether it is out of range: too large, or so
small that digits were lost. -/
def ofQuotient (negative : Bool) (numerator denominator : Nat) : Floating × Bool :=
  if numerator = 0 then (.finite negative 0 0, false)
  else
    let scaled (e : Int) : Nat × Nat :=
      if 0 ≤ e then (numerator, denominator * Nat.pow 2 e.toNat)
      else (numerator * Nat.pow 2 (-e).toNat, denominator)
    let guess : Int := (numerator.log2 : Int) - denominator.log2 - precision + 1
    let (n, d) := scaled guess
    let guess := if n / d < Nat.pow 2 (precision - 1) then guess - 1 else guess
    let e := max guess leastExponent
    let (n, d) := scaled e
    let m := roundHalfEven n d
    let (m, e) := if m = Nat.pow 2 precision then (Nat.pow 2 (precision - 1), e + 1) else (m, e)
    if largestExponent < e then (.infinite negative, true)
    else (.finite negative m e, m < Nat.pow 2 (precision - 1) && n % d ≠ 0)

def quotient (mantissa : Nat) (exponent : Int) : Nat × Nat :=
  if 0 ≤ exponent then (mantissa * Nat.pow 2 exponent.toNat, 1)
  else (mantissa, Nat.pow 2 (-exponent).toNat)

/-- Larger exponents make no difference. -/
def exponentLimit : Nat := 20000

def exponentAfter? (letters : Chars) (cs : Chars) : Option (Int × Chars) :=
  match cs with
  | c :: rest =>
    let (negative, ds) :=
      match rest with
      | '-' :: ds => (true, ds)
      | '+' :: ds => (false, ds)
      | ds => (false, ds)
    let (digits, after) := ds.span Char.isDigit
    if letters.contains c && digits ≠ [] then
      let n : Int := min exponentLimit (Arithmetic.numeral 10 digits)
      some (if negative then -n else n, after)
    else none
  | [] => none

/-- Digits with a point among them: their value, how many follow the point, and the rest. -/
def pointed? (isDigit : Char → Bool) (base : Nat) (cs : Chars) : Option (Nat × Nat × Chars) :=
  let (whole, rest) := cs.span isDigit
  let (places, rest) :=
    match rest with
    | '.' :: after => after.span isDigit
    | _ => ([], rest)
  if whole ++ places = [] then none
  else some (Arithmetic.numeral base (whole ++ places), places.length, rest)

/-- A number without its sign, what follows it, and whether it is out of range. -/
def magnitude? (negative : Bool) (cs : Chars) : Option (Floating × Chars × Bool) :=
  let power (base : Nat) (e : Int) (n places : Nat) : Floating × Bool :=
    let scale := Nat.pow base e.natAbs
    if 0 ≤ e then ofQuotient negative (n * scale) places else ofQuotient negative n (places * scale)
  let isHex (c : Char) : Bool := Arithmetic.digitValue c < 16
  let hex? : Option (Floating × Chars × Bool) :=
    match cs with
    | '0' :: x :: rest =>
      if x = 'x' || x = 'X' then
        (pointed? isHex 16 rest).map fun (n, places, rest) =>
          let (e, rest) := (exponentAfter? ['p', 'P'] rest).getD (0, rest)
          let (v, out) := power 2 e n (Nat.pow 16 places)
          (v, rest, out)
      else none
    | _ => none
  let lower := (cs.take 8).map Char.toLower
  if "infinity".toList.isPrefixOf lower then some (.infinite negative, cs.drop 8, false)
  else if "inf".toList.isPrefixOf lower then some (.infinite negative, cs.drop 3, false)
  else if "nan".toList.isPrefixOf lower then
    let rest := cs.drop 3
    let rest :=
      match rest with
      | '(' :: inner =>
        match inner.dropWhile Reader.isNameChar with
        | ')' :: after => after
        | _ => rest
      | _ => rest
    some (.undefined negative, rest, false)
  else
    hex? <|> (pointed? Char.isDigit 10 cs).map fun (n, places, rest) =>
      let (e, rest) := (exponentAfter? ['e', 'E'] rest).getD (0, rest)
      let (v, out) := power 10 e n (Nat.pow 10 places)
      (v, rest, out)

/-- The number that a text begins with, after blanks, what follows it, and whether it is out of
range. -/
def ofText? (cs : Chars) : Option (Floating × Chars × Bool) :=
  match cs.dropWhile Arithmetic.isSpace with
  | '-' :: rest => magnitude? true rest
  | '+' :: rest => magnitude? false rest
  | rest => magnitude? false rest

def isNegative : Floating → Bool
  | .finite negative _ _ => negative
  | .infinite negative => negative
  | .undefined negative => negative

/- Writing. -/

/-- Digits with a point after the first so many; a point at the end only if `pointed` is set. -/
def withPoint (pointed : Bool) (count : Nat) (digits : Chars) : Chars :=
  let places := digits.drop count
  digits.take count ++ if places = [] && !pointed then [] else '.' :: places

def fixed (pointed : Bool) (numerator denominator places : Nat) : Chars :=
  let digits := (toString (roundHalfEven (numerator * Nat.pow 10 places) denominator)).toList
  let digits := List.replicate (places + 1 - digits.length) '0' ++ digits
  withPoint pointed (digits.length - places) digits

def decimalExponent (numerator denominator : Nat) : Int :=
  if numerator = 0 then 0
  else
    let guess : Int := ((toString numerator).length : Int) - (toString denominator).length
    let reaches (e : Int) : Bool :=
      if 0 ≤ e then denominator * Nat.pow 10 e.toNat ≤ numerator
      else denominator ≤ numerator * Nat.pow 10 (-e).toNat
    if reaches guess then guess else guess - 1

/-- The digits of a quotient in scientific notation with so many places, and its exponent. -/
def scientificDigits (numerator denominator places : Nat) : Chars × Int :=
  let e := decimalExponent numerator denominator
  let shift := (places : Int) - e
  let n :=
    if 0 ≤ shift then roundHalfEven (numerator * Nat.pow 10 shift.toNat) denominator
    else roundHalfEven numerator (denominator * Nat.pow 10 (-shift).toNat)
  let (n, e) := if n = Nat.pow 10 (places + 1) then (Nat.pow 10 places, e + 1) else (n, e)
  let digits := (toString n).toList
  (List.replicate (places + 1 - digits.length) '0' ++ digits, e)

def exponentText (letter : Char) (least : Nat) (e : Int) : Chars :=
  let digits := (toString e.natAbs).toList
  [letter, if e < 0 then '-' else '+'] ++ List.replicate (least - digits.length) '0' ++ digits

def scientific (pointed : Bool) (numerator denominator places : Nat) : Chars :=
  let (digits, e) := scientificDigits numerator denominator places
  withPoint pointed 1 digits ++ exponentText 'e' 2 e

/-- A quotient in the shorter of the two notations, with so many digits; zeros at their end stay
only if `pointed` is set. -/
def general (pointed : Bool) (numerator denominator digits : Nat) : Chars :=
  let digits := max 1 digits
  let trimmed (cs : Chars) : Chars :=
    if cs.contains '.' && !pointed then
      ((cs.reverse.dropWhile (· = '0')).dropWhile (· = '.')).reverse
    else cs
  let (ds, e) := scientificDigits numerator denominator (digits - 1)
  if e < -4 || (digits : Int) ≤ e then trimmed (withPoint pointed 1 ds) ++ exponentText 'e' 2 e
  else trimmed (fixed pointed numerator denominator ((digits : Int) - 1 - e).toNat)

/-- A number in hexadecimal digits, with so many places, or as many as it takes. -/
def hexadecimal (pointed : Bool) (places : Option Nat) (mantissa : Nat) (exponent : Int) : Chars :=
  let (first, e) : Nat × Int :=
    if mantissa = 0 then (0, 0)
    else if mantissa < Nat.pow 2 (precision - 1) then (mantissa, leastExponent + precision - 1)
    else (mantissa, exponent + precision - 1)
  let width := (precision - 1) / 4
  let rounded := places.map fun p =>
    if p < width then roundHalfEven first (Nat.pow 16 (width - p))
    else first * Nat.pow 16 (p - width)
  let places' := places.getD width
  let digits := Nat.toDigits 16 (rounded.getD first)
  let digits := List.replicate (places' + 1 - digits.length) '0' ++ digits
  let digits := if places.isSome then digits
    else digits.take 1 ++ ((digits.drop 1).reverse.dropWhile (· = '0')).reverse
  "0x".toList ++ withPoint pointed 1 digits ++ exponentText 'p' 1 e

/-- A number without its sign, in the notation of a letter: `f`, `e`, `g` or `a`. A capital letter
makes all letters capital. -/
def text (v : Floating) (notation_ : Char) (pointed : Bool) (places : Option Nat) : Chars :=
  let body :=
    match v with
    | .infinite _ => "inf".toList
    | .undefined _ => "nan".toList
    | .finite _ m e =>
      let (n, d) := quotient m e
      match notation_.toLower with
      | 'f' => fixed pointed n d (places.getD 6)
      | 'e' => scientific pointed n d (places.getD 6)
      | 'g' => general pointed n d (places.getD 6)
      | _ => hexadecimal pointed places m e
  if notation_.isUpper then body.map Char.toUpper else body

end Floating
end ImportResolver.Shell

import ImportResolver.Json.Basic
/- Values that a reader of whole documents admits. Number literals have to stay within the range of
binary64 floating point. -/
namespace ImportResolver.Json

/-- The nearest number with 53 significant bits; a tie goes to the even neighbour. -/
def nearestDouble (n : Nat) : Nat :=
  let shift := n.log2 - 52
  let kept := n >>> shift
  let cut := n % Nat.pow 2 shift
  let half := Nat.pow 2 (shift - 1)
  if shift = 0 then n
  else if cut > half || (cut = half && kept % 2 = 1) then (kept + 1) <<< shift
  else kept <<< shift

/-- From here on a number rounds to infinity. -/
def doubleLimit : Nat := Nat.pow 2 1024 - Nat.pow 2 970

def significandLimit : Nat := Nat.pow 2 64

/-- Digits are taken into the significand while it stays below the limit. -/
def absorb (significand : Nat) : List Char → Nat × List Char
  | [] => (significand, [])
  | d :: ds =>
    let next := significand * 10 + (d.toNat - '0'.toNat)
    if next < significandLimit then absorb next ds else (significand, d :: ds)

def decimal (digits : List Char) : Nat :=
  digits.foldl (fun n d => n * 10 + (d.toNat - '0'.toNat)) 0

/-- The significand and the decimal exponent that an unsigned literal stands for. Digits of the
whole part that do not fit raise the exponent; digits of the fraction that do not fit are
dropped. -/
def scientific (literal : List Char) : Nat × Int :=
  let whole := literal.takeWhile Char.isDigit
  let rest := literal.dropWhile Char.isDigit
  let (fraction, rest) :=
    match rest with
    | '.' :: r => (r.takeWhile Char.isDigit, r.dropWhile Char.isDigit)
    | r => ([], r)
  let given : Int :=
    match rest with
    | _ :: '-' :: ds => -(decimal ds : Int)
    | _ :: '+' :: ds => decimal ds
    | _ :: ds => decimal ds
    | [] => 0
  let (significand, surplus) := absorb 0 whole
  let (significand, dropped) := absorb significand fraction
  (significand, given + surplus.length - (fraction.length - dropped.length : Nat))

/-- The product of significand and power is taken after each has been rounded. -/
def inRange (literal : String) : Bool :=
  let (significand, exponent) :=
    scientific (match literal.toList with
      | '-' :: r => r
      | r => r)
  significand = 0 || exponent ≤ 0 ||
    (exponent ≤ 308 &&
      nearestDouble significand * nearestDouble (Nat.pow 10 exponent.toNat) < doubleLimit)

example : inRange "1e308" = true ∧ inRange "2e308" = false ∧ inRange "-1e999" = false ∧
    inRange "0e999" = true ∧ inRange "0.1e309" = true ∧ inRange "1e-999" = true := by
  decide +kernel

mutual

/-- Every string is a text, every number is in range, and at most `nesting` containers enclose
one another. -/
def isStrict (nesting : Nat) : Json → Bool
  | .number literal => inRange literal
  | .string text => text.isSome
  | .array items =>
    match nesting with
    | 0 => false
    | n + 1 => areStrict n items
  | .object members =>
    match nesting with
    | 0 => false
    | n + 1 => haveStrict n members
  | _ => true

def areStrict (nesting : Nat) : List Json → Bool
  | [] => true
  | v :: vs => isStrict nesting v && areStrict nesting vs

def haveStrict (nesting : Nat) : List (Option String × Json) → Bool
  | [] => true
  | (name, v) :: ms => name.isSome && isStrict nesting v && haveStrict nesting ms

end

/-- The deepest nesting that is read. -/
def maxNesting : Nat := 127

end ImportResolver.Json

import ImportResolver.Tool.Arguments
import ImportResolver.Tool.Names
/- Taking numbers apart. -/
namespace ImportResolver.Tool

open Shell Shell.Action

namespace Factors

def powerIn (modulus : Nat) : Nat → Nat → Nat → Nat
  | 0, _, _ => 1 % modulus
  | bits + 1, base, exponent =>
    if exponent = 0 then 1 % modulus
    else
      let rest := powerIn modulus bits (base * base % modulus) (exponent / 2)
      if exponent % 2 = 1 then rest * base % modulus else rest

def halved : Nat → Nat → Nat × Nat
  | 0, n => (0, n)
  | fuel + 1, n =>
    if n % 2 = 0 && n ≠ 0 then
      let (k, odd) := halved fuel (n / 2)
      (k + 1, odd)
    else (0, n)

/-- Whether squaring comes to one less than the modulus in so many steps. -/
def meetsEnd (modulus : Nat) : Nat → Nat → Bool
  | 0, _ => false
  | steps + 1, x => x = modulus - 1 || meetsEnd modulus steps (x * x % modulus)

def isLikelyPrime (n : Nat) : Bool :=
  let bits := n.log2 + 1
  let (k, odd) := halved bits (n - 1)
  [2, 3, 5, 7, 11, 13, 17, 19, 23, 29, 31, 37, 41].all fun base =>
    let x := powerIn n bits base odd
    base % n = 0 || x = 1 || meetsEnd n k x

def walk (n step : Nat) : Nat → Nat → Nat → Option Nat
  | 0, _, _ => none
  | fuel + 1, slow, fast =>
    let next (x : Nat) : Nat := (x * x + step) % n
    let slow := next slow
    let fast := next (next fast)
    let d := Nat.gcd (if slow < fast then fast - slow else slow - fast) n
    if d = 1 then walk n step fuel slow fast
    else if d = n then none
    else some d

def large : Nat → Nat → List Nat
  | 0, n => [n]
  | fuel + 1, n =>
    if n = 1 then []
    else if isLikelyPrime n then [n]
    else
      match (List.range 20).findSome? fun step => walk n (step + 1) 2000000 2 2 with
      | some d => large fuel d ++ large fuel (n / d)
      | none => [n]

def small : Nat → Nat → Nat → List Nat
  | 0, _, n => large 64 n
  | fuel + 1, d, n =>
    if n = 1 then []
    else if n < d * d then [n]
    else if n % d = 0 then d :: small fuel d (n / d)
    else small fuel (if d = 2 then 3 else d + 2) n

def of (n : Nat) : List Nat :=
  if n < 2 then [] else (small 5000 2 n).mergeSort

def line (n : Nat) : Chars :=
  decimal n ++ ':' :: (of n).flatMap fun f => ' ' :: decimal f

def number? (word : Chars) : Option Nat :=
  let word := word.dropWhile (· = ' ')
  natural? (if word.head? = some '+' then word.drop 1 else word)

end Factors

open Factors in
def factor (args : List Chars) : Action Nat :=
  let known : Known := { flags := "" }
  withArguments known 1 args fun a => do
    let isSeparate (c : Char) : Bool := c = ' ' || c = '\n' || c = '\t'
    let words : Option (List Chars) ←
      if a.operands.isEmpty then do
        match ← contentOf ['-'] with
        | .ok cs =>
          let lines := cs.map fun c => if isSeparate c then '\n' else c
          pure (some ((linesOf lines).filter (· ≠ [])))
        | .error _ => pure none
      else pure (some a.operands)
    match words with
    | none =>
      warn "error reading input: Is a directory".toList
      return 1
    | some words =>
      let mut whole := true
      for word in words do
        match number? word with
        | some n => printLine (line n)
        | none =>
          warn (inQuotes word ++ " is not a valid positive integer".toList)
          whole := false
      return failed whole

end ImportResolver.Tool

import ImportResolver.Tool.Basic
/- Options and operands among the arguments of a program. -/
namespace ImportResolver.Tool

open Shell Shell.Action

/-- The options that a program knows. -/
structure Known where
  /-- Letters without a value. -/
  flags : String
  /-- Letters with a value. -/
  valued : String := ""
  /-- Letters with a value if one follows at once. -/
  free : String := ""
  long : List (String × Char) := []
  /-- Whether options count after operands. -/
  anywhere : Bool := true
  /-- What is said of the use of the program if it is called in another way. -/
  usage : Chars → Chars := fun name =>
    "Try '".toList ++ name ++ " --help' for more information.\n".toList

structure Arguments where
  options : List (Char × Chars) := []
  operands : List Chars := []

namespace Arguments

def has (a : Arguments) (c : Char) : Bool := a.options.any (·.1 = c)

def value? (a : Arguments) (c : Char) : Option Chars :=
  (a.options.reverse.find? (·.1 = c)).map (·.2)

def last? (a : Arguments) (cs : List Char) : Option Char :=
  (a.options.reverse.find? fun o => cs.contains o.1).map (·.1)

def withOptions (a : Arguments) (more : List (Char × Chars)) : Arguments :=
  { a with options := more ++ a.options }

end Arguments

namespace Known

def together (k : Known) : Chars → List Chars → Except Chars (List (Char × Chars) × List Chars)
  | [], rest => .ok ([], rest)
  | c :: cs, rest =>
    if k.valued.toList.contains c then
      match cs, rest with
      | [], value :: rest => .ok ([(c, value)], rest)
      | [], [] => .error ("option requires an argument -- '".toList ++ [c, '\''])
      | cs, rest => .ok ([(c, cs)], rest)
    else if k.free.toList.contains c then .ok ([(c, cs)], rest)
    else if k.flags.toList.contains c then do
      let (more, rest) ← k.together cs rest
      return ((c, []) :: more, rest)
    else .error ("invalid option -- '".toList ++ [c, '\''])

/-- Reads an option by its name, of which a beginning is enough if no other begins so. -/
def named (k : Known) (text : Chars) (rest : List Chars) :
    Except Chars ((Char × Chars) × List Chars) :=
  let (name, value) := text.span (· ≠ '=')
  let shown : Chars := '\'' :: '-' :: '-' :: name ++ ['\'']
  let exact := k.long.filter (·.1.toList = name)
  let found := if exact.isEmpty then k.long.filter (fun e => name.isPrefixOf e.1.toList) else exact
  match found with
  | [] => .error ("unrecognized option '--".toList ++ text ++ ['\''])
  | (full, c) :: others =>
    let whole : Chars := "option '--".toList ++ full.toList ++ ['\'']
    if others.any (·.2 ≠ c) then
      .error ("option ".toList ++ shown ++ " is ambiguous; possibilities:".toList ++
        found.flatMap fun e => " '--".toList ++ e.1.toList ++ ['\''])
    else if k.free.toList.contains c then .ok ((c, value.drop 1), rest)
    else if !k.valued.toList.contains c then
      if value ≠ [] then .error (whole ++ " doesn't allow an argument".toList)
      else .ok ((c, []), rest)
    else
      match value, rest with
      | _ :: value, rest => .ok ((c, value), rest)
      | [], value :: rest => .ok ((c, value), rest)
      | [], [] => .error (whole ++ " requires an argument".toList)

def readFrom (k : Known) : Nat → List Chars → Except Chars Arguments
  | 0, args => .ok { operands := args }
  | _ + 1, [] => .ok {}
  | n + 1, arg :: rest =>
    match arg with
    | ['-', '-'] => .ok { operands := rest }
    | '-' :: '-' :: name => do
      let (o, rest) ← k.named name rest
      return (← k.readFrom n rest).withOptions [o]
    | '-' :: c :: cs => do
      let (os, rest) ← k.together (c :: cs) rest
      return (← k.readFrom n rest).withOptions os
    | arg =>
      if k.anywhere then do
        let a ← k.readFrom n rest
        return { a with operands := arg :: a.operands }
      else .ok { operands := arg :: rest }

def read (k : Known) (args : List Chars) : Except Chars Arguments :=
  k.readFrom (args.length + 1) args

end Known

def explain (k : Known) : Action Unit := do
  let _ ← write 2 (k.usage (← process).name)

/-- Lets a program work on its arguments; `refused` is the status if they cannot be read. -/
def withArguments (k : Known) (refused : Nat) (args : List Chars)
    (body : Arguments → Action Nat) : Action Nat := do
  match k.read args with
  | .ok a => body a
  | .error why =>
    warn why
    explain k
    return refused

def misused (k : Known) (status : Nat) (why : Chars) : Action Nat := do
  warn why
  explain k
  return status

/-- What a letter after a number multiplies it by: a power of 1024, or of 1000 with a `B` after
it. -/
def unit? (cs : Chars) : Option Nat :=
  match cs with
  | [] => some 1
  | ['b'] => some 512
  | c :: rest =>
    let power? :=
      match c with
      | 'k' => some 1
      | 'K' => some 1
      | 'M' => some 2
      | 'G' => some 3
      | 'T' => some 4
      | 'P' => some 5
      | 'E' => some 6
      | _ => none
    power?.bind fun n =>
      match rest with
      | [] => some (Nat.pow 1024 n)
      | ['B'] => some (Nat.pow 1000 n)
      | ['i', 'B'] => some (Nat.pow 1024 n)
      | _ => none

def natural? (cs : Chars) : Option Nat :=
  if cs ≠ [] && cs.all Char.isDigit then some (Arithmetic.numeral 10 cs) else none

def size? (cs : Chars) : Option Nat :=
  let (digits, unit) := cs.span Char.isDigit
  match natural? digits with
  | some n => (unit? unit).map (n * ·)
  | none => none

end ImportResolver.Tool

import ImportResolver.Shell.Reader
/- Arithmetic on 64-bit integers, with assignments to variables. -/
namespace ImportResolver.Shell.Arithmetic

/-- Why an expression has no value. -/
inductive Fault where
  /-- Something else should stand there. -/
  | expecting (what : String)
  | divisionByZero
  /-- The least number has no quotient by `-1`: its opposite is not a number here. -/
  | quotientTooLarge
  /-- The reader gave up. -/
  | exhausted
  | badNumber (text : Chars)
  deriving DecidableEq

inductive Lexeme where
  | number (n : Int64)
  | name (cs : Chars)
  | sign (s : String)
  /-- A character that means nothing. -/
  | stray
  deriving DecidableEq

/-- Signs of three, two and one characters; the longest comes first. -/
def signs : List String :=
  ["<<=", ">>=", "<<", ">>", "<=", ">=", "==", "!=", "&&", "||", "*=", "/=", "%=", "+=", "-=",
   "&=", "^=", "|=", "<", ">", "=", "!", "&", "|", "^", "~", "+", "-", "*", "/", "%", "?", ":",
   "(", ")"]

def digitValue (c : Char) : Nat :=
  if c.isDigit then c.toNat - '0'.toNat
  else if 'a' ≤ c && c ≤ 'z' then c.toNat - 'a'.toNat + 10
  else if 'A' ≤ c && c ≤ 'Z' then c.toNat - 'A'.toNat + 10
  else 99

def largest : Nat := Nat.pow 2 63 - 1

def least : Int64 := Int64.ofInt (-(largest : Int) - 1)

def numeral (base : Nat) (digits : Chars) : Nat :=
  digits.foldl (fun n c => n * base + digitValue c) 0

/-- The number that a text begins with: decimal, octal after `0`, hexadecimal after `0x`. -/
def leadingNumber (cs : Chars) : Nat × Chars :=
  let digits (base : Nat) (cs : Chars) : Nat × Chars :=
    let (ds, rest) := cs.span fun c => digitValue c < base
    (numeral base ds, rest)
  match cs with
  | '0' :: x :: c :: rest =>
    if (x = 'x' || x = 'X') && digitValue c < 16 then digits 16 (c :: rest) else digits 8 cs
  | '0' :: _ => digits 8 cs
  | _ => digits 10 cs

def isSpace (c : Char) : Bool := c = ' ' || 9 ≤ c.toNat && c.toNat ≤ 13

/-- The value of a text that is one number, between blanks. A blank text counts as zero. -/
def valueOf? (cs : Chars) : Option Int64 :=
  let cs := cs.dropWhile isSpace
  let (negative, ds) :=
    match cs with
    | '-' :: ds => (true, ds)
    | '+' :: ds => (false, ds)
    | _ => (false, cs)
  if cs = [] then some 0
  else if !(ds.head?.any Char.isDigit) then none
  else
    let (n, rest) := leadingNumber ds
    if rest.all isSpace then
      if negative then (if n ≤ largest + 1 then some (Int64.ofInt (-(n : Int))) else none)
      else if n ≤ largest then some (Int64.ofNat n) else none
    else none

def lexemesFrom : Nat → Chars → Option (List Lexeme)
  | 0, _ => none
  | _ + 1, [] => some []
  | n + 1, c :: cs =>
    if isSpace c then lexemesFrom n cs
    else if c.isDigit then
      let (v, rest) := leadingNumber (c :: cs)
      (lexemesFrom n rest).map (.number (Int64.ofNat (min v largest)) :: ·)
    else if Reader.isNameStart c then
      let (name, rest) := (c :: cs).span Reader.isNameChar
      (lexemesFrom n rest).map (.name name :: ·)
    else
      match signs.find? fun s => s.toList.isPrefixOf (c :: cs) with
      | some s => (lexemesFrom n ((c :: cs).drop s.length)).map (.sign s :: ·)
      | none => some [.stray]

def lexemes (cs : Chars) : Option (List Lexeme) := lexemesFrom (cs.length + 1) cs

/-- What is being evaluated: the lexemes ahead, and the variables. -/
structure State where
  rest : List Lexeme
  lookup : Chars → Option Chars
  assigned : List (Chars × Chars) := []
  /-- Off where an operator does not need its operand. -/
  active : Bool := true

abbrev Evaluation (α : Type) := ExceptT Fault (StateM State) α

def decimal (n : Int64) : Chars := (toString n.toInt).toList

def valueOfName (name : Chars) : Evaluation Int64 := do
  let st ← get
  if !st.active then return 0
  let text := ((st.assigned.find? (·.1 = name)).map (·.2)) <|> st.lookup name
  match valueOf? (text.getD []) with
  | some v => return v
  | none => throw (.badNumber (text.getD []))

def assign (name : Chars) (v : Int64) : Evaluation Unit :=
  modify fun st =>
    if st.active then { st with assigned := (name, decimal v) :: st.assigned } else st

def ofBool (b : Bool) : Int64 := if b then 1 else 0

def divided (divide : Int64 → Int64 → Int64) (a b : Int64) : Evaluation Int64 := do
  if !(← get).active then return 0
  if b = 0 then throw .divisionByZero
  if a = least && b = -1 then throw .quotientTooLarge
  return divide a b

def apply (s : String) (a b : Int64) : Evaluation Int64 := do
  match s with
  | "*" => return a * b
  | "/" => divided (· / ·) a b
  | "%" => divided (· % ·) a b
  | "+" => return a + b
  | "-" => return a - b
  | "<<" => return a <<< b
  | ">>" => return a >>> b
  | "<" => return ofBool (a < b)
  | "<=" => return ofBool (a ≤ b)
  | ">" => return ofBool (b < a)
  | ">=" => return ofBool (b ≤ a)
  | "==" => return ofBool (a = b)
  | "!=" => return ofBool (a ≠ b)
  | "&" => return a &&& b
  | "^" => return a ^^^ b
  | "|" => return a ||| b
  | _ => throw .exhausted

def strength? (s : String) : Option Nat :=
  match s with
  | "*" => some 10
  | "/" => some 10
  | "%" => some 10
  | "+" => some 9
  | "-" => some 9
  | "<<" => some 8
  | ">>" => some 8
  | "<" => some 7
  | "<=" => some 7
  | ">" => some 7
  | ">=" => some 7
  | "==" => some 6
  | "!=" => some 6
  | "&" => some 5
  | "^" => some 4
  | "|" => some 3
  | "&&" => some 2
  | "||" => some 1
  | _ => none

def next? : Evaluation (Option Lexeme) := do
  let st ← get
  match st.rest with
  | [] => return none
  | t :: rest =>
    set { st with rest }
    return some t

def peek? : Evaluation (Option Lexeme) := do return (← get).rest.head?

def expect (s : String) : Evaluation Unit := do
  if (← next?) ≠ some (.sign s) then throw (.expecting ("'" ++ s ++ "'"))

/-- Evaluates with the effects of operands that are not needed left out. -/
def onlyIf {α : Type} (needed : Bool) (e : Evaluation α) : Evaluation α := do
  let active := (← get).active
  modify fun st => { st with active := active && needed }
  let a ← e
  modify fun st => { st with active }
  return a

mutual

def expression : Nat → Evaluation Int64
  | 0 => throw .exhausted
  | n + 1 => do
    match (← get).rest with
    | .name name :: .sign s :: rest =>
      if s = "=" then
        modify fun st => { st with rest }
        let v ← expression n
        assign name v
        return v
      else if s.endsWith "=" && !(["==", "!=", "<=", ">="].contains s) then
        modify fun st => { st with rest }
        let v ← expression n
        let v ← apply (s.dropEnd 1).toString (← valueOfName name) v
        assign name v
        return v
      else choice n
    | _ => choice n

def choice : Nat → Evaluation Int64
  | 0 => throw .exhausted
  | n + 1 => do
    let test ← binary n 1
    if (← peek?) = some (.sign "?") then
      let _ ← next?
      let yes ← onlyIf (test ≠ 0) (expression n)
      expect ":"
      let no ← onlyIf (test = 0) (choice n)
      return if test ≠ 0 then yes else no
    else return test

def binary : Nat → Nat → Evaluation Int64
  | 0, _ => throw .exhausted
  | n + 1, level => do
    let a ← unary n
    binaryFrom n level a

def binaryFrom : Nat → Nat → Int64 → Evaluation Int64
  | 0, _, _ => throw .exhausted
  | n + 1, level, a => do
    match ← peek? with
    | some (.sign s) =>
      match strength? s with
      | some k =>
        if k < level then return a
        else
          let _ ← next?
          let v ←
            if s = "&&" then do
              let b ← onlyIf (a ≠ 0) (binary n (k + 1))
              pure (ofBool (a ≠ 0 && b ≠ 0))
            else if s = "||" then do
              let b ← onlyIf (a = 0) (binary n (k + 1))
              pure (ofBool (a ≠ 0 || b ≠ 0))
            else do
              let b ← binary n (k + 1)
              apply s a b
          binaryFrom n level v
      | none => return a
    | _ => return a

def unary : Nat → Evaluation Int64
  | 0 => throw .exhausted
  | n + 1 => do
    match ← next? with
    | some (.number v) => return v
    | some (.name name) => valueOfName name
    | some (.sign "-") => return -(← unary n)
    | some (.sign "+") => unary n
    | some (.sign "~") => return ~~~(← unary n)
    | some (.sign "!") => return ofBool ((← unary n) = 0)
    | some (.sign "(") =>
      let v ← expression n
      expect ")"
      return v
    | _ => throw (.expecting "primary")

end

/-- The value of an expression, and the variables that it sets, the last one first. -/
def evaluate (lookup : Chars → Option Chars) (cs : Chars) :
    Except Fault Int64 × List (Chars × Chars) :=
  match lexemes cs with
  | none => (.error .exhausted, [])
  | some ts =>
    let whole : Evaluation Int64 := do
      let v ← expression (20 * ts.length + 20)
      if (← get).rest = [] then return v else throw (.expecting "EOF")
    let (value, st) := whole.run.run { rest := ts, lookup }
    (value, st.assigned)

def Fault.message (expression : Chars) (fault : Fault) : Chars :=
  let about (what : String) : Chars :=
    ("arithmetic expression: " ++ what ++ ": \"").toList ++ expression ++ ['"']
  match fault with
  | .expecting what => about ("expecting " ++ what)
  | .divisionByZero => about "division by zero"
  | .quotientTooLarge => about "quotient too large"
  | .exhausted => about "too deep"
  | .badNumber text => "Illegal number: ".toList ++ text

end ImportResolver.Shell.Arithmetic

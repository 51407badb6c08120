import ImportResolver.Shell.Syntax
/- Reading the shell command language character by character. -/
namespace ImportResolver.Shell

/-- Why a text is not in the shell command language. -/
inductive Problem where
  | unexpected (line : Nat) (message : String)
  /-- The reader gave up. -/
  | exhausted
  deriving DecidableEq

inductive Token where
  | word (w : Word)
  | keyword (name : String)
  | redirection (descriptor : Nat) (operator : String)
  /-- A control operator. -/
  | operator (symbol : String)
  | newline
  | ending

/-- A document that was announced. Its text begins on the line after. -/
structure Announced where
  number : Nat
  delimiter : Chars
  expanded : Bool
  stripped : Bool

structure Reader where
  rest : Chars
  line : Nat := 1
  /-- A token that was read too early. -/
  held : Option Token := none
  announced : List Announced := []
  /-- The line that ends the document that is read, and whether tabs in front do not count. -/
  closing : Option (Chars × Bool) := none
  /-- Whether a document is read. -/
  inDocument : Bool := false
  /-- What follows the document whose end was reached. -/
  beyond : Chars := []
  documents : List (Nat × Word) := []
  nextDocument : Nat := 0
  aliases : List (Chars × Chars) := []
  /-- Names that were replaced, each with the number of characters left after its text. -/
  replaced : List (Chars × Nat) := []
  /-- Whether the text of an alias ended in a blank before the next word. -/
  afterBlank : Bool := false

abbrev Reading (α : Type) := StateT Reader (Except Problem) α

namespace Reader

def isNameStart (c : Char) : Bool := c.isAlpha || c = '_'

def isNameChar (c : Char) : Bool := c.isAlphanum || c = '_'

def isName : Chars → Bool
  | [] => false
  | c :: cs => isNameStart c && cs.all isNameChar

def isSpecial (c : Char) : Bool := ['#', '?', '$', '@', '*', '!', '-'].contains c

def isBlank (c : Char) : Bool := c = ' ' || c = '\t'

def isMeta (c : Char) : Bool :=
  isBlank c || ['\n', '&', '|', ';', '<', '>', '(', ')'].contains c

def fail {α : Type} (message : String) : Reading α := do
  throw (.unexpected (← get).line message)

def joined : Chars → Nat → Chars × Nat
  | '\\' :: '\n' :: cs, line => joined cs (line + 1)
  | cs, line => (cs, line)

def peek? : Reading (Option Char) := do
  let r ← get
  let (rest, line) := joined r.rest r.line
  set { r with rest, line }
  return rest.head?

def advance : Reading Unit :=
  modify fun r =>
    match r.rest with
    | [] => r
    | c :: rest => { r with rest, line := if c = '\n' then r.line + 1 else r.line }

def accept (c : Char) : Reading Bool := do
  if (← peek?) = some c then
    advance
    return true
  else return false

def takeWhile (p : Char → Bool) : Nat → Chars → Reading Chars
  | 0, _ => throw .exhausted
  | n + 1, acc => do
    match ← peek? with
    | some c =>
      if p c then
        advance
        takeWhile p n (c :: acc)
      else return acc.reverse
    | none => return acc.reverse

/-- Takes characters, lines not joined, up to one that `stop` holds for, which is taken too. -/
def through (stop : Char → Bool) (message : String) : Reading Chars := do
  let r ← get
  match r.rest.span fun c => !stop c with
  | (cs, []) =>
    set { r with rest := [], line := r.line + cs.count '\n' }
    fail message
  | (cs, _ :: rest) =>
    set { r with rest, line := r.line + cs.count '\n' }
    return cs

def within {α : Type} (text : Chars) (read : Reading α) : Reading α := do
  let r ← get
  set { r with rest := text, held := none, announced := [] }
  let a ← read
  modify fun inner =>
    { inner with
      rest := r.rest, line := r.line, held := r.held, announced := r.announced
      closing := r.closing, beyond := r.beyond, inDocument := r.inDocument }
  return a

end Reader
end ImportResolver.Shell

/- The shell command language: words, redirections and commands. -/
namespace ImportResolver.Shell

/-- A text with one character for each byte. -/
abbrev Chars := List Char

/-- What a parameter expansion does with the value. For the four that look at whether there is a
value, `orEmpty` says that an empty one counts as none. -/
inductive Modifier where
  | value
  | length
  | default (orEmpty : Bool)
  | assign (orEmpty : Bool)
  | require (orEmpty : Bool)
  | replace (orEmpty : Bool)
  /-- Takes a match of a pattern away, at the end if `atEnd` is set, the longest one if `long`. -/
  | trim (atEnd : Bool) (long : Bool)
  /-- Refused when it is expanded. -/
  | malformed
  deriving DecidableEq

inductive Direction where
  | read
  | write
  /-- Writes also where existing files are protected. -/
  | clobber
  | append
  | both
  | duplicate
  /-- Reads the text with this number; it is expanded if `expanded` is set. -/
  | document (number : Nat) (expanded : Bool)
  deriving DecidableEq

mutual

inductive Part where
  | text (cs : Chars) (quoted : Bool)
  /-- A place where quotes stood: it makes a field even if nothing else does. -/
  | mark
  | parameter (name : Chars) (modifier : Modifier) (word : List Part) (quoted : Bool)
  | output (script : Command) (quoted : Bool)
  | arithmetic (expression : List Part) (quoted : Bool)

inductive Redirection where
  | mk (descriptor : Nat) (direction : Direction) (target : List Part)

inductive Command where
  | simple (line : Nat) (assignments : List (Chars × List Part)) (words : List (List Part))
    (redirections : List Redirection)
  | pipeline (commands : List Command)
  | negation (command : Command)
  | both (first second : Command)
  | either (first second : Command)
  | sequence (commands : List Command)
  | background (command : Command)
  | subshell (line : Nat) (command : Command) (redirections : List Redirection)
  | redirected (line : Nat) (command : Command) (redirections : List Redirection)
  | conditional (test yes : Command) (no : Option Command)
  /-- Runs as long as the test succeeds, or fails if `negated` is set. -/
  | loop (negated : Bool) (test body : Command)
  /-- Without words, goes through the arguments. -/
  | iteration (line : Nat) (name : Chars) (words : Option (List (List Part))) (body : Command)
  | selection (line : Nat) (subject : List Part) (arms : List (List (List Part) × Command))
  | function (name : Chars) (body : Command)

end

abbrev Word := List Part

instance : Inhabited Command := ⟨.sequence []⟩

def Redirection.descriptor : Redirection → Nat
  | .mk d _ _ => d

def Word.plain? : Word → Option Chars
  | [.text cs false] => some cs
  | _ => none

/-- The text of a word after its quotes are taken off. Expansions do not count. -/
def Word.unquoted (w : Word) : Chars :=
  w.flatMap fun
    | .text cs _ => cs
    | _ => []

end ImportResolver.Shell

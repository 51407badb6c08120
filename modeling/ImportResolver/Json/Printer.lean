import ImportResolver.Json.Basic
/- Writing JSON values, on one line or indented. -/
namespace ImportResolver.Json

def hexDigit (n : Nat) : Char := if n < 10 then Char.ofNat (48 + n) else Char.ofNat (87 + n)

/-- Quotes, backslashes and control characters are escaped; all else stands for itself. -/
def escape (c : Char) : List Char :=
  if c = '"' then ['\\', '"']
  else if c = '\\' then ['\\', '\\']
  else if c = '\x08' then ['\\', 'b']
  else if c = '\x0c' then ['\\', 'f']
  else if c = '\n' then ['\\', 'n']
  else if c = '\r' then ['\\', 'r']
  else if c = '\t' then ['\\', 't']
  else if c.toNat < 0x20 then
    ['\\', 'u', '0', '0', hexDigit (c.toNat / 16), hexDigit (c.toNat % 16)]
  else [c]

def quoted (s : List Char) : List Char := '"' :: s.flatMap escape ++ ['"']

/-- A text that no escape can give is written empty. -/
def quotedText (text : Option String) : List Char := quoted (text.getD "").toList

def scalar : Json → List Char
  | .null => "null".toList
  | .bool true => "true".toList
  | .bool false => "false".toList
  | .number literal => literal.toList
  | .string text => quotedText text
  | _ => []

mutual

def compact : Json → List Char
  | .array [] => ['[', ']']
  | .array (v :: vs) => '[' :: compact v ++ compactItems vs
  | .object [] => ['\x7b', '\x7d']
  | .object ((name, v) :: ms) =>
    '\x7b' :: quotedText name ++ ':' :: compact v ++ compactMembers ms
  | v => scalar v

def compactItems : List Json → List Char
  | [] => [']']
  | v :: vs => ',' :: compact v ++ compactItems vs

def compactMembers : List (Option String × Json) → List Char
  | [] => ['\x7d']
  | (name, v) :: ms => ',' :: quotedText name ++ ':' :: compact v ++ compactMembers ms

end

def newLine (depth : Nat) : List Char := '\n' :: List.replicate (2 * depth) ' '

mutual

/-- Two blanks for each level. -/
def indented (depth : Nat) : Json → List Char
  | .array [] => ['[', ']']
  | .array (v :: vs) =>
    '[' :: newLine (depth + 1) ++ indented (depth + 1) v ++ indentedItems depth vs
  | .object [] => ['\x7b', '\x7d']
  | .object ((name, v) :: ms) =>
    '\x7b' :: newLine (depth + 1) ++ quotedText name ++ ':' :: ' ' :: indented (depth + 1) v ++
      indentedMembers depth ms
  | v => scalar v

def indentedItems (depth : Nat) : List Json → List Char
  | [] => newLine depth ++ [']']
  | v :: vs => ',' :: newLine (depth + 1) ++ indented (depth + 1) v ++ indentedItems depth vs

def indentedMembers (depth : Nat) : List (Option String × Json) → List Char
  | [] => newLine depth ++ ['\x7d']
  | (name, v) :: ms =>
    ',' :: newLine (depth + 1) ++ quotedText name ++ ':' :: ' ' :: indented (depth + 1) v ++
      indentedMembers depth ms

end

def render (v : Json) : String := String.ofList (compact v)

def pretty (v : Json) : String := String.ofList (indented 0 v)

end ImportResolver.Json

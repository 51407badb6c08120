import ImportResolver.Shell.Process
import ImportResolver.Tool.Awk.Value
import ImportResolver.Tool.RegexReader
/- The words and signs of a program's text. -/
namespace ImportResolver.Tool.Awk

open Shell

inductive Token where
  | number (x : Float) (shown : Chars)
  | text (cs : Chars)
  | regex (cs : Chars)
  /-- A name with no parenthesis right after it. -/
  | name (cs : Chars)
  /-- A name with a parenthesis right after it. -/
  | called (cs : Chars)
  | builtin (f : Builtin) (shown : String)
  | keyword (s : String)
  | sign (s : String)
  | lineEnd

namespace Token

def isSign (t : Token) (s : String) : Bool :=
  match t with
  | .sign u => u = s
  | _ => false

def isKeyword (t : Token) (s : String) : Bool :=
  match t with
  | .keyword u => u = s
  | _ => false

def endsOperand : Token → Bool
  | .number .. => true
  | .text _ => true
  | .regex _ => true
  | .name _ => true
  | .builtin .. => true
  | .sign s => [")", "]", "$", "++", "--"].contains s
  | _ => false

def shown : Token → Chars
  | .number _ cs => cs
  | .text cs => '"' :: cs ++ ['"']
  | .regex cs => '/' :: cs ++ ['/']
  | .name cs => cs
  | .called cs => cs
  | .builtin _ s => s.toList
  | .keyword s => s.toList
  | .sign s => s.toList
  | .lineEnd => "end of line".toList

end Token

def keywords : List String :=
  ["BEGIN", "END", "if", "else", "while", "do", "for", "in", "break", "continue", "next",
    "nextfile", "exit", "return", "delete", "print", "printf", "getline", "function"]

def builtins : List (String × Builtin) :=
  [("length", .length), ("index", .index), ("substr", .substr), ("split", .split), ("sub", .sub),
    ("gsub", .gsub), ("match", .match_), ("sprintf", .sprintf), ("sin", .sin), ("cos", .cos),
    ("atan2", .atan2), ("exp", .exp), ("log", .log), ("sqrt", .sqrt), ("int", .int),
    ("rand", .rand), ("srand", .srand), ("tolower", .toLower), ("toupper", .toUpper),
    ("system", .system), ("close", .close), ("fflush", .fflush), ("systime", .systime),
    ("strftime", .strftime), ("mktime", .mktime)]

def signs : List String :=
  ["++", "--", "+=", "-=", "*=", "/=", "%=", "^=", "==", "!=", "<=", ">=", ">>", "&&", "||", "!~",
    "\x7b", "\x7d", "(", ")", "[", "]", ";", ",", "+", "-", "*", "/", "%", "^", "!", "<", ">", "|",
    "?", ":", "~", "$", "="]

def codeDigits (base most : Nat) (cs : Chars) : Chars × Chars :=
  let isDigit (c : Char) : Bool := Arithmetic.digitValue c < base
  let ds := (cs.takeWhile isDigit).take most
  (ds, cs.drop ds.length)

def codeOf (base : Nat) (ds : Chars) : Char := Char.ofNat (Arithmetic.numeral base ds % 256)

def withoutEscapes : Nat → Chars → Chars
  | 0, cs => cs
  | _, [] => []
  | _, ['\\'] => ['\\']
  | n + 1, '\\' :: c :: cs =>
    match c with
    | '"' => '"' :: withoutEscapes n cs
    | '\\' => '\\' :: withoutEscapes n cs
    | 'a' => Char.ofNat 7 :: withoutEscapes n cs
    | 'b' => Char.ofNat 8 :: withoutEscapes n cs
    | 't' => '\t' :: withoutEscapes n cs
    | 'n' => '\n' :: withoutEscapes n cs
    | 'v' => Char.ofNat 11 :: withoutEscapes n cs
    | 'f' => Char.ofNat 12 :: withoutEscapes n cs
    | 'r' => '\r' :: withoutEscapes n cs
    | '\n' => withoutEscapes n cs
    | c =>
      match codeDigits 8 3 (c :: cs), codeDigits 16 2 cs with
      | (d :: ds, rest), _ => codeOf 8 (d :: ds) :: withoutEscapes n rest
      | _, (d :: ds, rest) =>
        if c = 'x' then codeOf 16 (d :: ds) :: withoutEscapes n rest
        else '\\' :: c :: withoutEscapes n cs
      | _, _ => '\\' :: c :: withoutEscapes n cs
  | n + 1, c :: cs => c :: withoutEscapes n cs

def plainText (cs : Chars) : Chars := withoutEscapes (cs.length + 1) cs

/-- A character as it is written in an expression so that it stands for itself. -/
def literal (inBracket : Bool) (c : Char) : Chars :=
  if inBracket then
    if "]^-[\\".toList.contains c then ['[', '.', c, '.', ']'] else [c]
  else if "^$.[]|()*+?\x7b\x7d\\".toList.contains c then ['\\', c]
  else [c]

/-- Whether a bound such as `2,5` and its closing brace stand in front of a text. -/
def startsBound (cs : Chars) : Bool :=
  let (low, rest) := cs.span Char.isDigit
  let rest := if rest.head? = some ',' then (rest.drop 1).dropWhile Char.isDigit else rest
  low ≠ [] && rest.head? = some '\x7d'

/-- An expression with its escapes written as expressions without such escapes are. `bracket` says
how many characters of a bracket expression were read. -/
def plainExpression : Nat → Option Nat → Chars → Chars
  | 0, _, cs => cs
  | _, _, [] => []
  | _, _, ['\\'] => ['\\', '\\']
  | n + 1, bracket, '\\' :: c :: cs =>
    let next := bracket.map (· + 1)
    let put (d : Char) (rest : Chars) : Chars :=
      literal bracket.isSome d ++ plainExpression n next rest
    match c with
    | 'a' => put (Char.ofNat 7) cs
    | 'b' => put (Char.ofNat 8) cs
    | 't' => put '\t' cs
    | 'n' => put '\n' cs
    | 'v' => put (Char.ofNat 11) cs
    | 'f' => put (Char.ofNat 12) cs
    | 'r' => put '\r' cs
    | c =>
      match codeDigits 8 3 (c :: cs), codeDigits 16 2 cs with
      | (d :: ds, rest), _ => put (codeOf 8 (d :: ds)) rest
      | _, (d :: ds, rest) => if c = 'x' then put (codeOf 16 (d :: ds)) rest else put c cs
      | _, _ => put c cs
  | n + 1, none, '[' :: '^' :: cs => '[' :: '^' :: plainExpression n (some 0) cs
  | n + 1, none, '[' :: cs => '[' :: plainExpression n (some 0) cs
  | n + 1, none, c :: cs =>
    if c = '\x7b' && !startsBound cs then '\\' :: c :: plainExpression n none cs
    else c :: plainExpression n none cs
  | n + 1, some k, ']' :: cs =>
    ']' :: plainExpression n (if k = 0 then some 1 else none) cs
  | n + 1, some k, '[' :: ':' :: cs =>
    let name := cs.takeWhile fun c => c ≠ ':' && c ≠ ']'
    match cs.drop name.length with
    | ':' :: ']' :: rest =>
      '[' :: ':' :: name ++ ':' :: ']' :: plainExpression n (some (k + 1)) rest
    | _ => '[' :: plainExpression n (some (k + 1)) (':' :: cs)
  | n + 1, some k, c :: cs => c :: plainExpression n (some (k + 1)) cs

def faultOf (why : String) : String :=
  if why = Regex.nothingToRepeat then "missing operand"
  else if why = "Unmatched ( or \\(" then "missing ')'"
  else if why = "Unmatched ) or \\)" then "missing '('"
  else if why = Regex.unmatchedBracket then "bad class -- [], [^] or ["
  else if why = "Invalid regular expression" then "bad class -- [], [^] or ["
  else why

/-- The members of a bracket expression, whose opening was read, up to its end. -/
def bracketText (cs : Chars) : Chars :=
  let rec go : Nat → Chars → Chars
    | 0, cs => cs
    | _, [] => []
    | n + 1, '[' :: c :: cs =>
      if [':', '.', '='].contains c then
        let inner := cs.takeWhile (· ≠ ']')
        '[' :: c :: inner ++ ']' :: go n (cs.drop (inner.length + 1))
      else '[' :: go n (c :: cs)
    | n + 1, c :: cs => if c = ']' then [c] else c :: go n cs
  match cs with
  | '^' :: ']' :: rest => '^' :: ']' :: go rest.length rest
  | ']' :: rest => ']' :: go rest.length rest
  | cs => go cs.length cs

/-- Looks for operators without operands, and lets closing parentheses without opening ones stand
for themselves. `bare` says that an operand may begin. -/
def balanced : Nat → Bool → Nat → Chars → Except String Chars
  | 0, _, _, cs => .ok cs
  | _, bare, depth, [] =>
    if 0 < depth then .error "missing ')'"
    else if bare then .error "missing operand"
    else .ok []
  | n + 1, bare, depth, c :: cs =>
    let missing : Except String Chars := .error "missing operand"
    match c with
    | '(' => do return c :: (← balanced n true (depth + 1) cs)
    | ')' =>
      if depth = 0 then do return '\\' :: c :: (← balanced n false 0 cs)
      else if bare then missing
      else do return c :: (← balanced n false (depth - 1) cs)
    | '|' => if bare then missing else do return c :: (← balanced n true depth cs)
    | '\\' => do return c :: cs.take 1 ++ (← balanced n false depth (cs.drop 1))
    | '[' => do
      let inner := bracketText cs
      return c :: inner ++ (← balanced n false depth (cs.drop inner.length))
    | '^' =>
      if ['*', '+'].contains (cs.headD ' ') then .error "syntax error ^* or ^+"
      else do return c :: (← balanced n false depth cs)
    | c =>
      if ['*', '+', '?'].contains c && bare then missing
      else do return c :: (← balanced n false depth cs)

def compiled (cs : Chars) : Except Chars Regex :=
  let plain := plainExpression (cs.length + 1) none cs
  let checked := if plain = [] then .ok [] else balanced (plain.length + 1) true 0 plain
  match checked.bind (Regex.ofText { extended := true, strict := true }) with
  | .ok r => .ok r
  | .error why =>
    .error ("regular expression compile failed (".toList ++ (faultOf why).toList ++
      ")\n".toList ++ cs)

/-- The end of a text in quotes: the text as it is written, and what follows it. -/
def quotedEnd? : Nat → Chars → Chars → Option (Chars × Chars)
  | 0, _, _ => none
  | _, _, [] => none
  | n + 1, acc, c :: cs =>
    if c = '"' then some (acc.reverse, cs)
    else if c = '\n' then none
    else
      match c, cs with
      | '\\', d :: cs => quotedEnd? n (d :: '\\' :: acc) cs
      | c, cs => quotedEnd? n (c :: acc) cs

/-- The end of an expression between slashes. A slash in brackets does not end it. -/
def regexEnd? : Nat → Bool → Chars → Chars → Option (Chars × Chars)
  | 0, _, _, _ => none
  | _, _, _, [] => none
  | n + 1, inBracket, acc, c :: cs =>
    if c = '/' && !inBracket then some (acc.reverse, cs)
    else if c = '\n' then none
    else
      match c, cs with
      | '\\', '/' :: cs => regexEnd? n inBracket ('/' :: acc) cs
      | '\\', d :: cs => regexEnd? n inBracket (d :: '\\' :: acc) cs
      | '[', '^' :: ']' :: cs => regexEnd? n true (']' :: '^' :: '[' :: acc) cs
      | '[', ']' :: cs => regexEnd? n true (']' :: '[' :: acc) cs
      | '[', cs => regexEnd? n true ('[' :: acc) cs
      | ']', cs => regexEnd? n false (']' :: acc) cs
      | c, cs => regexEnd? n inBracket (c :: acc) cs

def cutShort (cs : Chars) : Chars := (cs.takeWhile (· ≠ '\n')).take 10 ++ " ...".toList

def isNameStart (c : Char) : Bool := c.isAlpha || c = '_'

def isNameCharacter (c : Char) : Bool := c.isAlphanum || c = '_'

def atLine (line : Nat) : Chars := "line ".toList ++ decimal line ++ ": ".toList

def tokensFrom : Nat → Nat → Option Token → Chars → List (Token × Nat) →
    Except Chars (List (Token × Nat))
  | 0, _, _, _, acc => .ok acc.reverse
  | _, _, _, [], acc => .ok acc.reverse
  | n + 1, line, last, c :: cs, acc =>
    let put (t : Token) (rest : Chars) : Except Chars (List (Token × Nat)) :=
      tokensFrom n line (some t) rest ((t, line) :: acc)
    if c = ' ' || c = '\t' || c = '\r' then tokensFrom n line last cs acc
    else if c = '\n' then tokensFrom n (line + 1) (some .lineEnd) cs ((.lineEnd, line) :: acc)
    else if c = '#' then tokensFrom n line last (cs.dropWhile (· ≠ '\n')) acc
    else if c = '\\' && cs.head? = some '\n' then tokensFrom n (line + 1) last (cs.drop 1) acc
    else if c = '\\' && cs.take 2 = ['\r', '\n'] then tokensFrom n (line + 1) last (cs.drop 2) acc
    else if c = '"' then
      match quotedEnd? (cs.length + 1) [] cs with
      | some (body, rest) => put (.text (plainText body)) rest
      | none => .error (atLine line ++ "runaway string constant \"".toList ++ cutShort cs)
    else if c.isDigit || c = '.' && cs.head?.any Char.isDigit then
      let isHex := c = '0' && (cs.head? = some 'x' || cs.head? = some 'X')
      match (if isHex then none else Floating.ofText? (c :: cs)) with
      | some (v, rest, _) =>
        let text := (c :: cs).take (cs.length + 1 - rest.length)
        match v with
        | .infinite _ => .error (atLine line ++ text ++ " : decimal overflow".toList)
        | v => put (.number (floatOf v) text) rest
      | none => put (.number zero ['0']) cs
    else if isNameStart c then
      let word := (c :: cs).takeWhile isNameCharacter
      let rest := (c :: cs).drop word.length
      let s := String.ofList word
      if keywords.contains s then put (.keyword s) rest
      else
        match builtins.find? (·.1 = s) with
        | some (_, f) => put (.builtin f s) rest
        | none => put (if rest.head? = some '(' then .called word else .name word) rest
    else if c = '/' && !(last.any Token.endsOperand) then
      match regexEnd? (cs.length + 1) false [] cs with
      | some (body, rest) => put (.regex body) rest
      | none => .error (atLine line ++ "runaway regular expression /".toList ++ cutShort cs)
    else
      match signs.find? fun s => s.toList.isPrefixOf (c :: cs) with
      | some s => put (.sign s) ((c :: cs).drop s.length)
      | none =>
        .error (decimal line ++ ": unexpected character '".toList ++ [c, '\''])

def tokens (cs : Chars) : Except Chars (List (Token × Nat)) :=
  tokensFrom (cs.length + 1) 1 none cs []

end ImportResolver.Tool.Awk

import ImportResolver.Shell.Reader
/- Reading words: quotes, and the expansions in them. -/
namespace ImportResolver.Shell.Reader

def Token.text : Token → String
  | .word _ => "word"
  | .keyword k => "\"" ++ k ++ "\""
  | .redirection _ _ => "redirection"
  | .operator s => "\"" ++ s ++ "\""
  | .newline => "newline"
  | .ending => "end of file"

def unexpected {α : Type} (t : Token) : Reading α := fail (Token.text t ++ " unexpected")

def expected {α : Type} (t wanted : Token) : Reading α :=
  fail (Token.text t ++ " unexpected (expecting " ++ Token.text wanted ++ ")")

abbrev Draft := List Part

namespace Draft

def push (d : Draft) (c : Char) (quoted : Bool) : Draft :=
  match d with
  | .text cs q :: ps => if q = quoted then .text (c :: cs) q :: ps else .text [c] quoted :: d
  | _ => .text [c] quoted :: d

def pushAll (d : Draft) (cs : Chars) (quoted : Bool) : Draft :=
  cs.foldl (fun d c => d.push c quoted) d

def word (d : Draft) : Word :=
  (d.map fun
    | .text cs q => .text cs.reverse q
    | p => p).reverse

end Draft

/-- Where text stands that is read as if it were between double quotes. -/
inductive Frame where
  | quotes
  /-- The word of an expansion in braces. -/
  | brace
  | document
  | arithmetic
  deriving DecidableEq

def Frame.unclosed : Frame → String
  | .quotes | .brace => "Unterminated quoted string"
  | .document => ""
  | .arithmetic => "Missing '))'"

/-- Whether a backslash takes the meaning of the character after it away. -/
def Frame.escapes (f : Frame) (c : Char) : Bool :=
  ['\\', '\x60', '$'].contains c || c = '"' && f ≠ .document || c = '\x7d' && f = .brace

/-- The text between backquotes, without the backslashes that count only there. -/
def unescapedScript (inDouble : Bool) : Chars → Chars
  | '\\' :: '\n' :: cs => unescapedScript inDouble cs
  | '\\' :: c :: cs =>
    if ['\\', '\x60', '$'].contains c || c = '"' && inDouble then c :: unescapedScript inDouble cs
    else '\\' :: c :: unescapedScript inDouble cs
  | c :: cs => c :: unescapedScript inDouble cs
  | [] => []

def upToBackquote : Chars → Chars → Option (Chars × Chars)
  | acc, '\\' :: c :: cs => upToBackquote (c :: '\\' :: acc) cs
  | acc, c :: cs => if c = '\x60' then some (acc.reverse, cs) else upToBackquote (c :: acc) cs
  | _, [] => none

/-- A command between backquotes, which is read by `script`. Its lines are counted from one. -/
def backquoted (script : Reading Command) (quoted : Bool) : Reading Part := do
  let r ← get
  match upToBackquote [] r.rest with
  | none =>
    set { r with rest := [], line := r.line + r.rest.count '\n' }
    fail "EOF in backquote substitution"
  | some (text, rest) =>
    set { r with rest, line := r.line + text.count '\n' }
    let read : Reading Command := do
      modify fun r => { r with line := 1, closing := none, inDocument := false }
      script
    return .output (← within (unescapedScript quoted text) read) quoted

/-- Goes past a character that has no meaning in braces; a line that it ends is not counted. -/
def skip : Reading Unit := modify fun r => { r with rest := r.rest.drop 1 }

/-- Looks, where a line begins, whether it ends the document that is read. Then nothing is left to
read in it. -/
def beginLine : Reading Unit :=
  modify fun r =>
    match r.closing with
    | none => r
    | some (delimiter, stripped) =>
      let (rest, number) :=
        if stripped then (r.rest.dropWhile (· = '\t'), r.line) else joined r.rest r.line
      let (line, after) := rest.span (· ≠ '\n')
      if line = delimiter then
        { r with
          rest := [], beyond := after.drop 1, closing := none
          line := if after = [] then number else number + 1 }
      else { r with rest, line := number }

/-- A modifier by its sign, which comes after a colon if `colon` is set. -/
def signed? (colon : Bool) (c : Char) : Option Modifier :=
  match c with
  | '-' => some (.default colon)
  | '=' => some (.assign colon)
  | '?' => some (.require colon)
  | '+' => some (.replace colon)
  | _ => none

def modifier : Reading Modifier := do
  match ← peek? with
  | some '\x7d' => return .value
  | some ':' =>
    advance
    match ← peek? with
    | some c =>
      advance
      return if c = '\x7d' then .value else (signed? true c).getD .malformed
    | none => return .malformed
  | some '%' =>
    advance
    return .trim true (← accept '%')
  | some '#' =>
    advance
    return .trim false (← accept '#')
  | some c =>
    skip
    return (signed? false c).getD .malformed
  | none => return .malformed

/-- The name in braces, and whether the length of its value is asked for. -/
def bracedName (n : Nat) : Reading (Chars × Bool) := do
  let named : Reading Chars := do
    match ← peek? with
    | some c =>
      if isNameStart c then takeWhile isNameChar n []
      else if c.isDigit then takeWhile Char.isDigit n []
      else return []
    | none => return []
  let name ← named
  if name ≠ [] then return (name, false)
  match ← peek? with
  | none => return ([], false)
  | some '#' =>
    advance
    match ← peek? with
    | none => return (['#'], false)
    | some c =>
      if isNameChar c then return (← named, true)
      else
        let r ← get
        advance
        if c ≠ '\x7d' && (← peek?) = some '\x7d' then return ([c], true)
        else
          set r
          return (['#'], false)
  | some c =>
    if c ≠ '\x7d' then skip
    return (if isSpecial c then [c] else [], false)

mutual

/-- Text outside quotes, up to what ends a word, or to the closing brace. -/
def bare (script : Reading Command) : Nat → Bool → Draft → Reading Draft
  | 0, _, _ => throw .exhausted
  | n + 1, inBrace, d => do
    match ← peek? with
    | none => if inBrace then fail "Missing '\x7d'" else return d
    | some c =>
      if c = '\\' then
        advance
        match (← get).rest with
        | [] => bare script n inBrace (d.push '\\' true)
        | e :: _ =>
          advance
          bare script n inBrace (d.push e true)
      else if c = '\'' then
        advance
        let cs ← through (· = '\'') Frame.quotes.unclosed
        bare script n inBrace (.mark :: Draft.pushAll (.mark :: d) cs true)
      else if c = '"' then
        advance
        let d ← double script n .quotes 0 (.mark :: d)
        bare script n inBrace (.mark :: d)
      else if c = '$' then
        advance
        let p ← dollar script n false
        bare script n inBrace (p :: d)
      else if c = '\x60' then
        advance
        let p ← backquoted script false
        bare script n inBrace (p :: d)
      else if inBrace && c = '\x7d' then
        advance
        return d
      else if !inBrace && isMeta c then return d
      else
        advance
        if c = '\n' then beginLine
        bare script n inBrace (d.push c false)

/-- Text as between double quotes, up to its end. `level` counts what is open inside: quotes in
a brace, parentheses in arithmetic. -/
def double (script : Reading Command) : Nat → Frame → Nat → Draft → Reading Draft
  | 0, _, _, _ => throw .exhausted
  | n + 1, frame, level, d => do
    match ← peek? with
    | none =>
      if frame = .document then return d
      else if (← get).inDocument && frame ≠ .arithmetic then fail "Missing '\x7d'"
      else fail frame.unclosed
    | some c =>
      advance
      if c = '\n' then beginLine
      if c = '\\' then
        match (← get).rest with
        | [] => double script n frame level (d.push '\\' true)
        | e :: _ =>
          advance
          double script n frame level
            (if frame.escapes e then d.push e true else (d.push '\\' true).push e true)
      else if c = '$' then
        let p ← dollar script n true
        double script n frame level (p :: d)
      else if c = '\x60' then
        let p ← backquoted script true
        double script n frame level (p :: d)
      else
        match frame, c with
        | .quotes, '"' => return d
        | .brace, '"' => double script n frame (1 - level) (.mark :: d)
        | .brace, '\x7d' =>
          if level = 0 then return d else double script n frame level (d.push c true)
        | .arithmetic, '(' => double script n frame (level + 1) (d.push c true)
        | .arithmetic, ')' =>
          if 0 < level then double script n frame (level - 1) (d.push c true)
          else if ← accept ')' then return d
          else double script n frame level (d.push c true)
        | _, _ => double script n frame level (d.push c true)

def dollar (script : Reading Command) : Nat → Bool → Reading Part
  | 0, _ => throw .exhausted
  | n + 1, quoted => do
    match ← peek? with
    | some '(' =>
      advance
      if ← accept '(' then
        return .arithmetic (← double script n .arithmetic 0 []).word quoted
      else
        let r ← get
        set { r with held := none, announced := [], closing := none, inDocument := false }
        let body ← script
        match (← get).held with
        | some (.operator ")") =>
          modify fun inner =>
            { inner with
              held := r.held, announced := r.announced
              closing := r.closing, beyond := r.beyond, inDocument := r.inDocument }
          return .output body quoted
        | t => expected (t.getD .ending) (.operator ")")
    | some '\x7b' =>
      advance
      let (name, length) ← bracedName n
      let m ← if name = [] then pure .malformed else modifier
      let m :=
        if length then (if m = .value then .length else .malformed)
        else m
      let bareWord := !quoted || match m with
        | .trim _ _ => true
        | _ => false
      let d ← if bareWord then bare script n true [] else double script n .brace 0 []
      return .parameter name m d.word quoted
    | some c =>
      if isNameStart c then
        return .parameter (← takeWhile isNameChar n []) .value [] quoted
      else if c.isDigit || isSpecial c then
        advance
        return .parameter [c] .value [] quoted
      else return .text ['$'] quoted
    | none => return .text ['$'] quoted

end

def documentWord (script : Reading Command) (n : Nat) (text : Chars) : Reading Word :=
  within text (do return (← double script n .document 0 []).word)

end ImportResolver.Shell.Reader

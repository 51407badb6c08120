import ImportResolver.Shell.Words
/- Reading commands. -/
namespace ImportResolver.Shell.Reader

/-- What a reader of the next token looks out for. -/
structure Lookout where
  /-- Skips line ends. -/
  lines : Bool := false
  keywords : Bool := false
  aliases : Bool := false

def keywords : List String :=
  ["!", "case", "do", "done", "elif", "else", "esac", "fi", "for", "if", "in", "then", "until",
    "while", "\x7b", "\x7d"]

def closers : List String := ["do", "done", "elif", "else", "esac", "fi", "then", "\x7d"]

/-- Commands that are part of the language: no function is named after them, and a fault in one
ends the shell. -/
def specials : List String :=
  [".", ":", "break", "continue", "eval", "exec", "exit", "export", "readonly", "return", "set",
    "shift", "times", "trap", "unset", "local"]

def documentLines (delimiter : Chars) (stripped : Bool) : Nat → Chars → Chars → Chars × Chars
  | 0, acc, cs => (acc.reverse, cs)
  | n + 1, acc, cs =>
    if cs = [] then (acc.reverse, [])
    else
      let (line, rest) := cs.span (· ≠ '\n')
      let line := if stripped then line.dropWhile (· = '\t') else line
      if line = delimiter then (acc.reverse, rest.drop 1)
      else if rest = [] then ((line.reverse ++ acc).reverse, [])
      else documentLines delimiter stripped n ('\n' :: (line.reverse ++ acc)) (rest.drop 1)

/-- Reads a document. Where expansions count, no line ends it that begins inside a command or after
a backslash. -/
def readDocument (script : Reading Command) (n : Nat) (a : Announced) : Reading Unit := do
  let r ← get
  let w ←
    if a.expanded then
      set { r with
        closing := some (a.delimiter, a.stripped), beyond := [], inDocument := true }
      beginLine
      let d ← double script n .document 0 []
      modify fun inner =>
        { inner with
          rest := inner.beyond
          closing := r.closing, beyond := r.beyond, inDocument := r.inDocument }
      pure d.word
    else
      let (text, rest) := documentLines a.delimiter a.stripped n [] r.rest
      let consumed := r.rest.length - rest.length
      set { r with rest, line := r.line + (r.rest.take consumed).count '\n' }
      pure [Part.text text true]
  modify fun r => { r with documents := (a.number, w) :: r.documents }

def readDocuments (script : Reading Command) (n : Nat) : Reading Unit := do
  let waiting := (← get).announced
  modify fun r => { r with announced := [] }
  waiting.forM (readDocument script n)

def operatorToken : Reading Token := do
  let two (c : Char) (second single : String) : Reading Token := do
    return .operator (if ← accept c then second else single)
  match ← peek? with
  | none => return .ending
  | some c =>
    advance
    match c with
    | '\n' => return .newline
    | '&' => two '&' "&&" "&"
    | '|' => two '|' "||" "|"
    | ';' => two ';' ";;" ";"
    | '(' => return .operator "("
    | _ => return .operator ")"

/-- The symbol that the next character completes, or else the shorter one. -/
def completed (shorter : String) : List (Char × String) → Reading String
  | [] => return shorter
  | (c, symbol) :: others => do
    if ← accept c then return symbol else completed shorter others

def redirectionToken (descriptor : Option Nat) : Reading Token := do
  if ← accept '>' then
    let symbol ← completed ">" [('>', ">>"), ('&', ">&"), ('|', ">|")]
    return .redirection (descriptor.getD 1) symbol
  else
    advance
    let symbol ← completed "<" [('<', "<<"), ('&', "<&"), ('>', "<>")]
    let symbol ← if symbol = "<<" then completed symbol [('-', "<<-")] else pure symbol
    return .redirection (descriptor.getD 0) symbol

def descriptor? (w : Word) : Option Nat :=
  match w with
  | [.text [c] false] => if c.isDigit then some (c.toNat - '0'.toNat) else none
  | _ => none

def rawToken (script : Reading Command) : Nat → Reading Token
  | 0 => throw .exhausted
  | n + 1 => do
    let r ← get
    match r.held with
    | some t =>
      set { r with held := none }
      return t
    | none =>
      match ← peek? with
      | none => return .ending
      | some c =>
        if isBlank c then
          advance
          modify fun r =>
            if r.replaced.any (·.2 = r.rest.length) then { r with afterBlank := true } else r
          rawToken script n
        else if c = '#' then
          modify fun r => { r with rest := r.rest.dropWhile (· ≠ '\n') }
          rawToken script n
        else if c = '<' || c = '>' then redirectionToken none
        else if isMeta c then operatorToken
        else
          let w := (← bare script n false []).word
          match descriptor? w, ← peek? with
          | some d, some c =>
            if c = '<' || c = '>' then redirectionToken (some d) else return .word w
          | _, _ => return .word w

/-- The text that an alias stands for, where its own text is not being read. -/
def alias? (r : Reader) (name : Chars) : Option Chars :=
  let left := r.rest.length
  if r.replaced.any fun e => e.1 = name && e.2 ≤ left then none
  else (r.aliases.find? (·.1 = name)).map (·.2)

def token (script : Reading Command) (look : Lookout) : Nat → Reading Token
  | 0 => throw .exhausted
  | n + 1 => do
    let t ← rawToken script n
    let look := { look with aliases := look.aliases || (← get).afterBlank }
    modify fun r => { r with afterBlank := false }
    match t with
    | .newline =>
      if look.lines then
        readDocuments script n
        token script look n
      else return .newline
    | .word w =>
      match w.plain? with
      | none => return .word w
      | some cs =>
        let name := String.ofList cs
        if look.keywords && keywords.contains name then return .keyword name
        else if look.aliases then
          let r ← get
          match if r.aliases = [] then none else alias? r cs with
          | some text =>
            set { r with
              rest := text ++ r.rest, replaced := (cs, r.rest.length) :: r.replaced }
            token script look n
          | none => return .word w
        else return .word w
    | t => return t

def hold (t : Token) : Reading Unit := modify fun r => { r with held := some t }

def Lookout.command : Lookout := { keywords := true, aliases := true }

def Lookout.next : Lookout := { lines := true, keywords := true, aliases := true }

def Token.isKeyword (t : Token) (name : String) : Bool :=
  match t with
  | .keyword k => k = name
  | _ => false

def Token.isOperator (t : Token) (symbol : String) : Bool :=
  match t with
  | .operator s => s = symbol
  | _ => false

def Token.closes : Token → Bool
  | .keyword k => closers.contains k
  | .operator s => s = ";;" || s = ")"
  | .ending => true
  | _ => false

def assignment? (w : Word) : Option (Chars × Word) :=
  match w with
  | .text cs false :: ps =>
    match cs.span (· ≠ '=') with
    | (name, '=' :: value) =>
      if isName name then some (name, if value = [] then ps else .text value false :: ps)
      else none
    | _ => none
  | _ => none

/-- The delimiter of a document, in which only quotes count, and whether there are any. -/
def delimiter : Nat → Bool → Bool → Chars → Reading (Chars × Bool)
  | 0, _, _, _ => throw .exhausted
  | n + 1, inDouble, quoted, acc => do
    match ← peek? with
    | none => if inDouble then fail Frame.quotes.unclosed else return (acc.reverse, quoted)
    | some c =>
      if !inDouble && isMeta c then
        let number := acc.length = 1 && acc.all Char.isDigit && !quoted
        if number && (c = '<' || c = '>') then unexpected (.redirection 0 "<<")
        return (acc.reverse, quoted)
      advance
      if c = '"' then delimiter n (!inDouble) true acc
      else if c = '\'' && !inDouble then
        let cs ← through (· = '\'') Frame.quotes.unclosed
        delimiter n inDouble true (cs.reverse ++ acc)
      else if c = '\\' then
        match (← get).rest with
        | [] => delimiter n inDouble quoted ('\\' :: acc)
        | e :: _ =>
          advance
          if inDouble && !Frame.quotes.escapes e then delimiter n inDouble true (e :: '\\' :: acc)
          else delimiter n inDouble true (e :: acc)
      else delimiter n inDouble quoted (c :: acc)

def announcement (script : Reading Command) (n descriptor : Nat) (stripped : Bool) :
    Reading Redirection := do
  let _ ← takeWhile isBlank n []
  match ← peek? with
  | none => unexpected .ending
  | some c =>
    if isMeta c || c = '#' then unexpected (← token script {} n)
    let (text, quoted) ← delimiter n false false []
    let r ← get
    let number := r.nextDocument
    set { r with
      nextDocument := number + 1
      announced := r.announced ++ [Announced.mk number text (!quoted) stripped] }
    return .mk descriptor (.document number (!quoted)) []

def redirection (script : Reading Command) (n descriptor : Nat) (symbol : String) :
    Reading Redirection := do
  if symbol = "<<" || symbol = "<<-" then
    return ← announcement script n descriptor (symbol = "<<-")
  match ← token script {} n with
  | .word w =>
    let place (d : Direction) : Reading Redirection := return .mk descriptor d w
    match symbol with
    | "<" => place .read
    | ">" => place .write
    | ">|" => place .clobber
    | ">>" => place .append
    | "<>" => place .both
    | _ => place .duplicate
  | t => unexpected t

/-- The redirections after a compound command. What follows one is no keyword. -/
def redirections (script : Reading Command) (look : Lookout) :
    Nat → List Redirection → Reading (List Redirection)
  | 0, _ => throw .exhausted
  | n + 1, acc => do
    match ← token script look n with
    | .redirection d s =>
      let r ← redirection script n d s
      redirections script {} n (r :: acc)
    | t =>
      hold t
      return acc.reverse

def words (script : Reading Command) : Nat → List Word → Reading (List Word × Token)
  | 0, _ => throw .exhausted
  | n + 1, acc => do
    match ← token script {} n with
    | .word w => words script n (w :: acc)
    | t => return (acc.reverse, t)

/-- The patterns of an arm, from one on that was read, up to the parenthesis. -/
def patterns (script : Reading Command) : Nat → Token → List Word → Reading (List Word)
  | 0, _, _ => throw .exhausted
  | n + 1, t, acc => do
    let w : Word ←
      match t with
      | .word w => pure w
      | .keyword k => pure [.text k.toList false]
      | _ => pure []
    match ← token script {} n with
    | .operator "|" => patterns script n (← token script {} n) (w :: acc)
    | .operator ")" => return (w :: acc).reverse
    | t => expected t (.operator ")")

/-- A command of words and redirections, or the definition of a function. -/
def simple (script : Reading Command) (body : Reading Command) (line : Nat) :
    Nat → Bool → List (Chars × Word) → List Word → List Redirection → Reading Command
  | 0, _, _, _, _ => throw .exhausted
  | n + 1, leading, assigned, ws, rs => do
    match ← token script { aliases := leading } n with
    | .word w =>
      match if leading then assignment? w else none with
      | some a => simple script body line n true (a :: assigned) ws rs
      | none => simple script body line n false assigned (w :: ws) rs
    | .redirection d s =>
      let r ← redirection script n d s
      simple script body line n leading assigned ws (r :: rs)
    | t =>
      let finish : Reading Command := do
        hold t
        return .simple line assigned.reverse ws.reverse rs.reverse
      match t, ws, assigned, rs with
      | .operator "(", [w], [], [] =>
        match ← token script {} n with
        | .operator ")" =>
          let name := Word.unquoted w
          if w.plain?.isNone || !isName name || specials.contains (String.ofList name) then
            fail "Bad function name"
          else return .function name (← body)
        | t => expected t (.operator ")")
      | _, _, _, _ => finish

def expectKeyword (script : Reading Command) (n : Nat) (look : Lookout) (name : String) :
    Reading Unit := do
  let t ← token script look n
  if Token.isKeyword t name then return else expected t (.keyword name)

inductive Extent where
  /-- With the line. -/
  | line
  /-- Before a token that cannot go on; there is at least one command. -/
  | block
  /-- Likewise, perhaps with no command. -/
  | script
  deriving DecidableEq

mutual

def list : Nat → Extent → List Command → Reading Command
  | 0, _, _ => throw .exhausted
  | n + 1, extent, acc => do
    let script := list n .script []
    let done : Reading Command := do
      match acc with
      | [c] => return c
      | cs => return .sequence cs.reverse
    let t ← token script { Lookout.next with lines := extent ≠ .line } n
    match t with
    | .newline =>
      readDocuments script n
      done
    | .ending =>
      readDocuments script n
      hold t
      done
    | _ =>
      hold t
      if Token.closes t && (extent = .script || extent = .block && !acc.isEmpty) then done
      else
        let c ← andOr n
        let t ← token script {} n
        match t with
        | .operator "&" => list n extent (.background c :: acc)
        | .operator ";" => list n extent (c :: acc)
        | .newline =>
          hold t
          list n extent (c :: acc)
        | .ending =>
          hold t
          list n extent (c :: acc)
        | _ =>
          if extent = .line then unexpected t
          else
            hold t
            match acc with
            | [] => return c
            | _ => return .sequence (c :: acc).reverse

def andOr : Nat → Reading Command
  | 0 => throw .exhausted
  | n + 1 => do
    let c ← pipeline n .command
    andOrFrom n c

def andOrFrom : Nat → Command → Reading Command
  | 0, _ => throw .exhausted
  | n + 1, c => do
    let t ← token (list n .script []) {} n
    match t with
    | .operator "&&" =>
      let d ← pipeline n .next
      andOrFrom n (.both c d)
    | .operator "||" =>
      let d ← pipeline n .next
      andOrFrom n (.either c d)
    | _ =>
      hold t
      return c

def pipeline : Nat → Lookout → Reading Command
  | 0, _ => throw .exhausted
  | n + 1, look => do
    let t ← token (list n .script []) look n
    if Token.isKeyword t "!" then
      let c ← command n .command
      return .negation (← pipelineFrom n [c])
    else
      hold t
      let c ← command n .command
      pipelineFrom n [c]

def pipelineFrom : Nat → List Command → Reading Command
  | 0, _ => throw .exhausted
  | n + 1, acc => do
    let t ← token (list n .script []) {} n
    match t with
    | .operator "|" =>
      let c ← command n .next
      pipelineFrom n (c :: acc)
    | _ =>
      hold t
      match acc with
      | [c] => return c
      | cs => return .pipeline cs.reverse

def conditional : Nat → Reading Command
  | 0 => throw .exhausted
  | n + 1 => do
    let script := list n .script []
    let test ← list n .block []
    expectKeyword script n {} "then"
    let yes ← list n .block []
    let t ← token script {} n
    match t with
    | .keyword "elif" => return .conditional test yes (some (← conditional n))
    | .keyword "else" =>
      let no ← list n .block []
      expectKeyword script n {} "fi"
      return .conditional test yes (some no)
    | .keyword "fi" => return .conditional test yes none
    | _ => expected t (.keyword "fi")

def arms : Nat → List (List Word × Command) → Reading (List (List Word × Command))
  | 0, _ => throw .exhausted
  | n + 1, acc => do
    let script := list n .script []
    let look : Lookout := { lines := true, keywords := true }
    let t ← token script look n
    if Token.isKeyword t "esac" then return acc.reverse
    let t ← if Token.isOperator t "(" then token script {} n else pure t
    let ps ← patterns script n t []
    let body ← list n .script []
    let t ← token script look n
    match t with
    | .keyword "esac" => return ((ps, body) :: acc).reverse
    | .operator ";;" => arms n ((ps, body) :: acc)
    | _ => expected t (.operator ";;")

def command : Nat → Lookout → Reading Command
  | 0, _ => throw .exhausted
  | n + 1, look => do
    let script := list n .script []
    let t ← token script look n
    let line := (← get).line
    match t with
    | .keyword "if" => redirectedCommand n line (← conditional n)
    | .keyword "while" => loopCommand n line false
    | .keyword "until" => loopCommand n line true
    | .keyword "for" =>
      match ← token script {} n with
      | .word w =>
        let name := Word.unquoted w
        if w.plain?.isNone || !isName name then fail "Bad for loop variable"
        let t ← token script .next n
        let items : Option (List Word) ←
          if Token.isKeyword t "in" then
            let (ws, t) ← words script n []
            match t with
            | .newline => pure (some ws)
            | .operator ";" => pure (some ws)
            | _ => unexpected t
          else
            if !Token.isOperator t ";" then hold t
            pure none
        expectKeyword script n .next "do"
        let body ← list n .block []
        expectKeyword script n {} "done"
        redirectedCommand n line (.iteration line name items body)
      | _ => fail "Bad for loop variable"
    | .keyword "case" =>
      match ← token script {} n with
      | .word w =>
        expectKeyword script n .next "in"
        redirectedCommand n line (.selection line w (← arms n []))
      | t => expected t (.word [])
    | .keyword "\x7b" =>
      let body ← list n .block []
      expectKeyword script n {} "\x7d"
      redirectedCommand n line body
    | .operator "(" =>
      let body ← list n .block []
      let t ← token script {} n
      if Token.isOperator t ")" then
        return .subshell line body (← redirections script .command n [])
      else expected t (.operator ")")
    | .word _ =>
      hold t
      simple script (command n .next) line n true [] [] []
    | .redirection _ _ =>
      hold t
      simple script (command n .next) line n true [] [] []
    | _ => unexpected t

def loopCommand : Nat → Nat → Bool → Reading Command
  | 0, _, _ => throw .exhausted
  | n + 1, line, negated => do
    let script := list n .script []
    let test ← list n .block []
    expectKeyword script n {} "do"
    let body ← list n .block []
    expectKeyword script n {} "done"
    redirectedCommand n line (.loop negated test body)

def redirectedCommand : Nat → Nat → Command → Reading Command
  | 0, _, _ => throw .exhausted
  | n + 1, line, c => do
    match ← redirections (list n .script []) .command n [] with
    | [] => return c
    | rs => return .redirected line c rs

end

def readLine (n : Nat) : Reading (Command × Bool) := do
  let c ← list n .line []
  let r ← get
  set { r with held := none }
  return (c, r.held matches some .ending)

end ImportResolver.Shell.Reader

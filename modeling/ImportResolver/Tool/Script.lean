import ImportResolver.Tool.RegexReader
/- Scripts that edit a text line by line, and reading them. -/
namespace ImportResolver.Tool.Script

open Shell

/-- An expression; none stands for the one used last. -/
structure Pattern where
  regex : Option Regex
  ignoresCase : Bool
  manyLines : Bool

inductive Address where
  | line (n : Nat)
  | last
  | matching (p : Pattern)
  /-- Every so many lines from a first one on. -/
  | every (first step : Nat)

/-- Whether it is the line before the first one, where only a range may begin. -/
def Address.isZero : Address → Bool
  | .line 0 => true
  | _ => false

inductive Bound where
  | address (a : Address)
  | more (lines : Nat)
  | multiple (n : Nat)

def Bound.isMatch : Bound → Bool
  | .address (.matching _) => true
  | _ => false

inductive Selector where
  | all
  | one (a : Address)
  | range (first : Address) (last : Bound)

/-- A part of what takes the place of a match. -/
inductive Piece where
  | text (cs : Chars)
  | group (k : Nat)
  /-- A change of case for what follows. -/
  | case (c : Char)

structure Substitution where
  pattern : Pattern
  replacement : List Piece
  everywhere : Bool := false
  prints : Bool := false
  /-- The first match that counts. -/
  first : Option Nat := none
  target : Option Chars := none

inductive Condition where
  | always
  | substituted
  | notSubstituted

inductive Edit where
  | opening
  | closing
  | label (name : Chars)
  | jump (c : Condition) (label : Chars)
  | number
  | append (text : Chars)
  | insert (text : Chars)
  | change (text : Chars)
  | delete
  | deleteFirst
  | print
  | printFirst
  | printPlainly (width : Option Nat)
  | fileName
  | hold
  | holdMore
  | recall
  | recallMore
  | exchange
  | next
  | nextMore
  | quit (prints : Bool) (status : Nat)
  | substitute (s : Substitution)
  | characters (table : List (Char × Char))
  | readFile (file : Chars)
  | readLine (file : Chars)
  | writeFile (file : Chars)
  | writeFirst (file : Chars)
  | clear
  | nothing

structure Instruction where
  selector : Selector
  negated : Bool
  edit : Edit

/-- What is wrong with a script, and how many characters are left where that was noticed. A place
before the script stands for no place in it. -/
structure Problem where
  message : String
  left : Option Nat

abbrev Reading (α : Type) := StateT Chars (Except Problem) α

def refuse {α : Type} (message : String) : Reading α := do
  throw ⟨message, some (← get).length⟩

def peek? : Reading (Option Char) := do return (← get).head?

def next? : Reading (Option Char) := do
  match ← get with
  | [] => return none
  | c :: rest =>
    set rest
    return some c

def isBlank (c : Char) : Bool := c = ' ' || c = '\t'

def skipBlanks : Reading Unit := modify fun cs => cs.dropWhile isBlank

def accept (c : Char) : Reading Bool := do
  if (← peek?) = some c then
    modify (·.drop 1)
    return true
  else return false

def digits : Reading (Option Nat) := do
  let (ds, rest) := (← get).span Char.isDigit
  set rest
  return if ds = [] then none else some (Arithmetic.numeral 10 ds)

/-- How many characters a bracket expression has, whose opening bracket was read. -/
def bracketLength (cs : Chars) : Nat :=
  let lead := match cs with
    | '^' :: ']' :: _ => 2
    | '^' :: _ => 1
    | ']' :: _ => 1
    | _ => 0
  let rec go : Nat → Chars → Nat
    | _, [] => 0
    | n, '[' :: ':' :: cs =>
      let name := cs.takeWhile Char.isAlpha
      if (cs.drop name.length).take 2 = [':', ']'] then
        go (n + name.length + 4) (cs.drop (name.length + 2))
      else go (n + 1) (':' :: cs)
    | n, c :: cs => if c = ']' then n + 1 else if c = '\n' then 0 else go (n + 1) cs
  termination_by _ cs => cs.length
  go lead (cs.drop lead)

/-- The text up to a delimiter. A backslash before the delimiter takes its meaning away; in an
expression neither of them counts between brackets, of which so many characters are left. Without
the delimiter, what is left is where the line ends. -/
def upTo (delimiter : Char) (isRegex : Bool) : Chars → Chars → Nat → Except Chars (Chars × Chars)
  | acc, '\\' :: c :: cs, inside =>
    if c = delimiter && inside = 0 then
      upTo delimiter isRegex (if !isRegex && c = '&' then c :: '\\' :: acc else c :: acc) cs 0
    else if c = 'n' && isRegex && inside = 0 then upTo delimiter isRegex ('\n' :: acc) cs 0
    else upTo delimiter isRegex (c :: '\\' :: acc) cs (inside - 2)
  | acc, c :: cs, inside =>
    if c = delimiter && inside = 0 then .ok (acc.reverse, cs)
    else if c = '\n' && inside = 0 then .error (c :: cs)
    else
      upTo delimiter isRegex (c :: acc) cs
        (if c = '[' && isRegex && inside = 0 then bracketLength cs else inside - 1)
  | _, [], _ => .error []

def delimited (delimiter : Char) (isRegex : Bool) (problem : String) : Reading Chars := do
  match upTo delimiter isRegex [] (← get) 0 with
  | .ok (cs, rest) =>
    set rest
    return cs
  | .error rest =>
    set rest
    refuse problem

/-- A character that is written by its number: in decimal, octal or hexadecimal digits, or as the
letter of a control character. -/
def numbered? : Chars → Option (Char × Chars)
  | 'c' :: c :: cs => some (Char.ofNat (c.toUpper.toNat ^^^ 64), cs)
  | k :: cs =>
    let take (base width : Nat) : Option (Char × Chars) :=
      let ds := (cs.take width).takeWhile fun c => Arithmetic.digitValue c < base
      if ds = [] then none
      else some (Char.ofNat (Arithmetic.numeral base ds % 256), cs.drop ds.length)
    match k with
    | 'd' => take 10 3
    | 'o' => take 8 3
    | 'x' => take 16 2
    | _ => none
  | [] => none

def control? (c : Char) : Option Char :=
  match c with
  | 'a' => some (Char.ofNat 7)
  | 'f' => some (Char.ofNat 12)
  | 'n' => some '\n'
  | 'r' => some '\r'
  | 't' => some '\t'
  | 'v' => some (Char.ofNat 11)
  | _ => none

/-- An expression with characters in place of their numbers. One that would have a meaning is
marked so that it has none, but not between brackets, of which so many characters are left; there
letters for control characters stand for these as well. -/
def withCharacters : Nat → Nat → Chars → Chars
  | 0, _, cs => cs
  | _, _, [] => []
  | n + 1, inside, '\\' :: cs =>
    match numbered? cs, cs with
    | some (c, rest), _ =>
      let isMarked := inside = 0 && "^$.*[]\\+?()\x7b\x7d|/".toList.contains c
      let others := withCharacters n (inside - (cs.length + 1 - rest.length)) rest
      if isMarked then '\\' :: c :: others else c :: others
    | none, c :: rest =>
      let others := withCharacters n (inside - 2) rest
      if inside = 0 then '\\' :: c :: others
      else if ['d', 'o', 'x'].contains c then c :: others
      else
        match control? c with
        | some d => d :: others
        | none => '\\' :: c :: others
    | none, [] => ['\\']
  | n + 1, inside, c :: cs =>
    c :: withCharacters n (if c = '[' && inside = 0 then bracketLength cs else inside - 1) cs

def groupCount : Regex → Nat
  | .group k r => max k (groupCount r)
  | .seq r s => max (groupCount r) (groupCount s)
  | .either r s => max (groupCount r) (groupCount s)
  | .times _ _ r => groupCount r
  | _ => 0

def pattern (extended : Bool) (cs : Chars) (ignoresCase manyLines : Bool) : Reading Pattern := do
  if cs = [] then
    if ignoresCase || manyLines then throw ⟨"cannot specify modifiers on empty regexp", some 0⟩
    return ⟨none, ignoresCase, manyLines⟩
  let dialect : Regex.Dialect := { extended, strict := true, controls := true }
  match Regex.ofText dialect (withCharacters cs.length 0 cs) with
  | .ok r => return ⟨some r, ignoresCase, manyLines⟩
  | .error why => refuse why

def addressFlags : Nat → Bool × Bool → Reading (Bool × Bool)
  | 0, flags => return flags
  | n + 1, (ignoresCase, manyLines) => do
    if ← accept 'I' then addressFlags n (true, manyLines)
    else if ← accept 'M' then addressFlags n (ignoresCase, true)
    else return (ignoresCase, manyLines)

def address? (extended : Bool) : Reading (Option Address) := do
  let expression (delimiter : Char) : Reading (Option Address) := do
    let cs ← delimited delimiter true "unterminated address regex"
    let (ignoresCase, manyLines) ← addressFlags 4 (false, false)
    return some (.matching (← pattern extended cs ignoresCase manyLines))
  match ← peek? with
  | some '$' =>
    modify (·.drop 1)
    return some .last
  | some '/' =>
    modify (·.drop 1)
    expression '/'
  | some '\\' =>
    match ← get with
    | _ :: d :: rest =>
      set rest
      expression d
    | _ => refuse "unexpected \x60,'"
  | _ =>
    match ← digits with
    | none => return none
    | some n =>
      if ← accept '~' then return some (.every n ((← digits).getD 0))
      else return some (.line n)

def selector (extended : Bool) : Reading Selector := do
  match ← peek? with
  | some c =>
    if c = '+' || c = '~' then
      modify (·.drop 1)
      let _ ← digits
      refuse "invalid usage of +N or ~N as first address"
  | none => pure ()
  match ← address? extended with
  | none => return .all
  | some a =>
    skipBlanks
    if ← accept ',' then
      skipBlanks
      let bound ←
        if ← accept '+' then pure (Bound.more ((← digits).getD 0))
        else if ← accept '~' then pure (Bound.multiple ((← digits).getD 0))
        else
          match ← address? extended with
          | some b => pure (Bound.address b)
          | none =>
            let _ ← next?
            refuse "unexpected \x60,'"
      if a.isZero && !bound.isMatch then
        skipBlanks
        let _ ← next?
        refuse "invalid usage of line address 0"
      return .range a bound
    else
      if a.isZero then
        let _ ← next?
        refuse "invalid usage of line address 0"
      return .one a

/-- A text for `a`, `i` or `c`: the rest of the line, and lines that a backslash joins to it. -/
def textArgument : Reading Chars := do
  skipBlanks
  if (← get).isEmpty || (← peek?) = some '\n' then
    refuse "expected \\ after \x60a', \x60c' or \x60i'"
  if ← accept '\\' then
    modify fun cs =>
      match cs.dropWhile isBlank with
      | '\n' :: rest => rest
      | _ => cs
  let rec go : Nat → Chars → Chars → Chars × Chars
    | 0, acc, cs => (acc.reverse, cs)
    | n + 1, acc, '\\' :: cs =>
      match numbered? cs, cs with
      | some (c, rest), _ => go n (c :: acc) rest
      | none, c :: rest => go n ((control? c).getD c :: acc) rest
      | none, [] => go n acc []
    | _, acc, '\n' :: cs => (acc.reverse, cs)
    | n + 1, acc, c :: cs => go n (c :: acc) cs
    | _, acc, [] => (acc.reverse, [])
  let before ← get
  let (cs, rest) := go (before.length + 1) [] before
  set rest
  return if before.isEmpty then [] else cs ++ ['\n']

def label : Reading Chars := do
  skipBlanks
  let (cs, rest) := (← get).span fun c => !Arithmetic.isSpace c && c ≠ ';' && c ≠ '\x7d'
  set rest
  return cs

def fileArgument : Reading Chars := do
  skipBlanks
  let (cs, rest) := (← get).span (· ≠ '\n')
  set rest
  if cs = [] then refuse "missing filename in r/R/w/W commands"
  return cs

def pieces : Nat → Chars → List Piece
  | 0, _ => []
  | _, [] => []
  | n + 1, '&' :: cs => .group 0 :: pieces n cs
  | n + 1, '\\' :: c :: cs =>
    if c.isDigit then .group (c.toNat - '0'.toNat) :: pieces n cs
    else if ['U', 'L', 'E', 'u', 'l'].contains c then .case c :: pieces n cs
    else
      match numbered? (c :: cs) with
      | some (d, rest) => .text [d] :: pieces n rest
      | none =>
        let d := match c with
          | 'n' => '\n'
          | 't' => '\t'
          | 'r' => '\r'
          | 'a' => Char.ofNat 7
          | 'f' => Char.ofNat 12
          | 'v' => Char.ofNat 11
          | c => c
        .text [d] :: pieces n cs
  | n + 1, c :: cs => .text [c] :: pieces n cs

/-- The letters and the number after a substitution. -/
structure Flags where
  everywhere : Bool := false
  prints : Bool := false
  first : Option Nat := none
  ignoresCase : Bool := false
  manyLines : Bool := false
  target : Option Chars := none

def flags (f : Flags) : Nat → Reading Flags
  | 0 => refuse "unknown option to \x60s'"
  | n + 1 => do
    match ← peek? with
    | none => return f
    | some c =>
      if c.isDigit then
        let k := (← digits).getD 0
        if f.first.isSome then refuse "multiple number options to \x60s' command"
        if k = 0 then refuse "number option to \x60s' command may not be zero"
        flags { f with first := some k } n
      else if c = '\x7d' || c = '#' then return f
      else
        modify (·.drop 1)
        match c with
        | 'g' =>
          if f.everywhere then refuse "multiple \x60g' options to \x60s' command"
          flags { f with everywhere := true } n
        | 'p' =>
          if f.prints then refuse "multiple \x60p' options to \x60s' command"
          flags { f with prints := true } n
        | 'i' => flags { f with ignoresCase := true } n
        | 'I' => flags { f with ignoresCase := true } n
        | 'm' => flags { f with manyLines := true } n
        | 'M' => flags { f with manyLines := true } n
        | 'e' => flags f n
        | 'w' => return { f with target := some (← fileArgument) }
        | ' ' => flags f n
        | '\n' => return f
        | ';' => return f
        | _ => refuse "unknown option to \x60s'"

def substitution (extended : Bool) : Reading Substitution := do
  match ← next? with
  | none => refuse "unterminated \x60s' command"
  | some d =>
    let cs ← delimited d true "unterminated \x60s' command"
    let r ← delimited d false "unterminated \x60s' command"
    let f ← flags {} ((← get).length + 1)
    let p ← pattern extended cs f.ignoresCase f.manyLines
    let replacement := pieces (r.length + 1) r
    let largest := replacement.foldl
      (fun n p => match p with
        | .group k => max n k
        | _ => n)
      0
    if let some r := p.regex then
      if groupCount r < largest then
        refuse ("invalid reference \\" ++ toString largest ++ " on \x60s' command's RHS")
    return {
      pattern := p, replacement, everywhere := f.everywhere, prints := f.prints, first := f.first
      target := f.target }

def characterTable : Reading (List (Char × Char)) := do
  match ← next? with
  | none => refuse "unterminated \x60y' command"
  | some d =>
    let rec plain : Chars → Chars
      | '\\' :: '\\' :: cs => '\\' :: plain cs
      | '\\' :: 'n' :: cs => '\n' :: plain cs
      | '\\' :: 't' :: cs => '\t' :: plain cs
      | c :: cs => c :: plain cs
      | [] => []
    let a := plain (← delimited d false "unterminated \x60y' command")
    let b := plain (← delimited d false "unterminated \x60y' command")
    if a.length ≠ b.length then refuse "strings for \x60y' command are different lengths"
    return a.zip b

def endOfCommand : Reading Unit := do
  skipBlanks
  match ← peek? with
  | none => return
  | some c =>
    if c = '\x7d' || c = '#' then return
    modify (·.drop 1)
    if c ≠ '\n' && c ≠ ';' then refuse "extra characters after command"

/-- A command whose letter was read; `addresses` is how many stand before it, and `isOpen` says
whether it stands in a block. -/
def edit (extended : Bool) (addresses : Nat) (isOpen : Bool) (c : Char) : Reading Edit := do
  let plain (e : Edit) : Reading Edit := do
    endOfCommand
    return e
  let number : Reading (Option Nat) := do
    skipBlanks
    digits
  let single : Reading Unit :=
    if 1 < addresses then refuse "command only uses one address" else return
  match c with
  | '\x7b' => return .opening
  | '\x7d' =>
    if !isOpen then refuse "unexpected \x60\x7d'"
    if 0 < addresses then refuse "\x7d doesn't want any addresses"
    plain .closing
  | '#' =>
    if 0 < addresses then refuse "comments don't accept any addresses"
    modify fun cs => cs.dropWhile (· ≠ '\n')
    return .nothing
  | ':' =>
    if 0 < addresses then refuse ": doesn't want any addresses"
    let l ← label
    if l = [] then refuse "\":\" lacks a label"
    return .label l
  | 'b' => return .jump .always (← label)
  | 't' => return .jump .substituted (← label)
  | 'T' => return .jump .notSubstituted (← label)
  | '=' => plain .number
  | 'a' => return .append (← textArgument)
  | 'i' => return .insert (← textArgument)
  | 'c' => return .change (← textArgument)
  | 'd' => plain .delete
  | 'D' => plain .deleteFirst
  | 'p' => plain .print
  | 'P' => plain .printFirst
  | 'l' =>
    let width ← number
    plain (.printPlainly width)
  | 'F' => plain .fileName
  | 'h' => plain .hold
  | 'H' => plain .holdMore
  | 'g' => plain .recall
  | 'G' => plain .recallMore
  | 'x' => plain .exchange
  | 'n' => plain .next
  | 'N' => plain .nextMore
  | 'q' =>
    single
    let status ← number
    plain (.quit true (status.getD 0))
  | 'Q' =>
    single
    let status ← number
    plain (.quit false (status.getD 0))
  | 's' => return .substitute (← substitution extended)
  | 'y' =>
    let table ← characterTable
    plain (.characters table)
  | 'r' => return .readFile (← fileArgument)
  | 'R' => return .readLine (← fileArgument)
  | 'w' => return .writeFile (← fileArgument)
  | 'W' => return .writeFirst (← fileArgument)
  | 'z' => plain .clear
  | 'v' =>
    let version ← label
    if version.head?.any fun c => '4' < c then
      refuse "expected newer version of sed"
    return .nothing
  | c => refuse ("unknown command: \x60" ++ c.toString ++ "'")

def instructions (extended : Bool) : Nat → Nat → Reading (List Instruction)
  | 0, _ => refuse "too deep"
  | n + 1, depth => do
    modify fun cs => cs.dropWhile fun c => Arithmetic.isSpace c || c = ';'
    match ← peek? with
    | none => if 0 < depth then throw ⟨"unmatched \x60\x7b'", none⟩ else return []
    | some _ =>
      let sel ← selector extended
      skipBlanks
      let mut negated := false
      if ← accept '!' then
        negated := true
        skipBlanks
        if ← accept '!' then refuse "multiple \x60!'s"
      match ← next? with
      | none => refuse "missing command"
      | some c =>
        let addresses := match sel with
          | .all => 0
          | .one _ => 1
          | .range _ _ => 2
        let e ← edit extended addresses (0 < depth) c
        let depth := match e with
          | .opening => depth + 1
          | .closing => depth - 1
          | _ => depth
        return ⟨sel, negated, e⟩ :: (← instructions extended n depth)

def ofText (extended : Bool) (cs : Chars) : Except Problem (List Instruction) := do
  let (is, _) ← (instructions extended (cs.length + 2) 0).run cs
  return is

def missingLabel? (is : List Instruction) : Option Chars :=
  let labels := is.filterMap fun i => match i.edit with
    | .label l => some l
    | _ => none
  is.findSome? fun i => match i.edit with
    | .jump _ l => if l = [] || labels.contains l then none else some l
    | _ => none

end ImportResolver.Tool.Script

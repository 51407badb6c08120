import ImportResolver.Shell.Builtin.Flow
import ImportResolver.Shell.Pattern
/- Commands of the shell that set variables. -/
namespace ImportResolver.Shell.Builtin

open Shell.Action

def nameAndValue (cs : Chars) : Chars × Option Chars :=
  match cs.span (· ≠ '=') with
  | (name, _ :: value) => (name, some value)
  | (name, []) => (name, none)

def checkName (name : Chars) : Action Unit := do
  if !Reader.isName name then fail (stringOf name ++ ": bad variable name")

/-- Reads option letters that stand together. In `spec`, a colon follows those with a value. -/
def letterOptions (spec : Chars) : Chars → List Chars →
    Action (List (Char × Chars) × List Chars)
  | [], rest => return ([], rest)
  | c :: cs, rest => do
    match if c = ':' then [] else spec.dropWhile (· ≠ c) with
    | [] => fail ("Illegal option -" ++ stringOf [c])
    | _ :: ':' :: _ =>
      match cs, rest with
      | [], value :: rest => return ([(c, value)], rest)
      | [], [] => fail ("No arg for -" ++ stringOf [c] ++ " option")
      | cs, rest => return ([(c, cs)], rest)
    | _ =>
      let (more, rest) ← letterOptions spec cs rest
      return ((c, []) :: more, rest)

def optionsFrom (spec : Chars) : Nat → List Chars →
    Action (List (Char × Chars) × List Chars)
  | _, ['-', '-'] :: rest => return ([], rest)
  | n + 1, ('-' :: c :: cs) :: rest => do
    let (os, rest) ← letterOptions spec (c :: cs) rest
    let (more, rest) ← optionsFrom spec n rest
    return (os ++ more, rest)
  | _, args => return ([], args)

/-- Takes options off the front of arguments; answers with their letters. -/
def letters (spec : String) (args : List Chars) : Action (Chars × List Chars) := do
  let (os, rest) ← optionsFrom spec.toList (args.length + 1) args
  return (os.map (·.1), rest)

def mark (lead : String) (marked : Variable → Bool) (change : Variable → Variable)
    (args : List Chars) : Action Nat := do
  let (opts, args) ←
    match args with
    | ('-' :: 'p' :: _) :: rest => pure (['p'], rest)
    | args => letters "p" args
  if args.isEmpty || opts.contains 'p' then
    printVariables (lead.toList ++ [' ']) ((← process).bindings.filter fun v => marked v.2)
  else
    args.forM fun a => do
      let (name, value) := nameAndValue a
      checkName name
      match value with
      | some value => assign name value
      | none => pure ()
      modifyProcess fun p =>
        p.withEntry name (change ((p.binding? name).getD { value := none }))
  return 0

def export_ : List Chars → Action Nat :=
  mark "export" Variable.exported fun v => { v with exported := true }

def readonly_ : List Chars → Action Nat :=
  mark "readonly" Variable.readOnly fun v => { v with readOnly := true }

def local_ (args : List Chars) : Action Nat := do
  if (← process).scopes.isEmpty then fail "not in a function"
  args.forM fun a =>
    if a = ['-'] then localizeOptions
    else do
      let (name, value) := nameAndValue a
      match value with
      | some value =>
        localize name
        setVariable name value false
      | none =>
        checkName name
        localize name
  return 0

def unset (args : List Chars) : Action Nat := do
  let (opts, names) ← letters "vf" args
  names.forM fun name =>
    if opts.getLast? = some 'f' then
      modifyProcess fun p => { p with functions := p.functions.filter (·.1 ≠ name) }
    else do
      let (name, _) := nameAndValue name
      checkName name
      unsetVariable name
  return 0

/-- Prints aliases, or gives them; an equals sign in front belongs to the name. -/
def abbreviate (args : List Chars) : Action Nat := do
  let shown (a : Chars × Chars) : Action Unit := printLine (a.1 ++ ['='] ++ quoted a.2)
  if args.isEmpty then
    let all := (← process).aliases.mergeSort fun a b =>
      decide (Process.bucket 39 a.1 ≤ Process.bucket 39 b.1)
    all.forM shown
    return 0
  let mut status := 0
  for a in args do
    let (name, value) := nameAndValue (a.drop 1)
    let name := a.take 1 ++ name
    match value with
    | some value =>
      modifyProcess fun p =>
        { p with
          aliases :=
            if p.aliases.any (·.1 = name) then
              p.aliases.map fun e => if e.1 = name then (name, value) else e
            else p.aliases ++ [(name, value)] }
    | none =>
      match (← process).aliases.find? (·.1 = name) with
      | some found => shown found
      | none =>
        let _ ← write 2 ("alias: ".toList ++ name ++ " not found\n".toList)
        status := 1
  return status

def unalias (args : List Chars) : Action Nat := do
  let all := args.head?.any fun arg => ['-', 'a'].isPrefixOf arg
  let (opts, names) ← if all then pure (['a'], []) else letters "a" args
  if opts.contains 'a' then
    modifyProcess fun p => { p with aliases := [] }
    return 0
  let mut status := 0
  for name in names do
    if !(← process).aliases.any (·.1 = name) then
      let _ ← write 2 ("unalias: ".toList ++ name ++ " not found\n".toList)
      status := 1
    modifyProcess fun p => { p with aliases := p.aliases.filter (·.1 ≠ name) }
  return status

/-- Puts together the lines that backslashes join, each character with whether one stood before
it; also says whether the last line ended. -/
def joinedLine (raw : Bool) : Nat → Action (List Glyph × Bool)
  | 0 => throw .exhausted
  | n + 1 => do
    match ← readLine? 0 true with
    | none => return ([], false)
    | some (line, ended) =>
      let gs := if raw then line.map fun c => ⟨c, false⟩ else unescape line
      if !raw && ended && endsInBackslash line then
        let (more, ended) ← joinedLine raw n
        return (gs ++ more, ended)
      else return (gs, ended)
where
  unescape : Chars → List Glyph
    | '\\' :: c :: cs => ⟨c, true⟩ :: unescape cs
    | ['\\'] => []
    | c :: cs => ⟨c, false⟩ :: unescape cs
    | [] => []
  endsInBackslash : Chars → Bool
    | '\\' :: _ :: cs => endsInBackslash cs
    | ['\\'] => true
    | _ :: cs => endsInBackslash cs
    | [] => false

def isBlankSeparator (separators : Chars) (g : Glyph) : Bool :=
  !g.quoted && separators.contains g.char && [' ', '\t', '\n'].contains g.char

def isSeparator (separators : Chars) (g : Glyph) : Bool :=
  !g.quoted && separators.contains g.char

def firstField (separators : Chars) (gs : List Glyph) : List Glyph × List Glyph :=
  let (field, rest) := gs.span fun g => !isSeparator separators g
  let rest := rest.dropWhile (isBlankSeparator separators)
  match rest with
  | g :: after =>
    if isSeparator separators g && !(isBlankSeparator separators g) then
      (field, after.dropWhile (isBlankSeparator separators))
    else (field, rest)
  | [] => (field, [])

/-- A field for each of so many names; the last takes all that is left. -/
def shares (separators : Chars) : Nat → List Glyph → List (List Glyph)
  | 0, _ => []
  | 1, gs =>
    let (field, rest) := firstField separators gs
    if rest.isEmpty then [field]
    else [(gs.reverse.dropWhile (isBlankSeparator separators)).reverse]
  | n + 1, gs =>
    let (field, rest) := firstField separators gs
    field :: shares separators n rest

def read (args : List Chars) : Action Nat := do
  let (opts, names) ← letters "p:r" args
  if names.isEmpty then fail "arg count"
  let (gs, ended) ← joinedLine (opts.contains 'r') loopLimit
  let gs := gs.filter (·.char.toNat ≠ 0)
  let separators := (← process).separators
  let fields := shares separators names.length (gs.dropWhile (isBlankSeparator separators))
  (names.zip fields).forM fun (name, field) => do
    checkName name
    assign name (field.map Glyph.char)
  return if ended then 0 else 1

/-- What the next option among arguments is. -/
structure NextOption where
  letter : Char
  /-- What goes with the letter; none if that is a complaint. -/
  value : Option Chars
  complaint : String := ""
  /-- How many arguments were used up. -/
  used : Nat
  /-- What is left of the last argument that was used, if it is gone on with. -/
  rest : Option Chars := none

def nextOption (spec : Chars) (args : List Chars) (used : Nat) (c : Char) (cs : Chars) :
    NextOption :=
  let silent := spec.head? = some ':'
  let place := (if silent then spec.drop 1 else spec).dropWhile (· ≠ c)
  let refused (letter : Char) (complaint : String) (used : Nat) (rest : Option Chars) :
      NextOption :=
    if silent then { letter, value := some [c], used, rest }
    else { letter := '?', value := none, complaint, used, rest }
  match if c = ':' then [] else place with
  | [] => refused '?' ("Illegal option -" ++ stringOf [c]) used (some cs)
  | _ :: ':' :: _ =>
    if cs ≠ [] then { letter := c, value := some cs, used }
    else
      match args[used]? with
      | some value => { letter := c, value := some value, used := used + 1 }
      | none => refused ':' ("No arg for -" ++ stringOf [c] ++ " option") used (some [])
  | _ => { letter := c, value := some [], used, rest := some cs }

def getopts (args : List Chars) : Action Nat := do
  match args with
  | spec :: name :: given =>
    let p ← process
    let own := given.isEmpty
    let given := if own then p.arguments else given
    let reset := given.length + 1 < p.optionIndex
    let index := if reset then 1 else p.optionIndex
    let offset := if reset then none else p.optionOffset
    let finish (used : Nat) (offset : Option Nat) (letter : Char) (status : Nat) :
        Action Nat := do
      modifyProcess fun p => { p with optionIndex := used + 1, optionOffset := none }
      setVariable "OPTIND".toList (decimal (used + 1)) false
      checkName name
      assign name [letter]
      modifyProcess fun p => { p with optionIndex := used + 1, optionOffset := offset }
      return status
    let current := if index ≤ 1 then [] else
      match offset with
      | some k => (given.getD (index - 2) []).drop k
      | none => []
    let go (used : Nat) (c : Char) (cs : Chars) : Action Nat := do
      let o := nextOption spec given used c cs
      match o.value with
      | some value => assign "OPTARG".toList value
      | none =>
        let _ ← write 2 (charsOf (o.complaint ++ "\n"))
        unsetVariable "OPTARG".toList
      let offset := o.rest.map fun rest => (given.getD (o.used - 1) []).length - rest.length
      finish o.used offset o.letter 0
    match current with
    | c :: cs => go (index - 1) c cs
    | [] =>
      match given[index - 1]? with
      | some ['-', '-'] => finish index none '?' 1
      | some ('-' :: c :: cs) => go index c cs
      | _ => finish (index - 1) none '?' 1
  | _ => fail "Usage: getopts optstring var [arg...]"

def source (go : Runner) (args : List Chars) : Action Nat := do
  let (_, args) ← letters "" args
  match args with
  | [] => return 0
  | name :: _ =>
    match ← findText? name with
    | none => fail (stringOf name ++ ": not found")
    | some cs =>
      match ← scriptText? cs with
      | .error fault =>
        fail ("cannot open " ++ stringOf name ++ ": " ++ refusal fault "No such file")
      | .ok text =>
        modifyProcess fun p => { p with commandName := some cs }
        match ← outcome (go (.source (text.getD []) true {})) with
        | .ok _ => return (← process).status
        | .error (.leave _) => return (← process).status
        | .error stop => throw stop

end ImportResolver.Shell.Builtin

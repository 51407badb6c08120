import ImportResolver.Shell.Arithmetic
import ImportResolver.Shell.Jobs
import ImportResolver.Shell.Process
/- Programs of the system: what they read, how they answer, and how they show names. -/
namespace ImportResolver.Tool

open Shell

def isShown (c : Char) : Bool := 32 ≤ c.toNat && c.toNat < 127

def escaped (c : Char) : Chars :=
  '\\' ::
    match c.toNat with
    | 7 => ['a']
    | 8 => ['b']
    | 9 => ['t']
    | 10 => ['n']
    | 11 => ['v']
    | 12 => ['f']
    | 13 => ['r']
    | n => [n / 64 % 8, n / 8 % 8, n % 8].map fun d => Char.ofNat ('0'.toNat + d)

/-- A word between apostrophes, with escapes for what cannot stand there. -/
def inQuotes (cs : Chars) : Chars :=
  let one (c : Char) : Chars :=
    if c = '\'' || c = '\\' then ['\\', c] else if isShown c then [c] else escaped c
  '\'' :: cs.flatMap one ++ ['\'']

/-- Runs of characters that can be shown or cannot, each with which of the two it is. -/
def shownRuns : Chars → List (Bool × Chars)
  | [] => []
  | c :: cs =>
    match shownRuns cs with
    | (shown, run) :: rest =>
      if shown = isShown c then (shown, c :: run) :: rest
      else (isShown c, [c]) :: (shown, run) :: rest
    | [] => [(isShown c, [c])]

def quotedFully (cs : Chars) : Chars :=
  let isTame (c : Char) : Bool := c.isAlphanum || " '%+,-./:]_".toList.contains c
  let apart (c : Char) : Chars := if c = '\'' then "'\\''".toList else [c]
  let rec pieces : List (Bool × Chars) → Chars
    | [] => ['\'']
    | (true, run) :: rest => run.flatMap apart ++ pieces rest
    | [(false, run)] => "'$'".toList ++ run.flatMap escaped ++ ['\'']
    | (false, run) :: rest => "'$'".toList ++ run.flatMap escaped ++ "''".toList ++ pieces rest
  if cs.contains '\'' && cs.all isTame then '"' :: cs ++ ['"']
  else '\'' :: pieces (shownRuns cs)

def needsQuotes (cs : Chars) : Bool :=
  let isSpecial (c : Char) : Bool :=
    !isShown c || " !\"$&()*;<=>[^\x60|?'\\".toList.contains c
  cs.isEmpty || cs.any isSpecial || cs.head? = some '#' || cs.head? = some '~' ||
    cs = ['\x7b'] || cs = ['\x7d']

def quoted (cs : Chars) : Chars := if needsQuotes cs then quotedFully cs else cs

open Shell.Action

/-- What a program does with its arguments; the answer is its exit status. -/
abbrev Behaviour := List Chars → Action Nat

def outputBlock : Nat := 4096

/-- Writes what was printed up to now. That it could not be done is kept in mind. -/
def flush : Action Unit := do
  let p ← process
  if p.outgoing.isEmpty then return
  modifyProcess fun p => { p with outgoing := [], outgoingSize := 0 }
  let _ ← output p.outgoing.reverse.flatten

/-- Prints a text. It is written when there is enough of it. -/
def print (cs : Chars) : Action Unit := do
  if cs.isEmpty then return
  modifyProcess fun p =>
    { p with outgoing := cs :: p.outgoing, outgoingSize := p.outgoingSize + cs.length }
  let p ← process
  if outputBlock ≤ p.outgoingSize then
    let text := p.outgoing.reverse.flatten
    let size := p.outgoingSize - p.outgoingSize % outputBlock
    modifyProcess fun p =>
      { p with outgoing := [text.drop size], outgoingSize := p.outgoingSize - size }
    let _ ← output (text.take size)

def printLine (cs : Chars) : Action Unit := print (cs ++ ['\n'])

def say (text : Chars) (status : Nat) : Action Nat := do
  print text
  return status

def sayLines (ls : List Chars) (status : Nat) : Action Nat :=
  say (ls.flatMap (· ++ ['\n'])) status

def warnAhead (message : Chars) : Action Unit := do
  let _ ← write 2 ((← process).name ++ ": ".toList ++ message ++ ['\n'])

def warn (message : Chars) : Action Unit := do
  flush
  warnAhead message

def warnOf (file : Chars) (why : String) : Action Unit :=
  warn (quoted file ++ ": ".toList ++ why.toList)

def failed (whole : Bool) : Nat := if whole then 0 else 1

def readFault (descriptor : Nat) : Action String := do
  match ← openFile? descriptor with
  | some (_, f) => return if f.canRead then "Is a directory" else "Bad file descriptor"
  | none => return "Bad file descriptor"

def inputDescriptor : Nat := 100

/-- Opens a file for reading and answers with the descriptor; `-` stands for the standard input. -/
def openInput (file : Chars) (descriptor : Nat) : Action (Except String Nat) := do
  if file = ['-'] then return .ok 0
  else
    match ← openPath (pathOf file) .read with
    | .error fault => return .error fault.reason
    | .ok f =>
      setDescriptor descriptor (some (← addFile f))
      return .ok descriptor

def closeInput (descriptor : Nat) : Action Unit := do
  if descriptor ≠ 0 then
    setDescriptor descriptor none
    rouse

/-- Lets `body` read a file through the number that it is given. -/
def withInput {α : Type} (file : Chars) (body : Nat → Action α) : Action (Except String α) := do
  match ← openInput file inputDescriptor with
  | .error why => return .error why
  | .ok d =>
    let a ← body d
    closeInput d
    return .ok a

/-- The content of a file; `-` stands for the standard input. -/
def contentOf (file : Chars) : Action (Except String Chars) := do
  let r ← withInput file fun d => do
    match ← readAll? d with
    | some cs => return Except.ok cs
    | none => return .error (← readFault d)
  match r with
  | .error why => return .error why
  | .ok r => return r

def inputs (files : List Chars) : List Chars := if files.isEmpty then [['-']] else files

/-- The beginning of a file, of so many bytes at most; no more than that is read. -/
def beginningOf (file : Chars) (most : Nat) : Action (Except String Chars) := do
  let r ← withInput file fun d => do
    let rec more : Nat → Nat → List Chars → Action (Except String Chars)
      | 0, _, _ => throw .exhausted
      | _, 0, parts => return .ok parts.reverse.flatten
      | n + 1, left, parts => do
        match ← readSome? d (min left blockSize) with
        | none => return .error (← readFault d)
        | some [] => return .ok parts.reverse.flatten
        | some cs => more n (left - cs.length) (cs :: parts)
    more loopLimit most []
  match r with
  | .error why => return .error why
  | .ok r => return r

/-- The beginning of the contents of files, one after another; also whether those that are needed
for it could be read. -/
def beginning (files : List Chars) (most : Nat) : Action (Chars × Bool) := do
  let mut parts := []
  let mut left := most
  let mut whole := true
  for file in inputs files do
    if left ≠ 0 then
      match ← beginningOf file left with
      | .ok cs =>
        parts := cs :: parts
        left := left - cs.length
      | .error why =>
        warnOf file why
        whole := false
  return (parts.reverse.flatten, whole)

/-- Writes a whole file; answers with the reason if it cannot be opened. -/
def writeWhole (name text : Chars) : Action (Option String) := do
  match ← openPath (pathOf name) .clobber with
  | .error fault => return some fault.reason
  | .ok f =>
    setDescriptor inputDescriptor (some (← addFile f))
    let _ ← write inputDescriptor text
    setDescriptor inputDescriptor none
    rouse
    return none

/-- Complains again, at the end, of a standard input that is among the files and is not open. -/
def warnOfInput (files : List Chars) : Action Unit := do
  if files.contains ['-'] && (← openFile? 0).isNone then warn "-: Bad file descriptor".toList

/-- The contents of files, or of the standard input if none is named, one after another; also
whether all could be read. -/
def contents (files : List Chars) : Action (List (Chars × Chars) × Bool) := do
  let mut all := []
  let mut whole := true
  for file in inputs files do
    match ← contentOf file with
    | .ok cs => all := (file, cs) :: all
    | .error why =>
      warnOf file why
      whole := false
  warnOfInput (inputs files)
  return (all.reverse, whole)

def linesOf (cs : Chars) : List Chars :=
  let runs := Text.runs '\n' cs
  if runs.getLast? = some [] then runs.dropLast else runs

/-- The lines of a text, with their ends. The last one may have none. -/
def wholeLines (cs : Chars) : List Chars :=
  let runs := Text.runs '\n' cs
  runs.dropLast.map (· ++ ['\n']) ++ (runs.getLast?.filter (· ≠ [])).toList

def padded (width : Nat) (cs : Chars) : Chars :=
  List.replicate (width - cs.length) ' ' ++ cs

end ImportResolver.Tool

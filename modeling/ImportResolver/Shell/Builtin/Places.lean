import ImportResolver.FileSystem.Permission
import ImportResolver.Shell.Builtin.Values
import ImportResolver.Shell.Grammar
import ImportResolver.Shell.Names
/- Commands of the shell about directories and the names of commands. -/
namespace ImportResolver.Shell.Builtin

open Shell.Action

/-- A path without dots, and without names that two dots take back. Two slashes in front stay. -/
def simplified (cs : Chars) : Chars :=
  let names := (Text.runs '/' cs).foldl
    (fun (acc : List Chars) name =>
      if name = [] || name = ['.'] then acc
      else if name = ['.', '.'] then acc.tail
      else name :: acc) []
  let lead := match cs with
    | '/' :: '/' :: c :: _ => if c = '/' then ['/'] else ['/', '/']
    | ['/', '/'] => ['/', '/']
    | _ => ['/']
  lead ++ Text.joinRuns '/' names.reverse

def physical : Action Chars := do return charsOf (FileSystem.Location.path (← fileSystem).cwd).text

def logical : Action Chars := do
  match (← process).calledDirectory with
  | some cs => return cs
  | none => physical

def directoryAt? (cs : Chars) : Action (Option FileSystem.Location) := do
  let fs ← fileSystem
  match fs.locate (pathOf cs) true with
  | .error _ => return none
  | .ok loc => return if (fs.tree.get? loc).any fun n => n.isDirectory then some loc else none

def enter (destination : Chars) (follow : Bool) : Action Bool := do
  let here ← logical
  let goal :=
    if destination.head? = some '/' then simplified destination
    else simplified (here ++ if here.getLast? = some '/' then destination else '/' :: destination)
  let fs ← fileSystem
  match ← directoryAt? (if follow then destination else goal) with
  | none => return false
  | some loc =>
    if !(fs.tree.get? loc).any FileSystem.Node.isExecutable then return false
    setFileSystem { fs with cwd := loc }
    setVariable "OLDPWD".toList here true
    let called ← if follow then physical else pure goal
    modifyProcess fun p => { p with calledDirectory := some called }
    setVariable "PWD".toList called true
    return true

def cd (args : List Chars) : Action Nat := do
  let (opts, args) ← letters "LP" args
  let p ← process
  let follow := opts.getLast? = some 'P'
  let destination :=
    match args with
    | [] => (p.value? "HOME".toList).getD []
    | ['-'] :: _ => (p.value? "OLDPWD".toList).getD []
    | d :: _ => d
  let first := destination.takeWhile (· ≠ '/')
  let searched := destination.head? ≠ some '/' && first ≠ ['.'] && first ≠ ['.', '.']
  let destination := if destination = [] then ['.'] else destination
  let listed :=
    if searched then (p.value? "CDPATH".toList).map (Text.runs ':') |>.getD [] else []
  let rec among : List Chars → Action (Option Chars)
    | [] => return none
    | dir :: dirs => do
      let path := if dir = [] then destination else dir ++ '/' :: destination
      if (← directoryAt? path).isSome then return some path else among dirs
  let found ← among listed
  if ← enter (found.getD destination) follow then
    if args.head? = some ['-'] || found.any (· ≠ destination) then printLine (← logical)
    return 0
  else fail ("can't cd to " ++ stringOf destination)

def pwd (args : List Chars) : Action Nat := do
  let (opts, _) ← letters "LP" args
  printLine (← if opts.getLast? = some 'P' then physical else logical)
  return 0

def octal (n : Nat) : Chars := Nat.toDigits 8 n

def rights (mask : Nat) : Chars :=
  (if mask &&& 4 = 0 then ['r'] else []) ++ (if mask &&& 2 = 0 then ['w'] else []) ++
    (if mask &&& 1 = 0 then ['x'] else [])

def changedMask? (mask : Nat) (cs : Chars) : Option Nat :=
  let clauses := Text.runs ',' cs
  let clauses := if clauses.getLast? = some [] then clauses.dropLast else clauses
  let before := 0o777 - mask
  let left := clauses.foldl
    (fun left? clause => left?.bind fun left =>
      if clause.contains 't' then none
      else (FileSystem.Permission.clause? 0 false (some before) left clause).map (· &&& 0o777))
    (some before)
  left.map (0o777 - ·)

def umask (args : List Chars) : Action Nat := do
  let (opts, args) ← letters "S" args
  let mask := (← process).creationMask
  match args with
  | [] =>
    if opts.contains 'S' then
      printLine ("u=".toList ++ rights (mask / 64) ++ ",g=".toList ++ rights (mask / 8) ++
        ",o=".toList ++ rights mask)
    else
      let digits := octal mask
      printLine (List.replicate (4 - digits.length) '0' ++ digits)
    return 0
  | m :: _ =>
    let new? : Option Nat :=
      if m.head?.any Char.isDigit then
        if m.all FileSystem.Permission.isOctal then some (Arithmetic.numeral 8 m &&& 0o777)
        else none
      else changedMask? mask m
    match new? with
    | some new =>
      modifyProcess fun p => { p with creationMask := new }
      return 0
    | none =>
      let what := if m.head?.any Char.isDigit then "Illegal number: " else "Illegal mode: "
      fail (what ++ stringOf m)

/-- The commands of the shell itself in which a fault does not end the shell. -/
def names : List String :=
  ["[", "alias", "bg", "cd", "chdir", "command", "echo", "false", "fg", "getopts", "hash", "jobs",
   "kill", "printf", "pwd", "read", "test", "true", "type", "ulimit", "umask", "unalias", "wait"]

/-- For a command of the shell itself, whether a fault in it ends the shell. -/
def special? (name : Chars) : Option Bool :=
  let name := String.ofList name
  if Reader.specials.contains name then some true
  else if names.contains name then some false
  else none

def remember (name : Chars) : Action Unit :=
  modifyProcess fun p =>
    { p with remembered := p.remembered.filter (· ≠ name) ++ [name] }

def describe (name : Chars) : Action Nat := do
  let p ← process
  let say (s : Chars) : Action Nat := do
    printLine (name ++ ' ' :: s)
    return 0
  if Reader.keywords.contains (String.ofList name) then say "is a shell keyword".toList
  else
    match p.aliases.find? (·.1 = name) with
    | some a => say ("is an alias for ".toList ++ a.2)
    | none =>
      if p.functions.any (·.1 = name) then say "is a shell function".toList
      else
        match special? name with
        | some true => say "is a special shell builtin".toList
        | some false => say "is a shell builtin".toList
        | none =>
          let unknown : Action Nat := do
            printLine (name ++ ": not found".toList)
            return 127
          if name.contains '/' then
            if ((← fileSystem).node? (pathOf name)).isSome then say ("is ".toList ++ name)
            else unknown
          else
            match ← findProgram name with
            | .ok path =>
              let before := p.remembered.contains name
              remember name
              say ((if before then "is a tracked alias for " else "is ").toList ++ path)
            | .error _ => unknown

def type (args : List Chars) : Action Nat := do
  let mut status := 0
  for a in args do
    let s ← describe a
    if s ≠ 0 then status := s
  return status

def locate (name : Chars) : Action Nat := do
  let p ← process
  if Reader.keywords.contains (String.ofList name) then
    printLine name
    return 0
  match p.aliases.find? (·.1 = name) with
  | some a =>
    printLine ("alias ".toList ++ name ++ ['='] ++ quoted a.2)
    return 0
  | none =>
    if p.functions.any (·.1 = name) || (special? name).isSome then
      printLine name
      return 0
    else if name.contains '/' then
      if ((← fileSystem).node? (pathOf name)).isSome then
        printLine name
        return 0
      else return 127
    else
      match ← findProgram name with
      | .ok path =>
        remember name
        printLine path
        return 0
      | .error _ => return 127

def command (args : List Chars) : Action Nat := do
  let (opts, args) ← letters "pvV" args
  match args with
  | [] => return 0
  | name :: _ => if opts.contains 'V' then describe name else locate name

def hash (args : List Chars) : Action Nat := do
  let (opts, args) ← letters "r" args
  if opts.contains 'r' then
    modifyProcess fun p => { p with remembered := [] }
    return 0
  if args.isEmpty then
    let known := (← process).remembered.mergeSort fun a b =>
      decide (Process.bucket 31 a ≤ Process.bucket 31 b)
    known.forM fun name => do
      match ← findProgram name with
      | .ok path => printLine path
      | .error _ => pure ()
  let mut status := 0
  for name in args do
    let p ← process
    if p.functions.any (·.1 = name) || (special? name).isSome then pure ()
    else
      match ← findProgram name with
      | .ok _ => remember name
      | .error _ =>
        complain (name ++ ": not found".toList)
        status := 1
  return status

end ImportResolver.Shell.Builtin

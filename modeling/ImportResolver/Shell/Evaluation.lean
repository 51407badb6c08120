import ImportResolver.Shell.Builtin.Signals
import ImportResolver.Shell.Condition
import ImportResolver.Shell.Format
import ImportResolver.Shell.Grammar
import ImportResolver.Shell.Redirect
/- Carrying out commands. -/
namespace ImportResolver.Shell

namespace Builtin

open Shell.Action

def condition (args : List Chars) : Action Nat := do
  match Condition.holds (← Condition.scene) args with
  | .ok true => return 0
  | .ok false => return 1
  | .error message => fail message

def echo (args : List Chars) : Action Nat := do
  let _ ← output (if (← process).plainEcho then plainEchoed true false args else echoed args)
  return 0

def printf (args : List Chars) : Action Nat := do
  let (_, args) ← letters "" args
  match args with
  | [] => fail "usage: printf format [arg ...]"
  | format :: args =>
    let (text, status, warnings) := formatted format args
    let _ ← output text
    warnings.forM complain
    return status

def exec (go : Runner) (args : List Chars) : Action Nat := do
  match args with
  | [] => return 0
  | name :: _ =>
    let path ← findProgram name
    let stopped (status : Nat) (why : String) : Action Nat := do
      complain (name ++ ": ".toList ++ why.toList)
      setStatus status
      throw .exit
    match path with
    | .ok path =>
      go (.program (pathOf path) args)
      throw .exit
    | .error .notFound => stopped 127 "not found"
    | .error .denied => stopped 126 "Permission denied"

/-- Carries out a command of the shell itself; none if there is no such command. -/
def run? (go : Runner) (how : Manner) (name : String) (args : List Chars) : Option (Action Nat) :=
  match name with
  | ":" => some (return 0)
  | "true" => some (return 0)
  | "false" => some (return 1)
  | "." => some (source go args)
  | "[" =>
    some (if (args.getLast?.bind List.head?) = some ']' then condition args.dropLast
      else fail "missing ]")
  | "test" => some (condition args)
  | "alias" => some (abbreviate args)
  | "bg" => some (resume args)
  | "break" => some (leaveLoops .breakLoop args)
  | "cd" => some (cd args)
  | "chdir" => some (cd args)
  | "command" => some (command args)
  | "continue" => some (leaveLoops .continueLoop args)
  | "echo" => some (echo args)
  | "eval" => some (eval go how args)
  | "exec" => some (exec go args)
  | "exit" => some (exit args)
  | "export" => some (export_ args)
  | "fg" => some (resume args)
  | "getopts" => some (getopts args)
  | "hash" => some (hash args)
  | "jobs" => some (jobs args)
  | "kill" => some (kill args)
  | "local" => some (local_ args)
  | "printf" => some (printf args)
  | "pwd" => some (pwd args)
  | "read" => some (read args)
  | "readonly" => some (readonly_ args)
  | "return" => some (return_ args)
  | "set" => some (set args)
  | "shift" => some (shift args)
  | "times" => some (times args)
  | "trap" => some (trap args)
  | "type" => some (type args)
  | "ulimit" => some (ulimit args)
  | "umask" => some (umask args)
  | "unalias" => some (unalias args)
  | "unset" => some (unset args)
  | "wait" => some (wait args)
  | _ => none

end Builtin

namespace Action

/-- Lets a loop be left or gone on with from inside `body`; false if it is left. -/
def inLoop (body : Action Unit) : Action Bool := do
  match ← outcome body with
  | .ok _ => return true
  | .error (.continueLoop n) => if n ≤ 1 then return true else throw (.continueLoop (n - 1))
  | .error (.breakLoop n) => if n ≤ 1 then return false else throw (.breakLoop (n - 1))
  | .error stop => throw stop

def looping (body : Action Unit) : Action Unit := do
  modifyProcess fun p => { p with loops := p.loops + 1 }
  let r ← outcome body
  modifyProcess fun p => { p with loops := p.loops - 1 }
  match r with
  | .ok _ => return
  | .error stop => throw stop

def callLimit : Nat := 1000

def callFunction (go : Runner) (body : Command) (args : List Chars) (how : Manner) :
    Action Unit := do
  let before ← process
  if callLimit ≤ before.functionDepth then
    fail ("Maximum function recursion depth (" ++ toString callLimit ++ ") reached")
  modifyProcess fun p =>
    { p with
      arguments := args, loops := 0, functionDepth := p.functionDepth + 1
      optionIndex := 1, optionOffset := none }
  let r ← outcome (go (.command body { how with final := false }))
  modifyProcess fun p =>
    { p with
      arguments := before.arguments, loops := before.loops, functionDepth := before.functionDepth
      optionIndex := before.optionIndex, optionOffset := before.optionOffset }
  match r with
  | .ok _ => return
  | .error (.leave _) => return
  | .error stop => throw stop

/-- The first word that stands for something, with its fields, and the words after it. -/
def leadingFields : List Word → Action (List Chars × List Word)
  | [] => return ([], [])
  | w :: ws => do
    match ← expandFields capture w with
    | [] => leadingFields ws
    | fields => return (fields, ws)

def assigning : List String := ["export", "readonly", "local", "alias"]

/-- Expands a word; if assignments are looked for, one is not cut into fields. -/
def expandArgument (assignments : Bool) (w : Word) : Action (List Chars) := do
  match if assignments then Reader.assignment? w else none with
  | some (target, value) =>
    return [target ++ '=' :: (← expandText capture .assignment value)]
  | none => expandFields capture w

/-- A command as far as its first words say: all fields so far, those from the name on, and the
words that are left. -/
structure Leading where
  shown : List Chars
  fields : List Chars
  rest : List Word
  /-- Whether functions count. -/
  functions : Bool := true
  /-- Whether programs are looked for in the standard places. -/
  standard : Bool := false

/-- The fields from the second one on; more words are expanded if there is none. -/
def Leading.second (l : Leading) : Action (Option (List Chars × Leading)) := do
  match l.fields.drop 1 with
  | [] =>
    match ← leadingFields l.rest with
    | ([], _) => return none
    | (fields, rest) =>
      let l := { l with shown := l.shown ++ fields, fields := l.fields ++ fields, rest }
      return some (fields, l)
  | fields => return some (fields, l)

/-- Looks through `command` before another command's name; also says whether there was one. If it
asks for something else, the command stays as it is. -/
def Leading.beyond : Nat → Leading → Action (Leading × Bool)
  | 0, _ => throw .exhausted
  | n + 1, l => do
    let p ← process
    let isFunction := l.functions && p.functions.any (some ·.1 = l.fields.head?)
    if l.fields.head? ≠ some "command".toList || isFunction then return (l, false)
    /- The options of `command`, one field at a time. -/
    let rec options : Nat → Leading → Action (Option Leading × Leading)
      | 0, _ => throw .exhausted
      | n + 1, m => do
        match ← m.second with
        | none => return (none, m)
        | some (['-', '-'] :: _, m) =>
          match ← { m with fields := m.fields.drop 1 : Leading }.second with
          | none => return (none, m)
          | some (after, m) => return (some { m with fields := after }, m)
        | some (('-' :: c :: cs) :: after, m) =>
          if (c :: cs).all (· = 'p') then
            options n { m with fields := ('-' :: c :: cs) :: after, standard := true }
          else return (none, m)
        | some (after, m) => return (some { m with fields := after }, m)
    match ← options n l with
    | (some inner, _) => do
      let (inner, _) ← Leading.beyond n { inner with functions := false }
      return (inner, true)
    | (none, m) =>
      let all := m.shown.drop (l.shown.length - l.fields.length)
      return ({ m with fields := all, standard := l.standard }, false)

/-- The path by which programs are looked for where that is not to depend on variables. -/
def standardPath : Chars := "/usr/local/sbin:/usr/local/bin:/usr/sbin:/usr/bin:/sbin:/bin".toList

/-- Starts a program in a process of its own, or in the place of this one if that ends with it. -/
def external (go : Runner) (standard : Bool) (final : Bool) (name : Chars) (args : List Chars) :
    Action Unit := do
  let path ← if standard then pure standardPath else searchPath
  let run (path : Chars) : Action Unit := do
    let task := Task.program (pathOf path) (name :: args)
    if final && !(← process).asksForSignals then go task else runApart task
  if name.contains '/' then run name
  else
    match programIn (← fileSystem) path name with
    | .ok path =>
      Builtin.remember name
      run path
    | .error why =>
      let why := match why with
        | .notFound => ": not found"
        | .denied => ": Permission denied"
      complain (name ++ why.toList)
      setStatus 127

/-- Carries out a command with its words expanded and its descriptors in place. `ordinary` says
that a fault in it does not end the shell. -/
def invoke (go : Runner) (l : Leading) (how : Manner) (ordinary : Bool) (name : Chars)
    (args : List Chars) : Action Unit := do
  let function := ((← process).functions.find? (·.1 = name)).map (·.2)
  match if l.functions then function else none with
  | some body => callFunction go body args how
  | none =>
    match Builtin.run? go how (String.ofList name) args with
    | some builtin =>
      let outer := (← process).commandName
      modifyProcess fun p => { p with commandName := some name, isFull := false }
      let r ← outcome builtin
      match r with
      | .ok status =>
        let full := (← process).isFull
        if full then complain (name ++ ": I/O error".toList)
        setStatus (if full then status ||| 1 else status)
      | .error _ => pure ()
      modifyProcess fun p => { p with commandName := outer }
      match r with
      | .error .fault => if ordinary then return else throw .fault
      | .error stop => throw stop
      | .ok _ => return
    | none => external go l.standard how.final name args

/-- Gives variables their values. Answers with the assignments as texts. -/
def assignAll (exported : Bool) (local_ : Bool) :
    List (Chars × Word) → Action (List Chars)
  | [] => return []
  | (name, w) :: rest => do
    let value ← expandText capture .assignment w
    if local_ then localize name
    setVariable name value exported
    return (name ++ '=' :: value) :: (← assignAll exported local_ rest)

/-- Shows a command before it is carried out, if that was asked for, on the errors as they are
with the given descriptors. -/
def trace (descriptors : Descriptors) (words : List Chars) : Action Unit := do
  let p ← process
  if !p.isOn 'x' then return
  let lead := (p.value? "PS4".toList).getD []
  let script : Reading Command := Reader.list lead.length .script []
  let lead ←
    match (Reader.documentWord script (lead.length + 1) lead).run { rest := [] } with
    | .error _ => pure lead
    | .ok (w, _) =>
      modifyProcess fun p => { p with options := p.options.filter (· ≠ 'x') }
      let text ← expandText capture .document w
      modifyProcess fun q => { q with options := p.options }
      pure text
  let current := (← process).descriptors
  modifyProcess fun p => { p with descriptors }
  let _ ← write 2 (lead ++ (words.intersperse [' ']).flatten ++ ['\n'])
  modifyProcess fun p => { p with descriptors := current }

def simple (go : Runner) (how : Manner) (line : Nat) (assignments : List (Chars × Word))
    (words : List Word) (redirections : List Redirection) : Action Unit := do
  spend commandTime
  modifyProcess fun p => { p with line, substituted := 0 }
  let (fields, rest) ← leadingFields words
  let numbers := redirections.map Redirection.descriptor
  match fields with
  | [] =>
    let descriptors := (← process).descriptors
    let planned ← redirections.mapM plan
    keepingDescriptors numbers do
      if ← redirectAll true planned then
        trace descriptors (← assignAll false false assignments)
        setStatus (← process).substituted
      else setStatus 2
  | _ =>
    let (l, outside) ← Leading.beyond 1000 { shown := fields, fields, rest }
    let name := l.fields.headD []
    let isFunction := l.functions && (← process).functions.any (·.1 = name)
    let special? := if isFunction then none else Builtin.special? name
    let assigns := !isFunction && assigning.contains (String.ofList name)
    let more := (← l.rest.mapM (expandArgument assigns)).flatten
    let args := l.fields.drop 1 ++ more
    let shown := l.shown ++ more
    let persistent := special? = some true && !outside
    let replaces := name = "exec".toList && !isFunction
    let descriptors := (← process).descriptors
    let planned ← redirections.mapM plan
    let body : Action Unit := do
      if ← redirectAll true planned then
        if persistent then
          let assigned ← assignAll (replaces && !args.isEmpty) false assignments
          trace descriptors (assigned ++ shown)
          invoke go l how false name args
        else inScope do
          let assigned ← assignAll true true assignments
          trace descriptors (assigned ++ shown)
          invoke go l how true name args
      else
        setStatus 2
        if persistent then throw .fault
    if replaces || numbers.isEmpty then body else keepingDescriptors numbers body
  reap none

/-- Remembers the program that a command starts, where its name is plain. -/
def rememberProgram : Command → Action Unit
  | .simple _ _ (w :: _) _ => do
    match Word.plain? w with
    | some name =>
      let p ← process
      let known := p.functions.any (·.1 = name) || (Builtin.special? name).isSome
      if name.all Reader.isNameChar && !known then
        if (← findProgram name).isOk then Builtin.remember name
    | none => return
  | _ => return

/-- Starts commands side by side, each reading what the one before writes. Answers with their
processes. `input` is what the first one reads. -/
def startPipeline (how : Manner) (change : Process → Process) :
    Option Nat → List Command → Action (List Nat)
  | _, [] => return []
  | input, c :: cs => do
    rememberProgram c
    let (next, output) ←
      if cs.isEmpty then pure (none, none)
      else
        let (next, output) ← addPipe
        pure (some next, some output)
    let reading (p : Process) : Process :=
      match input with
      | some file => { p with descriptors := put 0 file p.descriptors }
      | none => p
    let writing (p : Process) : Process :=
      match output with
      | some file => { p with descriptors := put 1 file p.descriptors }
      | none => p
    let child ← spawn (fun p => writing (reading (change p)))
      (.command c { how with final := true })
    match next with
    | some file => hold file
    | none => pure ()
    match input with
    | some file => release file
    | none => pure ()
    return child :: (← startPipeline how change next cs)

/-- A process in the background does not heed what is typed to end the one in front. -/
def inBackground (p : Process) : Process := { p with deaf := 2 :: 3 :: p.deaf }

/-- Starts a command that is not waited for. There is nothing for it to read. -/
def background (c : Command) : Action Unit := do
  let planned ←
    match c with
    | .redirected line _ redirections => do
      modifyProcess fun p => { p with line }
      redirections.mapM plan
    | _ => pure []
  let input ← addFile { endpoint := .device .null, canRead := true, canWrite := false }
  hold input
  let alone (task : Task) : Action (List Nat) := do
    let child ← spawn
      (fun p => inBackground { p with descriptors := put 0 input p.descriptors }) task
    return [child]
  let children ←
    match c with
    | .pipeline cs => startPipeline {} inBackground (some input) cs
    | .redirected _ c _ => alone (.redirected planned c { final := true })
    | c => alone (.command c { final := true })
  release input
  let _ ← addJob children
  modifyProcess fun p => { p with lastBackground := children.getLast?, status := 0 }

def selectArm (subject : Chars) :
    List (List Word × Command) → Action (Option Command)
  | [] => return none
  | (patterns, body) :: arms => do
    let rec anyMatches : List Word → Action Bool
      | [] => return false
      | w :: ws => do
        if (← expandPattern capture w).matches? subject then return true
        else anyMatches ws
    if ← anyMatches patterns then return some body else selectArm subject arms

/-- Points descriptors elsewhere for a command that runs in the process itself, as the last thing
that it does. -/
def redirected (go : Runner) (planned : List Planned) (c : Command) (how : Manner) :
    Action Unit := do
  if ← redirectAll false planned then go (.command c how) else setStatus 2

def perform (go : Runner) (how : Manner) (c : Command) : Action Unit := do
  let status : Action Nat := return (← process).status
  let inner : Manner := { how with final := false }
  let asTest : Manner := { tested := true }
  match c with
  | .simple line assignments words redirections =>
    simple go how line assignments words redirections
  | .pipeline cs =>
    let members ← startPipeline how id none cs
    setStatus (← waitFor (← addJob members)).number
  | .negation c =>
    go (.command c asTest)
    setStatus (if (← status) = 0 then 1 else 0)
  | .both a b =>
    go (.command a asTest)
    if (← status) = 0 then go (.command b how)
  | .either a b =>
    go (.command a asTest)
    if (← status) ≠ 0 then go (.command b how)
  | .sequence [] => return
  | .sequence (c :: cs) =>
    let rec all (c : Command) : List Command → Action Unit
      | [] => go (.command c how)
      | d :: ds => do
        go (.command c inner)
        all d ds
    all c cs
  | .background c => background c
  | .subshell line c redirections =>
    modifyProcess fun p => { p with line }
    let planned ← redirections.mapM plan
    let task := Task.redirected planned c { how with final := true }
    if how.final && !(← process).asksForSignals then
      modifyProcess Process.withoutTraps
      go task
    else runApart task
  | .redirected line c redirections =>
    modifyProcess fun p => { p with line }
    let planned ← redirections.mapM plan
    keepingDescriptors (redirections.map Redirection.descriptor) do
      if ← redirectAll true planned then go (.command c inner) else setStatus 2
  | .conditional test yes no =>
    go (.command test asTest)
    if (← status) = 0 then go (.command yes how)
    else
      match no with
      | some c => go (.command c how)
      | none => setStatus 0
  | .loop negated test body =>
    looping do
      let rec goOn (last : Nat) : Nat → Action Nat
        | 0 => throw .exhausted
        | n + 1 => do
          let mut holds := false
          match ← outcome (go (.command test asTest)) with
          | .ok _ => holds := ((← process).status = 0) != negated
          | .error (.continueLoop k) =>
            if 1 < k then throw (.continueLoop (k - 1))
            return ← goOn last n
          | .error (.breakLoop k) =>
            if 1 < k then throw (.breakLoop (k - 1))
            return last
          | .error stop => throw stop
          if !holds then return last
          if ← inLoop (go (.command body inner)) then goOn (← process).status n
          else return (← process).status
      setStatus (← goOn 0 loopLimit)
  | .iteration line name words body =>
    modifyProcess fun p => { p with line }
    let values ←
      match words with
      | none => do pure (← process).arguments
      | some ws => do pure (← ws.mapM (expandFields capture)).flatten
    if values.isEmpty then setStatus 0
    looping do
      let rec each : List Chars → Action Unit
        | [] => return
        | v :: vs => do
          assign name v
          if ← inLoop (go (.command body inner)) then each vs
      each values
  | .selection line subject arms =>
    modifyProcess fun p => { p with line }
    let subject ← expandText capture .single subject
    match ← selectArm subject arms with
    | some (.sequence []) => setStatus 0
    | some c => go (.command c how)
    | none => setStatus 0
  | .function name body =>
    modifyProcess fun p =>
      { p with functions := (name, body) :: p.functions.filter (·.1 ≠ name) }
    setStatus 0

/-- Whether the failure of a command can end the shell, if it is not looked at. -/
def isCounted : Command → Bool
  | .simple .. => true
  | .pipeline _ => true
  | .subshell .. => true
  | _ => false

/-- Carries out a command in the process that runs. Signals are heeded before and after it. -/
def command (go : Runner) (c : Command) (how : Manner) : Action Unit := do
  if !(← process).isOn 'n' then
    runTraps go
    perform go how c
    runTraps go
    let p ← process
    if isCounted c && !how.tested && p.status ≠ 0 && p.isOn 'e' then throw .exit
  if how.final then throw .exit

end Action
end ImportResolver.Shell

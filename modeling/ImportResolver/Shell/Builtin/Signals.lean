import ImportResolver.Shell.Builtin.Places
/- Commands of the shell about signals and processes. -/
namespace ImportResolver.Shell.Builtin

open Shell.Action

/-- The signals whose names count from the first and from the last of the real-time ones. -/
def firstRealTime : Nat := 34

def countedFromLast : Nat := 50

def signalName (n : Nat) : Chars :=
  if n = 0 then "EXIT".toList
  else
    match Signal.name? n with
    | some name => name.toList
    | none =>
      if n < firstRealTime then decimal n
      else if n = firstRealTime then "RTMIN".toList
      else if n < countedFromLast then "RTMIN+".toList ++ decimal (n - firstRealTime)
      else if n < Signal.largest then "RTMAX-".toList ++ decimal (Signal.largest - n)
      else "RTMAX".toList

def numbered? (cs : Chars) : Option Nat :=
  if cs ≠ [] && cs.all Char.isDigit then
    let n := Arithmetic.numeral 10 cs
    if n ≤ Signal.largest then some n else none
  else none

/-- A signal by number or name; names begin with that of number `least`. -/
def signal? (least : Nat) (cs : Chars) : Option Nat :=
  match numbered? cs with
  | some n => some n
  | none =>
    let name := cs.map Char.toUpper
    (List.range (Signal.largest + 1)).find? fun n => least ≤ n && signalName n = name

def trap (args : List Chars) : Action Nat := do
  let (_, args) ← letters "" args
  match args with
  | [] =>
    ((← process).traps.mergeSort fun a b => decide (a.1 ≤ b.1)).forM fun (n, action) =>
      printLine ("trap -- ".toList ++ quoted action ++ ' ' :: signalName n)
    return 0
  | first :: rest =>
    let resets := rest.isEmpty || (numbered? first).isSome
    let action := if resets || first = ['-'] then none else some first
    let rec each : List Chars → Action Nat
      | [] => return 0
      | s :: more => do
        match signal? 0 s with
        | none =>
          let _ ← write 2 ("trap: ".toList ++ s ++ ": bad trap\n".toList)
          return 1
        | some n =>
          modifyProcess fun p =>
            let others := p.traps.filter (·.1 ≠ n)
            { p with
              traps :=
                match action with
                | some a => (n, a) :: others
                | none => others }
          each more
    each (if resets then args else rest)

def jobNamed (text : Option Chars) : Action Job := do
  let jobs := (← process).jobs
  let refuse (why : String) : Action Job := fail why
  let place (n : Nat) (why : String) : Action Job :=
    match jobs[n]? with
    | some j => return j
    | none => refuse why
  match text with
  | none => place 0 "No current job"
  | some ['%'] => place 0 "No current job"
  | some ['%', '+'] => place 0 "No current job"
  | some ['%', '%'] => place 0 "No current job"
  | some ['%', '-'] => place 1 "No previous job"
  | some ['%', '?'] =>
    match jobs with
    | [j] => return j
    | [] => refuse "No such job: %?"
    | _ => refuse "%?: ambiguous"
  | some text =>
    let digits := text.drop 1
    match if text.head? = some '%' && digits.all Char.isDigit then
        jobs.find? (·.number = Arithmetic.numeral 10 digits) else none with
    | some j => return j
    | none => refuse ("No such job: " ++ stringOf text)

def sendAll (n : Nat) (targets : List Chars) : Action Nat := do
  let mut status := 0
  for t in targets do
    let found ←
      match t with
      | '%' :: _ =>
        let _ ← jobNamed (some t)
        pure false
      | '-' :: cs =>
        let _ ← number cs
        pure false
      | cs =>
        let target ← number cs
        if target = 0 then pure (n = 0) else send n target
    if !found then
      complain "No such process\n".toList
      status := 1
  return status

def listSignals (args : List Chars) : Action Nat := do
  match args with
  | [] =>
    printLine ['0']
    (List.range Signal.largest).forM fun i => printLine (signalName (i + 1))
    return 0
  | a :: _ =>
    let n ← number a
    let n := if 128 < n then n - 128 else n
    if 0 < n && n ≤ Signal.largest then
      printLine (signalName n)
      return 0
    else fail ("invalid signal number or exit status: " ++ stringOf a)

def kill (args : List Chars) : Action Nat := do
  let usage : Action Nat :=
    fail "Usage: kill [-s sigspec | -signum | -sigspec] [pid | job]... or\nkill -l [exitstatus]"
  let named? : Option Nat :=
    match args with
    | ('-' :: name) :: _ => signal? 1 name
    | _ => none
  match args, named? with
  | [], _ => usage
  | _ :: targets, some n => if targets.isEmpty then usage else sendAll n targets
  | args, none =>
    let (opts, targets) ← optionsFrom "ls:".toList (args.length + 1) args
    let mut wanted := none
    for o in opts do
      if o.1 = 's' then
        match signal? 1 o.2 with
        | some n => wanted := some n
        | none => fail ("invalid signal number or name: " ++ stringOf o.2)
    if opts.any (·.1 = 'l') then
      if wanted.isSome && !targets.isEmpty then usage else listSignals targets
    else if targets.isEmpty then usage
    else sendAll (wanted.getD 15) targets

/-- Waits until something holds of the process, or a signal comes for which it asked; true unless
that was first. -/
def waitUntil (holds : Process → Bool) (watched : Option Nat) : Action Bool := do
  let rec more : Nat → Action Bool
    | 0 => throw .exhausted
    | n + 1 => do
      reap watched
      if holds (← process) then return true
      if ← interrupted then return false
      await (.child none) true
      more n
  more loopLimit

def forget (p : Job → Bool) : Action Unit :=
  modifyProcess fun q =>
    { q with jobs := q.jobs.map fun j => if p j then { j with waited := true } else j }

def wait (args : List Chars) : Action Nat := do
  let (_, args) ← letters "" args
  let interruption : Action Nat := return 128 + (← pending).getLast?.getD 0
  if args.isEmpty then
    let all ← waitUntil (fun p => p.jobs.all Job.isDone) none
    forget Job.isDone
    return ← if all then pure 0 else interruption
  let rec each (status : Nat) : List Chars → Action Nat
    | [] => return status
    | a :: rest => do
      let job? ←
        match a with
        | '%' :: _ => do pure (some (← jobNamed (some a)))
        | _ => do
          let n ← number a
          pure ((← process).jobs.find? fun j => j.members.getLast?.any (·.1 = n))
      match job? with
      | none => each status rest
      | some j =>
        let current (p : Process) : Option Job := p.jobs.find? (·.number = j.number)
        if ← waitUntil (fun p => (current p).all Job.isDone) (some j.number) then
          forget (·.number = j.number)
          each (((current (← process)).map Job.status).getD (.code 0)).number rest
        else interruption
  each 127 args

def statusText (s : ExitStatus) : Chars :=
  match s with
  | .code 0 => "Done".toList
  | .code n => "Done(".toList ++ decimal n ++ [')']
  | .signal n => (Signal.description n).toList

def jobWidth : Nat := 33

def showJob (opts : Chars) (j : Job) : Action Unit := do
  let jobs := (← process).jobs
  let sign :=
    if jobs.head?.any (·.number = j.number) then '+'
    else if jobs[1]?.any (·.number = j.number) then '-'
    else ' '
  let first := decimal ((j.members.head?.map (·.1)).getD 0)
  if opts.contains 'p' then printLine first
  else
    let filled (cs : Chars) : Chars := cs ++ List.replicate (max 1 (jobWidth - cs.length)) ' '
    let lead := '[' :: decimal j.number ++ "] ".toList ++ [sign, ' ']
    let state := if j.isDone then statusText j.status else "Running".toList
    if opts.contains 'l' then
      let line := filled (lead ++ first ++ ' ' :: state)
      let others := j.members.tail.map fun m =>
        let number := List.replicate lead.length ' ' ++ decimal m.1 ++ [' ']
        " |\n".toList ++ filled number
      printLine (line ++ others.flatten)
    else
      printLine (filled (lead ++ state) ++ (j.members.tail.map fun _ => " | ".toList).flatten)
    if j.isDone then dropJob j.number

def jobs (args : List Chars) : Action Nat := do
  let (opts, args) ← letters "lp" args
  if args.isEmpty then
    reap none
    (← process).jobs.forM (showJob opts)
  else args.forM fun a => do showJob opts (← jobNamed (some a))
  return 0

/-- Refuses to go on with a job, since there is nothing on which jobs could be controlled. -/
def resume (args : List Chars) : Action Nat := do
  let (_, args) ← letters "" args
  let _ ← jobNamed args.head?
  let name := (args.head?.map stringOf).getD "(null)"
  fail ("job " ++ name ++ " not created under job control")

def times (_ : List Chars) : Action Nat := do
  printLine "0m0.000000s 0m0.000000s".toList
  printLine "0m0.000000s 0m0.000000s".toList
  return 0

/-- A limit on what a process uses. -/
structure Limit where
  letter : Char
  name : String
  /-- None stands for no limit. -/
  soft : Option Nat := none
  hard : Option Nat := none

def limits : List Limit :=
  [⟨'t', "time(seconds)", none, none⟩, ⟨'f', "file(blocks)", none, none⟩,
   ⟨'d', "data(kbytes)", none, none⟩, ⟨'s', "stack(kbytes)", some 8192, none⟩,
   ⟨'c', "coredump(blocks)", some 0, none⟩, ⟨'m', "memory(kbytes)", none, none⟩,
   ⟨'l', "locked memory(kbytes)", some 8192, some 8192⟩,
   ⟨'p', "process", none, none⟩, ⟨'n', "nofiles", some 20000, some 20000⟩,
   ⟨'v', "vmemory(kbytes)", none, none⟩, ⟨'w', "locks", none, none⟩,
   ⟨'r', "rtprio", some 0, some 0⟩]

def ulimit (args : List Chars) : Action Nat := do
  let (opts, args) ← letters "HSatfdscmlpnvwr" args
  let how := (opts.filter fun c => c = 'H' || c = 'S').getLast?
  let all := opts.contains 'a'
  let letter := ((opts.filter fun c => !"HSa".toList.contains c).getLast?).getD 'f'
  let changed := (← process).limits
  let now (l : Limit) : Limit :=
    match changed.find? (·.1 = l.letter) with
    | some (_, soft, hard) => { l with soft, hard }
    | none => l
  let shown (l : Limit) : Chars :=
    match if how = some 'H' then l.hard else l.soft with
    | some n => decimal n
    | none => "unlimited".toList
  match args with
  | [] =>
    if all then
      limits.forM fun l =>
        let name := l.name.toList
        printLine (name ++ List.replicate (20 - name.length) ' ' ++ ' ' :: shown (now l))
    else (limits.filter (·.letter = letter)).forM fun l => printLine (shown (now l))
    return 0
  | value :: more =>
    if all || !more.isEmpty then fail "too many arguments"
    if value ≠ "unlimited".toList && !value.all Char.isDigit then fail "bad number"
    let new := if value = "unlimited".toList then none else some (Arithmetic.numeral 10 value)
    for l in limits.filter (·.letter = letter) do
      let l := now l
      let hard := if how = some 'S' then l.hard else new
      let soft := if how = some 'H' then l.soft else new
      let exceeds :=
        match soft, hard with
        | none, some _ => true
        | some s, some h => h < s
        | _, none => false
      if exceeds then fail "error setting limit: Invalid argument"
      modifyProcess fun p =>
        { p with
          limits := (letter, soft, hard) :: p.limits.filter fun e => e.1 ≠ letter }
    return 0

end ImportResolver.Shell.Builtin

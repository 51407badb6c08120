import ImportResolver.Shell.Variables
/- Processes that a process starts, waits for and sends signals to. -/
namespace ImportResolver.Shell

namespace Job

def isDone (j : Job) : Bool := j.members.all (·.2.isSome)

def status (j : Job) : ExitStatus := (j.members.getLast?.bind (·.2)).getD (.code 0)

end Job

namespace Process

/-- What a child knows of what its parent asked for at signals: what is ignored stays ignored. -/
def withoutTraps (p : Process) : Process := { p with traps := p.traps.filter (·.2.isEmpty) }

def asksForSignals (p : Process) : Bool := p.traps.any (!·.2.isEmpty)

end Process

namespace Action

/-- A child that begins as a copy of the process, but for `change`. -/
def spawn (change : Process → Process) (task : Task) : Action Nat := do
  let number ← freshNumber
  charge startTime
  modify fun m =>
    let p := m.process
    let child : Process :=
      { p.withoutTraps with
        number, parent := p.number, directory := m.fs.cwd, held := [], jobs := []
        clock := p.clock + startTime, resumed := none, expected := []
        outgoing := [], outgoingSize := 0 }
    { m with newborn := m.newborn ++ [(change child, task)] }
  rouse
  return number

/-- Tells of a signal that ended a process, but for those that end many. -/
def report (status : ExitStatus) : Action Unit := do
  match status with
  | .signal n =>
    if n ≠ 2 && n ≠ 13 then
      let _ ← write 2 ((Signal.description n).toList ++ ['\n'])
  | .code _ => return

def takeEnded : Action (List Ended) := do
  let m ← get
  if m.ended.isEmpty then return []
  let (mine, others) := m.ended.partition (·.parent = m.process.number)
  set { m with ended := others }
  return mine.mergeSort fun a b => decide (a.number ≤ b.number)

/-- Takes note of children that ended, and tells of signals that ended those of one job. -/
def reap (watched : Option Nat) : Action Unit := do
  (← takeEnded).forM fun e => do
    let member (j : Job) : Bool := j.members.any (·.1 = e.number)
    modifyProcess fun p =>
      { p with
        jobs := p.jobs.map fun j =>
          if member j then
            { j with
              members := j.members.map fun m =>
                if m.1 = e.number then (m.1, some e.status) else m }
          else j }
    if (← process).jobs.any fun j => some j.number = watched && member j then report e.status

def job? (number : Nat) : Action (Option Job) := do
  return (← process).jobs.find? (·.number = number)

def dropJob (number : Nat) : Action Unit :=
  modifyProcess fun p => { p with jobs := p.jobs.filter (·.number ≠ number) }

/-- Makes a job of children. It takes the first place that is free, or whose job is done and of
no interest any more. -/
def addJob (members : List Nat) : Action Nat := do
  let p ← process
  let forgotten (j : Job) : Bool := j.isDone && j.waited
  let isFree (n : Nat) : Bool := p.jobs.all fun j => j.number ≠ n || forgotten j
  let number := ((List.range (p.jobs.length + 1)).find? fun n => isFree (n + 1)).getD 0 + 1
  modifyProcess fun p =>
    { p with
      jobs := ⟨number, members.map (·, none), false⟩ :: p.jobs.filter (·.number ≠ number) }
  return number

def waitFor (number : Nat) : Action ExitStatus := do
  iterate loopLimit do
    reap (some number)
    if (← job? number).all Job.isDone then return false
    await (.child none) false
    return true
  let status := ((← job? number).map Job.status).getD (.code 0)
  dropJob number
  return status

def runApart (task : Task) : Action Unit := do
  let child ← spawn id task
  let status ← waitFor (← addJob [child])
  setStatus status.number

def waitForChild (number : Nat) (deadline : Option Nat) : Action (Option ExitStatus) := do
  let rec more : Nat → Action (Option ExitStatus)
    | 0 => throw .exhausted
    | n + 1 => do
      match (← takeEnded).find? (·.number = number) with
      | some e => return some e.status
      | none =>
        if deadline.any (· ≤ (← process).clock) then return none
        await (.child deadline) false
        more n
  more loopLimit

def drain (file : Nat) : Action Chars := do
  let opened := (← get).files.find? fun f => f.1 = file
  match opened.map fun f => f.2.endpoint with
  | some (Endpoint.buffer number) =>
    let rec more : Nat → List Chars → Action Chars
      | 0, _ => throw .exhausted
      | n + 1, acc => do
        if !(← get).canRead number then await (.input number) false
        let b ← buffer number
        if b.size = 0 then return acc.reverse.flatten
        setBuffer number { b with front := [], back := [], size := 0 }
        rouse
        more n (b.content :: acc)
    more loopLimit []
  | _ => return []

/-- What a command writes to its standard output, without the line ends at the end. -/
def capture (c : Command) : Action Chars := do
  match c with
  | .sequence [] => return []
  | c =>
    let (input, output) ← addPipe
    let child ← spawn (fun p => { p with descriptors := put 1 output p.descriptors })
      (.command c { final := true })
    let job ← addJob [child]
    hold input
    let content ← drain input
    release input
    let status ← waitFor job
    modifyProcess fun p => { p with substituted := status.number }
    let kept := content.filter fun c => c.toNat ≠ 0
    return (kept.reverse.dropWhile (· = '\n')).reverse

/- Signals. -/

/-- Whether a number is that of a process, be it one that ended and of which its parent does not
know yet. -/
def isKnown (number : Nat) : Action Bool := do
  let m ← get
  return number = 1 || m.alive.any (·.number = number) || m.ended.any (·.number = number)

def modifyOther (number : Nat) (f : Process → Process) : Action Unit :=
  modify fun m =>
    let changed (p : Process) : Process := if p.number = number then f p else p
    { m with
      others := m.others.map changed, newborn := m.newborn.map fun e => (changed e.1, e.2) }

/-- Sends a signal to a process; false if there is none of that number. -/
def send (signal target : Nat) : Action Bool := do
  if !(← isKnown target) then return false
  if signal = 0 || target = 1 then return true
  let m ← get
  let entry := (target, signal)
  if !m.signals.contains entry then set { m with signals := entry :: m.signals }
  let stop (stopped : Bool) : Action Unit :=
    if target = m.process.number then modifyProcess fun p => { p with stopped }
    else modifyOther target fun p => { p with stopped }
  match m.alive.find? (·.number = target) with
  | none => pure ()
  | some p =>
    match p.response signal with
    | .stops => stop true
    | .continues => stop false
    | _ => pure ()
  rouse
  perish
  if (← process).stopped then await .turn false
  return true

/-- The actions for the signals that came, each signal once, in order of their numbers. -/
def takeHandled : Action (List (Nat × Chars)) := do
  let m ← get
  if m.signals.isEmpty then return []
  let p := m.process
  let mine := m.signals.filter (·.1 = p.number)
  let actions := (List.range (Signal.largest + 1)).filterMap fun n =>
    if mine.any (·.2 = n) then
      match p.response n with
      | .handled action => some (n, action)
      | _ => none
    else none
  return actions

/-- Carries out what was asked for when signals come, for those that came. The status stays as it
is, unless a function is left with another. While it is seen to some signals, only others that come
are heeded. -/
def runTraps (go : Runner) : Action Unit := do
  let outer := (← process).expected
  iterate loopLimit do
    let came ← takeHandled
    match came with
    | [] => return false
    | (signal, action) :: later =>
      if came.all fun e => outer.contains e.1 then return false
      let p ← process
      modify fun m => { m with signals := m.signals.filter (· ≠ (p.number, signal)) }
      let inner := p.resumed
      modifyProcess fun p =>
        { p with
          resumed := some (p.resumed.getD p.status)
          expected := later.map (·.1) }
      let r ← outcome (go (.source action false {}))
      let restore : Action Unit :=
        modifyProcess fun q =>
          { q with resumed := inner, expected := outer.filter (· ≠ signal) }
      match r with
      | .ok _ =>
        setStatus p.status
        restore
        return true
      | .error (.leave true) =>
        restore
        throw (.leave true)
      | .error stop =>
        match stop with
        | .leave _ | .breakLoop _ | .continueLoop _ =>
          setStatus p.status
          restore
        | _ => pure ()
        throw stop

/-- Ends the process: what was asked for at its end is carried out first. -/
def conclude (go : Runner) (r : Except Stop Unit) : Action ExitStatus := do
  match r with
  | .error (.killed n) => return .signal n
  | .error (.replaced status) => return status
  | _ =>
    let p ← process
    let status := p.status
    match p.traps.find? (·.1 = 0) with
    | none => return .code (status % 256)
    | some (_, action) =>
      modifyProcess fun p =>
        { p with traps := p.traps.filter (·.1 ≠ 0), resumed := some status }
      match ← outcome (go (.source action false {})) with
      | .ok _ => return .code (status % 256)
      | .error (.killed n) => return .signal n
      | .error (.replaced status) => return status
      | .error .fault => return .code ((← process).status % 256)
      | .error .exit => return .code ((← process).status % 256)
      | .error _ => return .code (status % 256)

end Action
end ImportResolver.Shell

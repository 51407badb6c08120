import ImportResolver.Shell.Jobs
/- Letting processes go on one after another, each at its time. -/
namespace ImportResolver.Shell

/-- What a process still has to do, until its status is known. -/
abbrev Work := Thread Machine Pause (Except Stop ExitStatus)

structure Waiting where
  number : Nat
  why : Pause
  resume : Machine → Work

/-- All processes, as far as the work of each has come. -/
structure Schedule where
  /-- The processes that wait, those that went on least lately first. -/
  waiting : List Waiting := []
  /-- The time up to which things have happened. -/
  now : Nat := 0
  /-- The process on whose end all depends, and how it ended. -/
  main : Nat
  ending : Option ExitStatus := none
  /-- When the main process had ended and nobody could write to the outputs any more. -/
  closedAt : Option Nat := none

namespace Machine

def idle : Process :=
  { number := 0, shown := 0, name := [], arguments := [], bindings := [], descriptors := [] }

def ready? (m : Machine) (now : Nat) (p : Process) (why : Pause) : Option Nat :=
  let soon := max now p.clock
  let felt := (m.signals.filter (·.1 = p.number)).map fun s => p.response s.2
  let isEnd : Process.Response → Bool
    | .ends => true
    | _ => false
  let isHandled : Process.Response → Bool
    | .handled _ => true
    | _ => false
  if p.stopped then
    if m.signals.contains (p.number, 9) then some soon else none
  else if felt.any isEnd || why.heeds && felt.any isHandled then some soon
  else
    match why.event with
    | .turn => some p.clock
    | .time t => some (max t p.clock)
    | .input b => if m.canRead b then some soon else none
    | .room b size => if m.canWrite b size then some soon else none
    | .opened b isWriter times =>
      let now := if isWriter then (m.buffer b).writers else (m.buffer b).readers
      if times < now then some soon else none
    | .child deadline =>
      if m.ended.any (·.parent = p.number) then some soon else deadline.map (max p.clock)

/-- Takes note of the end of the process that ran. Its parent gets to know if it is still there;
its own children belong to nobody then. -/
def conclude (m : Machine) (status : ExitStatus) : Machine :=
  let p := m.process
  let orphaned (q : Process) : Process := if q.parent = p.number then { q with parent := 1 } else q
  let parent? := m.others.find? (·.number = p.parent)
  let asks := parent?.any fun q => q.response 17 matches .handled _
  { m with
    process := idle
    others := m.others.map orphaned
    newborn := m.newborn.map fun e => (orphaned e.1, e.2)
    ended := (m.ended.filter (·.parent ≠ p.number)) ++
      (if parent?.isSome then [⟨p.number, p.parent, status⟩] else [])
    signals := (if asks && !m.signals.contains (p.parent, 17) then [(p.parent, 17)] else []) ++
      m.signals.filter (·.1 ≠ p.number) }

end Machine

namespace Schedule

/-- The one that can go on first, with its time, and the time of the one after it. -/
def earliest {α : Type} : List (Nat × α) → Option ((Nat × α) × Option Nat)
  | [] => none
  | (t, a) :: rest =>
    match earliest rest with
    | none => some ((t, a), none)
    | some ((u, b), v) =>
      if t ≤ u then some ((t, a), some u)
      else some ((u, b), some (match v with
        | some v => min t v
        | none => t))

/-- Whether what the outputs take is known: the main process ended, and nobody can write to them
any more. -/
def isOver (s : Schedule) (m : Machine) : Bool :=
  s.ending.isSome && !m.holds 1 OpenFile.canWrite && !m.holds 2 OpenFile.canWrite

def patience : Nat := 3000

def settle (s : Schedule) (work : Work) : Schedule × Machine :=
  match work with
  | .done r m =>
    let status : ExitStatus :=
      match r with
      | .ok status => status
      | .error (.killed n) => .signal n
      | .error (.replaced status) => status
      | .error _ => .code 2
    let p := m.process
    ({ s with
        now := max s.now p.clock
        ending := if p.number = s.main then some status else s.ending },
      m.conclude status)
  | .pause why m resume =>
    let p := { m.process with directory := m.fs.cwd }
    ({ s with
        now := max s.now p.clock
        waiting := s.waiting ++ [⟨p.number, why, resume⟩] },
      { m with process := Machine.idle, others := p :: m.others })

def enter (m : Machine) (p : Process) (time : Nat) (horizon : Option Nat) : Machine :=
  { m with
    process := { p with clock := max time p.clock }
    others := m.others.filter (·.number ≠ p.number)
    newborn := m.newborn.filter (·.1.number ≠ p.number)
    fs := { m.fs with cwd := p.directory }
    horizon }

def run (begin_ : Task → Machine → Work) : Nat → Schedule → Machine → Schedule × Machine
  | 0, s, m => (s, m)
  | n + 1, s, m =>
    let s := if s.closedAt.isNone && s.isOver m then { s with closedAt := some s.now } else s
    if s.closedAt.isSome && m.others.isEmpty && m.newborn.isEmpty then (s, m)
    else
      let paused := s.waiting.filterMap fun w => do
        let p ← m.others.find? (·.number = w.number)
        let t ← m.ready? s.now p w.why
        return (t, p, w.resume)
      let born := (m.newborn.filter fun e => !e.1.stopped).map fun (p, task) =>
        (p.clock, p, begin_ task)
      match earliest (paused ++ born) with
      | none => (s, m)
      | some ((time, p, resume), horizon) =>
        if s.closedAt.any (· + patience < time) then (s, m)
        else
          let s := { s with waiting := s.waiting.filter (·.number ≠ p.number) }
          let (s, m) := s.settle (resume (enter m p time horizon))
          run begin_ n s m

end Schedule
end ImportResolver.Shell

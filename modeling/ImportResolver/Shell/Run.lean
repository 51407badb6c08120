import ImportResolver.Host
import ImportResolver.Shell.Evaluation
import ImportResolver.Shell.Launch
import ImportResolver.Shell.Schedule
/- Running a program of a snapshot on its file tree. This stands in for the operating system where
`Main` has nothing but a snapshot; it knows scripts alone, and it gives up what takes too long. What
is said of a run holds for every other way of starting programs too. -/
namespace ImportResolver.Shell

def perform : Nat → Runner
  | 0, _ => throw .exhausted
  | n + 1, .command c how => Action.command (perform n) c how
  | n + 1, .redirected planned c how => Action.redirected (perform n) planned c how
  | n + 1, .source text isFile how => Action.runText (perform n) text isFile how
  | n + 1, .program path arguments => Action.program (perform n) path arguments
  | n + 1, .named shown name arguments => do
    Action.setStatus (← Tool.become (perform n) shown name arguments)
    throw .exit

def depthLimit : Nat := 30000

/-- All that a process does for a task. -/
def lifetime (task : Task) : Action ExitStatus := do
  let go := perform depthLimit
  Action.perish
  Action.conclude go (← Action.outcome (go task))

/-- The machine on which a program starts: nothing to read, and one buffer for each of its two
outputs. -/
def machine (fs : FileSystem) (known : List (String × String)) : Machine where
  fs := fs
  files :=
    [(1, { endpoint := .device .null, canRead := true, canWrite := false }),
     (2, { endpoint := .buffer 1, canRead := false, canWrite := true }),
     (3, { endpoint := .buffer 2, canRead := false, canWrite := true })]
  buffers := [(1, {}), (2, {})]
  process :=
    { number := 100
      shown := 100
      name := []
      arguments := []
      bindings := known.map fun v =>
        (charsOf v.1, { value := some (charsOf v.2), exported := true })
      directory := fs.cwd
      descriptors := [(0, 1), (1, 2), (2, 3)] }

def turnLimit : Nat := 10000000

/-- Runs the file at a path with arguments; a fault is one of starting it. -/
def run (fs : FileSystem) (known : List (String × String)) (path : Path)
    (arguments : List String) : Except Fault Finished := do
  let name := charsOf path.text
  let (tool, arguments) ←
    Image.ofPath fs Image.depth name (name :: arguments.map charsOf)
  let m := machine fs known
  let work := (Action.runTool (perform depthLimit) tool arguments).run m
  let (s, m) := Schedule.settle { main := m.process.number } work
  let (s, m) := s.run (fun task => (lifetime task).run) turnLimit m
  let output := ((m.buffers.find? (·.1 = 1)).map (·.2)).getD {}
  -- Work that has not come to an end by now is given up, as if it had failed.
  return ⟨s.ending.getD (.code 2), charBytes output.content, m.fs.tree⟩

end ImportResolver.Shell

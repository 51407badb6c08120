import ImportResolver.ExitStatus
import ImportResolver.FileSystem.Change
import ImportResolver.Shell.Syntax
/- Processes, their open files and the tree that they work on. Their work may pause: it goes on later,
with the state as it is then. -/
namespace ImportResolver.Shell

inductive Thread (σ ρ α : Type) where
  | done (a : α) (s : σ)
  | pause (why : ρ) (s : σ) (resume : σ → Thread σ ρ α)

def Thread.bind {σ ρ α β : Type} (t : Thread σ ρ α) (k : α → σ → Thread σ ρ β) : Thread σ ρ β :=
  match t with
  | .done a s => k a s
  | .pause why s resume => .pause why s fun s => (resume s).bind k

def Routine (σ ρ α : Type) : Type := σ → Thread σ ρ α

namespace Routine

variable {σ ρ α : Type}

instance : Monad (Routine σ ρ) where
  pure a := fun s => .done a s
  bind x f := fun s => (x s).bind f

instance : MonadStateOf σ (Routine σ ρ) where
  get := fun s => .done s s
  set s := fun _ => .done () s
  modifyGet f := fun s => .done (f s).1 (f s).2

def pause (why : ρ) : Routine σ ρ Unit := fun s => .pause why s fun s => .done () s

theorem bind_assoc {β γ : Type} (t : Thread σ ρ α) (f : α → σ → Thread σ ρ β)
    (g : β → σ → Thread σ ρ γ) :
    (t.bind f).bind g = t.bind fun a s => (f a s).bind g := by
  induction t with
  | done a s => rfl
  | pause why s resume ih =>
    simp only [Thread.bind]
    congr 1
    funext s
    exact ih s

theorem bind_done (t : Thread σ ρ α) : t.bind Thread.done = t := by
  induction t with
  | done a s => rfl
  | pause why s resume ih =>
    simp only [Thread.bind]
    congr 1
    funext s
    exact ih s

instance : LawfulMonad (Routine σ ρ) :=
  LawfulMonad.mk' _ (fun x => funext fun s => bind_done (x s)) (fun _ _ => rfl)
    fun x f g => funext fun s => bind_assoc (x s) f g

end Routine
def decimal (n : Nat) : Chars := (toString n).toList

def byteChars (bytes : Bytes) : Chars := bytes.map fun b => Char.ofNat b.toNat

def charBytes (cs : Chars) : Bytes := cs.map fun c => UInt8.ofNat c.toNat

def charsOf (s : String) : Chars := byteChars (Text.Utf8.encode s)

def stringOf (cs : Chars) : String := Text.Utf8.decodeLossy (charBytes cs)

def pathOf (cs : Chars) : Path := ⟨stringOf cs⟩

/-- Bytes on their way: `front` is read next, `back` holds what came later, the last first. -/
structure Buffer where
  front : Chars := []
  back : List Chars := []
  size : Nat := 0
  /-- How many bytes it holds; without a limit, all that is written is taken away at once. -/
  limit : Option Nat := none
  /-- How often it was opened for reading, and how often for writing. -/
  readers : Nat := 0
  writers : Nat := 0

namespace Buffer

def write (b : Buffer) (cs : Chars) : Buffer :=
  { b with back := cs :: b.back, size := b.size + cs.length }

def content (b : Buffer) : Chars :=
  if b.back.isEmpty then b.front else b.front ++ b.back.reverse.flatten

def room (b : Buffer) (wanted : Nat) : Nat :=
  match b.limit with
  | none => wanted
  | some limit => min wanted (limit - b.size)

end Buffer

/-- What an open file leads to. -/
inductive Endpoint where
  | device (kind : FileSystem.Device)
  | buffer (number : Nat)
  | file (loc : FileSystem.Location)
  /-- A file that is in no directory any more. -/
  | detached (number : Nat)
  deriving DecidableEq

structure OpenFile where
  endpoint : Endpoint
  canRead : Bool
  canWrite : Bool
  appends : Bool := false
  position : Nat := 0

structure Variable where
  /-- A variable can be marked without having a value. -/
  value : Option Chars
  exported : Bool := false
  readOnly : Bool := false

inductive Kept where
  | variable (name : Chars) (v : Option Variable)
  | options (letters : List Char)

/-- Processes that were started together and are waited for together. -/
structure Job where
  /-- Its place in the list that users see. -/
  number : Nat
  members : List (Nat × Option ExitStatus)
  /-- Whether somebody was told how it ended. -/
  waited : Bool := false

/-- Numbers of descriptors, each with the number of an open file. -/
abbrev Descriptors := List (Nat × Nat)

structure Process where
  number : Nat
  parent : Nat := 1
  /-- The number of the process that leads those that get signals together. -/
  group : Nat := 0
  niceness : Int := 0
  /-- The number that the shell gives for itself; subshells give that of the shell around them. -/
  shown : Nat
  name : Chars
  arguments : List Chars
  bindings : List (Chars × Variable)
  functions : List (Chars × Command) := []
  aliases : List (Chars × Chars) := []
  /-- The letters of the options that are on. -/
  options : List Char := []
  status : Nat := 0
  /-- The status of the last command substitution in the command that is expanded. -/
  substituted : Nat := 0
  descriptors : Descriptors
  /-- Descriptors that were put aside and come back, the last ones first. -/
  aside : List Descriptors := []
  /-- Open files without a descriptor that anyone can name. -/
  held : List Nat := []
  /-- Actions by signal number; zero stands for the end of the shell. -/
  traps : List (Nat × Chars) := []
  /-- Signals that are ignored for good. -/
  deaf : List Nat := []
  /-- What variables and options were before functions made them their own. -/
  scopes : List (List Kept) := []
  loops : Nat := 0
  functionDepth : Nat := 0
  line : Nat := 0
  /-- How far the text was read. -/
  inputLine : Nat := 0
  documents : List (Nat × Word) := []
  nextDocument : Nat := 0
  lastBackground : Option Nat := none
  jobs : List Job := []
  creationMask : Nat := 0o022
  /-- Limits that were set: the one that counts, and the one up to which it can be set. -/
  limits : List (Char × Option Nat × Option Nat) := []
  /-- The argument at which reading of options goes on, counted from one. -/
  optionIndex : Nat := 1
  /-- Where it goes on in the argument before that. -/
  optionOffset : Option Nat := none
  /-- Programs that were looked up before. -/
  remembered : List Chars := []
  /-- Whether `echo` prints backslashes as they are. -/
  plainEcho : Bool := false
  /-- The command of the shell itself that is carried out. -/
  commandName : Option Chars := none
  /-- How the directory that it works in was called when it went there. -/
  calledDirectory : Option Chars := none
  /-- Whether something could not be written to its output. -/
  isFull : Bool := false
  /-- The directory that it works in while others run. -/
  directory : FileSystem.Location := []
  /-- How far its time has come, in microseconds. -/
  clock : Nat := 0
  stopped : Bool := false
  /-- The status that an end without a status of its own goes back to. -/
  resumed : Option Nat := none
  /-- Signals that came and that are seen to already, one after another. -/
  expected : List Nat := []
  /-- What is printed but was not written yet, the last first, and how much that is. -/
  outgoing : List Chars := []
  outgoingSize : Nat := 0

/-- A redirection with its target expanded. -/
structure Planned where
  descriptor : Nat
  direction : Direction
  target : Chars

structure Manner where
  /-- Whether its failure is looked at. -/
  tested : Bool := false
  /-- Whether the process ends with it. -/
  final : Bool := false

/-- Something to carry out in a process. -/
inductive Task where
  | command (c : Command) (how : Manner)
  /-- A command with descriptors of its own. -/
  | redirected (targets : List Planned) (c : Command) (how : Manner)
  /-- The commands in a text, perhaps that of a file. -/
  | source (text : Chars) (isFile : Bool) (how : Manner)
  /-- Puts a program with its arguments, its name among them, in the place of the process. -/
  | program (path : Path) (arguments : List Chars)
  /-- Puts the program of a name in the place of the process, on behalf of another program, which
  says `shown` of it if that cannot be done. -/
  | named (shown name : Chars) (arguments : List Chars)

/-- A process that ended and of which its parent does not know yet. -/
structure Ended where
  number : Nat
  parent : Nat
  status : ExitStatus

/-- What a process waits for. -/
inductive Event where
  /-- That others had their turn. -/
  | turn
  | time (t : Nat)
  /-- That a buffer can be read. -/
  | input (buffer : Nat)
  /-- That so many bytes can be written to a buffer. -/
  | room (buffer size : Nat)
  /-- That a buffer was opened more often than so many times, for reading or for writing. -/
  | opened (buffer : Nat) (isWriter : Bool) (times : Nat)
  /-- That a child ended, or a time has come. -/
  | child (deadline : Option Nat)
  deriving DecidableEq

/-- Why a process does not go on at once. -/
structure Pause where
  event : Event
  /-- Whether a signal for which the process asked lets it go on, too. -/
  heeds : Bool := false
  deriving DecidableEq

structure Machine where
  fs : FileSystem
  files : List (Nat × OpenFile) := []
  buffers : List (Nat × Buffer) := []
  /-- Contents of files that are in no directory any more. -/
  detached : List (Nat × Bytes) := []
  /-- When nodes changed last, in microseconds; nodes that are not listed are older. -/
  changed : List (FileSystem.Location × Int) := []
  /-- A number that no file, buffer or process has. -/
  fresh : Nat := 1000
  /-- The process that runs. -/
  process : Process
  others : List Process := []
  /-- Processes that have not begun, with what they are to do. -/
  newborn : List (Process × Task) := []
  ended : List Ended := []
  /-- Signals that wait, with the processes that they were sent to, the last one first. -/
  signals : List (Nat × Nat) := []
  /-- When another process could go on. -/
  horizon : Option Nat := none

namespace Machine

def alive (m : Machine) : List Process := m.process :: m.newborn.map (·.1) ++ m.others

end Machine

namespace Process

def openFiles (p : Process) : List Nat :=
  p.descriptors.map (·.2) ++ p.aside.flatMap (·.map (·.2)) ++ p.held

/-- What a signal does to a process. -/
inductive Response where
  | ignored
  | handled (action : Chars)
  | stops
  | continues
  | ends

def response (p : Process) (signal : Nat) : Response :=
  if signal = 9 then .ends
  else if signal = 19 then .stops
  else if signal = 18 then .continues
  else if p.deaf.contains signal then .ignored
  else
    match p.traps.find? (·.1 = signal) with
    | some (_, []) => .ignored
    | some (_, action) => .handled action
    | none =>
      if Signal.harmless.contains signal then .ignored
      else if Signal.stopping.contains signal then .stops
      else .ends

end Process

/-- Why the commands of a process do not go on. -/
inductive Stop where
  | exit
  /-- A fault that ends a shell that reads a script. -/
  | fault
  | killed (signal : Nat)
  | breakLoop (levels : Nat)
  | continueLoop (levels : Nat)
  /-- The end of a function or of a text that is read in place; `given` says that it came with a
  status. -/
  | leave (given : Bool)
  /-- The process ran another program in its place, which ended. -/
  | replaced (status : ExitStatus)
  | exhausted

abbrev Action (α : Type) := ExceptT Stop (Routine Machine Pause) α

abbrev Runner := Task → Action Unit

end ImportResolver.Shell

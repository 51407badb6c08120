/- How a process ends. -/
namespace ImportResolver

structure Signal where
  number : Nat
  name : String
  deriving DecidableEq

namespace Signal

def all : List Signal :=
  [⟨1, "HUP"⟩, ⟨2, "INT"⟩, ⟨3, "QUIT"⟩, ⟨4, "ILL"⟩, ⟨5, "TRAP"⟩, ⟨6, "ABRT"⟩, ⟨7, "BUS"⟩,
   ⟨8, "FPE"⟩, ⟨9, "KILL"⟩, ⟨10, "USR1"⟩, ⟨11, "SEGV"⟩, ⟨12, "USR2"⟩, ⟨13, "PIPE"⟩,
   ⟨14, "ALRM"⟩, ⟨15, "TERM"⟩, ⟨16, "STKFLT"⟩, ⟨17, "CHLD"⟩, ⟨18, "CONT"⟩, ⟨19, "STOP"⟩,
   ⟨20, "TSTP"⟩, ⟨21, "TTIN"⟩, ⟨22, "TTOU"⟩, ⟨23, "URG"⟩, ⟨24, "XCPU"⟩, ⟨25, "XFSZ"⟩,
   ⟨26, "VTALRM"⟩, ⟨27, "PROF"⟩, ⟨28, "WINCH"⟩, ⟨29, "IO"⟩, ⟨30, "PWR"⟩, ⟨31, "SYS"⟩]

def largest : Nat := 64

/-- Signals that a process survives if it does not ask for them. -/
def harmless : List Nat := [17, 18, 23, 28]

/-- Signals that stop a process which does not ask for them. -/
def stopping : List Nat := [19, 20, 21, 22]

def name? (n : Nat) : Option String := (all.find? (·.number = n)).map Signal.name

/-- What is said of a process that a signal ended. -/
def description (n : Nat) : String :=
  let texts : List String :=
    ["Hangup", "Interrupt", "Quit", "Illegal instruction", "Trace/breakpoint trap", "Aborted",
     "Bus error", "Floating point exception", "Killed", "User defined signal 1",
     "Segmentation fault", "User defined signal 2", "Broken pipe", "Alarm clock", "Terminated",
     "Stack fault", "Child exited", "Continued", "Stopped (signal)", "Stopped",
     "Stopped (tty input)", "Stopped (tty output)", "Urgent I/O condition",
     "CPU time limit exceeded", "File size limit exceeded", "Virtual timer expired",
     "Profiling timer expired", "Window changed", "I/O possible", "Power failure",
     "Bad system call"]
  texts.getD (n - 1) ("Real-time signal " ++ toString (n - 34))

end Signal

inductive ExitStatus where
  | code (n : Nat)
  | signal (n : Nat)
  deriving DecidableEq

namespace ExitStatus

def message : ExitStatus → String
  | .code n => "exit status: " ++ toString n
  | .signal n =>
    "signal: " ++ toString n ++
      match Signal.name? n with
      | some name => " (SIG" ++ name ++ ")"
      | none => ""

/-- The number that a shell gives for it. -/
def number : ExitStatus → Nat
  | .code n => n
  | .signal n => 128 + n

end ExitStatus
end ImportResolver

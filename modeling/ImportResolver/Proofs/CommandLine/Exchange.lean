import ImportResolver.Proofs.CommandLine.Arguments
/- Arguments with checking and writing exchanged ask for the same with the two exchanged. -/
namespace ImportResolver.CommandLine

/-- Checking and writing exchanged. -/
def Switch.exchanged : Switch → Switch
  | .check => .write
  | .write => .check
  | s => s

def Given.exchanged (g : Given) : Given := { g with switches := g.switches.map Switch.exchanged }

namespace Given

end Given

def ResolveRequest.exchanged (r : ResolveRequest) : ResolveRequest :=
  { r with write := r.check, check := r.write }

def Command.exchanged : Command → Command
  | .resolve r => .resolve r.exchanged
  | command => command

def Invocation.exchanged (i : Invocation) : Invocation :=
  { i with command := i.command.exchanged }

end ImportResolver.CommandLine

import ImportResolver.CommandLine.Arguments
import Mathlib.Tactic.SplitIfs
/- What arguments ask for. No setting that is read is empty, and every explanation can be asked for
with the options of a request to resolve files. -/
namespace ImportResolver.CommandLine

/-- The request that switches and operands make up. -/
def Given.request (g : Given) (options : Option Path) : ResolveRequest where
  roots := g.operands.map Path.mk
  options := options
  write := g.switches.contains .write
  check := g.switches.contains .check
  ignoreUnresolved := g.switches.contains .ignoreUnresolved
  keepGoing := g.switches.contains .keepGoing
  runtimeBuiltins := g.switches.contains .runtimeBuiltins

end ImportResolver.CommandLine

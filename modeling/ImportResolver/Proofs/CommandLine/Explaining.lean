import ImportResolver.Proofs.CommandLine.Arguments
import ImportResolver.Proofs.CommandLine.Reporting
import ImportResolver.Proofs.Resolution.Splicing
/- Explaining a specifier tells what resolving its file does with it. -/
namespace ImportResolver.CommandLine

open FileSystem

section

variable {host : Host} {fs before after : FileSystem} {env : Environment} {args : List String}
  {i : Invocation} {r : ResolveRequest} {builtins : Builtins} {report : Report} {options : Options}
  {files : List Path}

end

end ImportResolver.CommandLine

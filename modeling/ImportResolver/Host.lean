import ImportResolver.ExitStatus
import ImportResolver.FileSystem.Lookup
/- What a run is given beside files and variables: programs that it may start, and names that are
drawn for new files. -/
namespace ImportResolver

/-- What a program comes to, and the files as it leaves them. -/
structure Finished where
  status : ExitStatus
  output : Bytes
  tree : FileSystem.Tree

/-- Starts the file at a path, with the variables that it gets to know and its arguments, and waits
for its end. A fault is one of starting it. -/
abbrev Launch := FileSystem → List (String × String) → Path → List String → Except Fault Finished

structure Host where
  launch : Launch
  /-- What is drawn, one after another, to name a new file beside a path. -/
  draws : Path → List String

end ImportResolver

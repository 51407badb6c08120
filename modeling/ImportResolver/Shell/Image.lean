import ImportResolver.Shell.Machine
import ImportResolver.Shell.Variables
/- Finding programs and scripts in the listed directories, and what starting a file runs: a program of
the system, or the interpreter that the first line names. -/
namespace ImportResolver.Shell.Action

/-- The paths that a name may stand for in listed directories, in order. -/
def pathsIn (path name : Chars) : List Chars :=
  if name.contains '/' then [name]
  else (Text.runs ':' path).map fun dir => if dir = [] then name else dir ++ '/' :: name

def searchPath : Action Chars := do return ((← process).value? "PATH".toList).getD []

def candidatePaths (name : Chars) : Action (List Chars) := do
  return pathsIn (← searchPath) name

inductive Missing where
  | notFound
  | denied

def programIn (fs : FileSystem) (path name : Chars) : Except Missing Chars :=
  let there := (pathsIn path name).filterMap fun cs =>
    (fs.node? (pathOf cs)).map fun n => (cs, n)
  match there.find? fun e => e.2.isFile && e.2.isExecutable with
  | some e => .ok e.1
  | none => .error (if there.isEmpty then .notFound else .denied)

def findProgram (name : Chars) : Action (Except Missing Chars) := do
  return programIn (← fileSystem) (← searchPath) name

def findText? (name : Chars) : Action (Option Chars) := do
  if name.contains '/' then return some name
  let fs ← fileSystem
  return (← candidatePaths name).find? fun cs =>
    (fs.node? (pathOf cs)).any FileSystem.Node.isFile

end ImportResolver.Shell.Action

namespace ImportResolver.Shell.Image

def headSize : Nat := 256

def isBlank (c : Char) : Bool := c = ' ' || c = '\t'

def isEnd (c : Char) : Bool := isBlank c || c.toNat = 0

/-- The interpreter that a file names, and an argument for it. Without a line end in the part
looked at, the name must be seen to end. -/
def interpreter? (content : Chars) : Option (Chars × Option Chars) :=
  match content with
  | '#' :: '!' :: cs =>
    let head := cs.take (headSize - 2)
    let (line, after) := head.span fun c => c ≠ '\n' && c.toNat ≠ 0
    let parts (text : Chars) : Chars × Option Chars :=
      let (name, rest) := (text.dropWhile isBlank).span fun c => !isEnd c
      let argument := (rest.dropWhile isBlank).takeWhile fun c => c.toNat ≠ 0
      (name, if argument = [] then none else some argument)
    let trimmed (text : Chars) : Chars := (text.reverse.dropWhile isBlank).reverse
    if after.head? = some '\n' then
      let found := parts (trimmed line)
      if found.1 = [] then none else some found
    else if content.length < headSize then some (parts head)
    else if (head.dropWhile isBlank).any isEnd then
      some (parts (trimmed (head.take (headSize - 3))))
    else none
  | _ => none

/-- The program that runs for a file and its arguments, after as many interpreters as `n`. -/
def ofPath (fs : FileSystem) : Nat → Chars → List Chars → Except Fault (String × List Chars)
  | n, path, arguments => do
    let node ← fs.node (pathOf path)
    if !(node.isFile && node.isExecutable) then throw .permissionDenied
    match node, n with
    | .tool _, 0 => throw .tooManyLinks
    | .tool name, _ => return (name, arguments)
    | .file _ _, 0 => throw .tooManyLinks
    | .file bytes _, n + 1 =>
      match interpreter? (byteChars bytes) with
      | none => throw .notExecutable
      | some ([], _) => throw .permissionDenied
      | some (interpreter, argument) =>
        ofPath fs n interpreter (interpreter :: argument.toList ++ path :: arguments.drop 1)
    | _, _ => throw .permissionDenied

/-- How many interpreters may follow one another, the program at the end among them. -/
def depth : Nat := 6

end ImportResolver.Shell.Image

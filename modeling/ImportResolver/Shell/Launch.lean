import ImportResolver.Shell.Builtin.Flow
import ImportResolver.Shell.Grammar
import ImportResolver.Shell.Image
import ImportResolver.Shell.Jobs
import ImportResolver.Tool.Table
/- Carrying out a text line by line, and starting programs, the shell itself among them. -/
namespace ImportResolver.Shell.Action

/-- Reads the commands of the next line. The documents in it are kept. -/
def nextLine (fuel : Nat) (r : Reader) : Action (Command × Bool × Reader) := do
  let p ← process
  let r := { r with aliases := p.aliases, documents := [], nextDocument := p.nextDocument }
  match (Reader.readLine fuel).run r with
  | .error (.unexpected line message) =>
    modifyProcess fun p => { p with line }
    fail ("Syntax error: " ++ message)
  | .error .exhausted => throw .exhausted
  | .ok ((c, last), r) =>
    modifyProcess fun p =>
      { p with
        documents := r.documents ++ p.documents, nextDocument := r.nextDocument,
        inputLine := r.line }
    return (c, last, r)

/-- The commands of a text, each line read only when those before it are done. The status of no
command at all is zero. Lines of a file are shown, if that was asked for. -/
def runText (go : Runner) (text : Chars) (isFile : Bool) (how : Manner) : Action Unit := do
  let fuel := 20 * text.length + 100000
  let rec lines : Nat → Bool → Reader → Action Unit
    | 0, _, _ => throw .exhausted
    | n + 1, ran, r => do
      let before := r.rest
      let (c, last, r) ← nextLine fuel r
      if isFile && (← process).isOn 'v' then
        let _ ← write 2 (before.take (before.length - r.rest.length))
      let ran ←
        match c with
        | .sequence [] => pure ran
        | c =>
          go (.command c { how with final := how.final && last })
          pure true
      if last then
        if !ran then setStatus 0
      else lines n ran r
  lines (text.length + 2) false { rest := text }

def shellNames : List String := ["sh", "dash", "bash"]

def initialVariables (inherited : List (Chars × Chars)) (parent : Nat) (directory : Chars) :
    List (Chars × Variable) :=
  let given := (inherited.filter fun e => Reader.isName e.1 && e.1 ≠ "IFS".toList).map fun e =>
    (e.1, { value := some e.2, exported := true : Variable })
  let own : List (Chars × Variable) :=
    [("IFS".toList, { value := some [' ', '\t', '\n'] }),
     ("OPTIND".toList, { value := some ['1'] }),
     ("PPID".toList, { value := some (decimal parent) }),
     ("PS1".toList, { value := some ['$', ' '] }),
     ("PS2".toList, { value := some ['>', ' '] }),
     ("PS4".toList, { value := some ['+', ' '] })]
  let named (name : String) (e : Chars × Variable) : Bool := e.1 = name.toList
  let vs := own ++ given.filter fun e => !own.any (·.1 = e.1)
  let vs := ("PWD".toList, { value := some directory, exported := true }) ::
    vs.filter fun e => !named "PWD" e
  if vs.any (named "PATH") then vs
  else
    let path := "/usr/local/sbin:/usr/local/bin:/usr/sbin:/usr/bin:/sbin:/bin".toList
    ("PATH".toList, { value := some path }) :: vs

/-- The directory that a shell starts in, as it was called before if that still holds. -/
def startingDirectory (inherited : List (Chars × Chars)) : Action Chars := do
  let fs ← fileSystem
  let called := ((inherited.find? (·.1 = "PWD".toList)).map (·.2)).getD []
  if called.head? = some '/' && (fs.locate (pathOf called) true).toOption = some fs.cwd then
    return called
  else return charsOf (FileSystem.Location.path fs.cwd).text

/-- What the arguments of a shell ask for. -/
inductive Task.Request where
  | text (commands name : Chars) (arguments : List Chars)
  | file (path : Chars) (arguments : List Chars)
  | input (arguments : List Chars)

def request (program : Chars) (args : List Chars) : Action Task.Request := do
  let rec read (isText : Bool) : List Chars → Action (Bool × List Chars)
    | [] => return (isText, [])
    | ['-'] :: rest => return (isText, rest)
    | ['-', '-'] :: rest => return (isText, rest)
    | [sign, 'o'] :: name :: rest => do
      if sign = '-' || sign = '+' then
        Builtin.setNamedOption name (sign = '-')
        read isText rest
      else return (isText, [sign, 'o'] :: name :: rest)
    | (sign :: c :: cs) :: rest => do
      if sign = '-' || sign = '+' then
        (c :: cs).forM fun o => if o = 'c' then pure () else Builtin.setOption o (sign = '-')
        read (isText || (c :: cs).contains 'c') rest
      else return (isText, (sign :: c :: cs) :: rest)
    | args => return (isText, args)
  let (isText, args) ← read false args
  match isText, args with
  | true, commands :: name :: args => return .text commands name args
  | true, [commands] => return .text commands program []
  | true, [] => fail "-c requires an argument"
  | false, path :: args =>
    if (← process).isOn 's' then return .input (path :: args) else return .file path args
  | false, [] => return .input []

def shell (go : Runner) (tool : String) (arguments : List Chars) : Action ExitStatus := do
  let inherited := (← process).exported
  let directory ← startingDirectory inherited
  let program := arguments.headD []
  modifyProcess fun p =>
    { number := p.number, parent := p.parent, shown := p.number, name := program, arguments := []
      group := p.group, niceness := p.niceness
      bindings := initialVariables inherited p.parent directory
      descriptors := p.descriptors
      deaf := p.deaf
      creationMask := p.creationMask
      limits := p.limits
      calledDirectory := some directory
      directory := p.directory
      clock := p.clock
      plainEcho := tool = "bash" }
  let body : Action Unit := do
    match ← request program (arguments.drop 1) with
    | .text commands name arguments =>
      modifyProcess fun p => { p with name, arguments }
      let final := !(← process).isOn 's'
      runText go commands false { final }
    | .input arguments =>
      modifyProcess fun p => { p with arguments }
      runText go ((← readAll? 0).getD []) true {}
    | .file path arguments =>
      let text? ← match ← scriptText? path with
        | .ok (some text) => pure (Except.ok text)
        | .ok none => pure (.error .isADirectory)
        | .error fault => pure (.error fault)
      match text? with
      | .error fault =>
        if tool = "bash" then
          let speaker := if fault = .isADirectory then path else program
          let _ ← write 2
            (speaker ++ ": ".toList ++ path ++ ": ".toList ++ fault.reason.toList ++ ['\n'])
          setStatus (if fault = .notFound then 127 else 126)
        else if fault = .isADirectory then setStatus 0
        else
          complain ("cannot open ".toList ++ path ++ ": ".toList ++
            (refusal fault "No such file").toList)
          setStatus 2
        throw .exit
      | .ok text =>
        modifyProcess fun p => { p with name := path, arguments }
        runText go text true {}
  conclude go (← outcome body)

def runTool (go : Runner) (tool : String) (arguments : List Chars) : Action ExitStatus := do
  if shellNames.contains tool then shell go tool arguments
  else
    match Tool.behaviour? go tool with
    | some behaviour =>
      modifyProcess fun p => { p with name := arguments.headD tool.toList, isFull := false }
      match ← outcome (do Tool.close tool (← behaviour (arguments.drop 1))) with
      | .ok status => return .code status
      | .error (.replaced status) => return status
      | .error (.killed n) => return .signal n
      | .error .exit => return .code (← process).status
      | .error _ => return .code 2
    | none => return .code 127

/-- What is left of a process when another program takes its place: signals that it ignored stay
ignored, and nobody else can use its open files. -/
def shed (p : Process) : Process :=
  { p with
    traps := []
    deaf := (p.traps.filter (·.2.isEmpty)).map (·.1) ++ p.deaf
    aside := [], held := [], jobs := [], resumed := none, expected := []
    outgoing := [], outgoingSize := 0 }

/-- Puts a program in the place of the process. A file that names no interpreter is taken for a
script. -/
def program (go : Runner) (path : Path) (arguments : List Chars) : Action Unit := do
  let fs ← fileSystem
  let name := charsOf path.text
  let image : Except Fault (String × List Chars) :=
    match Image.ofPath fs Image.depth name arguments with
    | .error .notExecutable => .ok ("sh", "sh".toList :: name :: arguments.drop 1)
    | image => image
  match image with
  | .error fault =>
    let missing := [Fault.notFound, .notADirectory, .tooManyLinks, .nameTooLong].contains fault
    complain (arguments.headD [] ++ ": ".toList ++ (refusal fault "not found").toList)
    setStatus (if missing then 127 else 126)
    throw .exit
  | .ok (tool, arguments) =>
    charge loadTime
    modifyProcess shed
    rouse
    throw (Stop.replaced (← runTool go tool arguments))

end ImportResolver.Shell.Action

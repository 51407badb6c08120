import ImportResolver.CommandLine.Arguments
import ImportResolver.CommandLine.Report
import ImportResolver.FileSystem.Replacement
import ImportResolver.Options.File
import ImportResolver.Source.Files
import ImportResolver.Specifier.Query
/- Carrying out a command line on a file tree. -/
namespace ImportResolver.CommandLine

/-- Why a command gave up before its report. -/
inductive Problem where
  /-- Names the file it happened in, if it is one of several. -/
  | failure (cause : Failure) (file : Option Path)
  | system (fault : Fault)
  deriving DecidableEq

def Problem.code? : Problem → Option String
  | .failure cause _ => some cause.code
  | .system _ => none

def Problem.message : Problem → String
  | .failure cause none => cause.fullMessage
  | .failure cause (some file) => file.text ++ ": " ++ cause.fullMessage
  | .system fault => fault.message

/-- How a command ends, and the file system after it. -/
structure Ending where
  exit : Nat
  output : String := ""
  problem : Option Problem := none
  fileSystem : FileSystem

def versionText : String := "resolvext 0.1.0"

/-- The program that is asked for built-in modules. -/
def runtimeProgram : String := "node"

/-- An absolute path, without links if something is there. -/
def absolute (fs : FileSystem) (directory p : Path) : Path :=
  let joined := directory.join p.text
  (fs.canonical joined).toOption.getD joined

/-- The options that a command uses, and the file they come from. -/
def optionsFor (fs : FileSystem) (directory : Path) (given : Option Path) :
    Except Failure (Options × Option Path) :=
  match (given.map (absolute fs directory)) <|> Options.find? fs directory with
  | some file => (Options.load fs file).map fun o => (o, some file)
  | none => .ok ({}, none)

/-- The built-in modules that a command goes by. A program that is asked for them may change the
file system. -/
def builtinsFor (host : Host) (fs : FileSystem) (env : Environment) (ask : Bool) :
    Except Failure Builtins × FileSystem :=
  if ask then
    let (answer, fs) := Builtins.query host.launch fs env runtimeProgram
    (answer.bind (Builtins.install none), fs)
  else (.ok Builtins.embedded, fs)

/-- A file and what its text becomes, before anything is written. -/
structure Prepared where
  path : Path
  result : Except Failure ResolvedSource

def prepare (fs : FileSystem) (options : Options) (globals : List Path) (builtins : Builtins)
    (path : Path) : Prepared where
  path := path
  result :=
    match fs.readLossy path with
    | .error fault => .error (.system fault)
    | .ok source => (Context.mk path options globals builtins).resolveSource fs source

/-- The first failure, with its file. -/
def firstFailure? (prepared : List Prepared) : Option (Failure × Path) :=
  prepared.findSome? fun p =>
    match p.result with
    | .error f => some (f, p.path)
    | .ok _ => none

def commitFile (host : Host) (write : Bool) (fs : FileSystem) (p : Prepared) :
    FileSystem.Effect FileReport :=
  match p.result with
  | .error f => (.ok { path := p.path, failure := some f }, fs)
  | .ok source =>
    if write && source.isChanged then
      let (written, fs) := fs.writeIfChanged (host.draws p.path) p.path
        (Text.Utf8.encode source.code)
      (written.map fun written => { path := p.path, sites := source.sites, written }, fs)
    else (.ok { path := p.path, sites := source.sites }, fs)

/-- Writes the changed files one after another, up to the first that cannot be written. -/
def commit (host : Host) (write : Bool) (fs : FileSystem) :
    List Prepared → FileSystem.Effect (List FileReport)
  | [] => (.ok [], fs)
  | p :: ps =>
    match commitFile host write fs p with
    | (.error fault, fs) => (.error fault, fs)
    | (.ok report, fs) =>
      let (reports, fs) := commit host write fs ps
      (reports.map (report :: ·), fs)

/-- The files that a request names, each with what its text becomes. -/
def ResolveRequest.prepared (r : ResolveRequest) (fs : FileSystem) (env : Environment)
    (directory : Path) (builtins : Builtins) (options : Options) :
    Except Fault (List Prepared) := do
  let files ← Source.files fs (r.roots.map (absolute fs directory))
  let options := { options with ignoreUnresolved := options.ignoreUnresolved || r.ignoreUnresolved }
  return files.map (prepare fs options env.globalDirectories builtins)

/-- The report on all files that a request names, and the file system after their changes are
written. Nothing is written before all of them are prepared. -/
def ResolveRequest.report (r : ResolveRequest) (host : Host) (fs : FileSystem) (env : Environment)
    (directory : Path) (builtins : Builtins) : Except Problem Report × FileSystem :=
  match optionsFor fs directory r.options with
  | .error f => (.error (.failure f none), fs)
  | .ok (options, file) =>
    match r.prepared fs env directory builtins options with
    | .error fault => (.error (.system fault), fs)
    | .ok prepared =>
      match if r.keepGoing then none else firstFailure? prepared with
      | some (f, path) => (.error (.failure f (some path)), fs)
      | none =>
        let (reports, fs) := commit host r.write fs prepared
        ((reports.mapError Problem.system).map (Report.mk file r.write), fs)

def ExplainRequest.explanation (r : ExplainRequest) (fs : FileSystem) (env : Environment)
    (directory : Path) (builtins : Builtins) : Except Problem Explanation := do
  let (options, optionsFile) ← (optionsFor fs directory r.options).mapError (Problem.failure · none)
  let file := absolute fs directory r.file
  let ctx : Context := ⟨file, options, env.globalDirectories, builtins⟩
  return ⟨r.specifier, file, optionsFile, ctx.explain fs r.specifier⟩

def printed (json : Bool) (value : Json) (lines : List String) : String :=
  joinLines (if json then [value.pretty] else lines)

def stopped (fs : FileSystem) (problem : Problem) : Ending :=
  { exit := 1, problem := some problem, fileSystem := fs }

def resolve (host : Host) (fs : FileSystem) (env : Environment) (json : Bool) (directory : Path)
    (builtins : Builtins) (r : ResolveRequest) : Ending :=
  match r.report host fs env directory builtins with
  | (.error problem, fs) => stopped fs problem
  | (.ok report, fs) =>
    { exit := if report.isFailing r.check then 1 else 0
      output := printed json report.toJson (report.lines directory)
      fileSystem := fs }

def explain (fs : FileSystem) (env : Environment) (json : Bool) (directory : Path)
    (builtins : Builtins) (r : ExplainRequest) : Ending :=
  match r.explanation fs env directory builtins with
  | .error problem => stopped fs problem
  | .ok e =>
    { exit := if e.trail.result.toOption.isSome then 0 else 1
      output := printed json e.toJson e.lines
      fileSystem := fs }

/-- Carries out a command with the built-in modules that it is to go by. -/
def withBuiltins (host : Host) (fs : FileSystem) (env : Environment) (ask : Bool)
    (command : FileSystem → Builtins → Ending) : Ending :=
  match builtinsFor host fs env ask with
  | (.error f, fs) => stopped fs (.failure f none)
  | (.ok builtins, fs) => command fs builtins

/-- What is shown when help is asked for. -/
def usage : String :=
  "Usage: resolvext [OPTIONS] [COMMAND]\n\nCommands:\n  version\n  rewrite <PATH>...\n" ++
    "  explain --from <FILE> <SPECIFIER>\n"

/-- Carries out a command line. Without a command, the version is shown. -/
def run (host : Host) (fs : FileSystem) (env : Environment) (args : List String) : Ending :=
  match parse env args with
  | .error .usage => { exit := 2, fileSystem := fs }
  | .error .showVersion => { exit := 0, output := versionText ++ "\n", fileSystem := fs }
  | .error .showHelp => { exit := 0, output := usage, fileSystem := fs }
  | .ok i =>
    let directory := i.directory.getD (FileSystem.Location.path fs.cwd)
    match i.command with
    | .version => { exit := 0, output := versionText ++ "\n", fileSystem := fs }
    | .resolve r =>
      withBuiltins host fs env r.runtimeBuiltins fun fs builtins =>
        resolve host fs env i.json directory builtins r
    | .explain r =>
      withBuiltins host fs env r.runtimeBuiltins fun fs builtins =>
        explain fs env i.json directory builtins r

end ImportResolver.CommandLine

import ImportResolver.Environment
/- Command lines: switches, settings and operands, and the commands they make up. -/
namespace ImportResolver.CommandLine

inductive Switch where
  | verbose
  | json
  | write
  | check
  | ignoreUnresolved
  | keepGoing
  | runtimeBuiltins
  deriving DecidableEq

inductive Setting where
  | directory
  | options
  | importer
  deriving DecidableEq

/-- What the arguments read so far belong to: the program itself, or one of its commands. -/
inductive Level where
  | program
  | version
  | resolve
  | explain
  deriving DecidableEq

/-- Why arguments are not carried out. -/
inductive Stop where
  | usage
  | showVersion
  | showHelp
  deriving DecidableEq

structure Given where
  switches : List Switch := []
  settings : List (Setting × String) := []
  operands : List String := []
  deriving DecidableEq

def Level.switch? : Level → String → Option Switch
  | _, "verbose" => some .verbose
  | _, "json" => some .json
  | .resolve, "write" => some .write
  | .resolve, "check" => some .check
  | .resolve, "ignore-unresolved" => some .ignoreUnresolved
  | .resolve, "keep-going" => some .keepGoing
  | .resolve, "runtime-builtins" => some .runtimeBuiltins
  | .explain, "runtime-builtins" => some .runtimeBuiltins
  | _, _ => none

def Level.setting? : Level → String → Option Setting
  | _, "cwd" => some .directory
  | .resolve, "config" => some .options
  | .explain, "config" => some .options
  | .explain, "from" => some .importer
  | _, _ => none

def command? : String → Option Level
  | "version" => some .version
  | "rewrite" => some .resolve
  | "explain" => some .explain
  | _ => none

namespace Given

/-- Only `verbose` may be repeated. -/
def withSwitch (g : Given) (s : Switch) : Except Stop Given :=
  if s ≠ .verbose && g.switches.contains s then .error .usage
  else .ok { g with switches := s :: g.switches }

/-- Settings are not empty and not repeated. -/
def withSetting (g : Given) (s : Setting) (value : String) : Except Stop Given :=
  if value = "" || g.settings.any (·.1 = s) then .error .usage
  else .ok { g with settings := (s, value) :: g.settings }

/-- Resolving takes any number of paths, explaining one specifier. -/
def withOperand (level : Level) (g : Given) (text : String) : Except Stop Given :=
  match level with
  | .resolve =>
    if text = "" then .error .usage else .ok { g with operands := g.operands ++ [text] }
  | .explain => if g.operands = [] then .ok { g with operands := [text] } else .error .usage
  | _ => .error .usage

def setting? (g : Given) (s : Setting) : Option String :=
  (g.settings.find? (·.1 = s)).map (·.2)

end Given

/-- The letters after a single dash. -/
def letters (level : Level) (g : Given) : List Char → Except Stop Given
  | [] => .ok g
  | 'v' :: cs => do letters level (← g.withSwitch .verbose) cs
  | 'h' :: _ => .error .showHelp
  | 'V' :: _ => .error (if level = .program then .showVersion else .usage)
  | _ => .error .usage

def isOption (arg : String) : Bool :=
  match arg.toList with
  | ['-'] => false
  | '-' :: _ => true
  | _ => false

/-- A long option's name, and the value joined to it by an equals sign. -/
def splitLong (cs : List Char) : String × Option String :=
  match cs.dropWhile (· ≠ '=') with
  | [] => (String.ofList cs, none)
  | _ :: value => (String.ofList (cs.takeWhile (· ≠ '=')), some (String.ofList value))

def help (names : List String) : Stop :=
  match names with
  | [] => .showHelp
  | [name] => if name = "help" || (command? name).isSome then .showHelp else .usage
  | _ => .usage

/-- Reads the arguments of one level, up to the command that begins the next. -/
def read (level : Level) (g : Given) :
    List String → Except Stop (Given × Option (Level × List String))
  | [] => .ok (g, none)
  | arg :: rest =>
    match arg.toList with
    | ['-', '-'] => do return (← rest.foldlM (Given.withOperand level) g, none)
    | '-' :: '-' :: body =>
      let (name, value) := splitLong body
      match level.setting? name, level.switch? name, value with
      | some s, _, some v => do read level (← g.withSetting s v) rest
      | some s, _, none =>
        match rest with
        | [] => .error .usage
        | v :: rest =>
          if isOption v then .error .usage else do read level (← g.withSetting s v) rest
      | none, some s, none => do read level (← g.withSwitch s) rest
      | none, none, none =>
        if name = "help" then .error .showHelp
        else if name = "version" && level = .program then .error .showVersion
        else .error .usage
      | none, _, some _ => .error .usage
    | '-' :: c :: cs => do read level (← letters level g (c :: cs)) rest
    | _ =>
      if level = .program then
        match command? arg with
        | some next => .ok (g, some (next, rest))
        | none => .error (if arg = "help" then help rest else .usage)
      else do read level (← g.withOperand level arg) rest

structure ResolveRequest where
  roots : List Path
  options : Option Path
  write : Bool
  check : Bool
  ignoreUnresolved : Bool
  keepGoing : Bool
  runtimeBuiltins : Bool
  deriving DecidableEq

structure ExplainRequest where
  specifier : String
  file : Path
  options : Option Path
  runtimeBuiltins : Bool
  deriving DecidableEq

inductive Command where
  | version
  | resolve (request : ResolveRequest)
  | explain (request : ExplainRequest)
  deriving DecidableEq

structure Invocation where
  json : Bool
  directory : Option Path
  command : Command
  deriving DecidableEq

/-- The options file that is named, or else the environment's. -/
def optionsFile (env : Environment) (g : Given) : Except Stop (Option Path) :=
  match g.setting? .options, env.optionsFile with
  | some file, _ => .ok (some ⟨file⟩)
  | none, some file => if file = "" then .error .usage else .ok (some ⟨file⟩)
  | none, none => .ok none

def commandOf (env : Environment) (level : Level) (g : Given) : Except Stop Command := do
  let has (s : Switch) := g.switches.contains s
  match level with
  | .program => return .version
  | .version => return .version
  | .resolve =>
    if g.operands = [] || (has .write && has .check) then throw .usage
    return .resolve {
      roots := g.operands.map Path.mk
      options := ← optionsFile env g
      write := has .write
      check := has .check
      ignoreUnresolved := has .ignoreUnresolved
      keepGoing := has .keepGoing
      runtimeBuiltins := has .runtimeBuiltins }
  | .explain =>
    match g.operands, g.setting? .importer with
    | [specifier], some file =>
      return .explain {
        specifier
        file := ⟨file⟩
        options := ← optionsFile env g
        runtimeBuiltins := has .runtimeBuiltins }
    | _, _ => throw .usage

/-- What a command line asks for. `json` and `cwd` may stand on either side of the command. -/
def parse (env : Environment) (args : List String) : Except Stop Invocation := do
  let (outer, rest) ← read .program {} args
  let (level, inner) ←
    match rest with
    | none => .ok (Level.program, ({} : Given))
    | some (level, args) => (read level {} args).map fun r => (level, r.1)
  return {
    json := outer.switches.contains .json || inner.switches.contains .json
    directory := ((inner.setting? .directory) <|> outer.setting? .directory).map Path.mk
    command := ← commandOf env level inner }

end ImportResolver.CommandLine

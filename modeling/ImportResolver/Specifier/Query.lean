import ImportResolver.Environment
import ImportResolver.Host
import ImportResolver.Specifier.Builtins
/- Asking a program for the names of its built-in modules. -/
namespace ImportResolver.Builtins

/-- The expression that the program is to print. -/
def question : String := "require('module').builtinModules.join('\\n')"

/-- Puts the home directory in the place of a first component `~`. -/
def expandTilde (env : Environment) (p : Path) : Path :=
  match p.components with
  | .name "~" :: rest =>
    match env.home with
    | some home => if home = "" then p else rest.foldl (fun q c => q.join c.text) ⟨home⟩
    | none => p
  | _ => p

/-- A program that is named by a path of several components is that file; others are searched for
in the listed directories. -/
def candidates (fs : FileSystem) (env : Environment) (program : String) : List Path :=
  let p : Path := ⟨program⟩
  if p.isAbsolute then [p]
  else if 1 < p.components.length then
    [(p.components.dropWhile (· = .here)).foldl (fun q c => q.join c.text)
      (FileSystem.Location.path fs.cwd)]
  else
    ((Text.runs ':' (env.programPath.getD "").toList).map fun dir =>
      (expandTilde env ⟨String.ofList dir⟩).join program)

def programPath? (fs : FileSystem) (env : Environment) (program : String) : Option Path :=
  (candidates fs env program).find? fun p =>
    (fs.node? p).any fun n => n.isFile && n.isExecutable

def lines (text : String) : List String := (Text.runs '\n' text.toList).map String.ofList

/-- The names that a program has printed, one on each line. -/
def ofFinished (program : Path) (finished : Finished) : Except Failure Builtins :=
  if finished.status ≠ .code 0 then
    .error (.configuration (.queryFailed program finished.status))
  else
    let b := ofNames (lines (Text.Utf8.decodeLossy finished.output))
    if b.names = [] then .error (.configuration (.queryEmpty program)) else .ok b

/-- The names that a program answers with, and what it made of the files. -/
def query (launch : Launch) (fs : FileSystem) (env : Environment) (program : String) :
    Except Failure Builtins × FileSystem :=
  match programPath? fs env program with
  | none => (.error (.configuration (.queryUnavailable program)), fs)
  | some p =>
    match launch fs env.known p ["-p", question] with
    | .error fault => (.error (.configuration (.queryNotStarted p fault)), fs)
    | .ok finished => (ofFinished p finished, { fs with tree := finished.tree })

/-- Programs that are asked do nothing but answer: the files stay as they are. -/
def OnlyAnswers (launch : Launch) : Prop :=
  ∀ fs known p finished, launch fs known p ["-p", question] = .ok finished → finished.tree = fs.tree

theorem query_snd {launch : Launch} (h : OnlyAnswers launch) (fs : FileSystem) (env : Environment)
    (program : String) : (query launch fs env program).2 = fs := by
  rw [query]
  cases programPath? fs env program with
  | none => rfl
  | some p =>
    cases hlaunch : launch fs env.known p ["-p", question] with
    | error fault => simp only [hlaunch]
    | ok finished => simp only [hlaunch, h fs env.known p finished hlaunch]

end ImportResolver.Builtins

import ImportResolver.FileSystem.Lookup
import ImportResolver.Options.Reading
import ImportResolver.Path.Ancestors
/- Options files: finding the nearest one, and loading one. -/
namespace ImportResolver.Options

def fileName : String := "resolvext.json"

/-- The options file of the nearest directory that has one, from `dir` upward. -/
def find? (fs : FileSystem) (dir : Path) : Option Path :=
  ((Path.ancestors dir).map (·.join fileName)).find? fs.isFile

def loadRaw (fs : FileSystem) (file : Path) : Except Failure RawOptions :=
  match fs.readText file with
  | .error fault => .error (.optionsUnreadable file fault)
  | .ok text =>
    match RawOptions.parse? text with
    | none => .error (.optionsMalformed file)
    | some raw => .ok raw

def load (fs : FileSystem) (file : Path) : Except Failure Options := do
  (← loadRaw fs file).normalize

end ImportResolver.Options

import ImportResolver.FileSystem.Lookup
import ImportResolver.Path.Ancestors
import ImportResolver.Trail
/- Where a package is installed: in the nearest directory of dependencies above the importing file,
or else in a global one. -/
namespace ImportResolver.Package

/-- Where a package may be installed as seen from a file, nearest first. -/
def nearby (name : String) (file : Path) : List Path :=
  (Path.ancestors file.directory).map fun dir => (dir.join "node_modules").join name

def global (name : String) (directories : List Path) : List Path :=
  directories.map (·.join name)

/-- A step for each place in front of the first that is a directory. -/
def misses (fs : FileSystem) (step : Step.Name) (places : List Path) : List Step :=
  (places.takeWhile fun p => !fs.isDirectory p).map fun p =>
    { name := step, ok := false, detail := "Not here", path := some p }

def locate (fs : FileSystem) (name : String) (file : Path) (globals : List Path) : Trail Path :=
  let near := nearby name file
  let far := global name globals
  let found := "Found package directory for " ++ name
  match near.find? fs.isDirectory with
  | some dir =>
    ⟨misses fs .searchNodeModules near ++
      [{ name := .findPackageDir, ok := true, detail := found, path := some dir }], .ok dir⟩
  | none =>
    let missed := misses fs .searchNodeModules near ++ misses fs .searchGlobalDirs far
    match far.find? fs.isDirectory with
    | some dir =>
      ⟨missed ++
        [{ name := .findPackageDir, ok := true, detail := found ++ " in global directory",
           path := some dir }], .ok dir⟩
    | none =>
      ⟨missed ++
        [{ name := .findPackageDir, ok := false, detail := "Package " ++ name ++ " not found" }],
        .error (.packageNotFound name file)⟩

end ImportResolver.Package

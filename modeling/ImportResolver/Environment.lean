import ImportResolver.Path.Basic
/- The environment variables that matter, and the global module directories they give. -/
namespace ImportResolver

structure Environment where
  home : Option String := none
  /-- The home that the account names, for when `home` is unset or empty. -/
  accountHome : String := "/root"
  modulePath : Option String := none
  programPath : Option String := none
  optionsFile : Option String := none
  /-- Variables that matter only to a program that is started. -/
  others : List (String × String) := []
  deriving DecidableEq

namespace Environment

/-- What a program that is started gets to know. -/
def known (env : Environment) : List (String × String) :=
  [("HOME", env.home), ("NODE_PATH", env.modulePath), ("PATH", env.programPath),
    ("RESOLVEXT_CONFIG", env.optionsFile)].filterMap (fun (name, value) => value.map (name, ·)) ++
    env.others

/-- The directories of a colon-separated list, without empty entries. -/
def listed (paths : String) : List Path :=
  ((Text.runs ':' paths.toList).filter (· ≠ [])).map fun p => ⟨String.ofList p⟩

def homeDirectory (env : Environment) : Path :=
  match env.home with
  | some home => if home = "" then ⟨env.accountHome⟩ else ⟨home⟩
  | none => ⟨env.accountHome⟩

/-- The listed directories come before those of the home directory. -/
def globalDirectories (env : Environment) : List Path :=
  listed (env.modulePath.getD "") ++
    [env.homeDirectory.join ".node_modules", env.homeDirectory.join ".node_libraries"]

end Environment
end ImportResolver

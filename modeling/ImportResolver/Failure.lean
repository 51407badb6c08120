import ImportResolver.ExitStatus
import ImportResolver.FileSystem.Fault
import ImportResolver.Json.Flaw
import ImportResolver.Path.Basic
/- Why a request cannot be answered, with a code and a message for each cause. -/
namespace ImportResolver

inductive ConfigurationFault where
  | ruleLength (n : Nat)
  | ruleSource
  | ruleDestination
  | entryWithoutField
  | entryWithoutPath
  | entryKind (kind : String)
  | builtinsInUse
  | queryUnavailable (program : String)
  | queryNotStarted (program : Path) (fault : Fault)
  | queryFailed (program : Path) (status : ExitStatus)
  | queryEmpty (program : Path)
  deriving DecidableEq

inductive Failure where
  | system (fault : Fault)
  | optionsUnreadable (file : Path) (fault : Fault)
  | optionsMalformed (file : Path)
  | configuration (fault : ConfigurationFault)
  | pathUnresolved (specifier : String) (base : Path)
  | moduleUnresolved (specifier : String) (file : Path)
  | packageNotFound (name : String) (file : Path)
  | manifestUnreadable (file : Path) (fault : Fault)
  | manifestMalformed (file : Path) (flaw : Option Json.Flaw)
  deriving DecidableEq

def ConfigurationFault.message : ConfigurationFault → String
  | .ruleLength n => "extension rule must have 1 or 2 elements, got " ++ toString n
  | .ruleSource => "extension rule source must be a string or a list of strings"
  | .ruleDestination => "extension rule destination must be a string or null"
  | .entryWithoutField => "manifestField entry requires a \x60field\x60"
  | .entryWithoutPath => "literalPath entry requires a \x60path\x60"
  | .entryKind kind => "unknown entry kind: " ++ kind
  | .builtinsInUse => "built-in module set is already initialized"
  | .queryUnavailable program =>
    "built-in module enumeration unavailable: " ++ program ++ ": cannot find binary path"
  | .queryNotStarted program fault =>
    "built-in module enumeration failed: " ++ program.text ++ ": " ++ fault.message
  | .queryFailed program status =>
    "built-in module enumeration failed: " ++ program.text ++ " exited with " ++ status.message
  | .queryEmpty program => "built-in module enumeration returned no names: " ++ program.text

namespace Failure

def code : Failure → String
  | .system _ => "IO"
  | .optionsUnreadable .. => "CONFIG_READ"
  | .optionsMalformed _ => "CONFIG_PARSE"
  | .configuration _ => "CONFIGURATION"
  | .pathUnresolved .. => "UNRESOLVED_PATH"
  | .moduleUnresolved .. => "UNRESOLVED_MODULE"
  | .packageNotFound .. => "PACKAGE_NOT_FOUND"
  | .manifestUnreadable .. => "MANIFEST_READ"
  | .manifestMalformed .. => "MANIFEST_PARSE"

def message : Failure → String
  | .system fault => "IO error: " ++ fault.message
  | .optionsUnreadable file fault =>
    "Failed to read config at " ++ file.text ++ ": " ++ fault.message
  | .optionsMalformed file => "Failed to parse config at " ++ file.text
  | .configuration fault => "Invalid configuration: " ++ fault.message
  | .pathUnresolved _ base => "Failed to resolve path: " ++ base.text
  | .moduleUnresolved specifier file =>
    "Failed to resolve module: " ++ specifier ++ " (imported from " ++ file.text ++ ")"
  | .packageNotFound name file =>
    "Package not found: " ++ name ++ " (searched from " ++ file.text ++ ")"
  | .manifestUnreadable file fault =>
    "Failed to read manifest at " ++ file.text ++ ": " ++ fault.message
  | .manifestMalformed file _ => "Failed to parse manifest at " ++ file.text

/-- The message with what is wrong inside of the file. -/
def fullMessage (f : Failure) : String :=
  match f with
  | .manifestMalformed _ (some flaw) => f.message ++ ": " ++ flaw.message
  | _ => f.message

end Failure
end ImportResolver

import ImportResolver.Specifier.Kind
/- What becomes of a specifier. -/
namespace ImportResolver

/-- Why a specifier stays as written. -/
inductive Reason where
  | url
  | builtin
  | unrecognized
  | alreadyCorrect
  | unresolved
  | exportsMap
  | entryKept
  deriving DecidableEq

def Reason.text : Reason → String
  | .url => "url"
  | .builtin => "builtin"
  | .unrecognized => "unrecognized"
  | .alreadyCorrect => "already_correct"
  | .unresolved => "unresolved"
  | .exportsMap => "exports_map"
  | .entryKept => "entry_kept"

inductive Outcome where
  | unchanged (reason : Reason)
  | replaced (specifier : String)
  deriving DecidableEq

structure Resolution where
  written : String
  kind : Specifier.Kind
  outcome : Outcome
  deriving DecidableEq

namespace Resolution

/-- The specifier to write. -/
def specifier (r : Resolution) : String :=
  match r.outcome with
  | .unchanged _ => r.written
  | .replaced specifier => specifier

def isChanged (r : Resolution) : Bool := r.specifier ≠ r.written

end Resolution
end ImportResolver

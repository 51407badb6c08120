/- JSON values as written: members keep their order and repetitions, numbers their digits. Records are
objects with known names, or arrays of the same values in order. -/
namespace ImportResolver

/-- The text of a string is `none` when one of its escapes is half of a surrogate pair, so that
the string is well formed but holds no text. -/
inductive Json where
  | null
  | bool (value : Bool)
  | number (literal : String)
  | string (text : Option String)
  | array (items : List Json)
  | object (members : List (Option String × Json))
  deriving Inhabited

namespace Json

def ofString (s : String) : Json := .string (some s)

def ofNat (n : Nat) : Json := .number (toString n)

def ofMembers (members : List (String × Json)) : Json :=
  .object (members.map fun m => (some m.1, m.2))

/-- The last member of that name, if the value is an object. -/
def member? (key : String) : Json → Option Json
  | .object members => (members.reverse.find? (·.1 = some key)).map (·.2)
  | _ => none

def text? : Json → Option String
  | .string text => text
  | _ => none

/-- The value of a known name; `none` if the name comes twice. -/
def once? (name : String) (members : List (Option String × Json)) : Option (Option Json) :=
  match members.filter (·.1 = some name) with
  | [] => some none
  | [(_, v)] => some (some v)
  | _ => none

/-- The values of the known names, in the order of the names. An object may hold other names and
leave known ones out; an array may leave out the last values but has no further ones. -/
def fields? (names : List String) : Json → Option (List (Option Json))
  | .object members =>
    if members.all (·.1.isSome) then names.mapM fun name => once? name members else none
  | .array items =>
    if items.length ≤ names.length then
      some (items.map some ++ List.replicate (names.length - items.length) none)
    else none
  | _ => none

def asBool? : Json → Option Bool
  | .bool b => some b
  | _ => none

def asList? {α : Type} (read : Json → Option α) : Json → Option (List α)
  | .array items => items.mapM read
  | _ => none

/-- `null` reads as nothing. -/
def asOption? {α : Type} (read : Json → Option α) : Json → Option (Option α)
  | .null => some none
  | v => (read v).map some

/-- A field that may be missing. -/
def orElse? {α : Type} (missing : α) (read : Json → Option α) : Option Json → Option α
  | none => some missing
  | some v => read v

end Json
end ImportResolver

import ImportResolver.Shell.Arithmetic
import ImportResolver.Shell.Machine
/- The variables of a shell. -/
namespace ImportResolver.Shell

namespace Process

def binding? (p : Process) (name : Chars) : Option Variable :=
  (p.bindings.find? (·.1 = name)).map (·.2)

def value? (p : Process) (name : Chars) : Option Chars :=
  (p.binding? name).bind Variable.value

def withEntry (p : Process) (name : Chars) (v : Variable) : Process :=
  { p with
    bindings :=
      if p.bindings.any (·.1 = name) then
        p.bindings.map fun e => if e.1 = name then (name, v) else e
      else p.bindings ++ [(name, v)] }

def withoutEntry (p : Process) (name : Chars) : Process :=
  { p with bindings := p.bindings.filter (·.1 ≠ name) }

def bucket (places : Nat) (name : Chars) : Nat :=
  (name.foldl (fun n c => n + c.toNat) ((name.headD ' ').toNat * 16)) % places

/-- What another program gets to know of the variables, as they lie in their table. -/
def exported (p : Process) : List (Chars × Chars) :=
  let all := p.bindings.filterMap fun (name, v) =>
    if v.exported then v.value.map fun value => (name, value) else none
  all.mergeSort fun a b => decide (bucket 39 a.1 ≤ bucket 39 b.1)

def isOn (p : Process) (option : Char) : Bool := p.options.contains option

def separators (p : Process) : Chars := (p.value? "IFS".toList).getD [' ', '\t', '\n']

def joint (p : Process) : Chars := p.separators.take 1

def joinedArguments (p : Process) : Chars :=
  (p.arguments.intersperse p.joint).flatten

end Process

def decimal? (cs : Chars) : Option Int :=
  let cs := cs.dropWhile Arithmetic.isSpace
  let (negative, digits) :=
    match cs with
    | '-' :: ds => (true, ds)
    | '+' :: ds => (false, ds)
    | ds => (false, ds)
  let (digits, rest) := digits.span Char.isDigit
  if digits = [] || !rest.all Arithmetic.isSpace then none
  else
    let n : Int := Arithmetic.numeral 10 digits
    some (if negative then -n else n)

namespace Action

/-- What changes with the value of some variables: where reading of options stands, and which
programs were looked up. -/
def heedValue (name : Chars) (value : Option Chars) : Action Unit := do
  if name = "OPTIND".toList then
    let text := value.getD []
    match decimal? text with
    | some n =>
      if n < 0 || Nat.pow 2 31 ≤ n then fail ("Illegal number: " ++ stringOf text)
      modifyProcess fun p => { p with optionIndex := max 1 n.toNat, optionOffset := none }
    | none => fail ("Illegal number: " ++ stringOf text)
  if name = "PATH".toList then modifyProcess fun p => { p with remembered := [] }

/-- Changes one variable. A read-only one does not change its value. -/
def setVariable (name value : Chars) (exported : Bool) : Action Unit := do
  let p ← process
  let old := (p.binding? name).getD { value := none, exported := p.isOn 'a' }
  if old.readOnly then fail (stringOf name ++ ": is read only")
  heedValue name (some value)
  modifyProcess fun p =>
    p.withEntry name { old with value := some value, exported := old.exported || exported }

def assign (name value : Chars) : Action Unit := setVariable name value false

def unsetVariable (name : Chars) : Action Unit := do
  if ((← process).binding? name).any Variable.readOnly then
    fail (stringOf name ++ ": is read only")
  heedValue name none
  modifyProcess (·.withoutEntry name)

def keep (k : Kept) : Action Unit :=
  modifyProcess fun p =>
    match p.scopes with
    | [] => p
    | scope :: scopes => { p with scopes := (k :: scope) :: scopes }

def localize (name : Chars) : Action Unit := do
  keep (.variable name ((← process).binding? name))

def localizeOptions : Action Unit := do keep (.options (← process).options)

def putBack : Kept → Action Unit
  | .options letters => modifyProcess fun p => { p with options := letters }
  | .variable name (some v) => do
    modifyProcess (·.withEntry name v)
    if v.value.isSome then heedValue name v.value
  | .variable name none => do
    if !Reader.isName name then fail (stringOf name ++ ": bad variable name")
    modifyProcess (·.withoutEntry name)

/-- Carries out `body` with a scope of its own. What it kept is put back at the end. -/
def inScope {α : Type} (body : Action α) : Action α := do
  modifyProcess fun p => { p with scopes := [] :: p.scopes }
  let answer ← tryCatch (do return Except.ok (← body)) fun stop => return .error stop
  let scope := (← process).scopes.headD []
  modifyProcess fun p => { p with scopes := p.scopes.tail }
  scope.forM putBack
  match answer with
  | .ok a => return a
  | .error stop => throw stop

end Action
end ImportResolver.Shell

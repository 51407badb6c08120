import ImportResolver.Shell.Expansion
import ImportResolver.Shell.Jobs
/- Redirections of descriptors. -/
namespace ImportResolver.Shell.Action

def plan : Redirection → Action Planned
  | .mk d direction target => do
    let text ← expandText capture .single target
    if direction = .duplicate && text ≠ ['-'] && (text.length ≠ 1 || !text.all Char.isDigit) then
      modifyProcess fun p => { p with line := p.inputLine }
      fail "Syntax error: Bad fd number"
    return ⟨d, direction, text⟩

/-- Points a descriptor elsewhere. What it pointed to before is closed first if it is `kept` for
later, so that a failure can be told on standard error only if that is not what is replaced. -/
def redirect (kept : Bool) (r : Planned) : Action Unit := do
  match r.direction with
  | .duplicate =>
    if r.target = ['-'] then setDescriptor r.descriptor none
    else
      let source := Arithmetic.numeral 10 r.target
      if source = r.descriptor then return
      match (← process).descriptors.find? (·.1 = source) with
      | some d => setDescriptor r.descriptor (some d.2)
      | none =>
        if kept then setDescriptor r.descriptor none
        fail (toString source ++ ": Bad file descriptor")
  | .document number expanded =>
    let w := (((← process).documents.find? (·.1 = number)).map (·.2)).getD []
    let text ← if expanded then expandText capture .document w else pure (Word.unquoted w)
    setDescriptor r.descriptor (some (← addDocument text))
  | direction =>
    match ← openPath (pathOf r.target) direction with
    | .ok f => setDescriptor r.descriptor (some (← addFile f))
    | .error fault =>
      let verb := if direction = .read then "open " else "create "
      let why := refusal fault
        (if direction = .read then "No such file" else "Directory nonexistent")
      fail ("cannot " ++ verb ++ stringOf r.target ++ ": " ++ why)

/-- Points descriptors elsewhere, one after another; false, with none changed, if one cannot be. -/
def redirectAll (kept : Bool) (planned : List Planned) : Action Bool := do
  let before := (← process).descriptors
  match ← outcome (planned.forM (redirect kept)) with
  | .ok _ => return true
  | .error .fault =>
    modifyProcess fun p => { p with descriptors := before }
    return false
  | .error stop => throw stop

end ImportResolver.Shell.Action

import ImportResolver.Tool.Basic
/- Reading line by line, no further ahead than it takes. -/
namespace ImportResolver.Tool

open Shell Shell.Action

/-- Lines that come from an open file. -/
structure Feed where
  descriptor : Nat
  /-- What lines end with. -/
  ending : Char := '\n'
  /-- How much is read at once from what cannot be read again. -/
  block : Nat := 4096
  /-- Lines that were read ahead, with their ends. -/
  lines : List Chars := []
  /-- The beginning of the line after them. -/
  start : Chars := []
  isDone : Bool := false

namespace Feed

def isPassing (descriptor : Nat) : Action Bool := do
  match ← openFile? descriptor with
  | some (_, f) =>
    match f.endpoint with
    | .buffer _ => return true
    | _ => return false
  | none => return false

def fill : Nat → Feed → Action (Except String Feed)
  | 0, _ => throw .exhausted
  | n + 1, f => do
    if !f.lines.isEmpty || f.isDone then return .ok f
    let size := if ← isPassing f.descriptor then f.block else blockSize
    match ← readSome? f.descriptor size with
    | none => return .error (← readFault f.descriptor)
    | some [] =>
      let lines := if f.start = [] then [] else [f.start]
      return .ok { f with lines, start := [], isDone := true }
    | some cs =>
      let runs := Text.runs f.ending (f.start ++ cs)
      fill n
        { f with
          lines := runs.dropLast.map (· ++ [f.ending])
          start := runs.getLast?.getD [] }

def next? (f : Feed) : Action (Except String (Option Chars × Feed)) := do
  match ← f.fill loopLimit with
  | .error why => return .error why
  | .ok f =>
    match f.lines with
    | [] => return .ok (none, f)
    | l :: lines => return .ok (some l, { f with lines })

def giveBack (f : Feed) : Action Unit := do
  let count := f.lines.foldl (fun n l => n + l.length) f.start.length
  if count ≠ 0 then
    if let some (number, o) ← openFile? f.descriptor then
      match o.endpoint with
      | .buffer _ => return
      | _ => setFile number { o with position := o.position - count }

/-- Hands on one line after another, until `step` has enough. What was read beyond that is given
back. -/
def each {σ : Type} (f : Feed) (s : σ) (step : σ → Chars → Action (σ × Bool)) :
    Action (Except String σ) := do
  let rec go : Nat → Feed → σ → Action (Except String σ)
    | 0, _, _ => throw .exhausted
    | n + 1, f, s => do
      match ← f.next? with
      | .error why => return .error why
      | .ok (none, _) => return .ok s
      | .ok (some l, f) =>
        let (s, goesOn) ← step s l
        if goesOn then go n f s
        else
          f.giveBack
          return .ok s
  go loopLimit f s

end Feed

def withoutEnd (ending : Char) (l : Chars) : Chars :=
  if l.getLast? = some ending then l.dropLast else l

/-- Hands on the lines of files, one after another; also says whether all could be read. -/
def overLines {σ : Type} (files : List Chars) (ending : Char) (s : σ)
    (step : σ → Chars → Action σ) : Action (σ × Bool) := do
  let mut s := s
  let mut whole := true
  for file in inputs files do
    let before := s
    let r ← withInput file fun d =>
      Feed.each { descriptor := d, ending } before fun s l => do return (← step s l, true)
    match r with
    | .ok (.ok after) => s := after
    | .ok (.error why) =>
      warnOf file why
      whole := false
    | .error why =>
      warnOf file why
      whole := false
  warnOfInput (inputs files)
  return (s, whole)

end ImportResolver.Tool

import ImportResolver.Tool.Arguments
import ImportResolver.Tool.Awk.Grammar
import ImportResolver.Tool.Awk.Table
/- The state of a program that works on records, and what it reads and writes. -/
namespace ImportResolver.Tool.Awk

open Shell Shell.Action

structure Source where
  descriptor : Nat
  child : Option Nat := none
  /-- What was read and not used yet. -/
  text : Chars := []
  isDone : Bool := false

structure Sink where
  name : Chars
  outlet : Outlet
  descriptor : Nat
  child : Option Nat := none
  /-- What was not written yet, the last first, and how much that is. -/
  pending : List Chars := []
  size : Nat := 0

/-- What a variable of a function holds: a value, or the number of a table. -/
inductive Cell where
  | value (v : Value)
  | table (number : Nat)

structure State where
  program : Program
  /-- The values of the shared variables. -/
  values : Array Value
  tables : Std.HashMap Nat Table := {}
  nextTable : Nat
  frame : Array Cell := #[]
  record : Chars := []
  /-- Whether fields changed since the record was put together. -/
  isStale : Bool := false
  fields : Array Value := #[]
  isSplit : Bool := true
  /-- How the fields of the record are kept apart. -/
  splitter : Chars := [' ']
  main : Option Source := none
  /-- The argument that is looked at next. -/
  argument : Nat := 1
  hasFile : Bool := false
  isDone : Bool := false
  sources : List (Bool × Chars × Source) := []
  sinks : List Sink := []
  /-- The rules with ranges that have begun. -/
  ranges : List Nat := []
  expressions : Std.HashMap String Regex := {}
  /-- What random numbers begin with, and how far they have come. -/
  seed : Nat := 0
  chance : Nat := 0
  status : Nat := 0

inductive Leap where
  | next
  | nextFile
  | exit
  | fault
  | leave (v : Value)
  | breaks
  | continues

abbrev Work (α : Type) := ExceptT Leap (StateT State Action) α

namespace Work

def state : Work State := getThe State

def change (f : State → State) : Work Unit := modifyThe State f

def textFormat : Work Chars := do
  match (← state).values.getD Special.textFormat .none with
  | .text cs => return cs
  | .input cs => return cs
  | _ => return "%.6g".toList

def textOf (v : Value) : Work Chars := do
  match v with
  | .text cs => return cs
  | .input cs => return cs
  | .none => return []
  | .number x => return numberText (← textFormat) x

def sharedText (n : Nat) : Work Chars := do textOf ((← state).values.getD n .none)

def sharedNumber (n : Nat) : Work Float := do
  return ((← state).values.getD n .none).toFloat

def setShared (n : Nat) (v : Value) : Work Unit :=
  change fun st => { st with values := st.values.set! n v }

def stop {α : Type} (message : Chars) : Work α := do
  warnAhead message
  change fun st => { st with status := 2 }
  throw .fault

def stopRunning {α : Type} (message : Chars) : Work α := do
  let file ← sharedText Special.fileName
  let here := decimal (← sharedNumber Special.fileRecords).toUInt64.toNat
  let all := decimal (← sharedNumber Special.records).toUInt64.toNat
  stop ("run time error: ".toList ++ message ++ "\n\tFILENAME=\"".toList ++ file ++
    "\" FNR=".toList ++ here ++ " NR=".toList ++ all)

def expressionOf (cs : Chars) : Work Regex := do
  match (← state).expressions.get? (String.ofList cs) with
  | some r => return r
  | none =>
    match compiled cs with
    | .ok r =>
      change fun st => { st with expressions := st.expressions.insert (String.ofList cs) r }
      return r
    | .error why => stop (atLine 0 ++ why)

/- Records and fields. -/

def piecesBetween (r : Regex) (cs : Chars) : List Chars :=
  if cs = [] then []
  else
    let s : Regex.Subject := { text := cs }
    let found := (r.findAll s).filter fun m => m.start < m.stop
    let (front, last) := found.foldl
      (fun (acc : List Chars × Nat) m => (Regex.between s (acc.2, m.start) :: acc.1, m.stop))
      ([], 0)
    (Regex.between s (last, cs.length) :: front).reverse

def pieces (separator : Chars) (cs : Chars) : Work (List Chars) := do
  if cs = [] then return []
  match separator with
  | [' '] =>
    let isBlank (c : Char) : Bool := c = ' ' || c = '\t' || c = '\n'
    let runs := Text.runs ' ' (cs.map fun c => if isBlank c then ' ' else c)
    return runs.filter (· ≠ [])
  | [] => return cs.map ([·])
  | [c] => return Text.runs c cs
  | separator => return piecesBetween (← expressionOf separator) cs

def setRecord (cs : Chars) : Work Unit := do
  let splitter ← sharedText Special.fieldSeparator
  change fun st => { st with record := cs, isStale := false, isSplit := false, splitter }

def split : Work Unit := do
  let st ← state
  if !st.isSplit then
    let ps ← pieces st.splitter st.record
    change fun st => { st with fields := (ps.map Value.input).toArray, isSplit := true }
    setShared Special.fieldCount (.number (Float.ofNat ps.length))

def recordText : Work Chars := do
  let st ← state
  if st.isStale then
    let separator ← sharedText Special.outputSeparator
    let texts ← st.fields.toList.mapM textOf
    let cs := (texts.intersperse separator).flatten
    change fun st => { st with record := cs, isStale := false }
    return cs
  else return st.record

def setFieldCount (n : Nat) : Work Unit := do
  split
  change fun st =>
    let fields := st.fields.take n ++ Array.replicate (n - st.fields.size) Value.none
    { st with fields, isStale := true }
  setShared Special.fieldCount (.number (Float.ofNat n))

def field (n : Nat) : Work Value := do
  if n = 0 then return .input (← recordText)
  split
  return (← state).fields.getD (n - 1) .none

def setField (n : Nat) (v : Value) : Work Unit := do
  if n = 0 then setRecord (← textOf v)
  else
    split
    if (← state).fields.size < n then setFieldCount n
    change fun st => { st with fields := st.fields.set! (n - 1) v, isStale := true }

/- Reading. -/

def block : Nat := 4096

def fill (s : Source) : Action Source := do
  match ← readSome? s.descriptor block with
  | some [] => return { s with isDone := true }
  | some cs => return { s with text := s.text ++ cs }
  | none => return { s with isDone := true }

/-- The end of a record within a text: how much of the text it takes, and where the next one
begins. None if more has to be read to find that out. -/
def recordEnd? (separator : Chars) (r : Option Regex) (isDone : Bool) (cs : Chars) :
    Option (Nat × Nat) :=
  match separator, r with
  | [], _ =>
    let rec go : Nat → Chars → Option (Nat × Nat)
      | _, [] => none
      | k, '\n' :: '\n' :: rest =>
        let gap := rest.takeWhile (· = '\n')
        if gap.length = rest.length && !isDone then none else some (k, k + 2 + gap.length)
      | k, _ :: rest => go (k + 1) rest
    go 0 cs
  | _, some r =>
    match r.find? { text := cs } 0 with
    | some m =>
      if m.start = m.stop then none
      else if m.stop = cs.length && !isDone then none
      else some (m.start, m.stop)
    | none => none
  | c :: _, none =>
    let k := (cs.takeWhile (· ≠ c)).length
    if k < cs.length then some (k, k + 1) else none

def nextRecord (separator : Chars) (r : Option Regex) : Nat → Source →
    Action (Option Chars × Source)
  | 0, _ => throw .exhausted
  | n + 1, s => do
    let text := if separator = [] then s.text.dropWhile (· = '\n') else s.text
    match recordEnd? separator r s.isDone text with
    | some (stop, next) => return (some (text.take stop), { s with text := text.drop next })
    | none =>
      if s.isDone then
        if text = [] then return (none, { s with text := [] })
        else
          let text := if separator = [] && text.getLast? = some '\n' then text.dropLast else text
          return (some text, { s with text := [] })
      else nextRecord separator r n (← fill { s with text })

def read (s : Source) : Work (Option Chars × Source) := do
  let separator ← sharedText Special.recordSeparator
  let r ← if 1 < separator.length then some <$> expressionOf separator else pure none
  liftM (nextRecord separator r loopLimit s : Action (Option Chars × Source))

/-- Gives a value to a variable, as an argument of the program asks for; false if it does not. -/
def assigns (argument : Chars) : Work Bool := do
  let (name, value) := argument.span (· ≠ '=')
  let isName := name.head?.any isNameStart && name.all isNameCharacter
  if value = [] || !isName then return false
  match (← state).program.shared.findIdx? (· = name) with
  | some n =>
    let v : Value := .input (plainText (value.drop 1))
    if n = Special.fieldCount then setFieldCount v.toFloat.toUInt64.toNat
    else setShared n v
  | none => pure ()
  return true

/-- Opens the next file among the arguments; false if there is none left. -/
def openNext : Nat → Work Bool
  | 0 => return false
  | fuel + 1 => do
    let st ← state
    let count := (← sharedNumber Special.argumentCount).toUInt64.toNat
    if count ≤ st.argument then
      if st.hasFile then return false
      change fun st => { st with hasFile := true, main := some { descriptor := 0 } }
      return true
    else
      change fun st => { st with argument := st.argument + 1 }
      let table := st.tables.getD Special.arguments {}
      let text ← textOf (table.values.getD (toString st.argument) .none)
      if text = [] then openNext fuel
      else if ← assigns text then openNext fuel
      else
        change fun st => { st with hasFile := true }
        setShared Special.fileName (.text text)
        setShared Special.fileRecords (.number zero)
        if text = ['-'] || text = "/dev/stdin".toList then
          change fun st => { st with main := some { descriptor := 0 } }
          return true
        else
          let d ← freshNumber
          match ← openInput text d with
          | .ok d =>
            change fun st => { st with main := some { descriptor := d } }
            return true
          | .error why =>
            stop ("cannot open \"".toList ++ text ++ "\" (".toList ++ why.toList ++ [')'])

def count (isMain : Bool) : Work Unit := do
  let one := Float.ofNat 1
  setShared Special.records (.number ((← sharedNumber Special.records) + one))
  if isMain then
    setShared Special.fileRecords (.number ((← sharedNumber Special.fileRecords) + one))

def nextMain : Nat → Work (Option Chars)
  | 0 => return none
  | fuel + 1 => do
    if (← state).isDone then return none
    match (← state).main with
    | none =>
      if ← openNext (fuel + 1) then nextMain fuel
      else
        change fun st => { st with isDone := true }
        return none
    | some s =>
      let (record, s) ← read s
      match record with
      | some cs =>
        change fun st => { st with main := some s }
        count true
        return some cs
      | none =>
        closeInput s.descriptor
        change fun st => { st with main := none }
        nextMain fuel

def skipFile : Work Unit := do
  if let some s := (← state).main then
    closeInput s.descriptor
    change fun st => { st with main := none }

/- Writing. -/

def writePending (s : Sink) : Action Sink := do
  if s.pending.isEmpty then return s
  let _ ← write s.descriptor s.pending.reverse.flatten
  return { s with pending := [], size := 0 }

def flushAll : Work Unit := do
  Tool.flush
  let sinks ← (← state).sinks.mapM fun s => (writePending s : Action Sink)
  change fun st => { st with sinks }

def spawnCommand (command : Chars) (standard file : Nat) : Action Nat :=
  spawn
    (fun p =>
      let kept := p.descriptors.filter fun d => d.1 < inputDescriptor
      { p with descriptors := put standard file kept })
    (.program ⟨"/bin/sh"⟩ ["/bin/sh".toList, "-c".toList, command])

def sink (name : Chars) (outlet : Outlet) : Work Sink := do
  match (← state).sinks.find? (·.name = name) with
  | some s => return s
  | none =>
    let d ← freshNumber
    let s ← match outlet with
      | .command => do
        flushAll
        let (input, output) ← (addPipe : Action (Nat × Nat))
        let child ← spawnCommand name 0 input
        setDescriptor d (some output)
        pure { name, outlet, descriptor := d, child := some child : Sink }
      | .file appends => do
        match ← openPath (pathOf name) (if appends then .append else .clobber) with
        | .ok f =>
          setDescriptor d (some (← addFile f))
          pure { name, outlet, descriptor := d : Sink }
        | .error fault =>
          stop ("cannot open \"".toList ++ name ++ "\" for output (".toList ++
            fault.reason.toList ++ [')'])
    change fun st => { st with sinks := s :: st.sinks }
    return s

def sinkSize : Nat := 4096

def emit (target : Option (Chars × Outlet)) (cs : Chars) : Work Unit := do
  match target with
  | none => Tool.print cs
  | some (name, outlet) =>
    let isOutput := name = ['-'] || name = "/dev/stdout".toList
    if outlet ≠ .command && isOutput then Tool.print cs
    else if outlet ≠ .command && name = "/dev/stderr".toList then
      let _ ← write 2 cs
    else
      let s ← sink name outlet
      let s := { s with pending := cs :: s.pending, size := s.size + cs.length }
      let s ← if sinkSize ≤ s.size then (writePending s : Action Sink) else pure s
      change fun st =>
        { st with sinks := st.sinks.map fun t => if t.name = name then s else t }

def statusOf (child : Option Nat) : Action Nat := do
  match child with
  | none => return 0
  | some number =>
    match ← waitForChild number none with
    | some (.code n) => return n
    | some (.signal n) => return 256 + n
    | none => return 0

/-- Closes what a name stands for, and answers with the status of a command. -/
def close (name : Chars) : Work (Option Nat) := do
  let st ← state
  match st.sinks.find? (·.name = name) with
  | some s =>
    change fun st => { st with sinks := st.sinks.filter (·.name ≠ name) }
    let s ← (writePending s : Action Sink)
    closeInput s.descriptor
    return some (← (statusOf s.child : Action Nat))
  | none =>
    match st.sources.find? (·.2.1 = name) with
    | some (_, _, s) =>
      change fun st => { st with sources := st.sources.filter (·.2.1 ≠ name) }
      closeInput s.descriptor
      return some (← (statusOf s.child : Action Nat))
    | none => return none

def source? (isCommand : Bool) (name : Chars) : Work (Option Source) := do
  match (← state).sources.find? fun e => e.1 = isCommand && e.2.1 = name with
  | some (_, _, s) => return some s
  | none =>
    let d ← freshNumber
    let s? ←
      if isCommand then
        flushAll
        let (input, output) ← (addPipe : Action (Nat × Nat))
        let child ← spawnCommand name 1 output
        setDescriptor d (some input)
        pure (some { descriptor := d, child := some child : Source })
      else
        let path := if name = "/dev/stdin".toList then ['-'] else name
        match ← openInput path d with
        | .ok d => pure (some { descriptor := d : Source })
        | .error _ => pure none
    if let some s := s? then
      change fun st => { st with sources := (isCommand, name, s) :: st.sources }
    return s?

def setSource (isCommand : Bool) (name : Chars) (s : Source) : Work Unit :=
  change fun st =>
    { st with
      sources := st.sources.map fun e => if e.1 = isCommand && e.2.1 = name then (e.1, e.2.1, s)
        else e }

/-- The end of a program: what was printed is written, and commands end. -/
def finish : Work Unit := do
  (← state).sinks.reverse.forM fun s => do
    let _ ← close s.name

end Work
end ImportResolver.Tool.Awk

import ImportResolver.Tool.Awk.Evaluation
/- Running a program that works on records, as its arguments ask for. -/
namespace ImportResolver.Tool

open Shell Shell.Action

namespace Awk

structure Request where
  separator : Option Chars := none
  /-- Files with the text of the program. -/
  files : List Chars := []
  assignments : List Chars := []
  operands : List Chars := []

/-- Reads the options; an answer without a request is the status at once. -/
def request : Nat → Request → List Chars → Except (Chars × Nat) Request
  | 0, r, args => .ok { r with operands := args }
  | _, r, [] => .ok r
  | n + 1, r, arg :: rest =>
    let lacking (c : Char) : Except (Chars × Nat) Request :=
      .error ("option -".toList ++ [c] ++ " lacks argument".toList, 2)
    let valued (c : Char) (cs : Chars) (put : Chars → Request) :
        Except (Chars × Nat) Request :=
      match cs, rest with
      | [], value :: rest => request n (put value) rest
      | [], [] => lacking c
      | cs, rest => request n (put cs) rest
    match arg with
    | ['-', '-'] => .ok { r with operands := rest }
    | '-' :: 'F' :: cs => valued 'F' cs fun v => { r with separator := some v }
    | '-' :: 'f' :: cs => valued 'f' cs fun v => { r with files := r.files ++ [v] }
    | '-' :: 'v' :: cs => valued 'v' cs fun v => { r with assignments := r.assignments ++ [v] }
    | '-' :: 'W' :: cs => valued 'W' cs fun _ => r
    | '-' :: '-' :: _ => request n r rest
    | '-' :: c :: _ => .error ("not an option: -".toList ++ [c], 2)
    | arg => .ok { r with operands := arg :: rest }

def initialValues (count : Nat) : Array Value :=
  let given : List (Nat × Value) :=
    [(Special.records, .number zero), (Special.fileRecords, .number zero),
      (Special.outputSeparator, .text [' ']), (Special.recordEnd, .text ['\n']),
      (Special.matchLength, .number (-(Float.ofNat 1))), (Special.matchStart, .number zero),
      (Special.keySeparator, .text [Char.ofNat 28]), (Special.fieldCount, .number zero),
      (Special.fieldSeparator, .text [' ']), (Special.recordSeparator, .text ['\n']),
      (Special.textFormat, .text "%.6g".toList), (Special.outputFormat, .text "%.6g".toList)]
  given.foldl (fun vs e => vs.set! e.1 e.2) (Array.replicate count Value.none)

/-- A table with one entry for each variable that other programs get to know of. -/
def environmentTable (known : List (Chars × Chars)) : Table :=
  known.foldl (fun t e => t.set (.text e.1) (.input e.2)) {}

def argumentTable (args : List Chars) : Table :=
  (args.zipIdx).foldl (fun t e => t.set (.whole (e.2 : Nat)) (.input e.1)) {}

def carryOut (p : Program) (r : Request) (name : Chars) (args : List Chars) : Action Nat := do
  let values := initialValues p.shared.length
  let tables : Std.HashMap Nat Table :=
    ({} : Std.HashMap Nat Table).insert Special.environment
      (environmentTable (← process).exported)
  let tables := tables.insert Special.arguments (argumentTable (name :: args))
  let start : State :=
    { program := p
      values := values.set! Special.argumentCount (.number (Float.ofNat (args.length + 1)))
      tables
      nextTable := p.shared.length
      seed := (← now).1 }
  let work : Work Unit := do
    if let some separator := r.separator then
      Work.setShared Special.fieldSeparator (.text (plainText separator))
    r.assignments.forM fun a => do
      if !(← Work.assigns a) then Work.stop ("improper assignment: -v ".toList ++ a)
    Work.runProgram
  let ended : Work Unit := tryCatch work fun _ => return
  let (_, st) ← ((do ended; Work.finish : Work Unit).run).run start
  return st.status

end Awk

open Awk in
def awk (args : List Chars) : Action Nat := do
  match request (args.length + 1) {} args with
  | .error (why, status) =>
    warn why
    return status
  | .ok r =>
    let name := (← process).name
    let shown := (name.reverse.takeWhile (· ≠ '/')).reverse
    modifyProcess fun p => { p with name := shown }
    let texts ← r.files.mapM fun file => do return (file, ← contentOf file)
    let broken := texts.findSome? fun
      | (file, .error why) => some (file, why)
      | _ => none
    match broken with
    | some (file, why) =>
      warn ("cannot open \"".toList ++ file ++ "\" (".toList ++ why.toList ++ [')'])
      return 2
    | none =>
      let fromFiles := texts.map fun
        | (_, .ok cs) => cs
        | _ => []
      let (text?, args) := match r.files, r.operands with
        | [], [] => (none, [])
        | [], text :: args => (some text, args)
        | _, args => (some ((fromFiles.intersperse ['\n']).flatten), args)
      match text? with
      | none =>
        let _ ← write 2 ("usage: ".toList ++ shown ++
          " [-F value] [-v var=value] [--] 'program text' [file...]\n".toList)
        return 2
      | some text =>
        match Program.ofText text with
        | .error why =>
          warn why
          return 2
        | .ok p => carryOut p r shown args

end ImportResolver.Tool

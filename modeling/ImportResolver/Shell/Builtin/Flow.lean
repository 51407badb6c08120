import ImportResolver.Shell.Arithmetic
import ImportResolver.Shell.Image
import ImportResolver.Shell.Jobs
import ImportResolver.Text.Affix
/- Commands of the shell that steer what is carried out next, and its options. -/
namespace ImportResolver.Shell.Builtin

open Shell.Action

def number (cs : Chars) : Action Nat := do
  match decimal? cs with
  | some n =>
    if 0 ≤ n && n < Nat.pow 2 31 then return n.toNat
    else fail ("Illegal number: " ++ stringOf cs)
  | none => fail ("Illegal number: " ++ stringOf cs)

def firstNumber? (args : List Chars) : Action (Option Nat) :=
  match args with
  | [] => return none
  | a :: _ => do return some (← number a)

def leaveLoops (stop : Nat → Stop) (args : List Chars) : Action Nat := do
  let n := (← firstNumber? args).getD 1
  if n = 0 then fail ("Illegal number: " ++ stringOf (args.headD []))
  let levels := min n (← process).loops
  if levels = 0 then return 0
  setStatus 0
  throw (stop levels)

def exit (args : List Chars) : Action Nat := do
  let given ← firstNumber? args
  let p ← process
  setStatus (given.getD (p.resumed.getD p.status))
  throw .exit

def return_ (args : List Chars) : Action Nat := do
  let given ← firstNumber? args
  setStatus (given.getD (← process).status)
  throw (.leave given.isSome)

/-- Sets the arguments; options are read from the first on. -/
def setArguments (args : List Chars) : Action Unit :=
  modifyProcess fun p => { p with arguments := args, optionIndex := 1, optionOffset := none }

def shift (args : List Chars) : Action Nat := do
  let n := (← firstNumber? args).getD 1
  let p ← process
  if p.arguments.length < n then fail "can't shift that many"
  setArguments (p.arguments.drop n)
  return 0

/-- Options with their letters. The last two have none; digits stand for them. -/
def optionNames : List (Char × String) :=
  [('e', "errexit"), ('f', "noglob"), ('I', "ignoreeof"), ('i', "interactive"), ('m', "monitor"),
   ('n', "noexec"), ('s', "stdin"), ('x', "xtrace"), ('v', "verbose"), ('V', "vi"), ('E', "emacs"),
   ('C', "noclobber"), ('a', "allexport"), ('b', "notify"), ('u', "nounset"), ('p', "privileged"),
   ('1', "nolog"), ('2', "debug")]

/-- Turns an option on or off. There are no terminals on which jobs could be controlled. -/
def changeOption (c : Char) (on : Bool) : Action Unit := do
  if on && c = 'm' then complain "can't access tty; job control turned off".toList
  else
    modifyProcess fun p =>
      let isOn (o : Char) : Bool := if o = c then on else p.options.contains o
      { p with options := (optionNames.map (·.1)).filter isOn }

/-- Turns an option on or off by its letter. Of the two kinds of line editing, one can be on. -/
def setOption (c : Char) (on : Bool) : Action Unit := do
  if !optionNames.any fun o => o.1 = c && !c.isDigit then
    fail ("Illegal option -" ++ stringOf [c])
  changeOption c on
  if on && c = 'V' then changeOption 'E' false
  if on && c = 'E' then changeOption 'V' false

def setNamedOption (name : Chars) (on : Bool) : Action Unit := do
  match optionNames.find? (·.2.toList = name) with
  | some o => changeOption o.1 on
  | none => fail ("Illegal option -o " ++ stringOf name)

def printLine (s : Chars) : Action Unit := do let _ ← output (s ++ ['\n'])

def printOptions (forPeople : Bool) : Action Unit := do
  if forPeople then printLine "Current option settings".toList
  let p ← process
  optionNames.forM fun o =>
    let name := o.2.toList
    let on := p.options.contains o.1
    if forPeople then
      printLine (name ++ List.replicate (16 - name.length) ' ' ++
        (if on then "on" else "off").toList)
    else printLine ((if on then "set -o " else "set +o ").toList ++ name)

/-- Sets the options of letters that stand together; answers with the arguments left after them. -/
def optionLetters (on : Bool) : Chars → List Chars → Action (List Chars)
  | [], args => return args
  | 'o' :: cs, [] => do
    printOptions on
    optionLetters on cs []
  | 'o' :: cs, name :: args => do
    setNamedOption name on
    optionLetters on cs args
  | c :: cs, args => do
    setOption c on
    optionLetters on cs args

/-- Sets options in front of arguments. Answers with the arguments after them, and whether
they are to be set even if there are none. -/
def options : Nat → List Chars → Action (List Chars × Bool)
  | n + 1, arg :: rest => do
    match arg with
    | ['-'] =>
      changeOption 'x' false
      changeOption 'v' false
      return (rest, false)
    | ['-', '-'] => return (rest, true)
    | '-' :: cs => options n (← optionLetters true cs rest)
    | '+' :: cs => options n (← optionLetters false cs rest)
    | _ => return (arg :: rest, false)
  | _, args => return (args, false)

/-- A text in quotes, such as can be read again: single quotes are put between double ones. -/
def quoted (cs : Chars) : Chars :=
  let rec more : Nat → Chars → Chars
    | 0, _ => []
    | n + 1, cs =>
      let (plain, rest) := cs.span (· ≠ '\'')
      let (marks, rest) := rest.span (· = '\'')
      '\'' :: plain ++ '\'' :: (if marks = [] then [] else '"' :: marks ++ ['"']) ++
        if rest = [] then [] else more n rest
  more (cs.length + 1) cs

def printVariables (lead : Chars) (vs : List (Chars × Variable)) : Action Unit :=
  (vs.mergeSort fun a b => Text.inOrder a.1 b.1).forM fun (name, v) =>
    match v.value with
    | some value => printLine (lead ++ name ++ ['='] ++ quoted value)
    | none => if lead = [] then pure () else printLine (lead ++ name)

def set (args : List Chars) : Action Nat := do
  if args.isEmpty then printVariables [] (← process).bindings
  else
    let (rest, always) ← options args.length args
    if always || !rest.isEmpty then setArguments rest
  return 0

def eval (go : Runner) (how : Manner) (args : List Chars) : Action Nat := do
  let text := (args.intersperse [' ']).flatten
  go (.source text false { how with final := false })
  return (← process).status

end ImportResolver.Shell.Builtin

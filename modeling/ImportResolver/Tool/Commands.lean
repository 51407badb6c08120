import ImportResolver.Shell.Builtin.Signals
import ImportResolver.Shell.Format
import ImportResolver.Shell.Image
import ImportResolver.Tool.Ends
/- Programs that run other programs, or wait. -/
namespace ImportResolver.Tool

open Shell Shell.Action

/-- Puts the program of a name in the place of the process. Answers with a status only if that
cannot be done; `shown` is the program in the message then. -/
def become (go : Runner) (shown command : Chars) (args : List Chars) : Action Nat := do
  let refuse (fault : Fault) : Action Nat := do
    warn (shown ++ ": ".toList ++ fault.reason.toList)
    return if fault = .notFound then 127 else 126
  let fs ← fileSystem
  let listed := ((← process).value? "PATH".toList).getD "/bin:/usr/bin".toList
  match programIn fs listed command with
  | .error .notFound =>
    refuse (match command.contains '/', fs.node (pathOf command) with
      | true, .error fault => fault
      | _, _ => .notFound)
  | .error .denied => refuse .permissionDenied
  | .ok path =>
    match Image.ofPath fs Image.depth path (command :: args) with
    | .error .notExecutable => pure ()
    | .error fault => return ← refuse fault
    | .ok _ => pure ()
    flush
    go (.program (pathOf path) (command :: args))
    return 126

def failedToRun (command : Chars) : Chars := "failed to run command ".toList ++ inQuotes command

def shellWords : Nat → Chars → Chars → Bool → Option (List Chars)
  | 0, _, _, _ => none
  | _ + 1, [], word, started => some (if started then [word.reverse] else [])
  | n + 1, c :: cs, word, started =>
    if c = '\'' || c = '"' then
      match cs.span (· ≠ c) with
      | (text, _ :: rest) => shellWords n rest (text.reverse ++ word) true
      | (_, []) => none
    else if c = '\\' then
      match cs with
      | d :: rest => shellWords n rest (d :: word) true
      | [] => none
    else if Arithmetic.isSpace c then
      let rest := shellWords n cs [] false
      if started then rest.map (word.reverse :: ·) else rest
    else shellWords n cs (c :: word) true

def cutWords (cs : Chars) : Option (List Chars) := shellWords (cs.length + 1) cs [] false

/-- Prints what other programs get to know of the variables, or runs one with other variables. -/
def env (go : Runner) (args : List Chars) : Action Nat := do
  let known : Known :=
    { flags := "i0v", valued := "uCS", anywhere := false
      long := [("ignore-environment", 'i'), ("unset", 'u'), ("chdir", 'C'), ("split-string", 'S'),
        ("null", '0'), ("debug", 'v')] }
  let splitters : List Chars := ["-S".toList, "-vS".toList, "--split-string=".toList]
  let args : List Chars :=
    match args with
    | first :: rest =>
      match splitters.find? fun s => s.isPrefixOf first with
      | none => args
      | some s =>
        match first.drop s.length, rest with
        | [], text :: rest => (cutWords text).getD [] ++ rest
        | text, rest => (cutWords text).getD [] ++ rest
    | [] => []
  withArguments known 125 args fun a => do
    let operands := if a.operands.head? = some ['-'] then a.operands.drop 1 else a.operands
    let cleared := a.has 'i' || a.operands.head? = some ['-']
    let exported := (← process).exported
    let inherited := if cleared then [] else exported
    let unset := (a.options.filter (·.1 = 'u')).map (·.2)
    if let some name := unset.find? fun n => n = [] || n.contains '=' then
      warn ("cannot unset ".toList ++ inQuotes name ++ ": Invalid argument".toList)
      return 125
    let isAssignment (cs : Chars) : Bool := cs.contains '='
    let given := (operands.takeWhile isAssignment).map fun cs =>
      let (name, value) := cs.span (· ≠ '=')
      (name, value.drop 1)
    let rest := operands.dropWhile isAssignment
    let all := given.foldl
      (fun vs (name, value) =>
        if vs.any (·.1 = name) then vs.map fun v => if v.1 = name then (name, value) else v
        else vs ++ [(name, value)])
      (inherited.filter fun v => !unset.contains v.1)
    let ending := if a.has '0' then Char.ofNat 0 else '\n'
    match rest with
    | [] =>
      if a.has 'C' then return ← misused known 125 "must specify command with --chdir (-C)".toList
      all.forM fun (name, value) => print (name ++ '=' :: value ++ [ending])
      return 0
    | command :: args =>
      if a.has '0' then
        return ← misused known 125 "cannot specify --null (-0) with command".toList
      modifyProcess fun p =>
        { p with
          bindings := all.map fun (name, value) =>
            (name, { value := some value, exported := true }) }
      match a.value? 'C' with
      | none => become go (inQuotes command) command args
      | some directory =>
        let fs ← fileSystem
        match fs.locate (pathOf directory) true with
        | .ok loc =>
          if (fs.tree.get? loc).any FileSystem.Node.isDirectory then
            setFileSystem { fs with cwd := loc }
            become go (inQuotes command) command args
          else
            warn ("cannot change directory to ".toList ++ quotedFully directory ++
              ": Not a directory".toList)
            return 125
        | .error fault =>
          warn ("cannot change directory to ".toList ++ quotedFully directory ++ ": ".toList ++
            fault.reason.toList)
          return 125

def printenv (args : List Chars) : Action Nat :=
  withArguments { flags := "0", long := [("null", '0')] } 2 args fun a => do
    let all := (← process).exported
    let ending := if a.has '0' then Char.ofNat 0 else '\n'
    if a.operands.isEmpty then
      all.forM fun (name, value) => print (name ++ '=' :: value ++ [ending])
      return 0
    let found := a.operands.map fun name => (all.find? (·.1 = name)).map (·.2)
    found.forM fun v => match v with
      | some v => print (v ++ [ending])
      | none => return
    return failed (!found.any Option.isNone)

/-- Runs a program in a process of its own; `input` is what it reads, if that is not what this
process reads. -/
def runChild (input : Option Nat) (shown command : Chars) (args : List Chars) :
    Action ExitStatus := do
  flush
  let child ← spawn
    (fun p =>
      match input with
      | some file => { p with descriptors := put 0 file p.descriptors }
      | none => p)
    (.named shown command args)
  return (← waitForChild child none).getD (.code 0)

def emptyInput : Action Nat := do
  let input ← addFile { endpoint := .device .null, canRead := true, canWrite := false }
  hold input
  return input

/-- A time in microseconds, as it is written with a letter for the unit. -/
def interval? (cs : Chars) : Option (Option Nat) :=
  match Floating.ofText? cs with
  | some (v, rest, _) =>
    let unit? : Option Nat :=
      match rest with
      | [] => some 1
      | ['s'] => some 1
      | ['m'] => some 60
      | ['h'] => some 3600
      | ['d'] => some 86400
      | _ => none
    match v, unit? with
    | .finite false m e, some unit =>
      let (n, d) := Floating.quotient m e
      some (some ((n * unit * 1000000 + d - 1) / d))
    | .finite true 0 _, some _ => some (some 0)
    | .infinite false, some _ => some none
    | _, _ => none
  | none => none

def never : Nat := Nat.pow 10 18

def invalidInterval (cs : Chars) : Chars := "invalid time interval ".toList ++ inQuotes cs

def sleep (args : List Chars) : Action Nat :=
  let known : Known := { flags := "" }
  withArguments known 1 args fun a => do
    if a.operands.isEmpty then return ← misused known 1 "missing operand".toList
    match a.operands.filter fun cs => (interval? cs).isNone with
    | [] =>
      let times := a.operands.filterMap interval?
      let total := times.foldl (fun n t => n + t.getD never) 0
      await (.time ((← process).clock + total)) false
      return 0
    | wrong =>
      wrong.dropLast.forM fun cs => warn (invalidInterval cs)
      misused known 1 (invalidInterval (wrong.getLastD []))

namespace TimeLimit

def sendAll (signal leader child : Nat) (alone : Bool) : Action Unit := do
  let _ ← send signal child
  if !alone then
    let others := (← get).alive.filter fun p =>
      p.group = leader && p.number ≠ leader && p.number ≠ child
    others.forM fun p => do
      let _ ← send signal p.number
    if signal = 9 then throw (.killed 9)

def known : Known :=
  { flags := "vfp", valued := "ks", anywhere := false
    long := [("verbose", 'v'), ("foreground", 'f'), ("preserve-status", 'p'), ("kill-after", 'k'),
      ("signal", 's')] }

end TimeLimit

open TimeLimit in
def timeout (args : List Chars) : Action Nat :=
  withArguments known 125 args fun a => do
    let signal? := match a.value? 's' with
      | none => some 15
      | some cs => Builtin.signal? 1 (if "SIG".toList.isPrefixOf cs then cs.drop 3 else cs)
    let grace? := match a.value? 'k' with
      | none => some none
      | some cs => interval? cs
    match signal?, grace?, a.operands with
    | none, _, _ =>
      misused known 125 (inQuotes ((a.value? 's').getD []) ++ ": invalid signal".toList)
    | _, none, _ => misused known 125 (invalidInterval ((a.value? 'k').getD []))
    | some signal, some grace, limit :: command :: args =>
      match interval? limit with
      | none => misused known 125 (invalidInterval limit)
      | some limit =>
        let alone := a.has 'f'
        let leader := (← process).number
        if !alone then modifyProcess fun p => { p with group := leader }
        let child ← spawn id (.named (failedToRun command) command args)
        let now := (← process).clock
        let deadline := limit.bind fun t => if t = 0 then none else some (now + t)
        let say (signal : Nat) : Action Unit :=
          if a.has 'v' then
            warn ("sending signal ".toList ++ Builtin.signalName signal ++ " to command ".toList ++
              inQuotes command)
          else return
        match ← waitForChild child deadline with
        | some (.code n) => return n
        | some (.signal n) => throw (.killed n)
        | none =>
          say signal
          sendAll signal leader child alone
          let now := (← process).clock
          let later := grace.bind fun t => if t = 0 then none else some (now + t)
          let ended ←
            match ← waitForChild child later with
            | some status => pure status
            | none => do
              say 9
              sendAll 9 leader child alone
              pure ((← waitForChild child none).getD (.code 0))
          return if a.has 'p' || ended matches .signal 9 then ended.number else 124
    | _, _, _ =>
      explain known
      return 125

def nohup (go : Runner) (args : List Chars) : Action Nat :=
  let known : Known := { flags := "", anywhere := false }
  withArguments known 125 args fun a => do
    match a.operands with
    | [] => misused known 125 "missing operand".toList
    | command :: args =>
      modifyProcess fun p => { p with deaf := 1 :: p.deaf }
      become go (failedToRun command) command args

def setsid (go : Runner) (args : List Chars) : Action Nat :=
  let known : Known :=
    { flags := "cfw", anywhere := false
      long := [("ctty", 'c'), ("fork", 'f'), ("wait", 'w')] }
  withArguments known 1 args fun a => do
    match a.operands with
    | [] => misused known 1 "no command specified".toList
    | command :: args => become go ("failed to execute ".toList ++ command) command args

def nice (go : Runner) (args : List Chars) : Action Nat :=
  let known : Known :=
    { flags := "", valued := "n", anywhere := false, long := [("adjustment", 'n')] }
  let args :=
    match args with
    | ('-' :: c :: cs) :: rest =>
      let number := if c = '-' || c = '+' then cs else c :: cs
      if number ≠ [] && number.all Char.isDigit then ['-', 'n'] :: (c :: cs) :: rest else args
    | args => args
  withArguments known 125 args fun a => do
    let integer? (cs : Chars) : Option Int :=
      match cs with
      | '-' :: ds => (natural? ds).map fun n => -(n : Int)
      | '+' :: ds => (natural? ds).map fun n => (n : Int)
      | ds => (natural? ds).map fun n => (n : Int)
    match integer? ((a.value? 'n').getD ['1', '0']), a.operands with
    | none, _ =>
      warn ("invalid adjustment ".toList ++ inQuotes ((a.value? 'n').getD []))
      return 125
    | some _, [] =>
      if a.has 'n' then
        return ← misused known 125 "a command must be given with an adjustment".toList
      printLine (toString (← process).niceness).toList
      return 0
    | some n, command :: args =>
      modifyProcess fun p => { p with niceness := max (-20) (min 19 (p.niceness + n)) }
      become go (inQuotes command) command args

namespace Batches

def replacedText (mark new : Chars) : Nat → Chars → Chars
  | 0, cs => cs
  | _ + 1, [] => []
  | n + 1, c :: cs =>
    if mark ≠ [] && mark.isPrefixOf (c :: cs) then
      new ++ replacedText mark new n ((c :: cs).drop mark.length)
    else c :: replacedText mark new n cs

abbrev Item := Chars × Bool

/-- Cuts a text into words between blanks, or into lines. Answers also with the quote that is not
closed, if there is one. `word` is the word that has begun, the last character first. -/
def items (byLines : Bool) : Nat → Option Chars → Chars → List Item × Option Char
  | 0, _, _ => ([], none)
  | _, word, [] => ((word.map fun w => (w.reverse, true)).toList, none)
  | n + 1, word, c :: cs =>
    let isGap := c = '\n' || !byLines && (c = ' ' || c = '\t')
    if isGap then
      match word with
      | some w =>
        let (more, open_) := items byLines n none cs
        ((w.reverse, c = '\n') :: more, open_)
      | none => items byLines n none cs
    else if byLines && word.isNone && (c = ' ' || c = '\t') then items byLines n none cs
    else if c = '\'' || c = '"' then
      match cs.span fun d => d ≠ c && d ≠ '\n' with
      | (text, d :: rest) =>
        if d = c then items byLines n (some (text.reverse ++ word.getD [])) rest
        else ([], some c)
      | (_, []) => ([], some c)
    else if c = '\\' then
      match cs with
      | d :: rest => items byLines n (some (d :: word.getD [])) rest
      | [] => items byLines n (some (word.getD [])) []
    else items byLines n (some (c :: word.getD [])) cs

structure Limits where
  words : Option Nat
  lines : Option Nat
  characters : Nat
  /-- What the command takes without them. -/
  base : Nat

/-- Cuts words into batches. `begun` is the batch that has begun, the last word first. -/
def batched (l : Limits) : List Item → List Chars → Nat → Nat → List (List Chars)
  | [], [], _, _ => []
  | [], begun, _, _ => [begun.reverse]
  | (w, ends) :: rest, begun, size, lines =>
    let needed := size + w.length + 1
    if begun ≠ [] && l.characters < l.base + needed then
      begun.reverse ::
        (if l.lines = some 1 && ends || l.words = some 1 then [w] :: batched l rest [] 0 0
        else batched l rest [w] (w.length + 1) (if ends then 1 else 0))
    else
      let lines := if ends then lines + 1 else lines
      let isFull := l.words.any (· ≤ begun.length + 1) || l.lines.any (· ≤ lines)
      if isFull then (w :: begun).reverse :: batched l rest [] 0 0
      else batched l rest (w :: begun) needed lines

def known : Known :=
  { flags := "0rtxpow", valued := "nILPdsaEv", free := "eil", anywhere := false
    long := [("null", '0'), ("no-run-if-empty", 'r'), ("max-args", 'n'), ("replace", 'i'),
      ("delimiter", 'd'), ("max-lines", 'l'), ("max-procs", 'P'), ("verbose", 't'),
      ("arg-file", 'a'), ("eof", 'e'), ("max-chars", 's'), ("exit", 'x'), ("interactive", 'p'),
      ("show-limits", 'w'), ("open-tty", 'o'), ("process-slot-var", 'v')] }

/-- The mark that stands for a line, if lines are put into the command one at a time. -/
def mark? (a : Arguments) : Option Chars :=
  match a.last? ['I', 'i'] with
  | some 'i' => some (match a.value? 'i' with
    | some [] => ['\x7b', '\x7d']
    | some cs => cs
    | none => ['\x7b', '\x7d'])
  | some _ => a.value? 'I'
  | none => none

end Batches

open Batches in
def xargs (args : List Chars) : Action Nat :=
  withArguments known 1 args fun a => do
    let number (letter : Char) : Except Chars (Option Nat) :=
      match a.value? letter with
      | none => .ok none
      | some cs =>
        match natural? cs with
        | some n =>
          if n = 0 && letter ≠ 'P' then
            .error ("value ".toList ++ cs ++ " for -".toList ++ [letter] ++
              " option should be >= 1".toList)
          else .ok (some n)
        | none =>
          .error ("invalid number \"".toList ++ cs ++ "\" for -".toList ++ [letter] ++
            " option".toList)
    let numbers := ['n', 'L', 's', 'P'].mapM number
    match numbers with
    | .error why => misused known 1 why
    | .ok numbers =>
      let given : Except String Chars ←
        match a.value? 'a' with
        | some file => contentOf file
        | none => contentOf ['-']
      match given with
      | .error why =>
        let file := (a.value? 'a').getD ['-']
        warn ("Cannot open input file ".toList ++ inQuotes file ++ ": ".toList ++ why.toList)
        return 1
      | .ok text =>
        let delimiter? := if a.has '0' then some (Char.ofNat 0) else (a.value? 'd').bind fun d =>
          match d with
          | '\\' :: cs => some (escape cs).1
          | c :: _ => some c
          | [] => none
        let mark := mark? a
        let (all, open_) : List Item × Option Char :=
          match delimiter? with
          | some d =>
            let runs := Text.runs d text
            ((if runs.getLast? = some [] then runs.dropLast else runs).map (·, true), none)
          | none => items mark.isSome (text.length + 1) none text
        let stopWord := match a.last? ['E', 'e'] with
          | some 'E' => a.value? 'E'
          | some _ => a.value? 'e'
          | none => none
        let all := match stopWord with
          | some w => if w = [] then all else all.takeWhile (·.1 ≠ w)
          | none => all
        let command := a.operands.headD "echo".toList
        let fixed := a.operands.drop 1
        let fullLines := match a.last? ['L', 'l'] with
          | some 'L' => numbers.getD 1 none
          | some _ => some (((a.value? 'l').bind natural?).getD 1)
          | none => none
        let limits : Limits :=
          { words := numbers.getD 0 none
            lines := fullLines
            characters := (numbers.getD 2 none).getD 131072
            base := ((command :: fixed).map fun w => w.length + 1).foldl (· + ·) 0 }
        let batches : List (List Chars) :=
          match mark with
          | some mark => all.map fun item =>
            fixed.map fun x => replacedText mark item.1 (x.length + 1) x
          | none => (batched limits all [] 0 0).map (fixed ++ ·)
        let batches :=
          if open_.isSome && mark.isNone then batches.dropLast
          else if batches.isEmpty && !a.has 'r' && mark.isNone then [fixed]
          else batches
        let input ← if a.has 'a' then pure none else do pure (some (← emptyInput))
        let rec each (status : Nat) : List (List Chars) → Action Nat
          | [] => return status
          | call :: rest => do
            if a.has 't' then
              let _ ← write 2 ((((command :: call).map quoted).intersperse [' ']).flatten ++ ['\n'])
            match ← runChild input command command call with
            | .code 0 => each status rest
            | .code 255 =>
              warn (command ++ ": exited with status 255; aborting".toList)
              return 124
            | .code n => if n = 126 || n = 127 then return n else each 123 rest
            | .signal n =>
              warn (command ++ ": terminated by signal ".toList ++ decimal n)
              return 125
        let status ← each 0 batches
        match open_ with
        | some c =>
          warn ("unmatched ".toList ++ (if c = '"' then "double" else "single").toList ++
            " quote; by default quotes are special to xargs unless you use the -0 option".toList)
          return 1
        | none => return status

end ImportResolver.Tool

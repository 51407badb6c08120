import ImportResolver.Tool.Commands
import ImportResolver.Tool.Modes
import ImportResolver.Tool.RegexReader
/- Walking through directories. -/
namespace ImportResolver.Tool

open Shell Shell.Action

namespace Finding

/-- How a number is compared with one that is given. -/
structure Amount where
  sign : Ordering
  number : Nat

def Amount.admits (a : Amount) (n : Nat) : Bool := compare n a.number = a.sign

/-- What is asked about a file, or done with it. -/
inductive Test where
  | name (p : Pattern) (ignoresCase : Bool)
  | path (p : Pattern) (ignoresCase : Bool)
  | aim (p : Pattern) (ignoresCase : Bool)
  | regex (r : Regex) (ignoresCase : Bool)
  | kind (cs : List Char) (through : Bool)
  | empty
  | constant (b : Bool)
  /-- Whether it changed later than that. -/
  | newer (time : Int)
  /-- How many of these units ago it changed, in microseconds. -/
  | age (unit : Nat) (a : Amount)
  | size (unit : Nat) (a : Amount)
  | permission (mark : Char) (mode : Nat)
  | grants (bit : Nat)
  | links (a : Amount)
  | same (loc : FileSystem.Location)
  | print (terminator : Char)
  | format (cs : Chars)
  | list
  | prune
  | quit
  | remove
  | command (words : List Chars) (inPlace asks : Bool)
  /-- A command that gets many names at once, and its number. -/
  | collected (number : Nat) (words : List Chars)
  | negation (t : Test)
  | both (s t : Test)
  | either (s t : Test)
  | series (s t : Test)

structure Limits where
  least : Nat := 0
  most : Option Nat := none
  deepFirst : Bool := false
  /-- How many commands get many names at once. -/
  collections : Nat := 0
  extended : Bool := false

structure Input where
  words : List Chars
  limits : Limits := {}

/-- What is known while an expression is read. -/
structure Setting where
  fs : FileSystem
  timeOf : FileSystem.Location → Int

abbrev Parsing (α : Type) := StateT Input (Except Chars) α

def next? : Parsing (Option Chars) := do
  match (← get).words with
  | [] => return none
  | a :: rest =>
    modify fun st => { st with words := rest }
    return some a

def peek? : Parsing (Option String) := do return ((← get).words.head?).map String.ofList

def inMarks (cs : Chars) : Chars := '\x60' :: cs ++ ['\'']

def refuse {α : Type} (lead : String) (word : Chars) : Parsing α :=
  throw (lead.toList ++ inMarks word)

def argument (of : Chars) : Parsing Chars := do
  match ← next? with
  | some s => return s
  | none => refuse "missing argument to " of

def glob (cs : Chars) : Pattern := Pattern.ofGlyphs (cs.map fun c => ⟨c, false⟩)

/-- Reads a number, perhaps with a sign that asks for more or less, and what comes after it. -/
def amount? (cs : Chars) : Option (Amount × Chars) :=
  let (sign, cs) := match cs with
    | '+' :: rest => (Ordering.gt, rest)
    | '-' :: rest => (Ordering.lt, rest)
    | _ => (Ordering.eq, cs)
  let (digits, rest) := cs.span Char.isDigit
  (natural? digits).map fun n => (⟨sign, n⟩, rest)

def amount (of : Chars) : Parsing Amount := do
  let cs ← argument of
  match amount? cs with
  | some (a, []) => return a
  | _ => throw ("invalid argument ".toList ++ inMarks cs ++ " to ".toList ++ inMarks of)

def unitOf? : Chars → Option Nat
  | [] => some 512
  | ['b'] => some 512
  | ['c'] => some 1
  | ['w'] => some 2
  | ['k'] => some 1024
  | ['M'] => some (1024 * 1024)
  | ['G'] => some (1024 * 1024 * 1024)
  | _ => none

def setLimits (f : Limits → Limits) : Parsing Unit :=
  modify fun st => { st with limits := f st.limits }

def commandWords (of : Chars) : Parsing (List Chars × Bool) := do
  let words := (← get).words
  let isEnd (i : Nat) (a : Chars) : Bool :=
    a = [';'] || a = ['+'] && 0 < i && words[i - 1]? = some ['\x7b', '\x7d']
  match (words.zipIdx.find? fun e => isEnd e.2 e.1) with
  | none => refuse "missing argument to " of
  | some (mark, i) =>
    modify fun st => { st with words := words.drop (i + 1) }
    if i = 0 then refuse "missing argument to " of
    return (words.take i, mark = ['+'])

def timeAt (s : Setting) (p : Chars) : Parsing Int := do
  match s.fs.locate (pathOf p) true with
  | .ok loc =>
    if (s.fs.tree.get? loc).isNone then
      throw (quotedFully p ++ ": ".toList ++ Fault.notFound.reason.toList)
    return s.timeOf loc
  | .error fault => throw (quotedFully p ++ ": ".toList ++ fault.reason.toList)

def number (of : Chars) : Parsing Nat := do
  let cs ← argument of
  match natural? cs with
  | some n => return n
  | none =>
    throw ("Expected a positive decimal integer argument to ".toList ++ of ++
      ", but got ".toList ++ quotedFully cs)

def kinds (of : Chars) : Parsing (List Char) := do
  let cs ← argument of
  let letters := Text.runs ',' cs
  match letters.find? fun l => l.length ≠ 1 || !l.all "bcdpflsD".toList.contains with
  | none => return letters.flatten
  | some (c :: _ :: _) =>
    throw ("Must separate multiple arguments to ".toList ++ of ++ " using: ','".toList |>
      fun m => if "bcdpflsD".toList.contains c then m
        else "Unknown argument to ".toList ++ of ++ ": ".toList ++ [c])
  | some _ => throw ("Unknown argument to ".toList ++ of ++ ": ".toList ++ cs)

mutual

def listing (s : Setting) : Nat → Parsing Test
  | 0 => throw "the expression is too deep".toList
  | n + 1 => do
    let t ← alternatives s n
    match ← peek? with
    | some "," =>
      let _ ← next?
      return .series t (← listing s n)
    | _ => return t

def alternatives (s : Setting) : Nat → Parsing Test
  | 0 => throw "the expression is too deep".toList
  | n + 1 => do
    let t ← conjunction s n
    match ← peek? with
    | some "-o" | some "-or" =>
      let _ ← next?
      return .either t (← alternatives s n)
    | _ => return t

def conjunction (s : Setting) : Nat → Parsing Test
  | 0 => throw "the expression is too deep".toList
  | n + 1 => do
    let t ← primary s n
    match ← peek? with
    | none | some "-o" | some "-or" | some ")" | some "," => return t
    | some "-a" | some "-and" =>
      let _ ← next?
      return .both t (← conjunction s n)
    | some _ => return .both t (← conjunction s n)

def primary (s : Setting) : Nat → Parsing Test
  | 0 => throw "the expression is too deep".toList
  | n + 1 => do
    match ← next? with
    | none => throw "expected an expression".toList
    | some word =>
      let pattern (ignoresCase : Bool) : Parsing Pattern := do
        let cs ← argument word
        return glob (if ignoresCase then cs.map Char.toLower else cs)
      let skip : Parsing Test := return .constant true
      match String.ofList word with
      | "(" =>
        if (← peek?) = some ")" then
          throw "invalid expression; empty parentheses are not allowed.".toList
        let t ← listing s n
        if (← next?) ≠ some [')'] then
          throw ("invalid expression; I was expecting to find a ')' somewhere but did not " ++
            "see one.").toList
        return t
      | ")" => throw "invalid expression; you have too many ')'".toList
      | "!" | "-not" => return .negation (← primary s n)
      | "-name" => return .name (← pattern false) false
      | "-iname" => return .name (← pattern true) true
      | "-path" | "-wholename" => return .path (← pattern false) false
      | "-ipath" | "-iwholename" => return .path (← pattern true) true
      | "-lname" => return .aim (← pattern false) false
      | "-ilname" => return .aim (← pattern true) true
      | "-regex" | "-iregex" =>
        let cs ← argument word
        let extended := (← get).limits.extended
        match Regex.ofText { extended } cs with
        | .ok r => return .regex r (word = "-iregex".toList)
        | .error why => throw ("failed to compile regular expression ".toList ++
            quotedFully cs ++ ": ".toList ++ why.toList)
      | "-regextype" =>
        let kind ← argument word
        let extended := ["posix-extended", "egrep", "posix-egrep", "awk", "gnu-awk",
          "posix-awk"].contains (String.ofList kind)
        setLimits fun l => { l with extended }
        skip
      | "-type" => return .kind (← kinds word) false
      | "-xtype" => return .kind (← kinds word) true
      | "-empty" => return .empty
      | "-true" => return .constant true
      | "-false" => return .constant false
      | "-newer" | "-anewer" | "-cnewer" => return .newer (← timeAt s (← argument word))
      | "-mtime" | "-atime" | "-ctime" => return .age 86400000000 (← amount word)
      | "-mmin" | "-amin" | "-cmin" => return .age 60000000 (← amount word)
      | "-size" =>
        let cs ← argument word
        match amount? cs with
        | some (a, unit) =>
          match unitOf? unit with
          | some unit => return .size unit a
          | none => throw ("invalid -size type ".toList ++ inMarks unit)
        | none => throw ("Invalid argument ".toList ++ inMarks cs ++ " to -size".toList)
      | "-perm" =>
        let cs ← argument word
        let (mark, text) := match cs with
          | '-' :: rest => ('-', rest)
          | '/' :: rest => ('/', rest)
          | _ => ('=', cs)
        match FileSystem.Permission.changed? 0 false 0 text with
        | some mode => return .permission mark mode
        | none => throw ("invalid mode ".toList ++ quotedFully cs)
      | "-readable" => return .grants 0o400
      | "-writable" => return .grants 0o200
      | "-executable" => return .grants 0o100
      | "-links" => return .links (← amount word)
      | "-samefile" =>
        let p ← argument word
        match s.fs.locate (pathOf p) true with
        | .ok loc => return .same loc
        | .error fault => throw (quotedFully p ++ ": ".toList ++ fault.reason.toList)
      | "-user" | "-group" | "-uid" | "-gid" | "-fstype" | "-used" | "-inum" =>
        let _ ← argument word
        skip
      | "-nouser" | "-nogroup" => return .constant false
      | "-noleaf" | "-xdev" | "-mount" | "-follow" | "-daystart" | "-warn" | "-nowarn"
      | "-ignore_readdir_race" | "-noignore_readdir_race" => skip
      | "-print" => return .print '\n'
      | "-print0" => return .print (Char.ofNat 0)
      | "-printf" => return .format (← argument word)
      | "-ls" => return .list
      | "-prune" => return .prune
      | "-quit" => return .quit
      | "-delete" =>
        setLimits fun l => { l with deepFirst := true }
        return .remove
      | "-depth" | "-d" =>
        setLimits fun l => { l with deepFirst := true }
        skip
      | "-maxdepth" =>
        let k ← number word
        setLimits fun l => { l with most := some k }
        skip
      | "-mindepth" =>
        let k ← number word
        setLimits fun l => { l with least := k }
        skip
      | "-exec" | "-execdir" | "-ok" | "-okdir" =>
        let (words, many) ← commandWords word
        if many && (word = "-exec".toList || word = "-execdir".toList) then
          let number := (← get).limits.collections
          setLimits fun l => { l with collections := number + 1 }
          return .collected number words.dropLast
        else
          return .command words (word.getLast? = some 'r')
            (word = "-ok".toList || word = "-okdir".toList)
      | _ =>
        if word.head? = some '-' then refuse "unknown predicate " word
        else throw ("paths must precede expression: ".toList ++ inMarks word)

end

def Test.acts : Test → Bool
  | .print _ | .format _ | .list | .remove | .command .. | .collected .. => true
  | .negation t => t.acts
  | .both s t | .either s t | .series s t => s.acts || t.acts
  | _ => false

structure Progress where
  status : Nat := 0
  finished : Bool := false
  /-- Names for commands that get many at once, the last ones first. -/
  collected : List (Nat × List Chars) := []

abbrev Walk (α : Type) := StateT Progress Action α

def failing : Walk Unit := modify fun (st : Progress) => { st with status := 1 }

def isFinished : Walk Bool := do return (← getThe Progress).finished

/-- The names for a command that gets many at once, the last one first. -/
def namesFor (number : Nat) : Walk (List Chars) := do
  return (((← getThe Progress).collected.find? (·.1 = number)).map (·.2)).getD []

structure Sight where
  path : Chars
  start : Chars
  depth : Nat
  location : FileSystem.Location
  node : FileSystem.Node
  time : Int

def directive (s : Sight) (c : Char) : Option Chars :=
  match c with
  | '%' => some ['%']
  | 'p' => some s.path
  | 'f' => some (if s.depth = 0 && s.path = ['/'] then s.path else lastName s.path)
  | 'h' => some (if s.path.contains '/' then
      let front := (s.path.reverse.dropWhile (· ≠ '/')).drop 1 |>.reverse
      front
    else ['.'])
  | 'P' => some ((s.path.drop s.start.length).dropWhile (· = '/'))
  | 'H' => some s.start
  | 'd' => some (decimal s.depth)
  | 'y' => some [match Modes.kindLetter s.node with
    | '-' => 'f'
    | c => c]
  | 'm' => some (Nat.toDigits 8 s.node.mode)
  | 'M' => some (Modes.kindLetter s.node :: Modes.rights s.node.mode)
  | 's' => some (decimal (match s.node with
    | .file bytes _ => bytes.length
    | .directory _ => 4096
    | .link target => target.utf8ByteSize
    | _ => 0))
  | 'l' => some (match s.node with
    | .link target => charsOf target
    | _ => [])
  | 'n' => some ['1']
  | 'u' => some "root".toList
  | 'g' => some "root".toList
  | 'U' => some ['0']
  | 'G' => some ['0']
  | _ => none

def formatted (s : Sight) : Nat → Chars → Chars
  | 0, cs => cs
  | _, [] => []
  | n + 1, '%' :: c :: rest =>
    match directive s c with
    | some cs => cs ++ formatted s n rest
    | none => '%' :: c :: formatted s n rest
  | n + 1, '\\' :: c :: rest =>
    match c with
    | 'n' => '\n' :: formatted s n rest
    | 't' => '\t' :: formatted s n rest
    | 'r' => '\r' :: formatted s n rest
    | '\\' => '\\' :: formatted s n rest
    | 'c' => []
    | c =>
      if '0' ≤ c && c ≤ '7' then
        let digits := (c :: rest).takeWhile FileSystem.Permission.isOctal |>.take 3
        Char.ofNat (Arithmetic.numeral 8 digits % 256) ::
          formatted s n ((c :: rest).drop digits.length)
      else '\\' :: c :: formatted s n rest
  | n + 1, c :: rest => c :: formatted s n rest

def filled (words : List Chars) (path : Chars) : List Chars :=
  words.map fun w => Batches.replacedText ['\x7b', '\x7d'] path (w.length + 1) w

def runCollected (words names : List Chars) : Walk Unit := do
  let command := words.headD []
  match ← runChild none (inQuotes command) command (words.drop 1 ++ names) with
  | .code 0 => return
  | _ => failing

def isEmptyNode (fs : FileSystem) (loc : FileSystem.Location) : FileSystem.Node → Bool
  | .file bytes _ => bytes.isEmpty
  | .directory _ => isEmptyDirectory fs loc
  | _ => false

def sizeOf : FileSystem.Node → Nat
  | .file bytes _ => bytes.length
  | .directory _ => 4096
  | .link target => target.utf8ByteSize
  | _ => 0

/-- Carries out a test; also says whether the walk is not to go below the file. -/
def Test.run (s : Sight) (t : Test) : Walk (Bool × Bool) := do
  if ← isFinished then return (true, true)
  match t with
  | .name p ignoresCase =>
    let name := lastName s.path
    return (p.matches? (if ignoresCase then name.map Char.toLower else name), false)
  | .path p ignoresCase =>
    return (p.matches? (if ignoresCase then s.path.map Char.toLower else s.path), false)
  | .aim p ignoresCase =>
    match s.node with
    | .link target =>
      let cs := charsOf target
      return (p.matches? (if ignoresCase then cs.map Char.toLower else cs), false)
    | _ => return (false, false)
  | .regex r ignoresCase =>
    let subject : Regex.Subject := { text := s.path, ignoresCase }
    let whole := r.longestAt subject true { before := none, rest := s.path, position := 0 }
    return (whole.any fun m => m.stop = s.path.length, false)
  | .kind cs through =>
    let fs ← fileSystem
    let n := match s.node, through with
      | .link _, true => (fs.node? (pathOf s.path)).getD s.node
      | n, _ => n
    let letter := match Modes.kindLetter n with
      | '-' => 'f'
      | c => c
    return (cs.contains letter, false)
  | .empty => return (isEmptyNode (← fileSystem) s.location s.node, false)
  | .constant b => return (b, false)
  | .newer time => return (time < s.time, false)
  | .age unit a =>
    let clock : Int := (← process).clock
    return (a.admits ((clock - s.time).toNat / unit), false)
  | .size unit a => return (a.admits ((sizeOf s.node + unit - 1) / unit), false)
  | .permission mark mode =>
    let bits := s.node.mode &&& mode
    return (if mark = '=' then s.node.mode = mode else if mark = '-' then bits = mode
      else mode = 0 || bits ≠ 0, false)
  | .grants bit =>
    let n := (← fileSystem).node? (pathOf s.path)
    return (n.any (·.grants bit), false)
  | .links a => return (a.admits 1, false)
  | .same loc => return (loc = s.location, false)
  | .print terminator =>
    Tool.print (s.path ++ [terminator])
    return (true, false)
  | .format cs =>
    Tool.print (formatted s (cs.length + 1) cs)
    return (true, false)
  | .list =>
    printLine s.path
    return (true, false)
  | .prune => return (true, true)
  | .quit =>
    modify fun (st : Progress) => { st with finished := true }
    return (true, true)
  | .remove =>
    if lastName s.path = ['.'] then return (true, false)
    if s.node.isDirectory && !isEmptyDirectory (← fileSystem) s.location || s.location = [] then
      warn (cannot "delete" s.path Fault.notEmpty.reason)
      failing
      return (false, false)
    removeNode s.location
    return (true, false)
  | .command words inPlace asks =>
    let path := if inPlace then '.' :: '/' :: lastName s.path else s.path
    let call := filled words path
    let command := call.headD []
    if asks then
      flush
      let shown := ((call.map fun w => w).intersperse [' ']).flatten
      let _ ← write 2 ("< ".toList ++ shown ++ " ... ".toList ++ s.path ++ " > ? ".toList)
      match ← readLine? 0 false with
      | some (c :: _, _) => if c ≠ 'y' && c ≠ 'Y' then return (false, false)
      | _ => return (false, false)
    let fs ← fileSystem
    if inPlace then setFileSystem { fs with cwd := s.location.tail }
    let status ← runChild none (inQuotes command) command (call.drop 1)
    let after ← fileSystem
    setFileSystem { after with cwd := fs.cwd }
    return (status.number = 0, false)
  | .collected number words =>
    let names ← namesFor number
    modify fun (st : Progress) => { st with collected := put number (s.path :: names) st.collected }
    let _ := words
    return (true, false)
  | .negation t => do
    let (b, pruned) ← t.run s
    return (!b, pruned)
  | .both t u => do
    let (a, p) ← t.run s
    if !a then return (false, p)
    let (b, q) ← u.run s
    return (b, p || q)
  | .either t u => do
    let (a, p) ← t.run s
    if a then return (true, p)
    let (b, q) ← u.run s
    return (b, p || q)
  | .series t u => do
    let (_, p) ← t.run s
    let (b, q) ← u.run s
    return (b, p || q)

def Test.collections : Test → List (Nat × List Chars)
  | .collected n words => [(n, words)]
  | .negation t => t.collections
  | .both s t | .either s t | .series s t => s.collections ++ t.collections
  | _ => []

def walk (limits : Limits) (follow : Bool) (start : Chars) (t : Test) :
    Nat → Nat → Chars → FileSystem.Location → Walk Unit
  | 0, _, _, _ => return
  | fuel + 1, depth, path, loc => do
    if ← isFinished then return
    let fs ← fileSystem
    match fs.tree.get? loc with
    | none => return
    | some n =>
      let (loc, n) := match n, follow with
        | .link _, true =>
          match fs.locate (pathOf path) true with
          | .ok there => ((fs.tree.get? there).map fun m => (there, m)).getD (loc, n)
          | .error _ => (loc, n)
        | _, _ => (loc, n)
      let time := (((← getThe Machine).changed.find? (·.1 = loc)).map (·.2)).getD 0
      let look : Walk Bool := do
        if depth < limits.least then return false
        return (← t.run { path, start, depth, location := loc, node := n, time }).2
      let below : Walk Unit := do
        if n.isDirectory && limits.most.all (depth < ·) then
          if !n.isReadable then
            warn (quotedFully path ++ ": ".toList ++ Fault.permissionDenied.reason.toList)
            failing
            return
          let names := ((← fileSystem).tree.children loc).map (·.1)
          (names.mergeSort fun a b => decide (a ≤ b)).forM fun name =>
            walk limits follow start t fuel (depth + 1) (inDirectory path (charsOf name))
              (name :: loc)
      if limits.deepFirst then
        below
        let _ ← look
      else if !(← look) then below

end Finding

open Finding in
def find (args : List Chars) : Action Nat := do
  let isOption (a : Chars) : Bool := [['-', 'H'], ['-', 'L'], ['-', 'P']].contains a
  let switches := args.takeWhile isOption
  let args := args.dropWhile isOption
  let follow := (switches.filter (· ≠ ['-', 'H'])).getLast? = some ['-', 'L']
  let startsExpression (a : Chars) : Bool :=
    a.head? = some '-' && 1 < a.length || a = ['('] || a = ['!'] || a = [','] || a = [')']
  let starts := args.takeWhile fun a => !startsExpression a
  let expression := args.drop starts.length
  let fuel := 4 * expression.length + 8
  let times := (← get).changed
  let fs ← fileSystem
  let setting : Setting :=
    { fs, timeOf := fun loc => ((times.find? (·.1 = loc)).map (·.2)).getD 0 }
  let read : Parsing Test :=
    if expression.isEmpty then return .constant true else listing setting fuel
  match read.run { words := expression } with
  | .error why =>
    warn why
    return 1
  | .ok (t, rest) =>
    match rest.words with
    | word :: _ =>
      warn (if word = [')'] then "invalid expression; you have too many ')'".toList
        else "paths must precede expression: ".toList ++ inMarks word)
      return 1
    | [] =>
      let limits := rest.limits
      let t := if t.acts then t else .both t (.print '\n')
      let all : Walk Unit := do
        (if starts.isEmpty then [['.']] else starts).forM fun start => do
          if ← isFinished then return
          let through := !switches.isEmpty && switches.getLast? ≠ some ['-', 'P'] ||
            start.getLast? = some '/'
          let fs ← fileSystem
          let found : Except Fault FileSystem.Location :=
            match fs.locate (pathOf start) through with
            | .ok loc => .ok loc
            | .error fault => if through then fs.locate (pathOf start) false else .error fault
          match found, (found.toOption.bind fun loc => fs.tree.get? loc) with
          | .ok loc, some _ => walk limits follow start t 300 0 start loc
          | .ok _, none =>
            warn (quotedFully start ++ ": ".toList ++ Fault.notFound.reason.toList)
            failing
          | .error fault, _ =>
            warn (quotedFully start ++ ": ".toList ++ fault.reason.toList)
            failing
        t.collections.forM fun (number, words) => do
          let names ← namesFor number
          if !names.isEmpty then runCollected words names.reverse
      let (_, progress) ← all.run {}
      return progress.status

end ImportResolver.Tool

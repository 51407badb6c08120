import ImportResolver.Tool.Dates
import ImportResolver.Tool.Modes
/- Programs that tell what time it is, and what is known of a file. -/
namespace ImportResolver.Tool

open Shell Shell.Action

namespace Date

def known : Known :=
  { flags := "uR", valued := "dfrsZ", free := "I"
    long := [("date", 'd'), ("file", 'f'), ("reference", 'r'), ("set", 's'), ("utc", 'u'),
      ("universal", 'u'), ("rfc-email", 'R'), ("rfc-3339", 'Z'), ("iso-8601", 'I')] }

/-- How much of a moment is written, by the names that options give it. -/
def precise (between : Char) : String → Option String
  | "date" | "" => some "%Y-%m-%d"
  | "hours" => some ("%Y-%m-%d".push between ++ "%H+00:00")
  | "minutes" => some ("%Y-%m-%d".push between ++ "%H:%M+00:00")
  | "seconds" => some ("%Y-%m-%d".push between ++ "%H:%M:%S+00:00")
  | "ns" =>
    let mark := if between = 'T' then "," else "."
    some ("%Y-%m-%d".push between ++ "%H:%M:%S" ++ mark ++ "%N+00:00")
  | _ => none

def form (a : Arguments) : Except Chars String :=
  let refuse (name : String) (value : Chars) (all : List String) : Except Chars String :=
    .error ("invalid argument ".toList ++ inQuotes value ++ " for '--".toList ++ name.toList ++
      "'\nValid arguments are:".toList ++
      all.flatMap fun w => "\n  - ".toList ++ inQuotes w.toList)
  match a.last? ['R', 'I', 'Z'] with
  | some 'R' => .ok "%a, %d %b %Y %H:%M:%S +0000"
  | some 'I' =>
    let value := (a.value? 'I').getD []
    match precise 'T' (String.ofList value) with
    | some form => .ok form
    | none => refuse "iso-8601" value ["hours", "minutes", "date", "seconds", "ns"]
  | some _ =>
    let value := (a.value? 'Z').getD []
    match if value.isEmpty then none else precise ' ' (String.ofList value) with
    | some form => .ok form
    | none => refuse "rfc-3339" value ["date", "seconds", "ns"]
  | none => .ok "%a %b %e %H:%M:%S %Z %Y"

end Date

open Date in
def date (args : List Chars) : Action Nat :=
  withArguments known 1 args fun a => do
    let refuse (why : Chars) : Action Nat := do
      warn why
      return 1
    let (now, micro) ← now
    match form a with
    | .error why => misused known 1 why
    | .ok usual =>
      if let some extra := a.operands[1]? then return ← misused known 1 (extraOperand extra)
      let given := (a.last? ['d', 'r', 's']).isSome
      let format ←
        match a.operands with
        | ('+' :: format) :: _ => pure (some format)
        | [] => pure (some usual.toList)
        | _ => pure none
      match format with
      | none =>
        let operand := a.operands.headD []
        if given then
          misused known 1 ("the argument ".toList ++ inQuotes operand ++
            (" lacks a leading '+';\nwhen using an option to specify date(s), any non-option\n" ++
              "argument must be a format string beginning with '+'").toList)
        else refuse ("invalid date ".toList ++ inQuotes operand)
      | some format =>
        let tell (instant : Int) : Action Nat :=
          sayLines
            [Moment.formatted (instant.fdiv 1000000000) (instant.fmod 1000000000).toNat
              (format.length * 4 + 32) format] 0
        let now : Int := (now * 1000000 + micro) * 1000
        match a.last? ['d', 'r', 's'], a.value? 'r', (a.value? 'd').or (a.value? 's') with
        | some 'r', some p, _ =>
          match (← fileSystem).locate (pathOf p) true with
          | .error fault => refuse (quoted p ++ ": ".toList ++ fault.reason.toList)
          | .ok loc =>
            let time := (((← get).changed.find? (·.1 = loc)).map (·.2)).getD 0
            tell ((startOfTime * 1000000 + time) * 1000)
        | some _, _, some text =>
          match Dates.read? text now with
          | some instant => tell instant
          | none => refuse ("invalid date ".toList ++ inQuotes text)
        | _, _, _ => tell now

namespace Status

def known : Known :=
  { flags := "Lft", valued := "cP"
    long := [("format", 'c'), ("printf", 'P'), ("dereference", 'L'), ("terse", 't'),
      ("file-system", 'f')] }

/-- A file of which something is told. -/
structure Subject where
  name : Chars
  node : FileSystem.Node
  /-- How many directories it holds. -/
  inner : Nat
  time : Int

def Subject.size (s : Subject) : Nat :=
  match s.node with
  | .file bytes _ => bytes.length
  | .directory _ => 4096
  | .link target => target.utf8ByteSize
  | _ => 0

def Subject.fullMode (s : Subject) : Nat :=
  s.node.mode + match s.node with
    | .directory _ => 0o040000
    | .link _ => 0o120000
    | .device _ _ => 0o020000
    | .pipe _ _ => 0o010000
    | _ => 0o100000

def Subject.fullName (s : Subject) (always : Bool) : Chars :=
  let shown (cs : Chars) : Chars := if always then quotedFully cs else quoted cs
  match s.node with
  | .link target => shown s.name ++ " -> ".toList ++ shown (charsOf target)
  | _ => shown s.name

/-- What a letter of a format stands for; also whether it is a number. -/
def part (s : Subject) (c : Char) : Option (Bool × Chars) :=
  let seconds := startOfTime + s.time.fdiv 1000000
  let parts := (s.time.fmod 1000000 * 1000).toNat
  match c with
  | 'n' => some (false, s.name)
  | 'N' => some (false, s.fullName true)
  | 'Q' => some (false, s.fullName false)
  | 'F' => some (false, (Removing.kindOf s.node).toList)
  | 'a' => some (true, Nat.toDigits 8 s.node.mode)
  | 'A' => some (false, Modes.kindLetter s.node :: Modes.rights s.node.mode)
  | 'f' => some (true, Nat.toDigits 16 s.fullMode)
  | 's' => some (true, decimal s.size)
  | 'b' => some (true, decimal (if s.node matches .link _ then 0 else (s.size + 4095) / 4096 * 8))
  | 'B' => some (true, decimal 512)
  | 'o' => some (true, decimal 4096)
  | 'h' => some (true, decimal (if s.node.isDirectory then 2 + s.inner else 1))
  | 'u' | 'g' | 't' | 'T' | 'd' | 'i' => some (true, ['0'])
  | 'U' | 'G' => some (false, "root".toList)
  | 'w' => some (false, ['-'])
  | 'W' => some (true, ['0'])
  | 'm' => some (false, ['/'])
  | 'X' | 'Y' | 'Z' => some (true, (toString seconds).toList)
  | 'x' | 'y' | 'z' =>
    some (false, Moment.formatted seconds parts 64 "%Y-%m-%d %H:%M:%S.%N +0000".toList)
  | _ => none

/-- What a format says of a file. `escapes` says whether backslashes mean something. -/
def told (s : Subject) (escapes : Bool) : Nat → Chars → Chars
  | 0, _ => []
  | _, [] => []
  | n + 1, '%' :: '%' :: rest => '%' :: told s escapes n rest
  | n + 1, '%' :: rest =>
    let flags := rest.takeWhile fun c => ['-', '0', '+', ' ', '#', '\''].contains c
    let digits := (rest.drop flags.length).takeWhile Char.isDigit
    let width := Arithmetic.numeral 10 digits
    match rest.drop (flags.length + digits.length) with
    | [] => '%' :: rest
    | c :: after =>
      let (isNumber, text) := (part s c).getD (false, ['?'])
      let text := if flags.contains '#' && c = 'a' then '0' :: text else text
      let fill := List.replicate (width - text.length)
        (if isNumber && flags.contains '0' && !flags.contains '-' then '0' else ' ')
      (if flags.contains '-' then text ++ fill else fill ++ text) ++ told s escapes n after
  | n + 1, '\\' :: c :: rest =>
    if !escapes then '\\' :: told s escapes n (c :: rest)
    else
      let (text, rest) := escape (c :: rest)
      text ++ told s escapes n rest
  | n + 1, c :: rest => c :: told s escapes n rest
where
  /-- What a backslash and the characters after it stand for, and what follows. -/
  escape (cs : Chars) : Chars × Chars :=
    let plain : List (Char × Char) :=
      [('a', Char.ofNat 7), ('b', Char.ofNat 8), ('e', Char.ofNat 27), ('f', Char.ofNat 12),
        ('n', '\n'), ('r', '\r'), ('t', '\t'), ('v', Char.ofNat 11), ('\\', '\\'), ('"', '"')]
    match cs with
    | [] => (['\\'], [])
    | c :: rest =>
      if FileSystem.Permission.isOctal c then
        let digits := (cs.takeWhile FileSystem.Permission.isOctal).take 3
        ([Char.ofNat (Arithmetic.numeral 8 digits % 256)], cs.drop digits.length)
      else
        match plain.find? (·.1 = c) with
        | some (_, d) => ([d], rest)
        | none => (['\\', c], rest)

def usual : String :=
  "  File: %Q\n  Size: %-10s\tBlocks: %-10b IO Block: %-6o %F\n" ++
    "Device: %d,%d\tInode: %-11i Links: %h\n" ++
    "Access: (%04a/%A)  Uid: (%5u/%8U)   Gid: (%5g/%8G)\n" ++
    "Access: %x\nModify: %y\nChange: %z\n Birth: %w\n"

end Status

open Status in
def stat (args : List Chars) : Action Nat :=
  withArguments known 1 args fun a => do
    if a.operands.isEmpty then return ← misused known 1 missingOperand
    let mut whole := true
    for p in a.operands do
      let fs ← fileSystem
      match fs.locate (pathOf p) (a.has 'L') with
      | .error fault =>
        warn ("cannot statx ".toList ++ quotedFully p ++ ": ".toList ++ fault.reason.toList)
        whole := false
      | .ok loc =>
        match fs.tree.get? loc with
        | none =>
          warn ("cannot statx ".toList ++ quotedFully p ++ ": ".toList ++
            Fault.notFound.reason.toList)
          whole := false
        | some node =>
          let subject : Subject :=
            { name := p, node
              inner := ((fs.tree.children loc).filter (·.2.isDirectory)).length
              time := (((← get).changed.find? (·.1 = loc)).map (·.2)).getD 0 }
          match a.last? ['c', 'P'] with
          | some 'P' =>
            let format := (a.value? 'P').getD []
            print (told subject true (format.length + 1) format)
          | some _ =>
            let format := (a.value? 'c').getD []
            printLine (told subject false (format.length + 1) format)
          | none => print (told subject false usual.length usual.toList)
    return failed whole

end ImportResolver.Tool

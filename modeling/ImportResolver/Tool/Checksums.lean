import ImportResolver.Tool.Arguments
import ImportResolver.Tool.Digest
import ImportResolver.Tool.Ends
import ImportResolver.Tool.Names
/- Programs that print checksums of files and compare them, and that spell files with letters. -/
namespace ImportResolver.Tool

open Shell Shell.Action

namespace Checksums

structure Kind where
  name : String
  size : Nat
  digest : List Nat → List Nat

def kinds : List Kind :=
  [⟨"MD5", 16, Digest.Md5.digest⟩, ⟨"SHA1", 20, Digest.Sha1.digest⟩,
    ⟨"SHA224", 28, Digest.Sha.sha224.digest⟩, ⟨"SHA256", 32, Digest.Sha.narrow.digest⟩,
    ⟨"SHA384", 48, Digest.Sha.sha384.digest⟩, ⟨"SHA512", 64, Digest.Sha.wide.digest⟩]

def Kind.of (k : Kind) (cs : Chars) : Chars := Digest.hexadecimal (k.digest (cs.map Char.toNat))

def known : Known :=
  { flags := "bctwz\x01\x02\x03\x04\x05"
    long := [("binary", 'b'), ("check", 'c'), ("text", 't'), ("warn", 'w'), ("zero", 'z'),
      ("ignore-missing", '\x01'), ("quiet", '\x02'), ("status", '\x03'), ("strict", '\x04'),
      ("tag", '\x05')] }

/-- A name in which nothing ends a line; also whether that took a change. -/
def shownName (name : Chars) : Bool × Chars :=
  let marks : List (Char × Char) := [('\\', '\\'), ('\n', 'n'), ('\r', 'r')]
  (name.any fun c => marks.any (·.1 = c),
    name.flatMap fun c =>
      match marks.find? (·.1 = c) with
      | some (_, m) => ['\\', m]
      | none => [c])

def line (kind : Kind) (a : Arguments) (isTagged : Bool) (sum name : Chars) : Chars :=
  let (isChanged, shown) := if a.has 'z' then (false, name) else shownName name
  let text :=
    if isTagged then
      kind.name.toList ++ " (".toList ++ shown ++ ") = ".toList ++ sum
    else sum ++ [' ', if a.last? ['b', 't'] = some 'b' then '*' else ' '] ++ shown
  (if isChanged then '\\' :: text else text) ++ [if a.has 'z' then Char.ofNat 0 else '\n']

def realName : Chars → Option Chars
  | [] => some []
  | '\\' :: 'n' :: cs => (realName cs).map ('\n' :: ·)
  | '\\' :: 'r' :: cs => (realName cs).map ('\r' :: ·)
  | '\\' :: '\\' :: cs => (realName cs).map ('\\' :: ·)
  | '\\' :: _ => none
  | c :: cs => (realName cs).map (c :: ·)

def isHexadecimal (c : Char) : Bool := Arithmetic.digitValue c < 16

def entry? (kind : Kind) (cs : Chars) : Option (Chars × Chars) :=
  let cs := cs.dropWhile fun c => c = ' ' || c = '\t'
  let (isChanged, cs) := if cs.head? = some '\\' then (true, cs.drop 1) else (false, cs)
  let checked (sum name : Chars) : Option (Chars × Chars) :=
    if sum.length = kind.size * 2 && sum.all isHexadecimal && !name.isEmpty then
      (if isChanged then realName name else some name).map fun name => (sum.map Char.toLower, name)
    else none
  let tag := kind.name.toList
  let tagged := cs.drop tag.length
  let body := if tagged.head? = some ' ' then tagged.drop 1 else tagged
  if cs.take tag.length = tag && body.head? = some '(' then
    let back := (body.drop 1).reverse
    let sum := (back.takeWhile (· ≠ ')')).reverse
    let name := (back.drop (sum.length + 1)).reverse
    let sum := sum.dropWhile (· = ' ')
    if sum.head? = some '=' then checked ((sum.drop 1).dropWhile (· = ' ')) name else none
  else
    let (sum, rest) := cs.span isHexadecimal
    match rest with
    | ' ' :: rest | '\t' :: rest =>
      match rest with
      | ' ' :: c :: name | '*' :: c :: name => checked sum (c :: name)
      | name => checked sum name
    | _ => none

structure Tally where
  sound : Nat := 0
  unsound : Nat := 0
  matching : Nat := 0
  different : Nat := 0
  unread : Nat := 0

def warning (n : Nat) (one many : String) : Action Unit := do
  if n ≠ 0 then
    warn ("WARNING: ".toList ++ decimal n ++ [' '] ++ (if n = 1 then one else many).toList)

def verify (kind : Kind) (a : Arguments) (t : Tally) (sum name : Chars) : Action Tally := do
  let t := { t with sound := t.sound + 1 }
  let tell (what : String) : Action Unit := do
    let (isChanged, shown) := shownName name
    if !a.has '\x03' then
      printLine ((if isChanged then '\\' :: shown else shown) ++ ": ".toList ++ what.toList)
  match ← contentOf name with
  | .error why =>
    if a.has '\x01' && why = "No such file or directory" then return t
    warnOf name why
    tell "FAILED open or read"
    return { t with unread := t.unread + 1 }
  | .ok cs =>
    if kind.of cs = sum then
      if !a.has '\x02' then tell "OK"
      return { t with matching := t.matching + 1 }
    else
      tell "FAILED"
      return { t with different := t.different + 1 }

def checkList (kind : Kind) (a : Arguments) (list : Chars) : Action Bool := do
  match ← contentOf list with
  | .error why =>
    warnOf list why
    return false
  | .ok cs =>
    let shown := if list = ['-'] then "'standard input'".toList else quoted list
    let mut t : Tally := {}
    for (l, i) in (linesOf cs).zipIdx 1 do
      if l.head? ≠ some '#' && !l.isEmpty then
        match entry? kind l with
        | some (sum, name) => t ← verify kind a t sum name
        | none =>
          t := { t with unsound := t.unsound + 1 }
          if a.has 'w' then
            warn (shown ++ ": ".toList ++ decimal i ++ ": improperly formatted ".toList ++
              kind.name.toList ++ " checksum line".toList)
    if t.sound = 0 then
      warn (shown ++ ": no properly formatted checksum lines found".toList)
      return false
    if !a.has '\x03' then
      warning t.unsound "line is improperly formatted" "lines are improperly formatted"
      warning t.unread "listed file could not be read" "listed files could not be read"
      warning t.different "computed checksum did NOT match" "computed checksums did NOT match"
      if a.has '\x01' && t.matching = 0 then
        warn (shown ++ ": no file was verified".toList)
    return t.matching ≠ 0 && t.different = 0 && t.unread = 0 &&
      (!a.has '\x04' || t.unsound = 0)

def program (kind : Kind) (args : List Chars) : Action Nat :=
  withArguments known 1 args fun a => do
    if !a.has 'c' && (a.last? ['\x01', '\x02', '\x03', '\x04', 'w']).isSome then
      let named := (known.long.find? fun e => some e.2 = a.last? ['\x01', '\x02', '\x03', '\x04', 'w'])
      return ← misused known 1 ("the --".toList ++ ((named.map (·.1)).getD "").toList ++
        " option is meaningful only when verifying checksums".toList)
    if a.has 'c' && a.has '\x05' then
      return ← misused known 1 "the --tag option is meaningless when verifying checksums".toList
    if a.has 'c' && (a.last? ['b', 't']).isSome then
      return ← misused known 1
        ("the --binary and --text options are meaningless when " ++ "verifying checksums").toList
    let mut whole := true
    for file in inputs a.operands do
      if a.has 'c' then
        if !(← checkList kind a file) then whole := false
      else
        match ← contentOf file with
        | .ok cs => print (line kind a (a.has '\x05') (kind.of cs) file)
        | .error why =>
          warnOf file why
          whole := false
    return failed whole

end Checksums

def checksums (name : String) (args : List Chars) : Action Nat :=
  match Checksums.kinds.find? (·.name = name) with
  | some kind => Checksums.program kind args
  | none => return 1

namespace Checksums

/-- A line with a short checksum, the size of the file and perhaps its name. -/
def shortLine (kind : String) (cs : Chars) (name : Option Chars) : Chars :=
  let bytes := cs.map Char.toNat
  let numbers :=
    match kind with
    | "bsd" =>
      let sum := decimal (Digest.turning bytes)
      List.replicate (5 - sum.length) '0' ++ sum ++ [' '] ++
        padded 5 (decimal ((bytes.length + 1023) / 1024))
    | "sysv" => decimal (Digest.summed bytes) ++ [' '] ++ decimal ((bytes.length + 511) / 512)
    | _ => decimal (Digest.cyclic bytes) ++ [' '] ++ decimal bytes.length
  numbers ++ (name.map fun n => ' ' :: n).getD [] ++ ['\n']

def short (kind : String) (operands : List Chars) : Action Nat := do
  let (all, whole) ← contents operands
  all.forM fun (name, cs) =>
    print (shortLine kind cs (if operands.isEmpty then none else some name))
  return failed whole

end Checksums

def sum (args : List Chars) : Action Nat :=
  let known : Known := { flags := "rs", long := [("sysv", 's')] }
  withArguments known 1 args fun a =>
    Checksums.short (if a.last? ['r', 's'] = some 's' then "sysv" else "bsd") a.operands

def cksum (args : List Chars) : Action Nat :=
  let known : Known :=
    { Checksums.known with
      flags := "cwz\x01\x02\x03\x04\x05\x06", valued := "al"
      long := Checksums.known.long ++ [("algorithm", 'a'), ("length", 'l'), ("untagged", '\x06')] }
  withArguments known 1 args fun a => do
    let algorithm := String.ofList ((a.value? 'a').getD "crc".toList)
    match Checksums.kinds.find? fun k => k.name.toLower = algorithm with
    | none =>
      if ["crc", "bsd", "sysv"].contains algorithm then
        if a.has 'c' then
          misused known 1 "--check is not supported with --algorithm=\x7bbsd,sysv,crc\x7d".toList
        else Checksums.short algorithm a.operands
      else
        misused known 1 ("invalid argument ".toList ++ inQuotes algorithm.toList ++
          " for '--algorithm'\nValid arguments are:".toList ++
          (["bsd", "sysv", "crc", "md5", "sha1", "sha224", "sha256", "sha384", "sha512", "blake2b",
            "sm3"].flatMap fun w => "\n  - ".toList ++ inQuotes w.toList))
    | some kind =>
      let mut whole := true
      for file in inputs a.operands do
        if a.has 'c' then
          if !(← Checksums.checkList kind a file) then whole := false
        else
          match ← contentOf file with
          | .ok cs =>
            let isTagged := a.last? ['\x05', '\x06'] ≠ some '\x06'
            print (Checksums.line kind a isTagged (kind.of cs) file)
          | .error why =>
            warnOf file why
            whole := false
      return failed whole

/-- How a program spells bytes: its letters, how many bits each has, and how many bytes make a
group. -/
structure Spelling where
  alphabet : Chars
  bits : Nat
  group : Nat

def Spelling.base64 : Spelling where
  alphabet := "ABCDEFGHIJKLMNOPQRSTUVWXYZabcdefghijklmnopqrstuvwxyz0123456789+/".toList
  bits := 6
  group := 3

def Spelling.base32 : Spelling where
  alphabet := "ABCDEFGHIJKLMNOPQRSTUVWXYZ234567".toList
  bits := 5
  group := 5

def spell (s : Spelling) (args : List Chars) : Action Nat :=
  let known : Known :=
    { flags := "di", valued := "w"
      long := [("decode", 'd'), ("ignore-garbage", 'i'), ("wrap", 'w')] }
  withArguments known 1 args fun a => do
    let width := (a.value? 'w').getD "76".toList
    match natural? width, a.operands with
    | none, _ =>
      warn ("invalid wrap size: ".toList ++ inQuotes width)
      return 1
    | some _, _ :: extra :: _ => misused known 1 (extraOperand extra)
    | some width, files =>
      let file := files.headD ['-']
      let refuse (why : String) : Action Nat := do
        if (if file = ['-'] then false else (why ≠ "Is a directory")) then warnOf file why
        else warn ("read error: ".toList ++ why.toList)
        return 1
      if a.has 'd' then
        match ← contentOf file with
        | .error why => refuse why
        | .ok cs =>
          let isLetter (c : Char) : Bool := s.alphabet.contains c || c = '='
          let letters := if a.has 'i' then cs.filter isLetter else cs.filter (· ≠ '\n')
          let (bytes, whole) :=
            Digest.unspelled s.alphabet s.bits s.group (letters.length + 1) letters
          print (bytes.map Char.ofNat)
          if !whole then warn "invalid input".toList
          return failed whole
      else
        let put (cs : Chars) : Action Unit := do
          let text := Digest.spelled s.alphabet s.bits s.group (cs.map Char.toNat)
          if width = 0 then print text
          else (Digest.parts width (text.length + 1) text).forM printLine
        let unit := s.group * max width 1
        let r ← withInput file fun d =>
          Ends.chunks d [] fun kept cs => do
            let all := kept ++ cs
            let size := all.length / unit * unit
            put (all.take size)
            return all.drop size
        match r with
        | .error why => refuse why
        | .ok (.error why) => refuse why
        | .ok (.ok rest) =>
          put rest
          return 0

end ImportResolver.Tool

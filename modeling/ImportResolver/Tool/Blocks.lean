import ImportResolver.Tool.Arguments
import ImportResolver.Tool.Feed
import ImportResolver.Tool.Names
/- Copying a file block by block. -/
namespace ImportResolver.Tool

open Shell Shell.Action

namespace Blocks

/-- What is to be copied, and how. Sizes are in bytes. -/
structure Plan where
  source : Option Chars := none
  goal : Option Chars := none
  inputSize : Nat := 512
  outputSize : Nat := 512
  /-- Whether one size was given for input and output, so that blocks are written as they come. -/
  isDirect : Bool := false
  count : Option Nat := none
  skip : Nat := 0
  seek : Nat := 0
  /-- Whether counts and places are in bytes. -/
  countsBytes : Bool := false
  skipsBytes : Bool := false
  seeksBytes : Bool := false
  conversions : List String := []
  inputFlags : List String := []
  outputFlags : List String := []
  status : String := ""

def number? (cs : Chars) : Option Nat :=
  let factor? (cs : Chars) : Option Nat :=
    let (digits, unit) := cs.span Char.isDigit
    match natural? digits, unit with
    | some n, ['c'] => some n
    | some n, ['w'] => some (2 * n)
    | some n, ['B'] => some n
    | some _, _ => size? cs
    | none, _ => none
  (Text.runs 'x' cs).foldr (fun part n => do return (← factor? part) * (← n)) (some 1)

def listed (cs : Chars) : List String := (Text.runs ',' cs).map String.ofList

def knownConversions : List String :=
  ["lcase", "ucase", "swab", "sync", "notrunc", "noerror", "excl", "nocreat", "fsync", "fdatasync",
    "sparse", "ascii", "ebcdic", "ibm", "block", "unblock"]

def knownFlags : List String :=
  ["append", "direct", "directory", "dsync", "sync", "fullblock", "nonblock", "noatime", "nocache",
    "noctty", "nofollow", "count_bytes", "skip_bytes", "seek_bytes"]

def Plan.take (p : Plan) (operand : Chars) : Except (Bool × Chars) Plan :=
  let (name, rest) := operand.span (· ≠ '=')
  let value := rest.drop 1
  let wrong (what : String) : Except (Bool × Chars) Plan :=
    .error (true, what.toList ++ inQuotes value)
  let sized (f : Nat → Plan) (isSize : Bool) : Except (Bool × Chars) Plan :=
    match number? value with
    | some n =>
      if isSize && n = 0 then .error (false, "invalid number: ".toList ++ inQuotes value)
      else .ok (f n)
    | none => .error (false, "invalid number: ".toList ++ inQuotes value)
  let inBytes := value.getLast? = some 'B' && (value.dropLast.getLast?).any Char.isDigit
  if rest.isEmpty then .error (true, "unrecognized operand ".toList ++ inQuotes operand)
  else
    match String.ofList name with
    | "if" => .ok { p with source := some value }
    | "of" => .ok { p with goal := some value }
    | "bs" => sized (fun n => { p with inputSize := n, outputSize := n, isDirect := true }) true
    | "ibs" => sized (fun n => { p with inputSize := n, isDirect := false }) true
    | "obs" => sized (fun n => { p with outputSize := n, isDirect := false }) true
    | "cbs" => sized (fun _ => p) true
    | "count" => sized (fun n => { p with count := some n, countsBytes := inBytes }) false
    | "skip" => sized (fun n => { p with skip := n, skipsBytes := inBytes }) false
    | "iseek" => sized (fun n => { p with skip := n, skipsBytes := inBytes }) false
    | "seek" => sized (fun n => { p with seek := n, seeksBytes := inBytes }) false
    | "oseek" => sized (fun n => { p with seek := n, seeksBytes := inBytes }) false
    | "conv" =>
      if (listed value).all knownConversions.contains then
        .ok { p with conversions := p.conversions ++ listed value }
      else wrong "invalid conversion: "
    | "iflag" =>
      if (listed value).all knownFlags.contains then
        .ok { p with inputFlags := p.inputFlags ++ listed value }
      else wrong "invalid input flag: "
    | "oflag" =>
      if (listed value).all knownFlags.contains then
        .ok { p with outputFlags := p.outputFlags ++ listed value }
      else wrong "invalid output flag: "
    | "status" =>
      if ["none", "noxfer", "progress"].contains (String.ofList value) then
        .ok { p with status := String.ofList value }
      else wrong "invalid status level: "
    | _ => .error (true, "unrecognized operand ".toList ++ inQuotes operand)

structure Tally where
  wholeRead : Nat := 0
  partRead : Nat := 0
  wholeWritten : Nat := 0
  partWritten : Nat := 0
  bytes : Nat := 0
  /-- What waits for a whole block. -/
  waiting : Chars := []

def swapped : Chars → Chars
  | a :: b :: cs => b :: a :: swapped cs
  | cs => cs

def Plan.converted (p : Plan) (cs : Chars) : Chars :=
  let has (name : String) : Bool := p.conversions.contains name
  let cs := if has "sync" then cs ++ List.replicate (p.inputSize - cs.length) (Char.ofNat 0) else cs
  let cs := if has "swab" then swapped cs else cs
  let cs := if has "lcase" then cs.map Char.toLower else cs
  if has "ucase" then cs.map Char.toUpper else cs

def put (p : Plan) (t : Tally) (d : Nat) (block : Chars) : Action Tally := do
  let _ ← write d block
  let t := { t with bytes := t.bytes + block.length }
  return if block.length = p.outputSize then { t with wholeWritten := t.wholeWritten + 1 }
    else { t with partWritten := t.partWritten + 1 }

def settle (p : Plan) (d : Nat) : Nat → Tally → Action Tally
  | 0, t => return t
  | n + 1, t => do
    if t.waiting.length < p.outputSize then return t
    let block := t.waiting.take p.outputSize
    settle p d n (← put p { t with waiting := t.waiting.drop p.outputSize } d block)

/-- Reads a block: what there is, or so much if it has to be whole. -/
def readBlock (d size : Nat) (isWhole : Bool) : Nat → Chars → Action (Option Chars)
  | 0, _ => throw .exhausted
  | n + 1, cs => do
    match ← readSome? d (size - cs.length) with
    | none => return none
    | some [] => return some cs
    | some more =>
      let cs := cs ++ more
      if isWhole && cs.length < size then readBlock d size isWhole n cs else return some cs

def copy (p : Plan) (source goal : Nat) : Nat → Option Nat → Tally → Action (Option Tally)
  | 0, _, _ => throw .exhausted
  | n + 1, left, t => do
    if left = some 0 then return some t
    let size := if p.countsBytes then min p.inputSize (left.getD p.inputSize) else p.inputSize
    let isWhole := p.inputFlags.contains "fullblock" || !(← Feed.isPassing source)
    match ← readBlock source size isWhole loopLimit [] with
    | none => return none
    | some [] => return some t
    | some cs =>
      let t := if cs.length = p.inputSize then { t with wholeRead := t.wholeRead + 1 }
        else { t with partRead := t.partRead + 1 }
      let block := p.converted cs
      let isPlain := p.isDirect && !p.conversions.any ["lcase", "ucase", "swab", "sync"].contains
      let t ←
        if isPlain then put p t goal block
        else settle p goal (block.length + 1) { t with waiting := t.waiting ++ block }
      let left := left.map fun k => if p.countsBytes then k - cs.length else k - 1
      copy p source goal n left t

/-- Leaves out the beginning of what is read; answers with how much could not be left out. -/
def leaveOut (d : Nat) : Nat → Nat → Action Nat
  | 0, _ => throw .exhausted
  | _, 0 => return 0
  | n + 1, k => do
    match ← readSome? d (min k blockSize) with
    | some (c :: cs) => leaveOut d n (k - (c :: cs).length)
    | _ => return k

/-- Opens the file that is written, and goes to the place where that begins. -/
def openGoal (p : Plan) (name : Chars) (start : Nat) : Action (Except Fault OpenFile) := do
  let fs ← fileSystem
  let exists_ := (fs.locate (pathOf name) true).toOption.any fun loc => (fs.tree.get? loc).isSome
  if p.conversions.contains "excl" && exists_ then return .error .alreadyExists
  if p.conversions.contains "nocreat" && !exists_ then return .error .notFound
  let isKept := p.conversions.contains "notrunc"
  let isAdded := p.outputFlags.contains "append"
  let direction : Direction :=
    if isKept || isAdded || start ≠ 0 then .append else .clobber
  match ← openPath (pathOf name) direction with
  | .error fault => return .error fault
  | .ok f =>
    if !isKept && !isAdded && start ≠ 0 then
      if let .file loc := f.endpoint then
        if let some (.file bytes mode) := (← fileSystem).tree.get? loc then
          let kept := bytes.take start
          let bytes := kept ++ List.replicate (start - kept.length) 0
          setFileSystem ((← fileSystem).set loc (.file bytes mode))
          stamp loc
    return .ok { f with appends := isAdded, position := start }

def roughly (n base : Nat) (names : List String) : Chars :=
  let power := (List.range names.length).foldl
    (fun k i => if Nat.pow base (i + 1) ≤ n then i + 1 else k) 0
  let unit := Nat.pow base power
  let tenths := (n * 10 + unit / 2) / unit
  let shown := if tenths < 100 then decimal (tenths / 10) ++ '.' :: decimal (tenths % 10)
    else decimal ((n + unit / 2) / unit)
  shown ++ ' ' :: ((names[power - 1]?).getD "").toList

def report (p : Plan) (t : Tally) : Action Unit := do
  if p.status = "none" then return
  let say (cs : Chars) : Action Unit := do
    let _ ← write 2 (cs ++ ['\n'])
  say (decimal t.wholeRead ++ '+' :: decimal t.partRead ++ " records in".toList)
  say (decimal t.wholeWritten ++ '+' :: decimal t.partWritten ++ " records out".toList)
  if p.status = "noxfer" then return
  let units := ["k", "M", "G", "T"]
  let small :=
    if t.bytes < 1000 then []
    else
      " (".toList ++ roughly t.bytes 1000 (units.map (· ++ "B")) ++
        (if t.bytes < 1024 then []
          else ", ".toList ++ roughly t.bytes 1024 (units.map fun u => u.toUpper.push 'i' ++ "B")) ++
        [')']
  say (decimal t.bytes ++ (if t.bytes = 1 then " byte" else " bytes").toList ++ small ++
    " copied, 0.0001 s, ".toList ++
    (if t.bytes = 0 then "0.0 kB".toList
      else roughly (t.bytes * 10000) 1000 (units.map (· ++ "B"))) ++ "/s".toList)

end Blocks

open Blocks in
def dd (args : List Chars) : Action Nat := do
  let known : Known := { flags := "" }
  let refuse (why : Chars) : Action Nat := do
    warn why
    return 1
  let args := if args.head? = some ['-', '-'] then args.drop 1 else args
  match args.foldlM Plan.take {} with
  | .error (isMisuse, why) => if isMisuse then misused known 1 why else refuse why
  | .ok p =>
    let p : Plan :=
      { p with
        countsBytes := p.countsBytes || p.inputFlags.contains "count_bytes"
        skipsBytes := p.skipsBytes || p.inputFlags.contains "skip_bytes"
        seeksBytes := p.seeksBytes || p.outputFlags.contains "seek_bytes" }
    let start := if p.seeksBytes then p.seek else p.seek * p.outputSize
    let source ← match p.source with
      | none => pure (Except.ok 0)
      | some name =>
        match ← openPath (pathOf name) .read with
        | .error fault => pure (.error (name, fault))
        | .ok f =>
          setDescriptor inputDescriptor (some (← addFile f))
          pure (.ok inputDescriptor)
    match source with
    | .error (name, fault) =>
      refuse ("failed to open ".toList ++ inQuotes name ++ ": ".toList ++ fault.reason.toList)
    | .ok source =>
      let goal ← match p.goal with
        | none => do
          if start ≠ 0 then
            if let some (number, f) ← openFile? 1 then
              setFile number { f with position := f.position + start }
          pure (Except.ok 1)
        | some name =>
          match ← openGoal p name start with
          | .error fault => pure (.error (name, fault))
          | .ok f =>
            setDescriptor (inputDescriptor + 1) (some (← addFile f))
            pure (.ok (inputDescriptor + 1))
      match goal with
      | .error (name, fault) =>
        refuse ("failed to open ".toList ++ inQuotes name ++ ": ".toList ++ fault.reason.toList)
      | .ok goal =>
        let shown := inQuotes (p.source.getD "standard input".toList)
        let missed ← leaveOut source loopLimit (if p.skipsBytes then p.skip
          else p.skip * p.inputSize)
        if missed ≠ 0 then
          let name := quoted (p.source.getD "standard input".toList)
          let _ ← write 2 ((← process).name ++ ": ".toList ++ name ++
            ": cannot skip to specified offset\n".toList)
        match ← copy p source goal loopLimit p.count {} with
        | none =>
          let why ← readFault source
          warn ("error reading ".toList ++ shown ++ ": ".toList ++ why.toList)
          report p {}
          return 1
        | some t =>
          let t ← if t.waiting.isEmpty then pure t else put p { t with waiting := [] } goal t.waiting
          report p t
          return 0

end ImportResolver.Tool

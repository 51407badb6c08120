import ImportResolver.Tool.Arguments
import ImportResolver.Tool.Feed
/- Programs that print the beginning or the end of files. -/
namespace ImportResolver.Tool

open Shell Shell.Action

namespace Ends

/-- How much of a file: so much, or all but so much. -/
structure Extent where
  bytes : Bool
  count : Nat
  /-- Whether the count says what is left out, for `head`, or where to begin, for `tail`. -/
  inverse : Bool
  ending : Char := '\n'

def chunks {σ : Type} (d : Nat) (s : σ) (step : σ → Chars → Action σ) :
    Action (Except String σ) := do
  let rec go : Nat → σ → Action (Except String σ)
    | 0, _ => throw .exhausted
    | n + 1, s => do
      match ← readSome? d blockSize with
      | none => return .error (← readFault d)
      | some [] => return .ok s
      | some cs => go n (← step s cs)
  go loopLimit s

def headBlock : Nat := 8192

def firstBytes (d : Nat) : Nat → Nat → Action (Except String Unit)
  | 0, _ => throw .exhausted
  | _, 0 => return .ok ()
  | n + 1, count => do
    match ← readSome? d (min headBlock count) with
    | none => return .error (← readFault d)
    | some [] => return .ok ()
    | some cs =>
      print cs
      firstBytes d n (count - cs.length)

/-- Prints the lines that `hold` more follow; answers with those that are left, the last first. -/
def allBut (feed : Feed) (count : Nat) : Nat → List Chars → Action (Except String Feed)
  | 0, _ => throw .exhausted
  | n + 1, kept => do
    match ← feed.next? with
    | .error why => return .error why
    | .ok (none, feed) => return .ok { feed with lines := kept }
    | .ok (some l, feed) =>
      let kept := kept ++ [l]
      if count < kept.length then
        print (kept.headD [])
        allBut feed count n (kept.drop 1)
      else allBut feed count n kept

def front (e : Extent) (d : Nat) : Action (Except String Unit) := do
  let feed : Feed := { descriptor := d, ending := e.ending, block := headBlock }
  match e.bytes, e.inverse with
  | true, false => firstBytes d loopLimit e.count
  | true, true =>
    let r ← chunks d [] fun kept cs => do
      let all := kept ++ cs
      print (all.take (all.length - e.count))
      return all.drop (all.length - e.count)
    match r with
    | .error why => return .error why
    | .ok kept =>
      ({ feed with start := kept } : Feed).giveBack
      return .ok ()
  | false, true =>
    match ← allBut feed e.count loopLimit [] with
    | .error why => return .error why
    | .ok feed =>
      feed.giveBack
      return .ok ()
  | false, false =>
    if e.count = 0 then return .ok ()
    let r ← feed.each e.count fun left l => do
      print l
      return (left - 1, 1 < left)
    return r.map fun _ => ()

def back (e : Extent) (d : Nat) : Action (Except String Unit) := do
  if e.inverse then
    if e.bytes then
      let r ← chunks d (e.count - 1) fun skipped cs => do
        print (cs.drop skipped)
        return skipped - cs.length
      return r.map fun _ => ()
    else
      let feed : Feed := { descriptor := d, ending := e.ending }
      let r ← feed.each (e.count - 1) fun skipped l => do
        if skipped = 0 then print l
        return (skipped - 1, true)
      return r.map fun _ => ()
  else
    match ← readAll? d with
    | none => return .error (← readFault d)
    | some cs =>
      if e.bytes then print (cs.drop (cs.length - e.count))
      else
        let runs := Text.runs e.ending cs
        let whole := runs.dropLast.map (· ++ [e.ending]) ++
          (runs.getLast?.filter (· ≠ [])).toList
        print (whole.drop (whole.length - e.count)).flatten
      return .ok ()

def shownName (file : Chars) : Chars := if file = ['-'] then "standard input".toList else file

/-- Prints a part of each file, under a heading if there are several or if that is asked for. -/
def parts (a : Arguments) (body : Nat → Action (Except String Unit)) (isTail : Bool) :
    Action Nat := do
  let files := inputs a.operands
  let headed :=
    match a.last? ['q', 'v'] with
    | some 'q' => false
    | some _ => true
    | none => 1 < files.length
  let mut status := 0
  let mut first := true
  for file in files do
    let shown := quotedFully (shownName file)
    match ← openInput file inputDescriptor with
    | .error why =>
      warn ("cannot open ".toList ++ shown ++ " for reading: ".toList ++ why.toList)
      status := 1
    | .ok d =>
      let isOpen := (← openFile? d).isSome
      if isTail && !isOpen then
        warn ("cannot fstat ".toList ++ shown ++ ": Bad file descriptor".toList)
        status := 1
      else
        if headed then
          print ((if first then [] else ['\n']) ++ "==> ".toList ++ shownName file ++
            " <==\n".toList)
        first := false
        match ← body d with
        | .ok _ => pure ()
        | .error why =>
          warn ("error reading ".toList ++ shown ++ ": ".toList ++ why.toList)
          status := 1
      closeInput d
  warnOfInput files
  return status

def known : Known :=
  { flags := "qvfFz", valued := "ncs"
    long := [("lines", 'n'), ("bytes", 'c'), ("quiet", 'q'), ("silent", 'q'), ("verbose", 'v'),
      ("zero-terminated", 'z')] }

/-- What the options say of the extent; `mark` makes it inverse. -/
def extent? (a : Arguments) (mark : Char) : Except Chars Extent :=
  let bytes := a.last? ['n', 'c'] = some 'c'
  let given := (a.value? (if bytes then 'c' else 'n')).getD ['1', '0']
  let (inverse, number) :=
    match given with
    | c :: rest => if c = mark then (true, rest) else if c = '-' || c = '+' then (false, rest)
      else (false, given)
    | [] => (false, [])
  match size? number with
  | some count => .ok ⟨bytes, count, inverse, if a.has 'z' then Char.ofNat 0 else '\n'⟩
  | none =>
    .error ((if bytes then "invalid number of bytes: " else "invalid number of lines: ").toList ++
      inQuotes (if number = [] then given else if given.head? = some mark then number else given))

end Ends

/-- An argument such as `-5` as it is written today; a letter after the number that means nothing
is an error. -/
def modernCount : List Chars → Except Char (List Chars)
  | ('-' :: c :: cs) :: rest =>
    if c.isDigit then
      let (digits, letters) := (c :: cs).span Char.isDigit
      let unit := letters.filter "bkm".toList.contains
      let flags := letters.filter "qvz".toList.contains
      match letters.find? fun l => !"cbkmlqvz".toList.contains l with
      | some l => .error l
      | none =>
        let letter := if letters.any "cbkm".toList.contains then 'c' else 'n'
        .ok (['-', letter] :: (digits ++ unit.map fun u => if u = 'm' then 'M' else u) ::
          (flags.map fun l => ['-', l]) ++ rest)
    else .ok (('-' :: c :: cs) :: rest)
  | args => .ok args

open Ends in
def head (args : List Chars) : Action Nat := do
  match modernCount args with
  | .error l => misused known 1 ("invalid trailing option -- ".toList ++ [l])
  | .ok args =>
    withArguments known 1 args fun a => do
      match extent? a '-' with
      | .error why =>
        warn why
        return 1
      | .ok e => parts a (front e) false

def pollTime : Nat := 100000

def followFile (d : Nat) : Action Unit :=
  iterate loopLimit do
    flush
    await (.time ((← process).clock + pollTime)) false
    match ← readSome? d blockSize with
    | some cs => print cs
    | none => pure ()
    return true

open Ends in
def tail (args : List Chars) : Action Nat := do
  let old : List Chars → Except Char (List Chars) := fun args =>
    match args with
    | ('+' :: c :: cs) :: rest =>
      if (c :: cs).all Char.isDigit && rest.length ≤ 1 then
        .ok (['-', 'n'] :: ('+' :: c :: cs) :: rest)
      else .ok args
    | args => modernCount args
  match old args with
  | .error l => misused known 1 ("option used in invalid context -- ".toList ++ [l])
  | .ok args =>
    withArguments known 1 args fun a => do
      match extent? a '+' with
      | .error why =>
        warn why
        return 1
      | .ok e =>
        let follows := a.has 'f' || a.has 'F'
        parts a
          (fun d => do
            let r ← back e d
            if follows && r.isOk then followFile d
            return r)
          true

end ImportResolver.Tool

import ImportResolver.Text.Affix
import ImportResolver.Tool.Difference
import ImportResolver.Tool.Facts
/- Telling how to make the lines of one file from those of another. -/
namespace ImportResolver.Tool

open Shell Shell.Action

namespace Hunks

/-- What happens to a line on the way from the first text to the second. -/
inductive Step where
  | keep
  | drop
  | add
  deriving DecidableEq

/-- A run of lines that give way to others. -/
structure Change where
  /-- How many lines of each text stand before it. -/
  before : Nat × Nat
  dropped : Nat
  added : Nat

/-- The table whose entry at a place tells how many lines the two texts have in common from that
place on, as a row for each line of the first text. -/
def table (xs ys : Array Chars) : Array (Array Nat) :=
  let last : Array Nat := Array.replicate (ys.size + 1) 0
  let rows := (List.range xs.size).foldl
    (fun (rows : List (Array Nat)) k =>
      let x := xs.getD (xs.size - 1 - k) []
      let below := rows.headD last
      let row := (List.range ys.size).foldl
        (fun (row : List Nat) l =>
          let j := ys.size - 1 - l
          let entry :=
            if x = ys.getD j [] then below.getD (j + 1) 0 + 1
            else max (below.getD j 0) (row.headD 0)
          entry :: row)
        [0]
      row.toArray :: rows)
    [last]
  rows.toArray

def steps (xs ys : Array Chars) : List Step :=
  let t := table xs ys
  let common (i j : Nat) : Nat := (t.getD i #[]).getD j 0
  let rec go : Nat → Nat → Nat → List Step
    | 0, _, _ => []
    | n + 1, i, j =>
      if i < xs.size && j < ys.size && xs.getD i [] = ys.getD j [] then
        .keep :: go n (i + 1) (j + 1)
      else if i < xs.size && (ys.size ≤ j || common i (j + 1) ≤ common (i + 1) j) then
        .drop :: go n (i + 1) j
      else if j < ys.size then .add :: go n i (j + 1)
      else []
  go (xs.size + ys.size) 0 0

def tableLimit : Nat := 4000000

/-- The steps between two texts. What is the same at both ends is not looked at twice. -/
def between (xs ys : List Chars) : List Step :=
  let lead := ((xs.zip ys).takeWhile fun e => e.1 = e.2).length
  let (xs, ys) := (xs.drop lead, ys.drop lead)
  let tail := ((xs.reverse.zip ys.reverse).takeWhile fun e => e.1 = e.2).length
  let (xs, ys) := (xs.take (xs.length - tail), ys.take (ys.length - tail))
  let middle :=
    if xs.length * ys.length ≤ tableLimit then steps xs.toArray ys.toArray
    else List.replicate xs.length .drop ++ List.replicate ys.length .add
  List.replicate lead .keep ++ middle ++ List.replicate tail .keep

def changes : Nat × Nat → Option Change → List Step → List Change
  | _, c, [] => c.toList
  | (i, j), c, .keep :: rest => c.toList ++ changes (i + 1, j + 1) none rest
  | (i, j), c, .drop :: rest =>
    let c := c.getD ⟨(i, j), 0, 0⟩
    changes (i + 1, j) (some { c with dropped := c.dropped + 1 }) rest
  | (i, j), c, .add :: rest =>
    let c := c.getD ⟨(i, j), 0, 0⟩
    changes (i, j + 1) (some { c with added := c.added + 1 }) rest

/-- A line after a mark; one without an end is told apart. -/
def marked (mark : String) (line : Chars) : Chars :=
  if line.getLast? = some '\n' then mark.toList ++ line
  else mark.toList ++ line ++ "\n\\ No newline at end of file\n".toList

def place (before count : Nat) : Chars :=
  if count = 0 then decimal before
  else if count = 1 then decimal (before + 1)
  else decimal (before + 1) ++ ',' :: decimal (before + count)

def shown (xs ys : List Chars) (c : Change) : Chars :=
  let (i, j) := c.before
  let letter := if c.dropped = 0 then 'a' else if c.added = 0 then 'd' else 'c'
  let gone := ((xs.drop i).take c.dropped).flatMap (marked "< ")
  let new := ((ys.drop j).take c.added).flatMap (marked "> ")
  place i c.dropped ++ letter :: place j c.added ++ ['\n'] ++ gone ++
    (if letter = 'c' then "---\n".toList else []) ++ new

/-- Changes that stand so near to each other that they are shown together. -/
def grouped (context : Nat) : List Change → List (List Change)
  | [] => []
  | c :: cs =>
    match grouped context cs with
    | (d :: group) :: groups =>
      if d.before.1 ≤ c.before.1 + c.dropped + 2 * context then (c :: d :: group) :: groups
      else [c] :: (d :: group) :: groups
    | groups => [c] :: groups

/-- Lines with those around them, as they are before and after the changes. -/
def joined (context : Nat) (xs ys : List Chars) (group : List Change) : Chars :=
  match group.head?, group.getLast? with
  | some first, some last =>
    let lead := min context first.before.1
    let (i, j) := (first.before.1 - lead, first.before.2 - lead)
    let (endX, endY) := (last.before.1 + last.dropped, last.before.2 + last.added)
    let tail := min context (xs.length - endX)
    let range (before count : Nat) : Chars :=
      if count = 1 then decimal (before + 1)
      else decimal (if count = 0 then before else before + 1) ++ ',' :: decimal count
    let body := group.foldl
      (fun (acc : Nat × List Chars) c =>
        let (k, out) := acc
        let kept := ((xs.drop k).take (c.before.1 - k)).flatMap (marked " ")
        let gone := ((xs.drop c.before.1).take c.dropped).flatMap (marked "-")
        let new := ((ys.drop c.before.2).take c.added).flatMap (marked "+")
        (c.before.1 + c.dropped, (kept ++ gone ++ new) :: out))
      (i, [])
    let after := ((xs.drop endX).take tail).flatMap (marked " ")
    "@@ -".toList ++ range i (endX + tail - i) ++ " +".toList ++ range j (endY + tail - j) ++
      " @@\n".toList ++ body.2.reverse.flatten ++ after
  | _, _ => []

def known : Known :=
  { flags := "qsiwbaNur", valued := "UL"
    long := [("brief", 'q'), ("report-identical-files", 's'), ("ignore-case", 'i'),
      ("ignore-all-space", 'w'), ("ignore-space-change", 'b'), ("text", 'a'), ("new-file", 'N'),
      ("unified", 'u'), ("label", 'L'), ("recursive", 'r'), ("normal", 'n')]
    usage := fun name =>
      name ++ ": Try '".toList ++ name ++ " --help' for more information.\n".toList }

def essence (a : Arguments) (line : Chars) : Chars :=
  let isBlank (c : Char) : Bool := c ≠ '\n' && Arithmetic.isSpace c
  let ended := line.getLast? = some '\n'
  let line := if a.has 'i' then line.map Char.toLower else line
  if a.has 'w' then line.filter fun c => !Arithmetic.isSpace c
  else if a.has 'b' then
    let words := (Text.runs ' ' (line.map fun c => if isBlank c then ' ' else c))
    let inner := (words.drop 1).filter fun w => w ≠ [] && w ≠ ['\n']
    let text := (words.headD [] :: inner).intersperse [' '] |>.flatten
    let text := text.filter (· ≠ '\n')
    if ended then text ++ ['\n'] else text
  else line

/-- How two texts are told apart; none if they count as equal. -/
def report (a : Arguments) (names : Chars × Chars) (headers : Chars × Chars) (x y : Chars) :
    Option Chars :=
  let isText (cs : Chars) : Bool := a.has 'a' || !cs.contains (Char.ofNat 0)
  let differ (lead : String) : Chars :=
    lead.toList ++ names.1 ++ " and ".toList ++ names.2 ++ " differ\n".toList
  let (xs, ys) := (wholeLines x, wholeLines y)
  let all := changes (0, 0) none (between (xs.map (essence a)) (ys.map (essence a)))
  if x = y then none
  else if a.has 'q' then if all.isEmpty then none else some (differ "Files ")
  else if !(isText x && isText y) then some (differ "Binary files ")
  else if all.isEmpty then none
  else if a.has 'u' || a.has 'U' then
    let context := ((a.value? 'U').bind natural?).getD 3
    some ("--- ".toList ++ headers.1 ++ "\n+++ ".toList ++ headers.2 ++ ['\n'] ++
      (grouped context all).flatMap (joined context xs ys))
  else some (all.flatMap (shown xs ys))

def header (p : Chars) : Action Chars := do
  let m ← get
  let time : Int :=
    match m.fs.locate (pathOf p) true with
    | .ok loc => ((m.changed.find? (·.1 = loc)).map (·.2)).getD 0
    | .error _ => 0
  let seconds := startOfTime + time.fdiv 1000000
  let parts := (time.fmod 1000000 * 1000).toNat
  return p ++ '\t' :: Moment.formatted seconds parts 64 "%Y-%m-%d %H:%M:%S.%N +0000".toList

def files (a : Arguments) (x y : Chars) : Action Nat := do
  let labels := (a.options.filter (·.1 = 'L')).map (·.2)
  let content (p : Chars) : Action (Except String Chars) := do
    match ← contentOf p with
    | .ok cs => return .ok cs
    | .error why =>
      return if a.has 'N' && why = Fault.notFound.reason then .ok [] else .error why
  match ← content x, ← content y with
  | .ok xs, .ok ys =>
    let headers := (labels.getD 0 (← header x), labels.getD 1 (← header y))
    match report a (x, y) headers xs ys with
    | some text => say text 1
    | none =>
      if a.has 's' then
        printLine ("Files ".toList ++ x ++ " and ".toList ++ y ++ " are identical".toList)
      return 0
  | rx, ry =>
    for (p, r) in [(x, rx), (y, ry)] do
      if let .error why := r then warn (p ++ ": ".toList ++ why.toList)
    return 2

/-- Compares what is in two directories. `command` is how the comparison was asked for. -/
def directories (a : Arguments) (command : Chars) : Nat → Chars → Chars → Action Nat
  | 0, _, _ => return 2
  | n + 1, x, y => do
    let fs ← fileSystem
    let inside (p : Chars) : List Chars :=
      match fs.locate (pathOf p) true with
      | .ok loc => (fs.tree.children loc).map fun e => charsOf e.1
      | .error _ => []
    let (xs, ys) := (inside x, inside y)
    let names := (xs ++ ys.filter fun name => !xs.contains name).mergeSort Text.inOrder
    let mut status := 0
    for name in names do
      let (p, q) := (inDirectory x name, inDirectory y name)
      let only := if xs.contains name then if ys.contains name then none else some x else some y
      match only with
      | some there =>
        if !a.has 'N' then
          printLine ("Only in ".toList ++ there ++ ": ".toList ++ name)
          status := max status 1
        else
          status := max status (← files a p q)
      | none =>
        let (inX, inY) := (fs.isDirectory (pathOf p), fs.isDirectory (pathOf q))
        if inX && inY then
          if a.has 'r' then status := max status (← directories a command n p q)
          else
            printLine ("Common subdirectories: ".toList ++ p ++ " and ".toList ++ q)
        else if inX || inY then
          let kind (isDirectory : Bool) : Chars :=
            (if isDirectory then "directory" else "regular file").toList
          printLine ("File ".toList ++ p ++ " is a ".toList ++ kind inX ++ " while file ".toList ++
            q ++ " is a ".toList ++ kind inY)
          status := max status 1
        else
          match ← contentOf p, ← contentOf q with
          | .ok cs, .ok ds =>
            if cs ≠ ds && !a.has 'q' then
              printLine (command ++ ' ' :: p ++ ' ' :: q)
          | _, _ => pure ()
          status := max status (← files a p q)
    return status

end Hunks

open Hunks in
def diff (args : List Chars) : Action Nat :=
  withArguments known 2 args fun a => do
    match a.operands with
    | [] => misused known 2 ("missing operand after ".toList ++ inQuotes (← process).name)
    | [x] => misused known 2 ("missing operand after ".toList ++ inQuotes x)
    | _ :: _ :: extra :: _ => misused known 2 (extraOperand extra)
    | [x, y] =>
      let fs ← fileSystem
      let isDirectory (p : Chars) : Bool := p ≠ ['-'] && fs.isDirectory (pathOf p)
      match isDirectory x, isDirectory y with
      | true, true =>
        if (fs.locate (pathOf x) true).toOption = (fs.locate (pathOf y) true).toOption then
          return 0
        let options := (args.filter fun w => w.head? = some '-').flatMap (' ' :: ·)
        directories a ("diff".toList ++ options) 1000 x y
      | true, false =>
        if (fs.node? (pathOf y)).isNone && y ≠ ['-'] then
          warn (y ++ ": ".toList ++ Fault.notFound.reason.toList)
          return 2
        files a (inDirectory x (lastName y)) y
      | false, true =>
        if (fs.node? (pathOf x)).isNone && x ≠ ['-'] then
          warn (x ++ ": ".toList ++ Fault.notFound.reason.toList)
          return 2
        files a x (inDirectory y (lastName x))
      | false, false => files a x y

end ImportResolver.Tool

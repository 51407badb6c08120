import ImportResolver.Shell.Floating
import ImportResolver.Tool.Columns
/- Sorting lines by keys. -/
namespace ImportResolver.Tool

open Shell Shell.Action

namespace Sorting

/-- A place in a line: so many fields and characters are passed over. -/
structure Place where
  field : Nat
  character : Nat
  skipsBlanks : Bool

/-- The part of a line that is compared, and how. -/
structure Key where
  start : Place
  stop : Option Place
  flags : Chars

def isBlank (c : Char) : Bool := c = ' ' || c = '\t' || c = '\n'

/-- Passes over a field with the blanks before it, or with the separator after it. -/
def passField (separator : Option Char) (atEnd : Bool) (cs : Chars) : Chars :=
  match separator with
  | none => (cs.dropWhile isBlank).dropWhile fun c => !isBlank c
  | some s =>
    let rest := cs.dropWhile (· ≠ s)
    if atEnd then rest else rest.drop 1

def fromPlace (separator : Option Char) (p : Place) (cs : Chars) : Chars :=
  let rest := (List.range p.field).foldl (fun cs _ => passField separator false cs) cs
  let rest := if p.skipsBlanks then rest.dropWhile isBlank else rest
  rest.drop p.character

def Key.text (separator : Option Char) (k : Key) (line : Chars) : Chars :=
  let tail := fromPlace separator k.start line
  match k.stop with
  | none => tail
  | some p =>
    let after :=
      if p.character = 0 then
        let before := (List.range (p.field - 1)).foldl
          (fun cs _ => passField separator false cs) line
        passField separator true before
      else fromPlace separator { p with field := p.field - 1 } line
    tail.take (tail.length - after.length)

def leading (cs : Chars) : Int × Nat :=
  let cs := cs.dropWhile isBlank
  let (negative, cs) :=
    match cs with
    | '-' :: ds => (true, ds)
    | _ => (false, cs)
  let (whole, rest) := cs.span Char.isDigit
  let places :=
    match rest with
    | '.' :: ds => ds.takeWhile Char.isDigit
    | _ => []
  let n : Int := Arithmetic.numeral 10 (whole ++ places)
  (if negative then -n else n, places.length)

def compareNumbers (a b : Chars) : Ordering :=
  let (m, p) := leading a
  let (n, q) := leading b
  compare (m * Nat.pow 10 q) (n * Nat.pow 10 p)

/-- Numbers of any form; a text that is none comes first. -/
def compareFloatings (a b : Chars) : Ordering :=
  let rank (cs : Chars) : Nat × Option (Int × Nat) :=
    match Floating.ofText? (cs.dropWhile isBlank) with
    | none => (0, none)
    | some (.undefined _, _) => (1, none)
    | some (.infinite true, _) => (2, none)
    | some (.infinite false, _) => (4, none)
    | some (.finite negative m e, _) =>
      let (n, d) := Floating.quotient m e
      (3, some (if negative then -(n : Int) else n, d))
  let (j, x) := rank a
  let (k, y) := rank b
  match compare j k, x, y with
  | .eq, some (m, p), some (n, q) => compare (m * q) (n * p)
  | o, _, _ => o

/-- Numbers with letters for thousands: first by the letter, then by the number. -/
def compareSizes (a b : Chars) : Ordering :=
  let rank (cs : Chars) : Int :=
    let cs := cs.dropWhile isBlank
    let (negative, cs) :=
      match cs with
      | '-' :: ds => (true, ds)
      | _ => (false, cs)
    let isZero := cs.all fun c => c = '0' || c = '.' || !c.isDigit
    let unit := (cs.dropWhile fun c => c.isDigit || c = '.').head?
    let k := match unit.bind fun c => "KMGTPEZYRQ".toList.findIdx? (· = c.toUpper) with
      | some i => i + 1
      | none => 0
    if isZero then 0 else if negative then -(k : Int) else k
  (compare (rank a) (rank b)).then (compareNumbers a b)

/-- Where a character stands among those of versions that are not digits. -/
def versionRank (c : Option Char) : Int :=
  match c with
  | none => 0
  | some c =>
    if c.isDigit then 0 else if c = '~' then -1 else if c.isAlpha then c.toNat else c.toNat + 256

/-- Compares versions: runs of other characters by their ranks, runs of digits as numbers. -/
def compareRuns : Nat → Chars → Chars → Ordering
  | 0, _, _ => .eq
  | n + 1, a, b =>
    if a = [] && b = [] then .eq
    else
      let isLetter (cs : Chars) : Bool := cs.head?.any fun c => !c.isDigit
      if isLetter a || isLetter b then
        let o := compare (versionRank a.head?) (versionRank b.head?)
        let rest (cs : Chars) : Chars := if isLetter cs then cs.drop 1 else cs
        if o ≠ .eq then o else compareRuns n (rest a) (rest b)
      else
        let (m, as) := a.span Char.isDigit
        let (k, bs) := b.span Char.isDigit
        (compare (Arithmetic.numeral 10 m) (Arithmetic.numeral 10 k)).then (compareRuns n as bs)

def withoutEndings (cs : Chars) : Chars :=
  let rec strip : Nat → Chars → Chars
    | 0, cs => cs
    | n + 1, cs =>
      let (ending, front) := cs.reverse.span fun c => c.isAlphanum || c = '~'
      match front, ending.reverse with
      | '.' :: rest, c :: _ =>
        if rest ≠ [] && (c.isAlpha || c = '~') then strip n rest.reverse else cs
      | _, _ => cs
  strip cs.length cs

def compareVersions (a b : Chars) : Ordering :=
  let fuel := a.length + b.length + 2
  (compareRuns fuel (withoutEndings a) (withoutEndings b)).then (compareRuns fuel a b)

def months : List String :=
  ["JAN", "FEB", "MAR", "APR", "MAY", "JUN", "JUL", "AUG", "SEP", "OCT", "NOV", "DEC"]

def monthOf (cs : Chars) : Nat :=
  let name := String.ofList (((cs.dropWhile isBlank).take 3).map Char.toUpper)
  match months.findIdx? (· = name) with
  | some i => i + 1
  | none => 0

def compareKeys (flags : Chars) (a b : Chars) : Ordering :=
  let o :=
    if flags.contains 'n' then compareNumbers a b
    else if flags.contains 'g' then compareFloatings a b
    else if flags.contains 'h' then compareSizes a b
    else if flags.contains 'V' then compareVersions a b
    else if flags.contains 'M' then compare (monthOf a) (monthOf b)
    else
      let prepared (cs : Chars) : Chars :=
        let cs := if flags.contains 'd' then cs.filter fun c => c.isAlphanum || isBlank c else cs
        let cs :=
          if flags.contains 'i' then cs.filter fun c => 32 ≤ c.toNat && c.toNat < 127 else cs
        if flags.contains 'f' then cs.map Char.toUpper else cs
      Comparing.order (prepared a) (prepared b)
  if flags.contains 'r' then o.swap else o

def keyFlags : Chars := "bdfginhMrRV".toList

def count? (place : String) (cs : Chars) : Except Chars (Nat × Chars) :=
  let (ds, rest) := cs.span Char.isDigit
  if ds = [] then
    .error (("invalid number " ++ place ++ ": invalid count at start of ").toList ++ inQuotes cs)
  else .ok (Arithmetic.numeral 10 ds, rest)

def invalidKey (why : String) (spec : Chars) : Chars :=
  why.toList ++ ": invalid field specification ".toList ++ inQuotes spec

/-- A key as it is written; `common` are the flags of a key that has none of its own. -/
def key? (common : Chars) (spec : Chars) : Except Chars Key := do
  let (field, rest) ← count? "at field start" spec
  if field = 0 then throw (invalidKey "field number is zero" spec)
  let (character, rest) ←
    match rest with
    | '.' :: ds => count? "after '.'" ds
    | _ => pure (1, rest)
  if character = 0 then throw (invalidKey "character offset is zero" spec)
  let (flags, rest) := rest.span keyFlags.contains
  let (stop?, rest) ←
    match rest with
    | ',' :: more => do
      let (field, rest) ← count? "after ','" more
      if field = 0 then throw (invalidKey "field number is zero" spec)
      let (character, rest) ←
        match rest with
        | '.' :: ds => count? "after '.'" ds
        | _ => pure (0, rest)
      let (flags, rest) := rest.span keyFlags.contains
      pure (some (field, character, flags), rest)
    | _ => pure (none, rest)
  if rest ≠ [] then throw (invalidKey "stray character in field spec" spec)
  let endFlags := (stop?.map fun p => p.2.2).getD []
  let own := flags ++ endFlags
  let all := if own = [] then common else own
  let blanks (given : Chars) : Bool := (if own = [] then common else given).contains 'b'
  return {
    start := ⟨field - 1, character - 1, blanks flags⟩
    stop := stop?.map fun (field, character, flags) => ⟨field, character, blanks flags⟩
    flags := all }

def clash? (k : Key) : Option Chars :=
  let has (c : Char) : Bool := k.flags.contains c
  let kinds := ['n', 'g', 'h', 'M'].filter has
  let others := has 'V' || has 'R' || has 'd' || has 'i'
  if 1 < kinds.length + (if others then 1 else 0) then
    let ignored := if has 'd' then ['d'] else []
    some (ignored ++ ['f', 'g', 'h'].filter has ++ (if has 'i' && !has 'd' then ['i'] else []) ++
      ['M', 'n', 'R', 'V'].filter has)
  else none

def known : Known :=
  { flags := "bdfginhMrRVumszCD", valued := "ktoSTPFN2", free := "c"
    long := [("reverse", 'r'), ("numeric-sort", 'n'), ("unique", 'u'), ("key", 'k'),
      ("field-separator", 't'), ("output", 'o'), ("ignore-case", 'f'), ("stable", 's'),
      ("ignore-leading-blanks", 'b'), ("check", 'c'), ("version-sort", 'V'), ("merge", 'm'),
      ("dictionary-order", 'd'), ("general-numeric-sort", 'g'), ("human-numeric-sort", 'h'),
      ("ignore-nonprinting", 'i'), ("month-sort", 'M'), ("random-sort", 'R'),
      ("zero-terminated", 'z'), ("buffer-size", 'S'), ("temporary-directory", 'T'),
      ("parallel", 'P'), ("sort", '2'), ("debug", 'D'), ("files0-from", 'F'),
      ("batch-size", 'N')] }

/-- How lines are compared: by keys, then by all of them. -/
structure Plan where
  separator : Option Char
  keys : List Key
  unique : Bool
  stable : Bool
  reversed : Bool

def Plan.byKeys (p : Plan) (x y : Chars) : Ordering :=
  p.keys.foldl (fun o k => o.then
    (compareKeys k.flags (k.text p.separator x) (k.text p.separator y))) .eq

def Plan.order (p : Plan) (x y : Chars) : Ordering :=
  let o := p.byKeys x y
  if o ≠ .eq || p.unique || p.stable then o
  else if p.reversed then (Comparing.order x y).swap
  else Comparing.order x y

/-- The first of lists whose first line comes first, taken again and again. -/
def Plan.merged (p : Plan) : Nat → List (List Chars) → List Chars
  | 0, _ => []
  | n + 1, lists =>
    let lists := lists.filter (!·.isEmpty)
    let best := lists.zipIdx.foldl
      (fun (best : Option (Chars × Nat)) e =>
        match e.1, best with
        | l :: _, none => some (l, e.2)
        | l :: _, some (m, _) => if p.order l m = .lt then some (l, e.2) else best
        | [], _ => best)
      none
    match best with
    | none => []
    | some (l, i) =>
      l :: p.merged n (lists.zipIdx.map fun e => if e.2 = i then e.1.drop 1 else e.1)

def Plan.disorder (p : Plan) : Nat → List Chars → Option (Nat × Chars)
  | n, x :: y :: rest =>
    if p.order x y = .gt || p.unique && p.order x y = .eq then some (n + 1, y)
    else p.disorder (n + 1) (y :: rest)
  | _, _ => none

end Sorting

open Sorting in
def sort (args : List Chars) : Action Nat :=
  withArguments known 2 args fun a => do
    let refuse (why : Chars) : Action Nat := do
      warn why
      return 2
    let kind : List Char :=
      match (a.value? '2').map String.ofList with
      | some "numeric" => ['n']
      | some "general-numeric" => ['g']
      | some "human-numeric" => ['h']
      | some "month" => ['M']
      | some "version" => ['V']
      | some "random" => ['R']
      | _ => []
    let common := keyFlags.filter a.has ++ kind
    let given := a.options.filter (·.1 = 'k')
    let tab := a.value? 't'
    if tab = some [] then return ← refuse "empty tab".toList
    if tab.any fun t => 1 < t.length && t ≠ ['\\', '0'] then
      return ← refuse ("multi-character tab ".toList ++ inQuotes (tab.getD []))
    match given.mapM fun o => key? common o.2 with
    | .error why => refuse why
    | .ok ks =>
      let whole : Key := ⟨⟨0, 0, common.contains 'b'⟩, none, common⟩
      let ks := if ks.isEmpty then [whole] else ks
      if let some flags := ks.findSome? clash? then
        return ← refuse ("options '-".toList ++ flags ++ "' are incompatible".toList)
      let ending := if a.has 'z' then Char.ofNat 0 else '\n'
      let p : Plan :=
        { separator := tab.map fun t => if t = ['\\', '0'] then Char.ofNat 0 else t.headD ' '
          keys := ks, unique := a.has 'u', stable := a.has 's'
          reversed := common.contains 'r' }
      let checks := a.has 'c' || a.has 'C'
      if checks && 1 < a.operands.length then
        return ← refuse ("extra operand ".toList ++ inQuotes (a.operands.getD 1 []) ++
          " not allowed with -c".toList)
      let mut lists : List (List Chars) := []
      for file in inputs a.operands do
        match ← contentOf file with
        | .ok cs =>
          let runs := Text.runs ending cs
          lists := lists ++ [if runs.getLast? = some [] then runs.dropLast else runs]
        | .error why =>
          let lead :=
            if why = Fault.isADirectory.reason then "read failed: "
            else if file = ['-'] then "stat failed: " else "cannot read: "
          return ← refuse (lead.toList ++ file ++ ": ".toList ++ why.toList)
      if checks then
        match p.disorder 1 (lists.headD []) with
        | some (n, l) =>
          let quiet := a.has 'C' || ["quiet", "silent"].any fun v => a.value? 'c' = some v.toList
          if !quiet then
            warn ((inputs a.operands).headD [] ++ ':' :: decimal n ++ ": disorder: ".toList ++ l)
          return 1
        | none => return 0
      let total := (lists.map List.length).foldl (· + ·) 0
      let sorted :=
        if a.has 'm' then p.merged (total + 1) lists
        else lists.flatten.mergeSort fun x y => p.order x y ≠ .gt
      let kept :=
        if a.has 'u' then
          (sorted.foldl
            (fun (acc : List Chars) l =>
              match acc with
              | m :: _ => if p.byKeys m l = .eq then acc else l :: acc
              | [] => [l])
            []).reverse
        else sorted
      match a.value? 'o' with
      | some file =>
        if let .error why ← redirectOutput file then
          return ← refuse ("open failed: ".toList ++ file ++ ": ".toList ++ why.toList)
      | none => pure ()
      kept.forM fun l => print (l ++ [ending])
      return 0

end ImportResolver.Tool

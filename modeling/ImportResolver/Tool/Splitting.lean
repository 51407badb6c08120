import ImportResolver.Tool.Arguments
import ImportResolver.Tool.Files
import ImportResolver.Tool.RegexReader
/- Programs that cut a file into several ones. -/
namespace ImportResolver.Tool

open Shell Shell.Action

namespace Splitting

/-- How the names of parts are made. -/
structure Naming where
  front : Chars
  back : Chars
  alphabet : Chars
  width : Nat
  /-- Whether names grow longer when there are too many parts. -/
  grows : Bool
  first : Nat

def counted (alphabet : Chars) : Nat → Nat → Chars
  | 0, _ => []
  | width + 1, n =>
    counted alphabet width (n / alphabet.length) ++
      (alphabet[n % alphabet.length]?).toList

/-- The end of the name of a part; none if there are no more names. Names that grow keep the last
letter of the alphabet in front for longer ones. -/
def ending? (naming : Naming) : Nat → Nat → Nat → Option Chars
  | 0, _, _ => none
  | fuel + 1, width, n =>
    let size := naming.alphabet.length
    if naming.grows then
      let most := (size - 1) * Nat.pow size (width - 1)
      if n < most then some (counted naming.alphabet width n)
      else
        (ending? naming fuel (width + 1) (n - most)).map fun cs =>
          (naming.alphabet.getLast?).toList ++ cs
    else if n < Nat.pow size width then some (counted naming.alphabet width n)
    else none

def name? (naming : Naming) (n : Nat) : Option Chars :=
  (ending? naming 20 naming.width (naming.first + n)).map fun cs =>
    naming.front ++ cs ++ naming.back

def widthFor (alphabet : Chars) : Nat → Nat → Nat
  | 0, _ => 1
  | fuel + 1, last =>
    if last < alphabet.length then 1 else widthFor alphabet fuel (last / alphabet.length) + 1

inductive Cut where
  | lines (n : Nat)
  | bytes (n : Nat)
  /-- Whole lines as long as they fit. -/
  | lineBytes (n : Nat)
  /-- So many parts, perhaps only one of them. -/
  | chunks (kind : Char) (chosen : Option Nat) (n : Nat)

def linesWith (ending : Char) (cs : Chars) : List Chars :=
  let runs := Text.runs ending cs
  runs.dropLast.map (· ++ [ending]) ++ (runs.getLast?.filter (· ≠ [])).toList

def together {α : Type} (n : Nat) : Nat → List α → List (List α)
  | 0, _ => []
  | _, [] => []
  | fuel + 1, xs => xs.take n :: together n fuel (xs.drop n)

/-- Puts lines together that fit into a size. Longer lines are cut. -/
def fitting (size : Nat) : Nat → Chars → List Chars → List Chars
  | 0, part, _ => if part.isEmpty then [] else [part]
  | _, part, [] => if part.isEmpty then [] else [part]
  | fuel + 1, part, l :: ls =>
    if part.length + l.length ≤ size then fitting size fuel (part ++ l) ls
    else if part.isEmpty then l.take size :: fitting size fuel [] (l.drop size :: ls)
    else part :: fitting size fuel [] (l :: ls)

def lineChunks (size n : Nat) (ls : List Chars) : List Chars :=
  let share := max 1 (size / n)
  let place (start : Nat) : Nat := min (n - 1) (start / share)
  let starts := ls.foldl (fun (acc, at_) l => (acc ++ [(place at_, l)], at_ + l.length)) ([], 0)
  (List.range n).map fun k => (starts.1.filter (·.1 = k)).flatMap (·.2)

def parts (cut : Cut) (ending : Char) (cs : Chars) : List Chars :=
  let ls := linesWith ending cs
  match cut with
  | .lines n => (together n (ls.length + 1) ls).map List.flatten
  | .bytes n => together n (cs.length + 1) cs
  | .lineBytes n => fitting n (2 * cs.length + 2) [] ls
  | .chunks 'l' _ n => lineChunks cs.length n ls
  | .chunks 'r' _ n =>
    (List.range n).map fun k => ((ls.zipIdx).filter (·.2 % n = k)).flatMap (·.1)
  | .chunks _ _ n =>
    let share := cs.length / n
    (List.range n).map fun k =>
      if k + 1 = n then cs.drop (k * share) else (cs.drop (k * share)).take share

def chunks? (cs : Chars) : Option Cut :=
  let (kind, rest) :=
    match cs with
    | 'l' :: '/' :: rest => ('l', rest)
    | 'r' :: '/' :: rest => ('r', rest)
    | _ => ('b', cs)
  let (front, back) := rest.span (· ≠ '/')
  match natural? front, back with
  | some n, [] => if n = 0 then none else some (.chunks kind none n)
  | some k, _ :: back =>
    match natural? back with
    | some n => if k = 0 || n < k then none else some (.chunks kind (some k) n)
    | none => none
  | none, _ => none

def known : Known :=
  { flags := "deuxv", valued := "abClntsFHf", free := "NX"
    long := [("suffix-length", 'a'), ("bytes", 'b'), ("line-bytes", 'C'), ("lines", 'l'),
      ("number", 'n'), ("elide-empty-files", 'e'), ("unbuffered", 'u'), ("separator", 't'),
      ("numeric-suffixes", 'N'), ("hex-suffixes", 'X'), ("additional-suffix", 's'),
      ("verbose", 'v'), ("filter", 'f')] }

/-- A number of lines that is given as an option by itself comes as an option with a value. -/
def modern (args : List Chars) : List Chars :=
  args.map fun arg =>
    match arg with
    | '-' :: ds => if ds ≠ [] && ds.all Char.isDigit then '-' :: 'l' :: ds else arg
    | _ => arg

/-- The way of cutting that options ask for, or what is wrong, and whether that concerns the use of
the program. -/
def cut? (a : Arguments) : Except (Bool × Chars) Cut :=
  let ways := a.options.filter fun o => ['b', 'C', 'l', 'n'].contains o.1
  let refuse (what : String) (cs : Chars) : Except (Bool × Chars) Cut :=
    .error (false, "invalid number of ".toList ++ what.toList ++ ": ".toList ++ inQuotes cs)
  match ways with
  | _ :: _ :: _ => .error (true, "cannot split in more than one way".toList)
  | [] => .ok (.lines 1000)
  | [(way, cs)] =>
    if way = 'n' then
      match chunks? cs with
      | some cut => .ok cut
      | none => refuse "chunks" cs
    else
      let what := if way = 'l' then "lines" else "bytes"
      match (if way = 'l' then natural? cs else size? cs) with
      | none => refuse what cs
      | some 0 => refuse what cs
      | some n => .ok (if way = 'l' then .lines n else if way = 'b' then .bytes n else .lineBytes n)

/-- How parts are named, or what is wrong, and whether that concerns the use of the program. -/
def naming (a : Arguments) (cut : Cut) (front : Chars) : Except (Bool × Chars) Naming :=
  let kind := a.last? ['d', 'x', 'N', 'X']
  let isHex := kind = some 'x' || kind = some 'X'
  let alphabet :=
    if isHex then "0123456789abcdef".toList
    else if kind.isSome then "0123456789".toList
    else "abcdefghijklmnopqrstuvwxyz".toList
  let start := if kind = some 'N' then a.value? 'N' else if kind = some 'X' then a.value? 'X'
    else none
  let start := start.filter (· ≠ [])
  let radix := if isHex then 16 else 10
  let isSound (cs : Chars) : Bool := cs.all fun c => Arithmetic.digitValue c < radix
  let back := (a.value? 's').getD []
  match start.filter (!isSound ·), a.value? 'a' with
  | some cs, _ =>
    .error (true, inQuotes cs ++ ": invalid start value for ".toList ++
      (if isHex then "hexadecimal" else "numerical").toList ++ " suffix".toList)
  | none, given =>
    let first := (start.map (Arithmetic.numeral radix)).getD 0
    match (given.getD ['0']), natural? (given.getD ['0']) with
    | cs, none => .error (false, "invalid suffix length: ".toList ++ inQuotes cs)
    | _, some width =>
      let needed := match cut with
        | .chunks _ none n => widthFor alphabet 20 (first + n - 1)
        | _ => 0
      if width ≠ 0 && width < needed then
        .error (false, "the suffix length needs to be at least ".toList ++ decimal needed)
      else if back.contains '/' then
        .error (true, "invalid suffix ".toList ++ inQuotes back ++
          ", contains directory separator".toList)
      else
        .ok
          { front, back, alphabet, first
            width := if width ≠ 0 then width else max 2 needed
            grows := width = 0 && needed = 0 && start.isNone }

end Splitting

open Splitting in
def split (args : List Chars) : Action Nat :=
  withArguments known 1 (modern args) fun a => do
    let refuse (why : Chars) : Action Nat := do
      warn why
      return 1
    match cut? a with
    | .error (isMisuse, why) => if isMisuse then misused known 1 why else refuse why
    | .ok cut =>
      if let some extra := a.operands[2]? then return ← misused known 1 (extraOperand extra)
      let file := a.operands.headD ['-']
      match naming a cut ((a.operands[1]?).getD ['x']) with
      | .error (isMisuse, why) => if isMisuse then misused known 1 why else refuse why
      | .ok naming =>
        match ← contentOf file with
        | .error why =>
          if why = "Is a directory" then return ← refuse (quoted file ++ ": ".toList ++ why.toList)
          return ← refuse
            ("cannot open ".toList ++ quotedFully file ++ " for reading: ".toList ++ why.toList)
        | .ok cs =>
          let separator := match a.value? 't' with
            | some [c] => c
            | some ['\\', '0'] => Char.ofNat 0
            | _ => '\n'
          let all := parts cut separator cs
          match cut with
          | .chunks _ (some k) _ => return ← say (all.getD (k - 1) []) 0
          | _ => pure ()
          let all := if a.has 'e' then all.filter (· ≠ []) else all
          let rec each : List (Chars × Nat) → Action Nat
            | [] => return 0
            | (part, i) :: rest => do
              match name? naming i with
              | none => refuse "output file suffixes exhausted".toList
              | some name =>
                if a.has 'v' then printLine ("creating file ".toList ++ quotedFully name)
                match ← writeWhole name part with
                | some why => refuse (quoted name ++ ": ".toList ++ why.toList)
                | none => each rest
          each all.zipIdx

namespace Cutting

/-- Where a part ends: before a line with a number, or near a line that matches; parts before
lines that match may be left out. -/
inductive Mark where
  | line (n : Nat)
  | matching (regex : Regex) (offset : Int) (isSkipped : Bool)

structure Rule where
  text : Chars
  mark : Mark
  /-- How often it holds again; none if as often as it can. -/
  again : Option Nat

structure Progress where
  /-- The lines that are left, with their numbers. -/
  left : List (Chars × Nat)
  /-- The number of the last line that was looked at. -/
  seen : Nat := 0
  /-- The parts so far, the last one first. -/
  parts : List Chars := []

inductive Ending where
  | goesOn (p : Progress)
  | finished (p : Progress)
  | failed (p : Progress) (why : Chars)

def Progress.take (p : Progress) (last : Nat) : Chars × Progress :=
  let taken := p.left.takeWhile (·.2 < last)
  let left := p.left.drop taken.length
  (taken.flatMap (·.1), { p with left, seen := max p.seen ((taken.getLast?.map (·.2)).getD 0) })

def outOfRange (text : Chars) (repetition : Nat) : Chars :=
  inQuotes text ++ ": line number out of range".toList ++
    if repetition = 0 then [] else " on repetition ".toList ++ decimal repetition

def cutOnce (rule : Rule) (dropsMatch : Bool) (repetition : Nat) (p : Progress) : Ending :=
  let dropped (p : Progress) : Progress :=
    if dropsMatch then { p with left := p.left.drop 1, seen := p.seen + 1 } else p
  match rule.mark with
  | .line n =>
    let last := n * (repetition + 1)
    let (part, after) := p.take last
    let after := { after with parts := part :: after.parts }
    if after.left.isEmpty then .failed after (outOfRange rule.text repetition)
    else .goesOn (dropped after)
  | .matching regex offset isSkipped =>
    let isMatch (l : Chars) : Bool :=
      let text := if l.getLast? = some '\n' then l.dropLast else l
      (Regex.find? regex { text } 0).isSome
    let keep (part : Chars) (p : Progress) : Progress :=
      if isSkipped then p else { p with parts := part :: p.parts }
    match p.left.find? fun (l, i) => p.seen < i && isMatch l with
    | none =>
      let rest := p.left.flatMap (·.1)
      let after := keep rest { p with left := [] }
      if rule.again.isNone then .finished after
      else
        .failed after
          (inQuotes rule.text ++ ": match not found".toList ++
            if repetition = 0 then [] else " on repetition ".toList ++ decimal repetition)
    | some (_, found) =>
      let goal := (found : Int) + offset
      let first := ((p.left.head?).map (·.2)).getD 0
      let after := { (p.take goal.toNat).2 with seen := if 0 < offset then goal.toNat else found }
      let after := keep (p.take goal.toNat).1 after
      if goal < first || after.left.isEmpty && (p.left.getLast?.map (·.2)).any (· + 1 < goal) then
        .failed after (outOfRange rule.text 0)
      else .goesOn (dropped after)

def cutBy (rule : Rule) (dropsMatch : Bool) : Nat → Nat → Progress → Ending
  | 0, _, p => .goesOn p
  | fuel + 1, repetition, p =>
    match cutOnce rule dropsMatch repetition p with
    | .goesOn p =>
      if rule.again.any (· ≤ repetition) then .goesOn p
      else cutBy rule dropsMatch fuel (repetition + 1) p
    | ending => ending

/-- Cuts by one rule after another; what is left is the last part. -/
def cutAll (dropsMatch : Bool) : List Rule → Progress → Ending
  | [], p => .finished { p with left := [], parts := p.left.flatMap (·.1) :: p.parts }
  | rule :: rules, p =>
    match cutBy rule dropsMatch (p.left.length + 2) 0 p with
    | .goesOn p => cutAll dropsMatch rules p
    | ending => ending

def rule? (cs : Chars) : Except Chars Rule :=
  match cs with
  | c :: body =>
    if c = '/' || c = '%' then
      let reversed := body.reverse
      let back := reversed.takeWhile (· ≠ c)
      if back.length = reversed.length then
        .error (cs ++ ": closing delimiter '".toList ++ [c] ++ "' missing".toList)
      else
        let offset := back.reverse
        let (sign, digits) : Int × Chars :=
          match offset with
          | '-' :: ds => (-1, ds)
          | '+' :: ds => (1, ds)
          | ds => (1, ds)
        match if digits.isEmpty && offset.isEmpty then some 0 else natural? digits with
        | none => .error (cs ++ ": integer expected after delimiter".toList)
        | some n =>
          match Regex.ofText { extended := false, strict := true }
            (reversed.drop (back.length + 1)).reverse with
          | .error why => .error (cs ++ ": invalid regular expression: ".toList ++ why.toList)
          | .ok regex => .ok ⟨cs, .matching regex (sign * n) (c = '%'), some 0⟩
    else
      match natural? cs with
      | none => .error (inQuotes cs ++ ": invalid pattern".toList)
      | some 0 => .error (cs ++ ": line number must be greater than zero".toList)
      | some n => .ok ⟨cs, .line n, some 0⟩
  | [] => .error ": invalid pattern".toList

def rules : List Chars → Except Chars (List Rule)
  | [] => .ok []
  | cs :: ('\x7b' :: body) :: rest => do
    let rule ← rule? cs
    let text := '\x7b' :: body
    if body.getLast? ≠ some '\x7d' then
      throw (text ++ ": '\x7d' is required in repeat count".toList)
    let count := body.dropLast
    let again ←
      if count = ['*'] then pure none
      else
        match natural? count with
        | some n => pure (some n)
        | none => throw (inQuotes text ++ ": integer required between '\x7b' and '\x7d'".toList)
    return { rule with again } :: (← rules rest)
  | cs :: rest => do
    let rule ← rule? cs
    return rule :: (← rules rest)

/-- The first line number that is below the one before it, with that one. -/
def descent? : List Rule → Nat → Option (Nat × Nat)
  | [], _ => none
  | rule :: rules, last =>
    match rule.mark with
    | .line n => if n < last then some (n, last) else descent? rules n
    | _ => descent? rules last

/-- The name of a part: digits stand where the format has its number. -/
def partName (front : Chars) (width : Nat) (format : Option Chars) (n : Nat) : Chars :=
  let digits (width n : Nat) : Chars := List.replicate (width - (decimal n).length) '0' ++ decimal n
  match format with
  | none => front ++ digits width n
  | some format =>
    let (before, rest) := format.span (· ≠ '%')
    let body := rest.drop 1
    let isFilled := body.head? = some '0'
    let width := body.takeWhile Char.isDigit
    let wanted := Arithmetic.numeral 10 width
    let number := if isFilled then digits wanted n
      else List.replicate (wanted - (decimal n).length) ' ' ++ decimal n
    front ++ before ++ number ++ body.drop (width.length + 1)

end Cutting

open Cutting in
def csplit (args : List Chars) : Action Nat :=
  let known : Known :=
    { flags := "kszq\x01", valued := "bfn"
      long := [("suffix-format", 'b'), ("prefix", 'f'), ("keep-files", 'k'), ("digits", 'n'),
        ("quiet", 's'), ("silent", 's'), ("elide-empty-files", 'z'), ("suppress-matched", '\x01')] }
  withArguments known 1 args fun a => do
    let refuse (why : Chars) : Action Nat := do
      warn why
      return 1
    match a.operands with
    | [] => misused known 1 missingOperand
    | [file] => misused known 1 ("missing operand after ".toList ++ inQuotes file)
    | file :: marks =>
      match rules marks, natural? ((a.value? 'n').getD ['2']) with
      | .error why, _ => refuse why
      | _, none => refuse ("invalid number: ".toList ++ inQuotes ((a.value? 'n').getD []))
      | .ok rules, some width =>
        if let some (n, last) := descent? rules 0 then
          return ← refuse ("line number ".toList ++ inQuotes (decimal n) ++
            " is smaller than preceding line number, ".toList ++ decimal last)
        match ← contentOf file with
        | .error why =>
          if why = "Is a directory" then refuse ("read error: ".toList ++ why.toList)
          else
            refuse ("cannot open ".toList ++ quotedFully file ++ " for reading: ".toList ++
              why.toList)
        | .ok cs =>
          let (parts, problem) :=
            match cutAll (a.has '\x01') rules { left := (wholeLines cs).zipIdx 1 } with
            | .goesOn p => (p.parts, none)
            | .finished p => (p.parts, none)
            | .failed p why => (p.parts, some why)
          let parts := parts.reverse.filter fun part => !a.has 'z' || !part.isEmpty
          let isQuiet := a.has 's' || a.has 'q'
          for (part, i) in parts.zipIdx do
            if !isQuiet then printLine (decimal part.length)
            let name := partName ((a.value? 'f').getD ['x', 'x']) width (a.value? 'b') i
            if problem.isNone || a.has 'k' then
              if let some why ← writeWhole name part then
                return ← refuse (quoted name ++ ": ".toList ++ why.toList)
            else if let some (loc, _) := nodeHere? (← fileSystem) name then removeNode loc
          match problem with
          | some why => refuse why
          | none => return 0

end ImportResolver.Tool

import ImportResolver.Shell.Format
import ImportResolver.Shell.Pattern
import ImportResolver.Tool.Ends
/- Programs that pick out or replace characters. -/
namespace ImportResolver.Tool

open Shell Shell.Action

namespace Cut

abbrev Range := Nat × Option Nat

def ranges? (isFields : Bool) (cs : Chars) : Except Chars (List Range) :=
  let zero : Chars :=
    (if isFields then "fields are numbered from 1"
      else "byte/character positions are numbered from 1").toList
  let invalid (item : Chars) : Chars :=
    (if isFields then "invalid field value " else "invalid byte/character position ").toList ++
      inQuotes (item.dropWhile Char.isDigit)
  let items := Text.runs ',' (cs.map fun c => if c = ' ' || c = '\t' then ',' else c)
  items.mapM fun item =>
    let (low, rest) := item.span Char.isDigit
    match low, rest with
    | [], [] => .error zero
    | [], ['-'] => .error "invalid range with no endpoint: -".toList
    | low, [] =>
      let n := Arithmetic.numeral 10 low
      if n = 0 then .error zero else .ok (n, some n)
    | low, '-' :: high =>
      let m := if low = [] then 1 else Arithmetic.numeral 10 low
      if m = 0 then .error zero
      else if high = [] then .ok (m, none)
      else
        match natural? high with
        | none => .error (invalid high)
        | some n =>
          if n < m then .error "invalid decreasing range".toList else .ok (m, some n)
    | _, _ => .error (invalid item)

def isIn (ranges : List Range) (n : Nat) : Bool :=
  ranges.any fun (low, high) => low ≤ n && high.all (n ≤ ·)

/-- The picked members, each with whether one that is not picked stands before it. -/
def picked {α : Type} (picks : Nat → Bool) (xs : List α) : List (α × Bool) :=
  let marked := xs.zipIdx.map fun (x, i) => (x, picks i, i = 0 || picks (i - 1))
  (marked.filter (·.2.1)).map fun e => (e.1, !e.2.2)

def known : Known :=
  { flags := "snCz", valued := "bcfdO"
    long := [("complement", 'C'), ("output-delimiter", 'O'), ("fields", 'f'),
      ("characters", 'c'), ("bytes", 'b'), ("delimiter", 'd'), ("only-delimited", 's'),
      ("zero-terminated", 'z')] }

end Cut

open Cut in
def cut (args : List Chars) : Action Nat :=
  withArguments known 1 args fun a => do
    let refuse (why : String) : Action Nat := misused known 1 why.toList
    let kinds := a.options.filter fun o => ['b', 'c', 'f'].contains o.1
    match kinds with
    | [] => refuse "you must specify a list of bytes, characters, or fields"
    | _ :: _ :: _ => refuse "only one list may be specified"
    | [(kind, list)] =>
      let isFields := kind = 'f'
      let delimiter := (a.value? 'd').getD ['\t']
      if 1 < delimiter.length then return ← refuse "the delimiter must be a single character"
      match ranges? isFields list with
      | .error why => misused known 1 why
      | .ok ranges =>
        if !isFields && a.has 'd' then
          return ← refuse "an input delimiter may be specified only when operating on fields"
        if !isFields && a.has 's' then
          return ← refuse
            "suppressing non-delimited lines makes sense\n\tonly when operating on fields"
        let picks (i : Nat) : Bool := isIn ranges (i + 1) != a.has 'C'
        let ending := if a.has 'z' then Char.ofNat 0 else '\n'
        let d := delimiter.headD (Char.ofNat 0)
        let cutLine (l : Chars) : Option Chars :=
          if isFields then
            let joint := (a.value? 'O').getD [d]
            if !l.contains d then if a.has 's' then none else some l
            else
              let fields := (Text.runs d l).zipIdx.filter fun e => picks e.2
              some ((fields.map (·.1)).intersperse joint).flatten
          else
            match a.value? 'O' with
            | none => some ((picked picks l).map (·.1))
            | some joint =>
              let chosen := picked picks l
              some (chosen.zipIdx.flatMap fun ((c, gap), i) =>
                (if gap && 0 < i then joint else []) ++ [c])
        let (_, whole) ← overLines a.operands ending () fun _ l => do
          match cutLine (withoutEnd ending l) with
          | some cs => print (cs ++ [ending])
          | none => return
        return failed whole

namespace CharacterSet

inductive Element where
  | range (low high : Char)
  | named (name : String)
  /-- A character so many times; without a count, as often as it takes. -/
  | repeated (c : Char) (count : Option Nat)
  deriving DecidableEq

/-- Replaces escapes; also says which characters were written as one. -/
def unescaped : Nat → Chars → List (Char × Bool)
  | 0, _ => []
  | _ + 1, [] => []
  | n + 1, '\\' :: cs =>
    let (c, rest) := escape cs
    match cs with
    | [] => [('\\', false)]
    | d :: after =>
      if "abfnrtv\\".toList.contains d || isOctal d then (c, true) :: unescaped n rest
      else (d, true) :: unescaped n after
  | n + 1, c :: cs => (c, false) :: unescaped n cs

def everyByte : Chars := (List.range 256).map Char.ofNat

def elements : Nat → List (Char × Bool) → Except Chars (List Element)
  | 0, _ => .ok []
  | _ + 1, [] => .ok []
  | n + 1, (c, quoted) :: rest => do
    let text := rest.map (·.1)
    let plain : Except Chars (List Element) := do
      match rest with
      | ('-', false) :: (d, _) :: after =>
        if d.toNat < c.toNat then
          .error ("range-endpoints of '".toList ++ [c, '-', d] ++
            "' are in reverse collating sequence order".toList)
        else return .range c d :: (← elements n after)
      | _ => return .range c c :: (← elements n rest)
    if c = '[' && !quoted then
      match rest with
      | (':', false) :: _ =>
        let name := (text.drop 1).takeWhile (· ≠ ':')
        if (text.drop (1 + name.length)).take 2 = [':', ']'] then
          let s := String.ofList name
          if (Pattern.classes.find? (·.1 = s)).isSome then
            return .named s :: (← elements n (rest.drop (name.length + 3)))
          else .error ("invalid character class ".toList ++ inQuotes name)
        else plain
      | ('=', false) :: _ =>
        let name := (text.drop 1).takeWhile (· ≠ '=')
        if (text.drop (1 + name.length)).take 2 = ['=', ']'] then
          match name with
          | [d] => return .range d d :: (← elements n (rest.drop 4))
          | _ =>
            .error (name ++ ": equivalence class operand must be a single character".toList)
        else plain
      | (d, _) :: ('*', false) :: more =>
        let count := (more.map (·.1)).takeWhile Char.isDigit
        match more.drop count.length with
        | (']', false) :: after =>
          let k := Arithmetic.numeral (if count.head? = some '0' then 8 else 10) count
          return .repeated d (if k = 0 then none else some k) :: (← elements n after)
        | _ => plain
      | _ => plain
    else plain

def ofText (cs : Chars) : Except Chars (List Element) :=
  let items := unescaped (cs.length + 1) cs
  elements (items.length + 1) items

/-- The members of a part in order; `room` is how many characters a repetition without a count
fills. -/
def Element.members (room : Nat) : Element → Chars
  | .range low high =>
    (List.range (high.toNat + 1 - low.toNat)).map fun i => Char.ofNat (low.toNat + i)
  | .named name =>
    match Pattern.classes.find? (·.1 = name) with
    | some k => everyByte.filter k.2
    | none => []
  | .repeated c count => List.replicate (count.getD room) c

def Element.isEndless : Element → Bool
  | .repeated _ none => true
  | _ => false

def members (wanted : Nat) (es : List Element) : Chars :=
  let fixed := (es.map fun e => (e.members 0).length).foldl (· + ·) 0
  es.flatMap (Element.members (wanted - fixed))

def casePlaces : Nat → List Element → List Nat
  | _, [] => []
  | i, e :: es =>
    let rest := casePlaces (i + (e.members 0).length) es
    match e with
    | .named name => if name = "upper" || name = "lower" then i :: rest else rest
    | _ => rest

def misfit? (complement truncates : Bool) (first second : List Element) : Option String :=
  let isClass (e : Element) : Bool := match e with
    | .named _ => true
    | _ => false
  let isOther (e : Element) : Bool := isClass e && e ≠ .named "upper" && e ≠ .named "lower"
  let size (es : List Element) : Nat := (members 0 es).length
  let from_ := if complement then 256 - (members 0 first).eraseDups.length else size first
  if 1 < (second.filter Element.isEndless).length then
    some "only one [c*] repeat construct may appear in string2"
  else if second.any isOther then
    some ("when translating, the only character classes that may appear in\n" ++
      "string2 are 'upper' and 'lower'")
  else if (casePlaces 0 second).any fun i => complement || !(casePlaces 0 first).contains i then
    some "misaligned [:upper:] and/or [:lower:] construct"
  else if truncates then none
  else if second.isEmpty then some "when not truncating set1, string2 must be non-empty"
  else if size second < from_ && !second.any Element.isEndless &&
      second.getLast?.any isClass && !complement then
    some ("when translating with string1 longer than string2,\n" ++
      "the latter string must not end with a character class")
  else if complement && first.any isClass && (members from_ second).eraseDups.length ≠ 1 then
    some ("when translating with complemented character classes,\n" ++
      "string2 must map all characters in the domain to one")
  else none

end CharacterSet

/-- Keeps one of several equal characters that stand together; `last` came before them. -/
def squeezed (set : Chars) (last : Option Char) (cs : Chars) : Chars :=
  let (_, kept) := cs.foldl
    (fun (acc : Option Char × Chars) c =>
      if acc.1 = some c && set.contains c then acc else (some c, c :: acc.2))
    (last, [])
  kept.reverse

open CharacterSet in
def tr (args : List Chars) : Action Nat :=
  let known : Known :=
    { flags := "cCdst", anywhere := false
      long :=
        [("complement", 'c'), ("delete", 'd'), ("squeeze-repeats", 's'), ("truncate-set1", 't')] }
  withArguments known 1 args fun a => do
    let deletes := a.has 'd'
    let squeezes := a.has 's'
    let complement := a.has 'c' || a.has 'C'
    let least := if deletes = squeezes then 2 else 1
    let most := if deletes && !squeezes then 1 else 2
    let count := a.operands.length
    let refuse (why : Chars) : Action Nat := do
      warn why
      return 1
    if count < least then
      if count = 0 then return ← misused known 1 "missing operand".toList
      let what := if squeezes then "both deleting and squeezing repeats" else "translating"
      return ← misused known 1 ("missing operand after ".toList ++ inQuotes (a.operands.headD []) ++
        "\nTwo strings must be given when ".toList ++ what.toList ++ ['.'])
    if most < count then
      let extra := "extra operand ".toList ++ inQuotes (a.operands.getD most [])
      return ← misused known 1 (extra ++ if most = 1 && count = 2 then
        "\nOnly one string may be given when deleting without squeezing repeats.".toList else [])
    let backslashes (cs : Chars) : Nat := (cs.reverse.takeWhile (· = '\\')).length
    if a.operands.any fun cs => backslashes cs % 2 = 1 then
      warn "warning: an unescaped backslash at end of string is not portable".toList
    match a.operands.mapM ofText with
    | .error why => refuse why
    | .ok sets =>
      let first := sets.headD []
      if first.any Element.isEndless then
        return ← refuse "the [c*] repeat construct may not appear in string1".toList
      let translates := !deletes && 1 < sets.length
      let second? := sets[1]?
      match second? with
      | some second =>
        if translates then
          if let some why := misfit? complement (a.has 't') first second then
            return ← refuse why.toList
        else if second.any Element.isEndless then
          return ← refuse
            "the [c*] construct may appear in string2 only when translating".toList
      | none => pure ()
      let listed := CharacterSet.members 0 first
      let firsts :=
        if complement then everyByte.filter fun c => !listed.contains c else listed
      let seconds := second?.map (CharacterSet.members firsts.length)
      let last := (seconds.bind List.getLast?).getD ' '
      let table : List (Char × Char) :=
        if !translates then []
        else
          (firsts.zipIdx.filterMap fun (c, i) =>
            match (seconds.getD [])[i]? with
            | some d => some (c, d)
            | none => if a.has 't' then none else some (c, last)).reverse
      let quick : Array Char := (everyByte.map fun c =>
        ((table.find? (·.1 = c)).map (·.2)).getD c).toArray
      let doomed : Array Bool := (everyByte.map fun c => firsts.contains c).toArray
      let narrow : Chars := if translates || deletes then seconds.getD [] else firsts
      let change (last : Option Char) (cs : Chars) : Chars :=
        let cs := if deletes then cs.filter fun c => !doomed.getD c.toNat false
          else if translates then cs.map fun c => quick.getD c.toNat c
          else cs
        if squeezes then squeezed narrow last cs else cs
      let r ← Ends.chunks 0 none fun before cs => do
        let out := change before cs
        print out
        return out.getLast? <|> before
      match r with
      | .ok _ => return 0
      | .error why => refuse ("read error: ".toList ++ why.toList)

end ImportResolver.Tool

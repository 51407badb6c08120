import ImportResolver.Text.Affix
import ImportResolver.Tool.Arguments
import ImportResolver.Tool.Names
/- Putting names in an order that pairs of them ask for, and lines in no order. -/
namespace ImportResolver.Tool

open Shell Shell.Action

namespace Relations

/-- A name, how many names have to come before it, and those that it has to come before; of these
the last one given comes first. -/
structure Item where
  name : Chars
  count : Nat := 0
  later : List Chars := []
  isDone : Bool := false

abbrev Table := List Item

def Table.change (t : Table) (name : Chars) (f : Item → Item) : Table :=
  t.map fun i => if i.name = name then f i else i

def Table.get? (t : Table) (name : Chars) : Option Item := t.find? (·.name = name)

def ofPairs (pairs : List (Chars × Chars)) : Table :=
  let names := (pairs.flatMap fun p => [p.1, p.2]).mergeSort Text.inOrder
  let items : Table := (names.eraseReps).map fun name => { name }
  pairs.foldl
    (fun t (x, y) =>
      if x = y then t
      else
        let t := t.change x fun i => { i with later := y :: i.later }
        t.change y fun i => { i with count := i.count + 1 })
    items

/-- Puts out the names that wait; those that have to wait for no other any more join them. -/
def drain : Nat → List Chars → Table → List Chars × Table
  | 0, _, t => ([], t)
  | _, [], t => ([], t)
  | n + 1, name :: queue, t =>
    let later := ((t.get? name).map (·.later)).getD []
    let t := t.change name fun i => { i with isDone := true }
    let (t, free) := later.foldl
      (fun (t, free) y =>
        let t := Table.change t y fun i => { i with count := i.count - 1 }
        if (t.get? y).any (·.count = 0) then (t, free ++ [y]) else (t, free))
      (t, [])
    let (names, t) := drain n (queue ++ free) t
    (name :: names, t)

/-- Looks for a loop by walks over all items, each of which leads back by a step; answers with the
names of one in their order, and the table without the relation that closes it. The item that a
walk began with counts as found only when it was met again. -/
def loop? : Nat → List Item → List Chars → Table → Option (List Chars × Table)
  | 0, _, _, _ => none
  | n + 1, [], chain, t => loop? n t chain t
  | n + 1, i :: rest, chain, t =>
    if i.count = 0 then loop? n rest chain t
    else
      match chain with
      | [] => loop? n rest [i.name] t
      | head :: _ =>
        if !i.later.contains head then loop? n rest chain t
        else if chain.dropLast.contains i.name then
          let names := chain.takeWhile (· ≠ i.name) ++ [i.name]
          let t := t.change i.name fun i => { i with later := i.later.erase head }
          let t := t.change head fun i => { i with count := i.count - 1 }
          some (names, t)
        else loop? n rest (i.name :: chain) t

/-- Names in an order that keeps all relations but those that close loops; with the names of the
loop, if there is one, that was met after some of them. -/
def sorted : Nat → Table → List (List Chars × List Chars)
  | 0, _ => []
  | n + 1, t =>
    let free := (t.filter fun i => !i.isDone && i.count = 0).map (·.name)
    let (names, t) := drain (t.length + 1) free t
    if t.all (·.isDone) then [(names, [])]
    else
      match loop? ((t.length + 1) * (t.length + 1)) t [] t with
      | none => [(names, [])]
      | some (loop, t) => (names, loop) :: sorted n t

end Relations

open Relations in
def tsort (args : List Chars) : Action Nat :=
  let known : Known := { flags := "" }
  withArguments known 1 args fun a => do
    match a.operands with
    | _ :: extra :: _ => misused known 1 (extraOperand extra)
    | files =>
      let file := files.headD ['-']
      match ← contentOf file with
      | .error why =>
        if why = "Is a directory" then warn (quoted file ++ ": read error: ".toList ++ why.toList)
        else warnOf file why
        return 1
      | .ok cs =>
        let isSeparate (c : Char) : Bool := c = ' ' || c = '\n' || c = '\t'
        let lines := cs.map fun c => if isSeparate c then '\n' else c
        let words := (linesOf lines).filter (· ≠ [])
        let rec pairs : List Chars → List (Chars × Chars)
          | x :: y :: rest => (x, y) :: pairs rest
          | _ => []
        if words.length % 2 = 1 then
          warn (quoted file ++ ": input contains an odd number of tokens".toList)
          return 1
        let relations := pairs words
        let rounds := sorted (relations.length + 1) (ofPairs relations)
        for (names, loop) in rounds do
          names.forM printLine
          if !loop.isEmpty then
            warn (quoted file ++ ": input contains a loop:".toList)
            loop.forM warn
        return failed (rounds.all (·.2.isEmpty))

def shuffled (seed : Nat) : Nat → List Chars → List Chars
  | 0, ls => ls
  | _, [] => []
  | n + 1, l :: ls =>
    let seed := (seed * 1103515245 + 12345) % 2147483648
    let k := seed / 65536 % (ls.length + 1)
    match (l :: ls)[k]? with
    | some chosen => chosen :: shuffled seed n ((l :: ls).eraseIdx k)
    | none => l :: ls

def shuf (args : List Chars) : Action Nat :=
  let known : Known :=
    { flags := "erz", valued := "ino\x01"
      long := [("echo", 'e'), ("input-range", 'i'), ("head-count", 'n'), ("output", 'o'),
        ("repeat", 'r'), ("zero-terminated", 'z'), ("random-source", '\x01')] }
  withArguments known 1 args fun a => do
    let refuse (why : Chars) : Action Nat := do
      warn why
      return 1
    let ending := lineEnd a 'z'
    let most? : Except Chars (Option Nat) :=
      match a.value? 'n' with
      | none => .ok none
      | some n =>
        match natural? n with
        | some n => .ok (some n)
        | none => .error ("invalid line count: ".toList ++ inQuotes n)
    match most?, a.value? 'i' with
    | .error why, _ => refuse why
    | .ok most, some range =>
      match a.operands, range.span (· ≠ '-') with
      | extra :: _, _ => misused known 1 (extraOperand extra)
      | [], (low, high) =>
        match natural? low, natural? (high.drop 1) with
        | some low, some high =>
          if high + 1 < low then refuse ("invalid input range: ".toList ++ inQuotes range)
          else finish a ending most ((List.range (high + 1 - low)).map fun i => decimal (low + i))
        | _, _ => refuse ("invalid input range: ".toList ++ inQuotes range)
    | .ok most, none =>
      if a.has 'e' then finish a ending most a.operands
      else
        match a.operands with
        | _ :: extra :: _ => misused known 1 (extraOperand extra)
        | files =>
          match ← contentOf (files.headD ['-']) with
          | .error why => refuse (quoted (files.headD ['-']) ++ ": ".toList ++ why.toList)
          | .ok cs =>
            let runs := Text.runs ending cs
            finish a ending most (if runs.getLast? = some [] then runs.dropLast else runs)
where
  /-- Prints lines in some order, or chooses so many of them. -/
  finish (a : Arguments) (ending : Char) (most : Option Nat) (ls : List Chars) : Action Nat := do
    let seed := (← process).clock + 7919 * (← freshNumber)
    let chosen :=
      if a.has 'r' then
        (List.range (most.getD 1000)).filterMap fun i => (shuffled (seed + i * 31) 1 ls).head?
      else
        let all := shuffled seed ls.length ls
        all.take (most.getD all.length)
    let text := chosen.flatMap (· ++ [ending])
    match a.value? 'o' with
    | none => say text 0
    | some file =>
      match ← writeWhole file text with
      | some why =>
        warnOf file why
        return 1
      | none => return 0

end ImportResolver.Tool

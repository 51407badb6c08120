import ImportResolver.Tool.Lines
/- Programs that set lines side by side, compare them, or break them. -/
namespace ImportResolver.Tool

open Shell Shell.Action

namespace Paste

def delimiters : Chars → List Chars
  | '\\' :: c :: cs =>
    (match c with
      | 'n' => ['\n']
      | 't' => ['\t']
      | 'b' => [Char.ofNat 8]
      | 'r' => ['\r']
      | 'f' => [Char.ofNat 12]
      | 'v' => [Char.ofNat 11]
      | '0' => []
      | c => [c]) :: delimiters cs
  | c :: cs => [c] :: delimiters cs
  | [] => []

def delimiter (ds : List Chars) (i : Nat) : Chars :=
  if ds.isEmpty then [] else ds.getD (i % ds.length) []

/-- A file among those that are read side by side. Several may stand for one feed. -/
structure Column where
  source : Nat
  isDone : Bool := false

def row (ending : Char) (ds : List Chars) :
    Nat → List Column → List (Nat × Feed) → Action (Chars × Bool × List Column × List (Nat × Feed))
  | _, [], feeds => return ([], false, [], feeds)
  | i, c :: cs, feeds => do
    let lead := if i = 0 then [] else delimiter ds (i - 1)
    let (line?, feeds) : Option Chars × List (Nat × Feed) ←
      if c.isDone then pure (none, feeds)
      else
        match feeds.find? (·.1 = c.source) with
        | none => pure (none, feeds)
        | some (n, feed) => do
          match ← feed.next? with
          | .error _ => pure (none, feeds)
          | .ok (l, feed) => pure (l, feeds.map fun e => if e.1 = n then (n, feed) else e)
    let (rest, more, cs, feeds) ← row ending ds (i + 1) cs feeds
    let text := lead ++ withoutEnd ending (line?.getD []) ++ rest
    return (text, line?.isSome || more, { c with isDone := line?.isNone } :: cs, feeds)

def rows (ending : Char) (ds : List Chars) :
    Nat → List Column → List (Nat × Feed) → Action Unit
  | 0, _, _ => throw .exhausted
  | n + 1, columns, feeds => do
    let (text, more, columns, feeds) ← row ending ds 0 columns feeds
    if more then
      print (text ++ [ending])
      rows ending ds n columns feeds

end Paste

open Paste in
def paste (args : List Chars) : Action Nat :=
  let known : Known :=
    { flags := "sz", valued := "d"
      long := [("serial", 's'), ("delimiters", 'd'), ("zero-terminated", 'z')] }
  withArguments known 1 args fun a => do
    let ending := if a.has 'z' then Char.ofNat 0 else '\n'
    let ds := delimiters ((a.value? 'd').getD ['\t'])
    let files := inputs a.operands
    if a.has 's' then
      let mut status := 0
      for file in files do
        let r ← withInput file fun d =>
          Feed.each { descriptor := d, ending } 0 fun i l => do
            print ((if i = 0 then [] else delimiter ds (i - 1)) ++ withoutEnd ending l)
            return (i + 1, true)
        match r with
        | .ok (.ok _) => print [ending]
        | .ok (.error why) =>
          warnOf file why
          status := 1
        | .error why =>
          warnOf file why
          status := 1
      return status
    else
      let mut columns : List Column := []
      let mut feeds : List (Nat × Feed) := []
      for file in files do
        match ← openInput file (inputDescriptor + columns.length) with
        | .error why =>
          warnOf file why
          return 1
        | .ok d =>
          columns := columns ++ [{ source := d }]
          if feeds.all (·.1 ≠ d) then
            feeds := feeds ++ [(d, { descriptor := d, ending, block := 4096 })]
      rows ending ds loopLimit columns feeds
      return 0

namespace Columns

def after (c : Char) (column : Nat) : Nat :=
  if c = '\t' then column + 8 - column % 8
  else if c = Char.ofNat 8 then column - 1
  else if c = '\r' then 0
  else column + 1

/-- Breaks a line so that no part takes more than so many columns; `held` is the part that is
begun, the last character first. -/
def broken (width : Nat) (atBlanks byBytes : Bool) : Nat → Chars → Nat → Chars → List Chars
  | 0, held, _, rest => [held.reverse ++ rest]
  | _, held, _, [] => [held.reverse]
  | n + 1, held, column, c :: rest =>
    let next := if byBytes then column + 1 else after c column
    if width < next && held ≠ [] then
      let (tail, whole) := held.span fun c => c ≠ ' ' && c ≠ '\t'
      if atBlanks && whole ≠ [] then
        whole.reverse ::
          broken width atBlanks byBytes n tail
            (tail.reverse.foldl (fun k c => if byBytes then k + 1 else after c k) 0) (c :: rest)
      else
        held.reverse ::
          broken width atBlanks byBytes n [c] (if byBytes then 1 else after c 0) rest
    else broken width atBlanks byBytes n (c :: held) next rest

end Columns

open Columns in
def fold (args : List Chars) : Action Nat :=
  let known : Known :=
    { flags := "sb", valued := "w", long := [("spaces", 's'), ("bytes", 'b'), ("width", 'w')] }
  let args :=
    match args with
    | ('-' :: c :: cs) :: rest => if c.isDigit then ['-', 'w'] :: (c :: cs) :: rest else args
    | args => args
  withArguments known 1 args fun a => do
    let given := (a.value? 'w').getD ['8', '0']
    match natural? given with
    | none =>
      warn ("invalid number of columns: ".toList ++ inQuotes given)
      return 1
    | some 0 =>
      warn ("invalid number of columns: ".toList ++ inQuotes given ++
        ": Numerical result out of range".toList)
      return 1
    | some width =>
      let (_, whole) ← overLines a.operands '\n' () fun _ l => do
        let text := withoutEnd '\n' l
        let pieces := broken width (a.has 's') (a.has 'b') (2 * text.length + 2) [] 0 text
        print ((pieces.intersperse ['\n']).flatten ++ if l.getLast? = some '\n' then ['\n'] else [])
      return failed whole

namespace Tabs

/-- Places to stop at: each multiple of a number, or some places and then every column. -/
inductive Stops where
  | every (n : Nat)
  | listed (places : List Nat)

def ofText? (cs : Chars) : Option Stops :=
  let words := (Text.runs ',' (cs.map fun c => if c = ' ' then ',' else c)).filter (· ≠ [])
  match words.mapM natural? with
  | some [n] => if n = 0 then none else some (.every n)
  | some [] => some (.every 8)
  | some ns => some (.listed ns)
  | none => none

def Stops.next (s : Stops) (column : Nat) : Nat :=
  match s with
  | .every n => (column / n + 1) * n
  | .listed places => (places.find? (column < ·)).getD (column + 1)

def Stops.isStop (s : Stops) (column : Nat) : Bool :=
  match s with
  | .every n => column % n = 0
  | .listed places => places.contains column

def expanded (s : Stops) (onlyFirst : Bool) : Nat → Bool → Chars → List Chars
  | _, _, [] => []
  | column, leading, c :: cs =>
    if c = '\t' && (leading || !onlyFirst) then
      let next := s.next column
      List.replicate (next - column) ' ' :: expanded s onlyFirst next leading cs
    else
      [c] :: expanded s onlyFirst (if c = Char.ofNat 8 then column - 1 else column + 1)
        (leading && c = ' ') cs

/-- Puts tabs where blanks lead up to a stop; `held` is how many blanks are not written yet, and
the column at which they began. -/
def contracted (s : Stops) (onlyFirst : Bool) : Nat → Chars → Nat → Bool → Chars → List Chars
  | 0, held, _, _, cs => [held.reverse, cs]
  | _, held, _, _, [] => [held.reverse]
  | n + 1, held, column, leading, c :: cs =>
    let active := leading || !onlyFirst
    if active && c = ' ' then
      if s.isStop (column + 1) then
        let isOne := held = [] && cs.head?.all fun d => d ≠ ' ' && d ≠ '\t'
        (if isOne && !leading then [c] else ['\t']) ::
          contracted s onlyFirst n [] (column + 1) leading cs
      else contracted s onlyFirst n (c :: held) (column + 1) leading cs
    else if active && c = '\t' then
      ['\t'] :: contracted s onlyFirst n [] (s.next column) leading cs
    else
      held.reverse :: [c] :: contracted s onlyFirst n []
        (if c = Char.ofNat 8 then column - 1 else column + 1) false cs

end Tabs

/-- An argument such as `-4` as a value of the option `-t`. -/
def withTabs : List Chars → List Chars
  | ('-' :: c :: cs) :: rest =>
    if c.isDigit then ['-', 't'] :: (c :: cs) :: rest else ('-' :: c :: cs) :: rest
  | args => args

def tabKnown : Known :=
  { flags := "iaF", valued := "t"
    long := [("initial", 'i'), ("all", 'a'), ("first-only", 'F'), ("tabs", 't')] }

def retabbed (a : Arguments) (change : Tabs.Stops → Chars → List Chars) : Action Nat := do
  let given := ((a.options.filter (·.1 = 't')).map (·.2)).intersperse [','] |>.flatten
  match Tabs.ofText? given with
  | none =>
    warn ("tab size contains invalid character(s): ".toList ++
      inQuotes (given.dropWhile fun c => c.isDigit || c = ','))
    return 1
  | some stops =>
    let (_, whole) ← overLines a.operands '\n' () fun _ l => do
      let ended := l.getLast? = some '\n'
      print ((change stops (withoutEnd '\n' l)).flatten ++ if ended then ['\n'] else [])
    return failed whole

def expand (args : List Chars) : Action Nat :=
  withArguments tabKnown 1 (withTabs args) fun a =>
    retabbed a fun stops l => Tabs.expanded stops (a.has 'i') 0 true l

def unexpand (args : List Chars) : Action Nat :=
  withArguments tabKnown 1 (withTabs args) fun a =>
    let all := (a.has 'a' || a.has 't') && !a.has 'F'
    retabbed a fun stops l => Tabs.contracted stops (!all) (l.length + 1) [] 0 true l

namespace Comparing

/-- Which of two texts comes first, by the numbers of their characters. -/
def order : Chars → Chars → Ordering
  | [], [] => .eq
  | [], _ => .lt
  | _, [] => .gt
  | a :: as, b :: bs =>
    if a.toNat < b.toNat then .lt else if b.toNat < a.toNat then .gt else order as bs

/-- The first line that comes before the one in front of it, with its number. -/
def disorder (compare : Chars → Chars → Ordering) : Nat → List Chars → Option (Nat × Chars)
  | i, x :: y :: rest =>
    if compare x y = .gt then some (i + 1, y) else disorder compare (i + 1) (y :: rest)
  | _, _ => none

end Comparing

def withPair (known : Known) (a : Arguments) (body : Chars → Chars → Action Nat) : Action Nat :=
  match a.operands with
  | [x, y] => body x y
  | _ :: _ :: extra :: _ => misused known 1 ("extra operand ".toList ++ quotedFully extra)
  | [x] => misused known 1 ("missing operand after ".toList ++ quotedFully x)
  | [] => misused known 1 "missing operand".toList

def bothContents (x y : Chars) : Action (Option (Chars × Chars)) := do
  match ← contentOf x with
  | .error why =>
    warnOf x why
    return none
  | .ok xs =>
    match ← contentOf y with
    | .error why =>
      warnOf y why
      return none
    | .ok ys => return some (xs, ys)

open Comparing in
def comm (args : List Chars) : Action Nat :=
  let known : Known :=
    { flags := "123czNt", valued := "O"
      long := [("check-order", 'c'), ("nocheck-order", 'N'), ("output-delimiter", 'O'),
        ("total", 't'), ("zero-terminated", 'z')] }
  withArguments known 1 args fun a =>
    withPair known a fun x y => do
      match ← bothContents x y with
      | none => return 1
      | some (xs, ys) =>
        let delimiter := (a.value? 'O').getD ['\t']
        let shows (c : Char) : Bool := !a.has c
        let lead (kind : Nat) : Chars :=
          ((if 1 < kind && shows '1' then delimiter else []) ++
            if 2 < kind && shows '2' then delimiter else [])
        let show_ (kind : Nat) (l : Chars) : Action Unit := do
          if shows (Char.ofNat ('0'.toNat + kind)) then printLine (lead kind ++ l)
        let rec merge : Nat → List Chars → List Chars → List Nat → Bool × Bool → Bool →
            Action (List Nat × Bool × Bool)
          | 0, _, _, counts, told, _ => return (counts, told)
          | n + 1, as, bs, counts, told, unpaired => do
            let tell (told : Bool) (rest : List Chars) (which : Nat) (unpaired : Bool) :
                Action Bool := do
              match rest with
              | l :: m :: _ =>
                if order l m = .gt && unpaired && !told && !a.has 'N' then
                  warn ("file ".toList ++ decimal which ++ " is not in sorted order".toList)
                  return true
                else return told
              | _ => return told
            let bump (i : Nat) : List Nat := counts.zipIdx.map fun (c, j) =>
              if j = i then c + 1 else c
            match as, bs with
            | [], [] => return (counts, told)
            | p :: ps, [] =>
              show_ 1 p
              let t ← tell told.1 as 1 true
              merge n ps [] (bump 0) (t, told.2) true
            | [], q :: qs =>
              show_ 2 q
              let t ← tell told.2 bs 2 true
              merge n [] qs (bump 1) (told.1, t) true
            | p :: ps, q :: qs =>
              match order p q with
              | .lt =>
                show_ 1 p
                let t ← tell told.1 as 1 true
                merge n ps bs (bump 0) (t, told.2) true
              | .gt =>
                show_ 2 q
                let t ← tell told.2 bs 2 true
                merge n as qs (bump 1) (told.1, t) true
              | .eq =>
                show_ 3 p
                let t ← tell told.1 as 1 unpaired
                let u ← tell told.2 bs 2 unpaired
                merge n ps qs (bump 2) (t, u) unpaired
        let ls := linesOf xs
        let ms := linesOf ys
        let (counts, told) ←
          merge (ls.length + ms.length + 1) ls ms [0, 0, 0] (false, false) false
        if a.has 't' then
          printLine (((counts.map decimal) ++ ["total".toList]).intersperse delimiter).flatten
        if told.1 || told.2 then
          warn "input is not in sorted order".toList
          return 1
        return 0

namespace Joining

/-- A field of the output: the one that is compared, or one of a file. -/
inductive Field where
  | common
  | own (file number : Nat)

structure Plan where
  separator : Option Char
  keys : Nat × Nat
  ignoresCase : Bool
  /-- The files of which lines are shown that go with none. -/
  unpaired : List Nat
  pairs : Bool
  missing : Chars
  output : Option (List Field)
  /-- Whether as many fields are shown as the first lines have. -/
  automatic : Bool

def isBlank (c : Char) : Bool := c = ' ' || c = '\t' || c = '\n'

def fields (p : Plan) (l : Chars) : List Chars :=
  match p.separator with
  | some c => Text.runs c l
  | none =>
    let rec go : Nat → Chars → List Chars
      | 0, _ => []
      | n + 1, cs =>
        match cs.dropWhile isBlank with
        | [] => []
        | cs =>
          let (word, rest) := cs.span fun c => !isBlank c
          word :: go n rest
    go (l.length + 1) l

def key (p : Plan) (file : Nat) (l : Chars) : Chars :=
  let k := (fields p l).getD ((if file = 1 then p.keys.1 else p.keys.2) - 1) []
  if p.ignoresCase then k.map Char.toLower else k

def compare (p : Plan) (file : Nat) (a b : Chars) : Ordering :=
  Comparing.order (key p file a) (key p file b)

def joined (p : Plan) (x y : Option Chars) : Chars :=
  let joint : Chars := [p.separator.getD ' ']
  let parts (l : Option Chars) : List Chars := (l.map (fields p)).getD []
  let filled (cs : Chars) : Chars := if cs = [] then p.missing else cs
  let common : Chars :=
    match x, y with
    | some l, _ => (fields p l).getD (p.keys.1 - 1) []
    | none, some l => (fields p l).getD (p.keys.2 - 1) []
    | none, none => []
  let others (l : Option Chars) (k : Nat) : List Chars :=
    ((parts l).zipIdx.filter fun e => e.2 + 1 ≠ k).map (·.1)
  match p.output with
  | some output =>
    let field : Field → Chars
      | .common => filled common
      | .own file n => filled ((parts (if file = 1 then x else y)).getD (n - 1) [])
    ((output.map field).intersperse joint).flatten
  | none =>
    ((filled common :: (others x p.keys.1 ++ others y p.keys.2).map filled).intersperse
      joint).flatten

def group (p : Plan) (file : Nat) : List Chars → List Chars × List Chars
  | [] => ([], [])
  | l :: ls => (l :: ls).span fun m => key p file m = key p file l

def merge (p : Plan) : Nat → List Chars → List Chars → List Chars
  | 0, _, _ => []
  | n + 1, xs, ys =>
    let alone (file : Nat) (l : Chars) : List Chars :=
      if p.unpaired.contains file then
        [joined p (if file = 1 then some l else none) (if file = 1 then none else some l)]
      else []
    match xs, ys with
    | [], [] => []
    | x :: xs, [] => alone 1 x ++ merge p n xs []
    | [], y :: ys => alone 2 y ++ merge p n [] ys
    | x :: xs', y :: ys' =>
      match Comparing.order (key p 1 x) (key p 2 y) with
      | .lt => alone 1 x ++ merge p n xs' ys
      | .gt => alone 2 y ++ merge p n xs ys'
      | .eq =>
        let (as, xs) := group p 1 xs
        let (bs, ys) := group p 2 ys
        (if p.pairs then as.flatMap fun a => bs.map fun b => joined p (some a) (some b) else []) ++
          merge p n xs ys

def outputField? (cs : Chars) : Except Chars Field :=
  match cs with
  | ['0'] => .ok .common
  | c :: '.' :: ds =>
    if c = '1' || c = '2' then
      match natural? ds with
      | some n =>
        if n = 0 then .error ("invalid field number: ".toList ++ inQuotes ds)
        else .ok (.own (c.toNat - '0'.toNat) n)
      | none => .error ("invalid field number: ".toList ++ inQuotes ds)
    else .error ("invalid file number in field spec: ".toList ++ inQuotes cs)
  | _ => .error ("invalid field specifier: ".toList ++ inQuotes cs)

end Joining

open Joining in
def join (args : List Chars) : Action Nat :=
  let known : Known :=
    { flags := "icNHz", valued := "aejotv12"
      long := [("ignore-case", 'i'), ("check-order", 'c'), ("nocheck-order", 'N'),
        ("header", 'H'), ("zero-terminated", 'z')] }
  withArguments known 1 args fun a =>
    withPair known a fun x y => do
      let refuse (why : Chars) : Action Nat := do
        warn why
        return 1
      let number (c : Char) : Nat :=
        ((a.value? c <|> a.value? 'j').bind natural?).getD 1
      let listed := (a.options.filter fun o => o.1 = 'a' || o.1 = 'v').map (·.2)
      match listed.find? fun v => v ≠ ['1'] && v ≠ ['2'] with
      | some v => refuse ("invalid field number: ".toList ++ inQuotes v)
      | none =>
        let separator := a.value? 't'
        if separator.any fun s => 1 < s.length && s ≠ ['\\', '0'] then
          return ← refuse ("multi-character tab ".toList ++ inQuotes (separator.getD []))
        let automatic := a.value? 'o' = some "auto".toList
        let specs := if automatic then [] else
          ((a.options.filter (·.1 = 'o')).map (·.2)).flatMap fun o =>
            (Text.runs ',' (o.map fun c => if c = ' ' then ',' else c)).filter (· ≠ [])
        match specs.mapM outputField? with
        | .error why => refuse why
        | .ok output =>
          if x = ['-'] && y = ['-'] then
            return ← refuse "both files cannot be standard input".toList
          let p : Plan :=
            { separator := separator.map fun s => if s = ['\\', '0'] then Char.ofNat 0
                else s.headD '\n'
              keys := (number '1', number '2')
              ignoresCase := a.has 'i'
              unpaired := listed.map fun v => if v = ['1'] then 1 else 2
              pairs := !a.has 'v'
              missing := (a.value? 'e').getD []
              output := if output.isEmpty then none else some output
              automatic }
          match ← bothContents x y with
          | none => return 1
          | some (xs, ys) =>
            let ls := linesOf xs
            let ms := linesOf ys
            let single := (key p 1 (ls.headD []), key p 2 (ms.headD []))
            let width (ls : List Chars) : Nat := (fields p (ls.headD [])).length
            let own (file k n : Nat) : List Field :=
              ((List.range n).filter (· + 1 ≠ k)).map fun i => .own file (i + 1)
            let p := if !automatic then p else
              { p with
                output := some (.common :: own 1 p.keys.1 (width ls) ++
                  own 2 p.keys.2 (width ms)) }
            let unequal := single.1 ≠ single.2 || (ls.map (key p 1)) ≠ (ms.map (key p 2))
            let mut sorted := true
            for (file, name, lines) in [(1, x, ls), (2, y, ms)] do
              if unequal && !a.has 'N' then
                match Comparing.disorder (compare p file) 1 lines with
                | some (n, l) =>
                  warn (name ++ ':' :: decimal n ++ ": is not sorted: ".toList ++ l)
                  sorted := false
                | none => pure ()
            (merge p (ls.length + ms.length + 1) ls ms).forM printLine
            if !sorted then return ← refuse "input is not in sorted order".toList
            return 0

end ImportResolver.Tool

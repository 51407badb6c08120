import ImportResolver.Tool.Ends
import ImportResolver.Tool.RegexReader
/- Programs that pass lines on: all of them in another order or with a number, or some of them. -/
namespace ImportResolver.Tool

open Shell Shell.Action

namespace Cat

/-- What is shown in other ways than as it is. -/
structure Display where
  /-- Which lines get a number: all, or those that are not empty. -/
  numbered : Option Bool
  squeezed : Bool
  ends : Bool
  tabs : Bool
  visible : Bool

structure State where
  atStart : Bool := true
  number : Nat := 0
  /-- How many empty lines came last. -/
  empties : Nat := 0

def caret (c : Char) : Chars :=
  let low (n : Nat) : Chars :=
    if n < 32 then ['^', Char.ofNat (n + 64)] else if n = 127 then ['^', '?'] else [Char.ofNat n]
  if c = '\t' then [c]
  else if c.toNat < 128 then low c.toNat
  else ['M', '-'] ++ low (c.toNat - 128)

def Display.body (d : Display) (line : Chars) (ended : Bool) : Chars :=
  let line :=
    if d.ends && ended && !d.visible && line.getLast? = some '\r' then
      line.dropLast ++ ['^', 'M']
    else line
  let shown := if d.visible then line.flatMap caret else line
  let shown := if d.tabs then shown.flatMap fun c => if c = '\t' then ['^', 'I'] else [c] else shown
  shown ++ if ended then (if d.ends then ['$', '\n'] else ['\n']) else []

def Display.line (d : Display) (s : State) (line : Chars) (ended : Bool) : State × Chars :=
  let isEmpty := s.atStart && line = [] && ended
  if line = [] && !ended then (s, [])
  else if d.squeezed && isEmpty && 0 < s.empties then (s, [])
  else
    let counts := s.atStart && match d.numbered with
      | none => false
      | some full => !(full && isEmpty)
    let lead := if counts then padded 6 (decimal (s.number + 1)) ++ ['\t'] else []
    ({ atStart := ended
       number := if counts then s.number + 1 else s.number
       empties := if isEmpty then s.empties + 1 else if ended || s.atStart then 0 else s.empties },
      lead ++ d.body line ended)

def Display.text (d : Display) (s : State) (cs : Chars) : State × Chars :=
  let runs := Text.runs '\n' cs
  let ended := runs.dropLast.map fun l => (l, true)
  let pieces := ended ++ (runs.getLast?.map fun l => (l, false)).toList
  let (s, out) := pieces.foldl
    (fun (acc : State × List Chars) e =>
      let (s, out) := d.line acc.1 e.1 e.2
      (s, out :: acc.2))
    (s, [])
  (s, out.reverse.flatten)

def isOutput (d : Nat) : Action Bool := do
  match ← openFile? d, ← openFile? 1 with
  | some (_, i), some (_, o) =>
    match i.endpoint, o.endpoint with
    | .file a, .file b =>
      if a ≠ b then return false
      let size := ((← fileSystem).tree.get? a).map fun n => match n with
        | .file bytes _ => bytes.length
        | _ => 0
      return i.position < if o.appends then size.getD 0 else o.position
    | _, _ => return false
  | _, _ => return false

def known : Known :=
  { flags := "nbsEuAetTv"
    long := [("number", 'n'), ("number-nonblank", 'b'), ("squeeze-blank", 's'), ("show-ends", 'E'),
      ("show-tabs", 'T'), ("show-all", 'A'), ("show-nonprinting", 'v')] }

end Cat

open Cat in
def cat (args : List Chars) : Action Nat :=
  withArguments known 1 args fun a => do
    let has (letters : String) : Bool := letters.toList.any a.has
    let d : Display :=
      { numbered := if a.has 'b' then some true else if a.has 'n' then some false else none
        squeezed := a.has 's', ends := has "AeE", tabs := has "AtT", visible := has "Aetv" }
    let plain := !(has "bnsEAetTv")
    if !((← openFile? 1).any fun f => f.2.canWrite) then
      warn "standard output: Bad file descriptor".toList
      return 1
    let mut state : State := {}
    let mut status := 0
    let mut unread := false
    for file in inputs a.operands do
      match ← openInput file inputDescriptor with
      | .error why =>
        warnOf file why
        status := 1
      | .ok n =>
        if ← isOutput n then
          warn (quoted file ++ ": input file is output file".toList)
          status := 1
        else
          let r ← Ends.chunks n state fun s cs => do
            let (s, shown) := if plain then (s, cs) else d.text s cs
            print shown
            flush
            return s
          match r with
          | .ok s => state := s
          | .error why =>
            if (← openFile? n).isNone then unread := true
            warnOf file why
            status := 1
        closeInput n
    if unread then
      warn "closing standard input: Bad file descriptor".toList
      status := 1
    return status

def cutAt (separator : Chars) (before : Bool) (cs : Chars) : List Chars :=
  let rec go : Nat → Chars → Chars → List Chars
    | 0, acc, rest => [acc.reverse ++ rest]
    | _, acc, [] => [acc.reverse]
    | n + 1, acc, c :: rest =>
      if separator.isPrefixOf (c :: rest) then
        let after := (c :: rest).drop separator.length
        if before then acc.reverse :: go n separator.reverse after
        else (acc.reverse ++ separator) :: go n [] after
      else go n (c :: acc) rest
  (go (cs.length + 1) [] cs).filter (· ≠ [])

def tac (args : List Chars) : Action Nat :=
  let known : Known :=
    { flags := "br", valued := "s"
      long := [("before", 'b'), ("regex", 'r'), ("separator", 's')] }
  withArguments known 1 args fun a => do
    let separator := (a.value? 's').getD ['\n']
    let separator := if separator = [] then [Char.ofNat 0] else separator
    let mut status := 0
    for file in inputs a.operands do
      let isDirectory := (← fileSystem).isDirectory (pathOf file) && file ≠ ['-']
      match ← contentOf file with
      | .ok cs => print (cutAt separator (a.has 'b') cs).reverse.flatten
      | .error why =>
        if isDirectory then warn (quoted file ++ ": read error: Invalid argument".toList)
        else
          warn ("failed to open ".toList ++ quotedFully file ++ " for reading: ".toList ++
            why.toList)
        status := 1
    return status

def rev (args : List Chars) : Action Nat :=
  withArguments { flags := "0" } 1 args fun a => do
    let ending := if a.has '0' then Char.ofNat 0 else '\n'
    let mut status := 0
    for file in inputs a.operands do
      let r ← withInput file fun d =>
        Feed.each { descriptor := d, ending } () fun _ l => do
          let ended := l.getLast? = some ending
          print ((withoutEnd ending l).reverse ++ if ended then [ending] else [])
          return ((), true)
      match r with
      | .ok _ => pure ()
      | .error why =>
        warnAhead ("cannot open ".toList ++ file ++ ": ".toList ++ why.toList)
        status := 1
    return status

namespace LineNumbers

inductive Style where
  | all
  | full
  | none
  | matching (r : Regex)

def Style.ofText? (cs : Chars) : Option Style :=
  match cs with
  | ['a'] => some .all
  | ['t'] => some .full
  | ['n'] => some .none
  | 'p' :: pattern =>
    match Regex.ofText { extended := false } pattern with
    | .ok r => some (.matching r)
    | .error _ => Option.none
  | _ => Option.none

def known : Known :=
  { flags := "p", valued := "bhfdvilswn"
    long := [("body-numbering", 'b'), ("header-numbering", 'h'), ("footer-numbering", 'f'),
      ("starting-line-number", 'v'), ("line-increment", 'i'), ("join-blank-lines", 'l'),
      ("number-separator", 's'), ("number-width", 'w'), ("number-format", 'n'),
      ("no-renumber", 'p'), ("section-delimiter", 'd')] }

structure State where
  style : Style
  number : Int
  empties : Nat := 0

def integer? (cs : Chars) : Option Int :=
  match cs with
  | '-' :: ds => (natural? ds).map fun n => -(n : Int)
  | '+' :: ds => (natural? ds).map fun n => (n : Int)
  | ds => (natural? ds).map fun n => (n : Int)

def field (format : Chars) (width : Nat) (n : Int) : Chars :=
  let digits := decimal n.natAbs
  let sign : Chars := if n < 0 then ['-'] else []
  match format with
  | ['l', 'n'] =>
    let text := sign ++ digits
    text ++ List.replicate (width - text.length) ' '
  | ['r', 'z'] => sign ++ List.replicate (width - sign.length - digits.length) '0' ++ digits
  | _ => padded width (sign ++ digits)

end LineNumbers

open LineNumbers in
def nl (args : List Chars) : Action Nat :=
  withArguments known 1 args fun a => do
    let refuse (what : String) (value : Chars) : Action Nat := do
      warn ("invalid ".toList ++ what.toList ++ ": ".toList ++ inQuotes value)
      return 1
    let style (letter : Char) (usual : Style) : Except Chars Style :=
      match a.value? letter with
      | none => .ok usual
      | some cs =>
        match Style.ofText? cs with
        | some s => .ok s
        | none => .error cs
    let misuse (what : String) (value : Chars) : Action Nat :=
      misused known 1 ("invalid ".toList ++ what.toList ++ ": ".toList ++ inQuotes value)
    let number (letter : Char) (usual : Int) : Except Chars Int :=
      match a.value? letter with
      | none => .ok usual
      | some cs =>
        match integer? cs with
        | some n => .ok n
        | none => .error cs
    match number 'v' 1, number 'i' 1, number 'l' 1, number 'w' 6 with
    | .error v, _, _, _ => refuse "starting line number" v
    | _, .error v, _, _ => refuse "line number increment" v
    | _, _, .error v, _ => refuse "line number of blank lines" v
    | _, _, _, .error v => refuse "line number field width" v
    | .ok first, .ok step, .ok join, .ok width =>
      if join ≤ 0 then return ← refuse "line number of blank lines" ((a.value? 'l').getD [])
      if width ≤ 0 then return ← refuse "line number field width" ((a.value? 'w').getD [])
      let format := (a.value? 'n').getD ['r', 'n']
      if !([['l', 'n'], ['r', 'n'], ['r', 'z']].contains format) then
        return ← misuse "line numbering format" format
      match style 'h' .none, style 'b' .full, style 'f' .none with
      | .error v, _, _ => misuse "header numbering style" v
      | _, .error v, _ => misuse "body numbering style" v
      | _, _, .error v => misuse "footer numbering style" v
      | .ok header, .ok body, .ok footer =>
        let separator := (a.value? 's').getD ['\t']
        let width := width.toNat
        let mark := match (a.value? 'd').getD ['\\', ':'] with
          | [c] => [c, ':']
          | cs => cs
        let blank := List.replicate (width + separator.length) ' '
        let start (s : State) (style : Style) : Action State := do
          print ['\n']
          return { s with style, number := if a.has 'p' then s.number else first }
        let step' (s : State) (line : Chars) : Action State := do
          let l := withoutEnd '\n' line
          if mark ≠ [] && l = mark ++ mark ++ mark then start s header
          else if mark ≠ [] && l = mark ++ mark then start s body
          else if mark ≠ [] && l = mark then start s footer
          else
            let empties := if l = [] then s.empties + 1 else 0
            let joined := l ≠ [] || empties % join.toNat = 0
            let counts := match s.style with
              | .all => joined
              | .full => l ≠ []
              | .none => false
              | .matching r => (r.find? { text := l } 0).isSome
            if counts then
              printLine (field format width s.number ++ separator ++ l)
              return { s with number := s.number + step, empties }
            else
              printLine (blank ++ l)
              return { s with empties }
        let (_, whole) ← overLines a.operands '\n' { style := body, number := first : State } step'
        return failed whole

def tee (args : List Chars) : Action Nat :=
  let known : Known :=
    { flags := "aip", long := [("append", 'a'), ("ignore-interrupts", 'i')] }
  withArguments known 1 args fun a => do
    let mut status := 0
    let mut targets : List Nat := [1]
    for file in a.operands do
      match ← openPath (pathOf file) (if a.has 'a' then .append else .clobber) with
      | .error fault =>
        warnOf file fault.reason
        status := 1
      | .ok f =>
        let d := inputDescriptor + targets.length
        setDescriptor d (some (← addFile f))
        targets := targets ++ [d]
    let closed := !((← openFile? 1).any fun f => f.2.canWrite)
    let all := if closed then targets.drop 1 else targets
    let r ← Ends.chunks 0 closed fun unheard cs => do
      if unheard then warn "'standard output': Bad file descriptor".toList
      all.forM fun d => do
        let _ ← write d cs
      return false
    match r with
    | .ok unheard =>
      return if closed && !unheard then 1 else status
    | .error why =>
      warn ("read error: ".toList ++ why.toList)
      return 1

def wordsOf (cs : Chars) : List Chars :=
  (Text.runs '\n' (cs.map fun c => if Arithmetic.isSpace c then '\n' else c)).filter (· ≠ [])

def countWidth (a : Arguments) (kinds : Nat) : Action Nat := do
  let files := inputs a.operands
  if files.length = 1 && kinds = 1 then return 1
  let fs ← fileSystem
  let mut total := 0
  let mut least := 1
  for file in files do
    let node? : Option FileSystem.Node ←
      if file = ['-'] then do
        match ← openFile? 0 with
        | some (_, f) =>
          match f.endpoint with
          | .file loc => pure (fs.tree.get? loc)
          | _ => pure (some (.device .null 0o666))
        | none => pure none
      else pure (fs.node? (pathOf file))
    match node? with
    | some (.file bytes _) => total := total + bytes.length
    | some _ => least := 7
    | none => pure ()
  return max least (decimal total).length

def longestLine (cs : Chars) : Nat :=
  let (longest, last) := cs.foldl
    (fun (acc : Nat × Nat) c =>
      if c = '\n' || c = '\r' || c.toNat = 12 then (max acc.1 acc.2, 0)
      else if c = '\t' then (acc.1, acc.2 + 8 - acc.2 % 8)
      else if isShown c then (acc.1, acc.2 + 1)
      else acc)
    (0, 0)
  max longest last

def wc (args : List Chars) : Action Nat :=
  let known : Known :=
    { flags := "lwcmL"
      long := [("lines", 'l'), ("words", 'w'), ("bytes", 'c'), ("chars", 'm'),
        ("max-line-length", 'L')] }
  withArguments known 1 args fun a => do
    let kinds := ['l', 'w', 'm', 'c', 'L'].filter a.has
    let kinds := if kinds = [] then ['l', 'w', 'c'] else kinds
    let width ← countWidth a kinds.length
    let count (cs : Chars) (kind : Char) : Nat :=
      match kind with
      | 'l' => cs.count '\n'
      | 'w' => (wordsOf cs).length
      | 'L' => longestLine cs
      | _ => cs.length
    let row (ns : List Nat) (file : Chars) : Chars :=
      (ns.map fun n => padded width (decimal n)).intersperse [' '] |>.flatten |>
        (· ++ if file = [] then [] else ' ' :: quoted file)
    let mut rows : List (List Nat) := []
    let mut status := 0
    for file in inputs a.operands do
      let ns? : Option (List Nat) ←
        match ← contentOf file with
        | .ok cs => pure (some (kinds.map (count cs)))
        | .error why => do
          warnOf file why
          status := 1
          pure (if why = Fault.isADirectory.reason then some (kinds.map fun _ => 0) else none)
      match ns? with
      | some ns =>
        rows := rows ++ [ns]
        printLine (row ns (if a.operands.isEmpty then [] else file))
      | none => pure ()
    if 1 < a.operands.length then
      let total := kinds.zipIdx.map fun (kind, i) =>
        (rows.map fun r => r.getD i 0).foldl (if kind = 'L' then max else (· + ·)) 0
      printLine (row total "total".toList)
    return status

def redirectOutput (file : Chars) : Action (Except String Unit) := do
  match ← openPath (pathOf file) .clobber with
  | .error fault => return .error fault.reason
  | .ok f =>
    flush
    setDescriptor 1 (some (← addFile f))
    return .ok ()

def uniq (args : List Chars) : Action Nat :=
  let known : Known :=
    { flags := "cdDuiz", valued := "fsw"
      long := [("count", 'c'), ("repeated", 'd'), ("unique", 'u'), ("ignore-case", 'i'),
        ("skip-fields", 'f'), ("skip-chars", 's'), ("check-chars", 'w'),
        ("zero-terminated", 'z'), ("all-repeated", 'D')] }
  withArguments known 1 args fun a => do
    match a.operands with
    | _ :: _ :: extra :: _ => misused known 1 ("extra operand ".toList ++ quotedFully extra)
    | operands =>
      let ending := if a.has 'z' then Char.ofNat 0 else '\n'
      let number (c : Char) : Nat := ((a.value? c).bind natural?).getD 0
      let blank (c : Char) : Bool := c = ' ' || c = '\t'
      let rec withoutFields : Nat → Chars → Chars
        | 0, cs => cs
        | n + 1, cs => withoutFields n ((cs.dropWhile blank).dropWhile fun c => !blank c)
      let key (l : Chars) : Chars :=
        let l := (withoutFields (number 'f') l).drop (number 's')
        let l := match (a.value? 'w').bind natural? with
          | some n => l.take n
          | none => l
        if a.has 'i' then l.map Char.toLower else l
      let finish : Option (Chars × Nat) → Action Unit
        | none => return
        | some (l, n) => do
          let wanted := !((a.has 'd' || a.has 'D') && n = 1) && !(a.has 'u' && 1 < n)
          if wanted && !a.has 'D' then
            print ((if a.has 'c' then padded 7 (decimal n) ++ [' '] else []) ++ l ++ [ending])
      let step (group : Option (Chars × Nat)) (line : Chars) :
          Action (Option (Chars × Nat)) := do
        let l := withoutEnd ending line
        match group with
        | some (m, n) =>
          if key m = key l then
            if a.has 'D' then
              if n = 1 then print (m ++ [ending])
              print (l ++ [ending])
            return some (m, n + 1)
          else
            finish group
            return some (l, 1)
        | none => return some (l, 1)
      let file := operands.headD ['-']
      let r ← withInput file fun d => do
        if let some target := operands[1]? then
          if target ≠ ['-'] then
            if let .error why ← redirectOutput target then
              return Except.error (target, why)
        let r ← Feed.each { descriptor := d, ending } none fun g l => do return (← step g l, true)
        match r with
        | .error why => return Except.error (file, why)
        | .ok g =>
          finish g
          return Except.ok ()
      match r with
      | .error why =>
        warnOf file why
        return 1
      | .ok (.error (file, why)) =>
        if file = operands.headD ['-'] then
          warn ("error reading ".toList ++ quotedFully file ++ ": ".toList ++ why.toList)
        else warnOf file why
        return 1
      | .ok (.ok _) => return 0

end ImportResolver.Tool

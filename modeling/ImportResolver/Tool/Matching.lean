import ImportResolver.Shell.Pattern
import ImportResolver.Tool.Ends
import ImportResolver.Tool.RegexReader
/- Printing the lines that match. -/
namespace ImportResolver.Tool

open Shell Shell.Action

namespace Matching

/-- What is looked for in a line. -/
structure Wanted where
  patterns : List Regex
  ignoresCase : Bool
  wholeWords : Bool
  wholeLines : Bool

def literal (cs : Chars) : Regex := cs.foldr (fun c r => .seq (.character c) r) .empty

def Wanted.accepts (w : Wanted) (s : Regex.Subject) (m : Regex.Match) : Bool :=
  (!w.wholeLines || m.start = 0 && m.stop = s.text.length) &&
    (!w.wholeWords ||
      !((if m.start = 0 then none else s.text[m.start - 1]?).any Regex.isWordCharacter) &&
        !((s.text[m.stop]?).any Regex.isWordCharacter))

def Wanted.subject (w : Wanted) (line : Chars) : Regex.Subject :=
  { text := line, ignoresCase := w.ignoresCase }

def Wanted.anchored (w : Wanted) : List Regex :=
  if w.wholeLines then w.patterns.map fun r => .seq .lineStart (.seq r .lineEnd) else w.patterns

def Wanted.matchesFrom (w : Wanted) (s : Regex.Subject) : Nat → Nat → List Regex.Match
  | 0, _ => []
  | n + 1, start =>
    let found := w.anchored.filterMap fun r => r.find? s start
    let best := found.foldl
      (fun (best : Option Regex.Match) m =>
        if best.all fun b => m.start < b.start || m.start = b.start && b.stop < m.stop then some m
        else best)
      none
    match best with
    | none => []
    | some m =>
      if w.accepts s m then
        m :: w.matchesFrom s n (if m.stop = m.start then m.stop + 1 else m.stop)
      else if s.text.length < m.start + 1 then []
      else w.matchesFrom s n (m.start + 1)

def Wanted.selects (w : Wanted) (line : Chars) : Bool :=
  let s := w.subject line
  if w.wholeWords then !(w.matchesFrom s (line.length + 2) 0).isEmpty
  else w.anchored.any fun r => (r.find? s 0).isSome

def known : Known :=
  { flags := "EFGPivqscnlLowxhHrRaIzUTyZbu", valued := "efmABCdD12346", free := "5"
    long := [("quiet", 'q'), ("silent", 'q'), ("invert-match", 'v'), ("ignore-case", 'i'),
      ("count", 'c'), ("line-number", 'n'), ("files-with-matches", 'l'),
      ("files-without-match", 'L'), ("only-matching", 'o'), ("word-regexp", 'w'),
      ("line-regexp", 'x'), ("extended-regexp", 'E'), ("fixed-strings", 'F'),
      ("basic-regexp", 'G'), ("perl-regexp", 'P'), ("regexp", 'e'), ("file", 'f'),
      ("max-count", 'm'), ("no-filename", 'h'), ("with-filename", 'H'), ("no-messages", 's'),
      ("recursive", 'r'), ("dereference-recursive", 'R'), ("after-context", 'A'),
      ("before-context", 'B'), ("context", 'C'), ("text", 'a'), ("null", 'Z'), ("null-data", 'z'),
      ("byte-offset", 'b'), ("initial-tab", 'T'), ("line-buffered", 'u'), ("include", '1'),
      ("exclude", '2'), ("exclude-dir", '3'), ("label", '4'), ("color", '5'), ("colour", '5'),
      ("binary-files", '6'), ("directories", 'd'), ("devices", 'D')]
    usage := fun name =>
      "Usage: ".toList ++ name ++ " [OPTION]... PATTERNS [FILE]...\nTry '".toList ++ name ++
        " --help' for more information.\n".toList }

def modernContext (previous : Chars) : List Chars → List Chars
  | [] => []
  | a :: rest =>
    let takesValue := ["-e", "-f", "-m", "-A", "-B", "-C", "-d"].any (·.toList = previous)
    match a with
    | ['-', '-'] => a :: rest
    | '-' :: c :: cs =>
      if (c :: cs).all Char.isDigit && !takesValue then
        ['-', 'C'] :: (c :: cs) :: modernContext [] rest
      else a :: modernContext a rest
    | a => a :: modernContext a rest

/-- Which files below a directory are looked at, by their names. -/
structure Choice where
  included : List Pattern
  excluded : List Pattern
  skipped : List Pattern

def Choice.takes (c : Choice) (name : Chars) : Bool :=
  (c.included.isEmpty || c.included.any (·.matches? name)) && !c.excluded.any (·.matches? name)

def filesBelow (fs : FileSystem) (c : Choice) : Nat → Chars → FileSystem.Location → List Chars
  | 0, _, _ => []
  | n + 1, path, loc =>
    let below := (fs.tree.children loc).mergeSort fun a b => decide (a.1 ≤ b.1)
    below.flatMap fun (name, node) =>
      let name' := charsOf name
      let inner := if path = [] then name' else
        path ++ (if path.getLast? = some '/' then [] else ['/']) ++ name'
      match node with
      | .directory _ =>
        if c.skipped.any (·.matches? name') then []
        else filesBelow fs c n inner (name :: loc)
      | .link _ => []
      | _ => if c.takes name' then [inner] else []

/-- How a file is searched, and what is printed of it. -/
structure Plan where
  wanted : Wanted
  inverted : Bool
  most : Option Nat
  before : Nat
  after : Nat
  numbered : Bool
  offsets : Bool
  onlyMatches : Bool
  ending : Char
  /-- What stands after names. -/
  nameEnd : Option Char
  /-- Whether lines are printed at all. -/
  prints : Bool
  /-- Whether one line is enough. -/
  stopsAtFirst : Bool
  binaryAsText : Bool

/-- Where the search of a file stands. -/
structure State where
  number : Nat := 0
  offset : Nat := 0
  count : Nat := 0
  /-- Lines that may have to be shown before the next one, the last first. -/
  held : List (Nat × Nat × Chars) := []
  /-- How many lines are still shown after the last one. -/
  due : Nat := 0
  lastShown : Option Nat := none
  isOver : Bool := false

def Plan.lead (p : Plan) (label : Option Chars) (number offset : Nat) (mark : Char) : Chars :=
  (match label with
    | some name => name ++ [p.nameEnd.getD mark]
    | none => []) ++
    (if p.numbered then decimal number ++ [mark] else []) ++
    (if p.offsets then decimal offset ++ [mark] else [])

def Plan.show_ (p : Plan) (label : Option Chars) (mark : Char) (line : Nat × Nat × Chars) :
    Action Unit :=
  if p.onlyMatches then return
  else print (p.lead label line.1 line.2.1 mark ++ line.2.2 ++ [p.ending])

def Plan.showSelected (p : Plan) (label : Option Chars) (number offset : Nat) (line : Chars) :
    Action Unit := do
  if p.onlyMatches then
    if !p.inverted then
      let s := p.wanted.subject line
      (p.wanted.matchesFrom s (line.length + 2) 0).forM fun m =>
        if m.start < m.stop then
          print (p.lead label number (offset + m.start) ':' ++
            Regex.between s (m.start, m.stop) ++ [p.ending])
        else return
  else p.show_ label ':' (number, offset, line)

def Plan.take (p : Plan) (label : Option Chars) (binary : Bool) (s : State) (whole : Chars) :
    Action (State × Bool) := do
  let line := withoutEnd p.ending whole
  let number := s.number + 1
  let offset := s.offset
  let s := { s with number, offset := offset + whole.length }
  let isFull := p.most.any (· ≤ s.count)
  if isFull then
    if 0 < s.due then
      p.show_ label '-' (number, offset, line)
      return ({ s with due := s.due - 1, lastShown := some number }, 1 < s.due)
    else return ({ s with isOver := true }, false)
  else if p.wanted.selects line != p.inverted then
    let s := { s with count := s.count + 1 }
    if p.stopsAtFirst then return ({ s with isOver := true }, false)
    if p.prints then
      if binary then return ({ s with isOver := true }, false)
      let held := s.held.reverse
      let first := (held.head?.map (·.1)).getD number
      let hasContext := p.before ≠ 0 || p.after ≠ 0
      if hasContext && s.lastShown.any (· + 1 < first) then print ['-', '-', '\n']
      held.forM (p.show_ label '-')
      p.showSelected label number offset line
    let goesOn := !p.most.any (· ≤ s.count) || 0 < p.after
    return ({ s with held := [], due := p.after, lastShown := some number }, goesOn)
  else if 0 < s.due then
    if p.prints then p.show_ label '-' (number, offset, line)
    return ({ s with due := s.due - 1, lastShown := some number }, true)
  else
    return ({ s with held := ((number, offset, line) :: s.held).take p.before }, true)

/-- Searches what can be read from a descriptor. Answers with the number of selected lines, and
whether lines were left out because they are not text. -/
def Plan.search (p : Plan) (label : Option Chars) (d : Nat) :
    Action (Except String (Nat × Bool)) := do
  let feed : Feed := { descriptor := d, ending := p.ending, block := 98304 }
  let nul := Char.ofNat 0
  let isBinary (f : Feed) : Bool :=
    !p.binaryAsText && p.ending ≠ nul && (f.lines.any (·.contains nul) || f.start.contains nul)
  if p.most = some 0 then return .ok (0, false)
  let rec go : Nat → Feed → Bool → State → Action (Except String (Nat × Bool))
    | 0, _, _, _ => throw .exhausted
    | n + 1, feed, binary, s => do
      let refills := feed.lines.isEmpty
      match ← feed.next? with
      | .error why => return .error why
      | .ok (none, _) => return .ok (s.count, false)
      | .ok (some l, feed) =>
        let binary := binary ||
          refills && isBinary { feed with lines := l :: feed.lines }
        let (s, goesOn) ← p.take label binary s l
        if goesOn then go n feed binary s
        else
          let unused := s.isOver && p.most.isSome && !binary
          if !p.stopsAtFirst then
            ({ feed with lines := if unused then l :: feed.lines else feed.lines } : Feed).giveBack
          return .ok (s.count, binary && p.prints && !p.stopsAtFirst)
  go loopLimit feed false {}

def context? (a : Arguments) (letter : Char) : Except Chars Nat :=
  let given := (a.options.reverse.find? fun o => o.1 = letter).map (·.2)
  match given with
  | none => .ok 0
  | some cs =>
    match natural? cs with
    | some n => .ok n
    | none => .error (cs ++ ": invalid context length argument".toList)

end Matching

open Matching in
/-- Looks for lines in files; `mode` is the letter of the kind of expressions that counts if no
other is asked for. -/
def grep (mode : Char) (args : List Chars) : Action Nat :=
  withArguments known 2 (modernContext [] args) fun a => do
    let fatal (why : Chars) : Action Nat := do
      warn why
      return 2
    let given := a.options.filter fun o => o.1 = 'e' || o.1 = 'f'
    let mut named : List Chars := []
    for (kind, value) in given do
      if kind = 'e' then named := named ++ Text.runs '\n' value
      else
        match ← contentOf value with
        | .ok cs => named := named ++ linesOf cs
        | .error why => return ← fatal (value ++ ": ".toList ++ why.toList)
    if given.isEmpty && a.operands.isEmpty then
      explain known
      return 2
    let (texts, files) :=
      if !given.isEmpty then (named, a.operands)
      else (Text.runs '\n' (a.operands.headD []), a.operands.drop 1)
    let contexts := do
      let both ← context? a 'C'
      let isGiven (c : Char) : Bool := a.has c
      let before ← context? a 'B'
      let after ← context? a 'A'
      return (if isGiven 'B' then before else both, if isGiven 'A' then after else both)
    match contexts with
    | .error why => fatal why
    | .ok (before, after) =>
      let mostText := a.value? 'm'
      let most := (mostText.map fun cs => if cs.head? = some '-' then cs.drop 1 else cs).bind size?
      if mostText.isSome && most.isNone then return ← fatal "invalid max count".toList
      let most := if mostText.any fun cs => cs.head? = some '-' then none else most
      let kind := (a.last? ['E', 'F', 'G', 'P']).getD mode
      let dialect : Regex.Dialect :=
        { extended := kind = 'E' || kind = 'P', warns := kind = 'E', controls := kind = 'P' }
      let read (cs : Chars) : Except String (Regex × List String) :=
        if kind = 'F' then .ok (literal cs, []) else Regex.read dialect cs
      match texts.mapM read with
      | .error why => fatal why.toList
      | .ok patterns =>
        patterns.forM fun r => r.2.forM fun w => warn ("warning: " ++ w).toList
        let ignores := a.last? ['i', 'y'] ≠ none
        let plan : Plan :=
          { wanted := ⟨patterns.map (·.1), ignores, a.has 'w', a.has 'x'⟩
            inverted := a.has 'v', most, before, after
            numbered := a.has 'n', offsets := a.has 'b', onlyMatches := a.has 'o'
            ending := if a.has 'z' then Char.ofNat 0 else '\n'
            nameEnd := if a.has 'Z' then some (Char.ofNat 0) else none
            prints := !(a.has 'q' || a.has 'l' || a.has 'L' || a.has 'c')
            stopsAtFirst := a.has 'q' || a.has 'l' || a.has 'L'
            binaryAsText := a.has 'a' || a.value? '6' = some "text".toList }
        let deep := a.has 'r' || a.has 'R'
        let globs (c : Char) : List Pattern :=
          (a.options.filter (·.1 = c)).map fun o =>
            Pattern.ofGlyphs (o.2.map fun c => ⟨c, false⟩)
        let choice : Choice := ⟨globs '1', globs '2', globs '3'⟩
        let fs ← fileSystem
        let below (file : Chars) : Option (List Chars) :=
          match fs.locate (pathOf file) true with
          | .ok loc =>
            if (fs.tree.get? loc).any FileSystem.Node.isDirectory then
              some (filesBelow fs choice 1000 (if files.isEmpty then [] else file) loc)
            else none
          | .error _ => none
        let starts := if files.isEmpty then (if deep then [['.']] else [['-']]) else files
        let (files, hasDirectory) :=
          if deep then
            (starts.flatMap fun f => (below f).getD [f], starts.any fun f => (below f).isSome)
          else (starts.filter fun f => choice.takes (lastPart f) || f = ['-'], false)
        let labelled :=
          match a.last? ['h', 'H'] with
          | some 'H' => true
          | some _ => false
          | none => 1 < starts.length || hasDirectory
        let mut found := false
        let mut broken := false
        for file in files do
          let name :=
            if file = ['-'] then (a.value? '4').getD "(standard input)".toList else file
          let label := if labelled then some name else none
          let r ← withInput file (plan.search label)
          match match r with
            | .error why => Except.error why
            | .ok r => r with
          | .error why =>
            let skipped := why = Fault.isADirectory.reason && a.value? 'd' = some "skip".toList
            if !skipped then
              if !a.has 's' then warn (name ++ ": ".toList ++ why.toList)
              broken := true
          | .ok (count, binary) =>
            if (count ≠ 0) != a.has 'L' then found := true
            if count ≠ 0 && a.has 'q' then return 0
            if binary then
              printLine ((← process).name ++ ": ".toList ++ name ++
                ": binary file matches".toList)
            let nameEnd := plan.nameEnd.getD '\n'
            if a.has 'c' && !a.has 'q' then
              printLine ((match label with
                | some l => l ++ [plan.nameEnd.getD ':']
                | none => []) ++ decimal count)
            if a.has 'l' && count ≠ 0 || a.has 'L' && count = 0 then print (name ++ [nameEnd])
        return if broken then 2 else if found then 0 else 1
where
  lastPart (cs : Chars) : Chars := (cs.reverse.takeWhile (· ≠ '/')).reverse

end ImportResolver.Tool

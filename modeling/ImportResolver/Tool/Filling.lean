import ImportResolver.Tool.Arguments
import ImportResolver.Tool.Names
/- Filling the lines of paragraphs evenly. -/
namespace ImportResolver.Tool

open Shell Shell.Action

namespace Filling

structure Word where
  text : Chars
  /-- How many columns are left free after it within a line. -/
  space : Nat
  /-- Whether it opens a parenthesis or a quotation. -/
  opens : Bool
  endsInMark : Bool
  endsInPeriod : Bool
  /-- Whether a sentence ends with it. -/
  isFinal : Bool

/-- A line of the text: the columns before its first word, and its words. -/
structure Line where
  indent : Nat
  words : List Word
  /-- Whether there is a tab before the first word, and whether there is one at all. -/
  leadsWithTab : Bool
  hasTab : Bool

structure Plan where
  width : Nat := 75
  goal : Nat := 70
  isCrown : Bool := false
  isTagged : Bool := false
  onlySplits : Bool := false
  isUniform : Bool := false

def blanks (column : Nat) : Chars → Nat × Chars
  | ' ' :: cs => blanks (column + 1) cs
  | '\t' :: cs => blanks ((column / 8 + 1) * 8) cs
  | cs => (column, cs)

def word (p : Plan) (text : Chars) (space : Nat) (isLast endsText : Bool) : Word :=
  let core := (text.drop 1).reverse.dropWhile fun c => ")]'\"".toList.contains c
  let last := (core.head?).or text.head?
  let isPunctuation (c : Char) : Bool := 32 < c.toNat && c.toNat < 127 && !c.isAlphanum
  let endsInPeriod := last.any fun c => ".?!".toList.contains c
  let isFinal := endsText || endsInPeriod && (isLast || 1 < space)
  { text
    space := if isLast || p.isUniform then if isFinal then 2 else 1 else space
    opens := text.head?.any fun c => "(['\x60\"".toList.contains c
    endsInMark := text.getLast?.any isPunctuation
    endsInPeriod, isFinal }

def words (p : Plan) (endsText : Bool) : Nat → Nat → Chars → List Word
  | 0, _, _ => []
  | _, _, [] => []
  | n + 1, column, c :: cs =>
    let text := c :: cs.takeWhile (!Arithmetic.isSpace ·)
    let column := column + text.length
    let (after, rest) := blanks column ((c :: cs).drop text.length)
    word p text (after - column) rest.isEmpty (endsText && rest.isEmpty) ::
      words p endsText n after rest

def lines (p : Plan) (cs : Chars) : List Line :=
  let runs := Text.runs '\n' cs
  let line (endsText : Bool) (l : Chars) : Line :=
    let (indent, rest) := blanks 0 l
    { indent, words := words p endsText (l.length + 1) indent rest
      leadsWithTab := (l.take (l.length - rest.length)).contains '\t', hasTab := l.contains '\t' }
  (runs.dropLast.map (line false)) ++
    (runs.getLast?.filter (· ≠ [])).toList.map (line true)

/-- A paragraph: the columns before its first line and before the others, and its words. -/
structure Paragraph where
  first : Nat
  others : Nat
  words : List Word

/-- Takes a paragraph from lines, the first of which has words. `before` is how far the other lines
of the paragraph before are indented. -/
def paragraph (p : Plan) (before : Nat) (l : Line) (ls : List Line) : Paragraph × List Line :=
  let next := ls.head?.filter (!·.words.isEmpty)
  let others :=
    if p.onlySplits then l.indent
    else if p.isCrown then (next.map (·.indent)).getD l.indent
    else if p.isTagged then
      match next.filter (·.indent ≠ l.indent) with
      | some n => n.indent
      | none => if before ≠ l.indent then before else if l.indent = 0 then 3 else 0
    else l.indent
  let goesOn := !p.onlySplits && (!p.isTagged || next.any (·.indent ≠ l.indent))
  let more :=
    if !goesOn then []
    else
      let same (l : Line) : Bool := !l.words.isEmpty && l.indent = others
      ls.takeWhile same
  (⟨l.indent, others, l.words ++ more.flatMap (·.words)⟩, ls.drop more.length)

/-- The best way on from a word: what it costs, the word that the next line begins with, and the
length of this line. -/
structure Choice where
  cost : Int
  next : Nat
  length : Nat

def square (n : Int) : Int := n * n

def shortCost (n : Int) : Int := square (n * 10)

def baseCost (ws : Array Word) (i : Nat) : Int :=
  let before : Int :=
    match if i = 0 then none else ws[i - 1]? with
    | none => 0
    | some w =>
      if w.endsInPeriod then if w.isFinal then -square 50 else square 600
      else if w.endsInMark then -square 40
      else if 1 < i && (ws[i - 2]?).any (·.isFinal) then square 200 / (w.text.length + 2)
      else 0
  let own : Int :=
    match ws[i]? with
    | none => 0
    | some w =>
      if w.opens then -square 40
      else if w.isFinal then square 150 / (w.text.length + 2)
      else 0
  square 70 + before + own

def lineCost (p : Plan) (choices : Array Choice) (count next length : Nat) : Int :=
  if next = count then 0
  else
    match choices[next]? with
    | none => 0
    | some c =>
      shortCost ((p.goal : Int) - length) +
        if c.next ≠ count then shortCost ((length : Int) - c.length) / 2 else 0

def choose (p : Plan) (ws : Array Word) (choices : Array Choice) :
    Nat → Nat → Nat → Option Choice → Option Choice
  | 0, _, _, best => best
  | n + 1, next, length, best =>
    let rest : Int := ((choices[next]?).map (·.cost)).getD 0
    let cost := lineCost p choices ws.size next length + rest
    let best :=
      if best.all fun b => decide (cost < b.cost) then some ⟨cost, next, length⟩ else best
    match ws[next]?, ws[next - 1]? with
    | some w, some before =>
      let length := length + before.space + w.text.length
      if length < p.width then choose p ws choices n (next + 1) length best else best
    | _, _ => best

/-- The best choices from each word on, found from the last one backwards. -/
def choices (p : Plan) (para : Paragraph) : Array Choice :=
  let ws := para.words.toArray
  let blank : Choice := ⟨0, ws.size, 0⟩
  (List.range ws.size).foldr
    (fun i found =>
      let indent := if i = 0 then para.first else para.others
      let length := indent + ((ws[i]?).map (·.text.length)).getD 0
      match choose p ws found (ws.size + 1) (i + 1) length none with
      | none => found
      | some c => found.setIfInBounds i { c with cost := c.cost + baseCost ws i })
    (Array.replicate (ws.size + 1) blank)

/-- Columns of nothing from a column on; with tabs where they reach. -/
def gap (tabs : Bool) (column count : Nat) : Chars :=
  let target := column + count
  let stop := target / 8 * 8
  if tabs && column + 1 < stop then
    List.replicate ((stop - column + 7) / 8) '\t' ++ List.replicate (target - stop) ' '
  else List.replicate count ' '

def lineText (tabs : Bool) (indent : Nat) (ws : List Word) : Chars :=
  let rec go : Nat → List Word → Chars
    | _, [] => ['\n']
    | _, [w] => w.text ++ ['\n']
    | column, w :: ws =>
      let column := column + w.text.length
      w.text ++ gap tabs column w.space ++ go (column + w.space) ws
  gap tabs 0 indent ++ go indent ws

def broken (tabs : Bool) (choices : Array Choice) (others : Nat) :
    Nat → Nat → Nat → List Word → Chars
  | 0, _, _, _ => []
  | _, _, _, [] => []
  | n + 1, i, indent, ws =>
    let next := ((choices[i]?).map (·.next)).getD (i + 1)
    let count := max 1 (next - i)
    lineText tabs indent (ws.take count) ++
      broken tabs choices others n (i + count) others (ws.drop count)

/-- The text of paragraphs and of the empty lines between them. Tabs are written as soon as one was
read, and that may be on the line after a paragraph. -/
def filled (p : Plan) : Nat → Bool → Nat → List Line → Chars
  | 0, _, _, _ => []
  | _, _, _, [] => []
  | n + 1, tabs, before, l :: ls =>
    if l.words.isEmpty then '\n' :: filled p n (tabs || l.hasTab) before ls
    else
      let (para, rest) := paragraph p before l ls
      let tabs := tabs || ((l :: ls).take (ls.length + 1 - rest.length)).any (·.hasTab) ||
        rest.head?.any (·.leadsWithTab)
      let last := para.words.getLast?.map fun w => { w with endsInPeriod := true, isFinal := true }
      let para := { para with words := para.words.dropLast ++ last.toList }
      broken tabs (choices p para) para.others (para.words.length + 1) 0 para.first para.words ++
        filled p n tabs para.others rest

end Filling

open Filling in
def fmt (args : List Chars) : Action Nat :=
  let known : Known :=
    { flags := "ctsu", valued := "wgp"
      long := [("crown-margin", 'c'), ("tagged-paragraph", 't'), ("split-only", 's'),
        ("uniform-spacing", 'u'), ("width", 'w'), ("goal", 'g'), ("prefix", 'p')] }
  let args :=
    match args with
    | ('-' :: ds) :: rest =>
      if ds ≠ [] && ds.all Char.isDigit then ('-' :: 'w' :: ds) :: rest else args
    | _ => args
  withArguments known 1 args fun a => do
    let refuse (cs : Chars) : Action Nat := do
      warn ("invalid width: ".toList ++ inQuotes cs ++
        if (natural? cs).isSome then ": Numerical result out of range".toList else [])
      return 1
    match (a.value? 'w').map natural?, (a.value? 'g').map natural? with
    | some none, _ => refuse ((a.value? 'w').getD [])
    | _, some none => refuse ((a.value? 'g').getD [])
    | width, goal =>
      let width := width.bind fun w => w
      let goal := goal.bind fun g => g
      let most := width.getD ((goal.map (· + 10)).getD 75)
      if most > 2500 then return ← refuse ((a.value? 'w').getD [])
      if goal.any (most < ·) then return ← refuse ((a.value? 'g').getD [])
      let plan : Plan :=
        { width := most, goal := goal.getD (most * 187 / 200), isCrown := a.has 'c'
          isTagged := a.has 't', onlySplits := a.has 's', isUniform := a.has 'u' }
      let mut whole := true
      for file in inputs a.operands do
        match ← contentOf file with
        | .ok cs =>
          let ls := lines plan cs
          print (filled plan (ls.length + 1) false 0 ls)
        | .error why =>
          if why = "Is a directory" then warnOf file "read error"
          else
            warn ("cannot open ".toList ++ quotedFully file ++ " for reading: ".toList ++
              why.toList)
          whole := false
      return failed whole

end ImportResolver.Tool

import ImportResolver.Shell.Pattern
import ImportResolver.Tool.Modes
import ImportResolver.Tool.Sorting
/- Listing files and the content of directories. -/
namespace ImportResolver.Tool

open Shell Shell.Action

namespace Listing

structure Item where
  name : Chars
  location : FileSystem.Location
  node : FileSystem.Node
  time : Int

def known : Known :=
  { flags := "1aAdFpRrlhtSUCmxnogiskLHNbqQcuvXZBGDf", valued := "wITVY", free := "KEM"
    long := [("all", 'a'), ("almost-all", 'A'), ("directory", 'd'), ("recursive", 'R'),
      ("reverse", 'r'), ("classify", 'E'), ("file-type", 'P'), ("color", 'K'), ("sort", 'V'),
      ("format", 'Y'), ("inode", 'i'), ("size", 's'), ("human-readable", 'h'), ("escape", 'b'),
      ("quote-name", 'Q'), ("dereference", 'L'), ("ignore", 'I'), ("ignore-backups", 'B'),
      ("width", 'w'), ("no-group", 'G'), ("numeric-uid-gid", 'n'), ("literal", 'N'),
      ("hide-control-chars", 'q'), ("time-style", 'M'), ("tabsize", 'T'),
      ("group-directories-first", 'D'), ("dereference-command-line", 'H')] }

def plain (a : Arguments) : Arguments :=
  let letter (o : Char × Chars) : List (Char × Chars) :=
    match o.1, String.ofList o.2 with
    | 'E', "" | 'E', "always" => [('F', [])]
    | 'V', "none" => [('U', [])]
    | 'V', "size" => [('S', [])]
    | 'V', "time" => [('t', [])]
    | 'V', "version" => [('v', [])]
    | 'V', "extension" => [('X', [])]
    | 'Y', "long" => [('l', [])]
    | 'Y', "single-column" => [('1', [])]
    | 'Y', "commas" => [('m', [])]
    | 'Y', "across" => [('x', [])]
    | 'Y', "vertical" => [('C', [])]
    | 'f', _ => [('a', []), ('U', [])]
    | _, _ => [o]
  { a with options := a.options.flatMap letter }

def kindMark (a : Arguments) (n : FileSystem.Node) : Chars :=
  match a.last? ['F', 'P', 'p'], n with
  | none, _ => []
  | some _, .directory _ => ['/']
  | some 'p', _ => []
  | some _, .link _ => ['@']
  | some _, .pipe _ _ => ['|']
  | some 'F', n => if n.isFile && n.isExecutable then ['*'] else []
  | _, _ => []

def escapedName (a : Arguments) (cs : Chars) : Chars :=
  match a.last? ['b', 'Q', 'N', 'q'] with
  | some 'b' =>
    cs.flatMap fun c => if c = ' ' then ['\\', ' '] else if c = '\\' then ['\\', '\\']
      else if isShown c then [c] else escaped c
  | some 'Q' =>
    '"' :: (cs.flatMap fun c => if c = '"' || c = '\\' then ['\\', c]
      else if isShown c then [c] else escaped c) ++ ['"']
  | some 'q' => cs.map fun c => if isShown c || 128 ≤ c.toNat then c else '?'
  | _ => cs

def shownName (a : Arguments) (i : Item) : Chars :=
  escapedName a i.name ++ kindMark a i.node

def sizeOf : FileSystem.Node → Nat
  | .file bytes _ => bytes.length
  | .directory _ => 4096
  | .link target => target.utf8ByteSize
  | .device _ _ => 0
  | .pipe _ _ => 0
  | .tool _ => 100000

def roomOf : FileSystem.Node → Nat
  | .link _ => 0
  | n => (sizeOf n + 4095) / 4096 * 4

def extensionOf (cs : Chars) : Chars :=
  if cs.contains '.' then '.' :: (cs.reverse.takeWhile (· ≠ '.')).reverse else []

def precedes (a : Arguments) (x y : Item) : Bool :=
  let byName : Bool := Text.inOrder x.name y.name
  match a.last? ['t', 'S', 'X', 'v', 'U'] with
  | some 't' => if x.time = y.time then byName else y.time < x.time
  | some 'S' =>
    let (m, n) := (sizeOf x.node, sizeOf y.node)
    if m = n then byName else n < m
  | some 'X' =>
    let (e, f) := (extensionOf x.name, extensionOf y.name)
    if e = f then byName else Text.inOrder e f
  | some 'v' => (Sorting.compareVersions x.name y.name).isLE
  | some _ => true
  | none => byName

def sorted (a : Arguments) (items : List Item) : List Item :=
  let items := if a.last? ['t', 'S', 'X', 'v', 'U'] = some 'U' then items
    else items.mergeSort (precedes a)
  let items := if a.has 'r' then items.reverse else items
  if a.has 'D' then items.filter (·.node.isDirectory) ++ items.filter (!·.node.isDirectory)
  else items

def gap : Nat → Nat → Nat → Chars
  | 0, _, _ => []
  | fuel + 1, here, column =>
    if column ≤ here then []
    else if (here + 1) / 8 < column / 8 then '\t' :: gap fuel (here + 8 - here % 8) column
    else ' ' :: gap fuel (here + 1) column

def columnWidths (across : Bool) (widths : List Nat) (count : Nat) : List Nat :=
  let rows := (widths.length + count - 1) / count
  let placed := widths.zipIdx.map fun (w, i) =>
    let column := if across then i % count else i / rows
    (column, if column = count - 1 then w else w + 2)
  (List.range count).map fun c =>
    placed.foldl (fun m e => if e.1 = c then max m e.2 else m) 3

def inColumns (across : Bool) (width : Nat) (names : List Chars) : List Chars :=
  let widths := names.map List.length
  let fits (count : Nat) : Bool :=
    (columnWidths across widths count).foldl (· + ·) 0 < width || count ≤ 1
  let most := max 1 (min (width / 3) names.length)
  let counts := ((List.range most).map (· + 1)).reverse
  let count := (counts.find? fits).getD 1
  let columns := columnWidths across widths count
  let rows := (names.length + count - 1) / count
  (List.range rows).map fun row =>
    let cells := (List.range count).filterMap fun c =>
      (names[if across then row * count + c else c * rows + row]?).map fun name => (c, name)
    let start (c : Nat) : Nat := (columns.take c).foldl (· + ·) 0
    (cells.foldl
      (fun (line : Chars × Nat) (cell : Nat × Chars) =>
        let (c, name) := cell
        (line.1 ++ gap (start c + 1) line.2 (start c) ++ name, start c + name.length))
      ([], 0)).1

def inSeries (width : Nat) (names : List Chars) : List Chars :=
  let last := names.length - 1
  let (line, lines) := names.zipIdx.foldl
    (fun (st : Chars × List Chars) (e : Chars × Nat) =>
      let piece := if e.2 = last then e.1 else e.1 ++ [',']
      if st.1 = [] then (piece, st.2)
      else if st.1.length + 1 + piece.length ≤ width then (st.1 ++ ' ' :: piece, st.2)
      else (piece, st.1 :: st.2))
    ([], [])
  (if line = [] then lines else line :: lines).reverse

def humanSize (n : Nat) : Chars :=
  let rec go : Nat → Nat → List Char → Chars
    | _, n, [] => decimal n
    | unit, n, c :: cs =>
      if n < unit * 1024 then
        let tenths := (n * 10 + unit - 1) / unit
        if tenths < 100 then decimal (tenths / 10) ++ '.' :: decimal (tenths % 10) ++ [c]
        else decimal ((n + unit - 1) / unit) ++ [c]
      else go (unit * 1024) n cs
  if n < 1024 then decimal n else go 1024 n "KMGTPE".toList

def timeText (time : Int) (now : Nat) : Chars :=
  let seconds := startOfTime + time.fdiv 1000000
  let m := Moment.ofSeconds seconds
  let two (n : Nat) : Chars := padded 2 (decimal n)
  let zero (n : Nat) : Chars := if n < 10 then '0' :: decimal n else decimal n
  let month := ((Moment.monthNames.getD (m.month - 1) "").toList).take 3
  let recent : Bool := (now : Int) - 15778476 < seconds && seconds ≤ now
  month ++ ' ' :: two m.day ++ ' ' ::
    (if recent then zero m.hour ++ ':' :: zero m.minute else ' ' :: (toString m.year).toList)

def longCells (a : Arguments) (tree : FileSystem.Tree) (now : Nat) (i : Item) :
    List (Bool × Chars) :=
  let links :=
    match i.node with
    | .directory _ => 2 + ((tree.children i.location).filter (·.2.isDirectory)).length
    | _ => 1
  let size := sizeOf i.node
  let owner : Chars := if a.has 'n' then ['0'] else "root".toList
  [(false, Modes.kindLetter i.node :: Modes.rights i.node.mode), (true, decimal links)] ++
    (if a.has 'g' then [] else [(false, owner)]) ++
    (if a.has 'o' || a.has 'G' then [] else [(false, owner)]) ++
    [(true, if a.has 'h' then humanSize size else decimal size), (false, timeText i.time now)]

/-- Lines made of cells; those of a column are made equally wide. -/
def aligned (rows : List (List (Bool × Chars))) : List Chars :=
  let width (c : Nat) : Nat :=
    rows.foldl (fun m row => max m ((row[c]?.map (·.2.length)).getD 0)) 0
  rows.map fun row =>
    ((row.zipIdx.map fun (cell, c) =>
      if cell.1 then padded (width c) cell.2
      else cell.2 ++ List.replicate (width c - cell.2.length) ' ').intersperse [' ']).flatten

def linesFor (a : Arguments) (tree : FileSystem.Tree) (now width : Nat) (items : List Item) :
    List Chars :=
  let isLong := a.has 'l' || a.has 'n' || a.has 'g' || a.has 'o'
  let number (i : Item) : List (Bool × Chars) :=
    (if a.has 'i' then [(true, decimal (100 + i.location.length))] else []) ++
    (if a.has 's' then
      [(true, if a.has 'h' then humanSize (roomOf i.node * 1024) else decimal (roomOf i.node))]
      else [])
  let heads := aligned (items.map fun i =>
    number i ++ if isLong then longCells a tree now i else [])
  let names := (items.zip heads).map fun (i, head) =>
    let name := shownName a i
    let aim :=
      match i.node with
      | .link target => if isLong then " -> ".toList ++ charsOf target else []
      | _ => []
    (if head = [] then [] else head ++ [' ']) ++
      (if isLong && a.has 'F' && aim ≠ [] then escapedName a i.name else name) ++ aim
  match a.last? ['l', '1', 'm', 'x', 'C', 'g', 'n', 'o'] with
  | some 'm' => inSeries width names
  | some 'x' => inColumns true width names
  | some 'C' => inColumns false width names
  | _ => names

def totalLine (a : Arguments) (items : List Item) : List Chars :=
  if a.has 'l' || a.has 's' || a.has 'n' || a.has 'g' || a.has 'o' then
    let total := items.foldl (fun n i => n + roomOf i.node) 0
    ["total ".toList ++ if a.has 'h' then humanSize (total * 1024) else decimal total]
  else []

def isListed (a : Arguments) (name : Chars) : Bool :=
  let ignored := (a.options.filter (·.1 = 'I')).map fun o =>
    Pattern.ofGlyphs (o.2.map fun c => ⟨c, false⟩)
  (a.has 'a' || a.has 'A' || name.head? ≠ some '.') &&
    !(a.has 'B' && name.getLast? = some '~') && !ignored.any (·.matches? name)

end Listing

open Listing in
def ls (args : List Chars) : Action Nat :=
  withArguments known 2 args fun a => do
    let a := plain a
    let width? := match a.value? 'w' with
      | some cs => natural? cs
      | none => some 80
    match width? with
    | none =>
      warn ("invalid line width: ".toList ++ inQuotes ((a.value? 'w').getD []))
      return 2
    | some width =>
      let width := if width = 0 then 100000 else width
      let fs ← fileSystem
      let times := (← get).changed
      let (now, _) ← now
      let item (name : Chars) (loc : FileSystem.Location) (n : FileSystem.Node) : Item :=
        { name, location := loc, node := n
          time := ((times.find? (·.1 = loc)).map (·.2)).getD 0 }
      let isLong := a.has 'l' || a.has 'n' || a.has 'g' || a.has 'o'
      let through := a.has 'H' || a.has 'L' || !(a.has 'd' || a.has 'F' || isLong)
      let locate (p : Chars) : Except Fault FileSystem.Location :=
        match fs.locate (pathOf p) true with
        | .ok loc =>
          if a.has 'L' || through && (fs.tree.get? loc).any FileSystem.Node.isDirectory then .ok loc
          else fs.locate (pathOf p) false
        | .error _ => fs.locate (pathOf p) false
      let mut status := 0
      let mut files : List Item := []
      let mut directories : List Item := []
      for p in if a.operands.isEmpty then [['.']] else a.operands do
        match locate p with
        | .error fault =>
          warn (cannot "access" p fault.reason)
          status := 2
        | .ok loc =>
          match fs.tree.get? loc with
          | none =>
            warn (cannot "access" p Fault.notFound.reason)
            status := 2
          | some n =>
            if n.isDirectory && !a.has 'd' then directories := item p loc n :: directories
            else files := item p loc n :: files
      let entries (i : Item) : List Item :=
        let inside := (fs.tree.children i.location).filterMap fun e =>
          let name := charsOf e.1
          if !isListed a name then none
          else
            let n := match e.2, a.has 'L' with
              | .link _, true =>
                ((fs.tree.walk true FileSystem.maxLinks i.location [e.1]).toOption.bind fun loc =>
                  fs.tree.get? loc).getD e.2
              | n, _ => n
            some (item name (e.1 :: i.location) n)
        let dots :=
          if a.last? ['a', 'A'] = some 'a' then
            [item ['.'] i.location i.node, item ['.', '.'] i.location.tail (.directory 0o755)]
          else []
        sorted a (dots ++ inside)
      let isHeaded := 1 < a.operands.length || a.has 'R'
      let rec blocks : Nat → List Item → List (List Chars)
        | 0, _ => []
        | _, [] => []
        | fuel + 1, i :: rest =>
          let inside := entries i
          let head := if isHeaded then [escapedName a i.name ++ [':']] else []
          let block := head ++ totalLine a inside ++ linesFor a fs.tree now width inside
          let deeper :=
            if a.has 'R' then
              (inside.filter fun e =>
                e.node.isDirectory && e.name ≠ ['.'] && e.name ≠ ['.', '.']).map fun e =>
                  { e with name := inDirectory i.name e.name }
            else []
          block :: blocks fuel (deeper ++ rest)
      let listed := linesFor a fs.tree now width (sorted a files.reverse)
      let fuel := fs.tree.entries.length * (a.operands.length + 1) + a.operands.length + 2
      let all := (if listed.isEmpty then [] else [listed]) ++
        blocks fuel (sorted a directories.reverse)
      let text := (all.map fun ls => ls.flatMap (· ++ ['\n'])).intersperse ['\n']
      say text.flatten status

end ImportResolver.Tool

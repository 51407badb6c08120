import ImportResolver.Tool.Ends
import ImportResolver.Tool.Script
/- Editing texts as scripts say. -/
namespace ImportResolver.Tool.Script

open Shell Shell.Action

/-- What is printed when a line is done. -/
inductive Queued where
  | text (cs : Chars)
  /-- The content of a file. -/
  | file (name : Chars)
  | line (cs : Chars) (ended : Bool)

/-- Where the output of an edit goes. -/
inductive Target where
  | output
  | errors
  | descriptor (d : Nat)

/-- A file that is being edited in place. -/
structure InPlace where
  name : Chars
  loc : FileSystem.Location
  /-- What was printed for it, the last first. -/
  printed : List Chars := []

structure Editor where
  /-- The files that were not opened yet. -/
  files : List Chars
  feed : Option (Chars × Feed) := none
  line : Nat := 0
  /-- The text that is worked on, and whether its last line ends. -/
  text : Chars := []
  ended : Bool := true
  held : Chars := []
  /-- Whether the last line printed has no end yet. -/
  isOpen : Bool := false
  /-- What is printed when the line is done, the last first. -/
  queued : List Queued := []
  /-- The ranges that are open, by the number of their instruction, and the lines that they end
  at if those are known. -/
  ranges : List (Nat × Option Nat) := []
  /-- The ranges that have closed. -/
  closed : List Nat := []
  substituted : Bool := false
  last : Option Regex := none
  /-- Where the files stand that are read a line at a time. -/
  feeds : List (Chars × Option Feed) := []
  targets : List (Chars × Target) := []
  status : Nat := 0
  silent : Bool
  /-- What lines end with. -/
  lineEnd : Char := '\n'
  /-- Whether each file is a text of its own. -/
  separate : Bool := false
  /-- Whether files get what is printed for them, and what is added to the name of a file for a
  copy of it as it was. -/
  inPlace : Option Chars := none
  editing : Option InPlace := none
  /-- After how many characters plainly printed lines are broken. -/
  width : Nat := 70
  hasStarted : Bool := false

namespace Editor

def put (e : Editor) (cs : Chars) : Action Editor := do
  if cs = [] then return e
  match e.editing with
  | some f => return { e with editing := some { f with printed := cs :: f.printed } }
  | none =>
    print cs
    return e

def emit (e : Editor) (cs : Chars) : Action Editor := do
  if cs = [] then return e
  let e ← e.put (if e.isOpen then e.lineEnd :: cs else cs)
  return { e with isOpen := false }

def emitLine (e : Editor) (cs : Chars) (ended : Bool) : Action Editor := do
  let lead := if e.isOpen then [e.lineEnd] else []
  let e ← e.put (lead ++ cs ++ if ended then [e.lineEnd] else [])
  return { e with isOpen := !ended }

def writeTo (e : Editor) (name cs : Chars) (ended : Bool) : Action Editor := do
  match (e.targets.find? (·.1 = name)).map fun t => t.2 with
  | some Target.output => e.emitLine cs ended
  | some Target.errors => do
    let _ ← write 2 (cs ++ ['\n'])
    return e
  | some (Target.descriptor d) => do
    let _ ← write d (cs ++ if ended then [e.lineEnd] else [])
    return e
  | none => return e

def flushQueued (e : Editor) : Action Editor := do
  let mut e := e
  let queued := e.queued.reverse
  e := { e with queued := [] }
  for q in queued do
    match q with
    | .text cs => e ← e.emit cs
    | .line cs ended => e ← e.emitLine cs ended
    | .file name =>
      match ← contentOf (if name = "/dev/stdin".toList then ['-'] else name) with
      | .ok cs => e ← e.emit cs
      | .error _ => pure ()
  return e

/-- Prints the text, unless that is not wanted, and what waits for the end of the line. -/
def finish (e : Editor) : Action Editor := do
  let e ← if e.silent then pure e else e.emitLine e.text e.ended
  e.flushQueued

def finishFile (e : Editor) : Action Editor := do
  match e.editing with
  | none => return e
  | some f =>
    let fs ← fileSystem
    match fs.tree.get? f.loc with
    | some (.file bytes mode) =>
      match e.inPlace with
      | some (c :: cs) =>
        let suffix := c :: cs
        let base := (f.name.reverse.takeWhile (· ≠ '/')).reverse
        let directory := f.name.take (f.name.length - base.length)
        let copy :=
          if suffix.contains '*' then
            suffix.flatMap fun c => if c = '*' then base else [c]
          else base ++ suffix
        let copy := if copy.contains '/' then copy else directory ++ copy
        match fs.writable (pathOf copy) with
        | .ok loc =>
          setFileSystem (fs.set loc (.file bytes mode))
          stamp loc
        | .error _ => pure ()
      | _ => pure ()
      detach f.loc
      let fs ← fileSystem
      setFileSystem (fs.set f.loc (.file (charBytes f.printed.reverse.flatten) mode))
      stamp f.loc
    | _ => pure ()
    return { e with editing := none, isOpen := false }

/-- Begins with the next file that can be read; false if there is none. -/
def openNext : Nat → Editor → Action (Except (Chars × Nat) (Bool × Editor))
  | 0, _ => throw .exhausted
  | n + 1, e => do
    match e.files with
    | [] => return .ok (false, e)
    | name :: files =>
      let e := { e with files }
      let complain (why : Chars) : Action (Except (Chars × Nat) (Bool × Editor)) := do
        warnAhead why
        openNext n { e with status := 2 }
      let begun (e : Editor) (d : Nat) : Editor :=
        { e with
          feed := some (name, { descriptor := d, ending := e.lineEnd, block := 4096 })
          line := if e.separate then 0 else e.line
          ranges := if e.separate then [] else e.ranges
          closed := if e.separate then [] else e.closed
          hasStarted := true }
      let fs ← fileSystem
      if e.inPlace.isSome then
        if name = ['-'] then
          complain "couldn't edit -: not a regular file".toList
        else
          match fs.locate (pathOf name) true with
          | .error fault =>
            complain ("can't read ".toList ++ name ++ ": ".toList ++ fault.reason.toList)
          | .ok loc =>
            match fs.tree.get? loc with
            | some (.file _ _) =>
              match ← openInput name inputDescriptor with
              | .error why =>
                complain ("can't read ".toList ++ name ++ ": ".toList ++ why.toList)
              | .ok d =>
                let e := begun e d
                return .ok (true, { e with editing := some { name, loc } })
            | some _ => complain ("couldn't edit ".toList ++ name ++ ": not a regular file".toList)
            | none =>
              complain ("can't read ".toList ++ name ++ ": No such file or directory".toList)
      else
        match ← openInput name inputDescriptor with
        | .error why => complain ("can't read ".toList ++ name ++ ": ".toList ++ why.toList)
        | .ok d =>
          if d ≠ 0 && fs.isDirectory (pathOf name) then
            closeInput d
            complain ("couldn't read ".toList ++ name ++ ": Is a directory".toList)
          else return .ok (true, begun e d)

/-- Fills the feed, opening files, until there is a line; false if there is none. Files are not
left behind if each is a text of its own and `within` is set. -/
def ahead (within : Bool) : Nat → Editor → Action (Except (Chars × Nat) (Bool × Editor))
  | 0, _ => throw .exhausted
  | n + 1, e => do
    match e.feed with
    | none =>
      match ← openNext (e.files.length + 1) e with
      | .error why => return .error why
      | .ok (false, e) => return .ok (false, e)
      | .ok (true, e) => ahead within n e
    | some (name, feed) =>
      match ← feed.fill loopLimit with
      | .error why =>
        let shown := if name = ['-'] then "stdin".toList else name
        return .error ("read error on ".toList ++ shown ++ ": ".toList ++ why.toList, 4)
      | .ok feed =>
        let e := { e with feed := some (name, feed) }
        if !feed.lines.isEmpty then return .ok (true, e)
        else if within && e.separate then return .ok (false, e)
        else
          closeInput feed.descriptor
          let e ← e.finishFile
          ahead within n { e with feed := none }

def hasMore (e : Editor) : Action (Except (Chars × Nat) (Bool × Editor)) :=
  if !e.separate && e.feed.any fun f => !f.2.lines.isEmpty then return .ok (true, e)
  else ahead true (2 * e.files.length + 3) e

def read? (e : Editor) : Action (Except (Chars × Nat) (Option (Chars × Bool) × Editor)) := do
  match ← ahead false (2 * e.files.length + 3) e with
  | .error why => return .error why
  | .ok (false, e) => return .ok (none, e)
  | .ok (true, e) =>
    match e.feed with
    | some (name, feed) =>
      let l := feed.lines.headD []
      let e := { e with
        feed := some (name, { feed with lines := feed.lines.drop 1 }), line := e.line + 1 }
      return .ok (some (withoutEnd e.lineEnd l, l.getLast? = some e.lineEnd), e)
    | none => return .ok (none, e)

def regex? (e : Editor) (p : Pattern) : Option (Regex × Editor) :=
  (p.regex <|> e.last).map fun r => (r, { e with last := some r })

end Editor

/-- What an edit goes through; the error is what is said at its end, with the status. -/
abbrev Edited (α : Type) :=
  StateT Editor (ExceptT (Chars × Nat) (ExceptT Stop (Routine Machine Pause))) α

namespace Edited

def lifted {α : Type} (a : Action α) : Edited α := fun e => do
  let x ← (show ExceptT (Chars × Nat) (ExceptT Stop (Routine Machine Pause)) α from
    ExceptT.mk (do return .ok (← a)))
  return (x, e)

def change (f : Editor → Action Editor) : Edited Unit := do
  set (← lifted (f (← get)))

def step {α : Type} (f : Editor → Action (Except (Chars × Nat) (α × Editor))) : Edited α := do
  match ← lifted (f (← get)) with
  | .ok (a, e) =>
    set e
    return a
  | .error why => throw why

def regex (p : Pattern) : Edited Regex := do
  match (← get).regex? p with
  | some (r, e) =>
    set e
    return r
  | none => throw ("-e expression #1, char 0: no previous regular expression".toList, 1)

def hasMore : Edited Bool := step Editor.hasMore

def holds (a : Address) : Edited Bool := do
  let e ← get
  match a with
  | .line n => return e.line = n
  | .last => return !(← hasMore)
  | .every first step =>
    return if step = 0 then e.line = first else first ≤ e.line && (e.line - first) % step = 0
  | .matching p =>
    let r ← regex p
    return (r.find? ⟨(← get).text, p.ignoresCase, p.manyLines⟩ 0).isSome

def close (i : Nat) : Edited Unit :=
  modify fun e => { e with ranges := e.ranges.filter (·.1 ≠ i), closed := i :: e.closed }

def selects (i : Nat) : Selector → Edited Bool
  | .all => return true
  | .one a => holds a
  | .range first bound => do
    let e ← get
    let fromStart := match first with
      | .line 0 => e.line = 1 && !e.closed.contains i && !e.ranges.any (·.1 = i)
      | _ => false
    if fromStart then modify fun e => { e with ranges := (i, none) :: e.ranges }
    let e ← get
    match e.ranges.find? (·.1 = i) with
    | some (_, some n) =>
      if n ≤ e.line then
        close i
        if e.line = n then return true
        /- The range ended before: this line may begin another one, but only by itself. -/
        match first with
        | .matching _ => holds first
        | _ => return false
      else return true
    | some (_, none) =>
      match bound with
      | .address a => if ← holds a then close i
      | _ => close i
      return true
    | none =>
      if !(← holds first) then return false
      let begin_ (end_ : Option Nat) : Edited Unit :=
        modify fun e => { e with ranges := (i, end_) :: e.ranges }
      let until_ (n : Nat) : Edited Unit := do
        if n ≤ (← get).line then close i else begin_ (some n)
      let line := (← get).line
      match bound with
      | .more n => until_ (line + n)
      | .multiple n => until_ (if n = 0 then line else (line + n - 1) / n * n)
      | .address (.line n) => until_ n
      | .address .last => if ← hasMore then begin_ none else close i
      | .address _ => begin_ none
      return true

end Edited

/-- The case that letters are put into: for all that follows, and for the next one. -/
structure Casing where
  all : Option Char := none
  one : Option Char := none

def Casing.apply (k : Casing) (cs : Chars) : Chars × Casing :=
  let change (how : Option Char) (c : Char) : Char :=
    match how with
    | some 'U' => c.toUpper
    | some 'u' => c.toUpper
    | some 'L' => c.toLower
    | some 'l' => c.toLower
    | _ => c
  match cs with
  | [] => ([], k)
  | c :: rest =>
    (change (k.one <|> k.all) c :: rest.map (change k.all), { k with one := none })

def expanded (s : Regex.Subject) (m : Regex.Match) : Casing → List Piece → Chars
  | _, [] => []
  | k, .text cs :: ps =>
    let (cs, k) := k.apply cs
    cs ++ expanded s m k ps
  | k, .group n :: ps =>
    let (cs, k) := k.apply (m.group s n)
    cs ++ expanded s m k ps
  | k, .case c :: ps =>
    let k :=
      if c = 'E' then {}
      else if c = 'u' || c = 'l' then { k with one := some c }
      else { k with all := some c }
    expanded s m k ps

/-- The text with matches replaced; none if there was none. -/
def replaced? (s : Substitution) (r : Regex) (cs : Chars) : Option Chars :=
  let subject : Regex.Subject := ⟨cs, s.pattern.ignoresCase, s.pattern.manyLines⟩
  let all := (r.findAll subject).drop ((s.first.getD 1) - 1)
  let chosen := if s.everywhere then all else all.take 1
  if chosen.isEmpty then none
  else
    let (out, position) := chosen.foldl
      (fun (acc : List Chars × Nat) m =>
        (expanded subject m {} s.replacement :: Regex.between subject (acc.2, m.start) :: acc.1,
          m.stop))
      ([], 0)
    some (out.reverse.flatten ++ cs.drop position)

def plainly (width : Nat) (cs : Chars) : Chars :=
  let one (c : Char) : Chars :=
    if c = '\\' then ['\\', '\\'] else if isShown c then [c] else escaped c
  let (out, _) := cs.foldl
    (fun (acc : List Chars × Nat) c =>
      let piece := one c
      if 0 < width && width - 1 < acc.2 + piece.length then
        (piece :: ['\\', '\n'] :: acc.1, piece.length)
      else (piece :: acc.1, acc.2 + piece.length))
    ([], 0)
  out.reverse.flatten ++ ['$']

inductive End where
  | line
  /-- Without printing. -/
  | deleted
  /-- Goes on with what is left of the text. -/
  | again
  | quit (prints : Bool) (status : Nat)

abbrev Program := Array Instruction

def Program.skip (p : Program) : Nat → Nat → Nat → Nat
  | 0, _, i => i
  | n + 1, depth, i =>
    match p[i]? with
    | none => i
    | some instruction =>
      match instruction.edit with
      | .opening => p.skip n (depth + 1) (i + 1)
      | .closing => if depth ≤ 1 then i + 1 else p.skip n (depth - 1) (i + 1)
      | _ => if depth = 0 then i + 1 else p.skip n depth (i + 1)

def Program.labelled (p : Program) (name : Chars) : Nat :=
  (p.toList.findIdx? fun i => match i.edit with
    | .label l => l = name
    | _ => false).getD p.size

def nextOf (name : Chars) : Edited (Option Chars) := do
  let e ← get
  let known := e.feeds.find? (·.1 = name)
  let feed? : Option Feed ←
    match known with
    | some (_, f) => pure f
    | none => Edited.lifted do
      match ← openInput (if name = "/dev/stdin".toList then ['-'] else name)
          (inputDescriptor + 1 + e.feeds.length) with
      | .ok d => return some { descriptor := d, ending := e.lineEnd }
      | .error _ => return none
  let store (f : Option Feed) : Edited Unit :=
    modify fun e => { e with feeds := (name, f) :: e.feeds.filter (·.1 ≠ name) }
  match feed? with
  | none =>
    store none
    return none
  | some f =>
    match ← Edited.lifted f.next? with
    | .ok (l, f) =>
      store (some f)
      return l
    | .error _ => return none

def Program.carryOut (p : Program) : Nat → Nat → Edited End
  | 0, _ => Edited.lifted (throw .exhausted)
  | n + 1, i => do
    match p[i]? with
    | none => return .line
    | some instruction =>
      if (← Edited.selects i instruction.selector) = instruction.negated then
        p.carryOut n (p.skip (p.size + 1) 0 i)
      else
        let go : Edited End := p.carryOut n (i + 1)
        let e ← get
        match instruction.edit with
        | .opening => go
        | .closing => go
        | .label _ => go
        | .nothing => go
        | .jump c name =>
          let there := if name = [] then p.size else p.labelled name
          match c with
          | .always => p.carryOut n there
          | .substituted =>
            modify fun e => { e with substituted := false }
            if e.substituted then p.carryOut n there else go
          | .notSubstituted =>
            modify fun e => { e with substituted := false }
            if e.substituted then go else p.carryOut n there
        | .number =>
          Edited.change fun e => e.emit (decimal e.line ++ ['\n'])
          go
        | .append cs =>
          set { e with queued := .text cs :: e.queued }
          go
        | .insert cs =>
          Edited.change fun e => e.emit cs
          go
        | .change cs =>
          let within := e.ranges.any (·.1 = i) && !instruction.negated
          if !within then Edited.change fun e => e.emit cs
          return .deleted
        | .delete => return .deleted
        | .deleteFirst =>
          match e.text.dropWhile (· ≠ '\n') with
          | [] => return .deleted
          | _ :: rest =>
            set { e with text := rest }
            return .again
        | .print =>
          Edited.change fun e => e.emitLine e.text e.ended
          go
        | .printFirst =>
          Edited.change fun e => e.emitLine (e.text.takeWhile (· ≠ '\n')) true
          go
        | .printPlainly width =>
          Edited.change fun e =>
            e.emit (plainly (width.getD e.width) e.text ++ ['\n'])
          go
        | .fileName =>
          Edited.change fun e => e.emit ((e.feed.map fun f => f.1).getD ['-'] ++ ['\n'])
          go
        | .hold =>
          set { e with held := e.text }
          go
        | .holdMore =>
          set { e with held := e.held ++ '\n' :: e.text }
          go
        | .recall =>
          set { e with text := e.held }
          go
        | .recallMore =>
          set { e with text := e.text ++ '\n' :: e.held }
          go
        | .exchange =>
          set { e with text := e.held, held := e.text }
          go
        | .next =>
          if !(← Edited.hasMore) then return .quit true 0
          Edited.change Editor.finish
          match ← Edited.step Editor.read? with
          | some (text, ended) =>
            modify fun e => { e with text, ended }
            go
          | none => return .quit false 0
        | .nextMore =>
          if !(← Edited.hasMore) then return .quit true 0
          Edited.change Editor.flushQueued
          match ← Edited.step Editor.read? with
          | some (text, ended) =>
            modify fun e => { e with text := e.text ++ '\n' :: text, ended }
            go
          | none => return .quit true 0
        | .quit prints status => return .quit prints status
        | .substitute s =>
          let r ← Edited.regex s.pattern
          match replaced? s r (← get).text with
          | none => go
          | some cs =>
            modify fun e => { e with text := cs, substituted := true }
            if s.prints then Edited.change fun e => e.emitLine cs e.ended
            match s.target with
            | some file => Edited.change fun e => e.writeTo file cs e.ended
            | none => pure ()
            go
        | .characters table =>
          let other (c : Char) : Char := ((table.find? (·.1 = c)).map fun t => t.2).getD c
          set { e with text := e.text.map other }
          go
        | .readFile file =>
          set { e with queued := .file file :: e.queued }
          go
        | .readLine file =>
          match ← nextOf file with
          | some l =>
            modify fun e =>
              { e with
                queued := .line (withoutEnd e.lineEnd l) (l.getLast? = some e.lineEnd) ::
                  e.queued }
          | none => pure ()
          go
        | .writeFile file =>
          Edited.change fun e => e.writeTo file e.text e.ended
          go
        | .writeFirst file =>
          Edited.change fun e => e.writeTo file (e.text.takeWhile (· ≠ '\n')) true
          go
        | .clear =>
          set { e with text := [] }
          go

def stepLimit : Nat := 10000000

def Program.edit (p : Program) : Nat → Bool → Edited Nat
  | 0, _ => Edited.lifted (throw .exhausted)
  | n + 1, again => do
    let goesOn ←
      if again then pure true
      else do
        match ← Edited.step Editor.read? with
        | some (text, ended) =>
          modify fun e => { e with text, ended, substituted := false }
          pure true
        | none => pure false
    if !goesOn then return 0
    match ← p.carryOut stepLimit 0 with
    | .line =>
      Edited.change Editor.finish
      p.edit n false
    | .deleted =>
      Edited.change Editor.flushQueued
      p.edit n false
    | .again =>
      Edited.change Editor.flushQueued
      p.edit n true
    | .quit prints status =>
      Edited.change (if prints then Editor.finish else Editor.flushQueued)
      Edited.change fun e => do
        match e.feed with
        | some (_, f) =>
          f.giveBack
          closeInput f.descriptor
        | none => pure ()
        e.finishFile
      return status

end Script

open Shell Shell.Action

def sedOptions : Known :=
  { flags := "nErszubD", valued := "efl", free := "i"
    long := [("quiet", 'n'), ("silent", 'n'), ("regexp-extended", 'E'), ("expression", 'e'),
      ("file", 'f'), ("in-place", 'i'), ("separate", 's'), ("null-data", 'z'), ("posix", 'D'),
      ("zero-terminated", 'z'), ("unbuffered", 'u'), ("line-length", 'l'), ("debug", 'D'),
      ("sandbox", 'D'), ("follow-symlinks", 'D'), ("binary", 'b')]
    usage := fun name =>
      "Usage: ".toList ++ name ++
        " [OPTION]... \x7bscript-only-if-no-other-script\x7d [input-file]...\n\n".toList }

/-- A part of a script: what it is called in messages, and its text. -/
structure Part where
  file : Option Chars
  number : Nat
  text : Chars

def placed (parts : List Part) (p : Script.Problem) : Chars :=
  let total := (parts.map fun p => p.text.length + 1).foldl (· + ·) 0
  let rec find (offset : Nat) : List Part → Option (Part × Nat)
    | [] => none
    | [p] => some (p, offset)
    | p :: ps => if offset ≤ p.text.length then some (p, offset)
      else find (offset - p.text.length - 1) ps
  let offset := match p.left with
    | some left => total - 1 - left
    | none => 0
  match find offset parts with
  | none => p.message.toList
  | some (part, offset) =>
    match part.file with
    | some file =>
      let line := (part.text.take offset).count '\n' + 1
      let line := if p.left.isNone then 0 else line
      "file ".toList ++ file ++ " line ".toList ++ decimal line ++ ": ".toList ++ p.message.toList
    | none =>
      "-e expression #".toList ++ decimal part.number ++ ", char ".toList ++
        decimal (if p.left.isNone then 0 else offset) ++ ": ".toList ++ p.message.toList

def sed (args : List Chars) : Action Nat :=
  withArguments sedOptions 1 args fun a => do
    let stop (status : Nat) (why : Chars) : Action Nat := do
      warnAhead why
      return status
    let given := a.options.filter fun o => o.1 = 'e' || o.1 = 'f'
    let mut parts : List Part := []
    let mut count := 0
    for (kind, value) in given do
      if kind = 'e' then
        count := count + 1
        parts := parts ++ [⟨none, count, value⟩]
      else
        match ← contentOf value with
        | .ok cs =>
          let cs := if cs.getLast? = some '\n' then cs.dropLast else cs
          parts := parts ++ [⟨some value, 0, cs⟩]
        | .error why =>
          return ← stop 1
            ("couldn't open file ".toList ++ value ++ ": ".toList ++ why.toList)
    if given.isEmpty && a.operands.isEmpty then
      explain sedOptions
      return 1
    let files := inputs (if given.isEmpty then a.operands.drop 1 else a.operands)
    if given.isEmpty then parts := [⟨none, 1, a.operands.headD []⟩]
    let text := ((parts.map Part.text).intersperse ['\n']).flatten
    let silent := a.has 'n' || text.take 2 = ['#', 'n'] && (text.drop 2).head?.all (· = '\n')
    match Script.ofText (a.has 'E' || a.has 'r') text with
    | .error problem =>
      let problem := if problem.left = some 0 && problem.message.startsWith "cannot specify" then
        { problem with left := none } else problem
      stop 1 (placed parts problem)
    | .ok instructions =>
      match Script.missingLabel? instructions with
      | some l => stop 1 ("can't find label for jump to \x60".toList ++ l ++ ['\''])
      | none =>
        let program : Script.Program := instructions.toArray
        let names := instructions.filterMap fun i =>
          match i.edit with
          | .writeFile file => some file
          | .writeFirst file => some file
          | .substitute s => s.target
          | _ => none
        let mut targets : List (Chars × Script.Target) := []
        for name in names.eraseDups do
          if name = "/dev/stdout".toList then targets := (name, .output) :: targets
          else if name = "/dev/stderr".toList then targets := (name, .errors) :: targets
          else
            match ← openPath (pathOf name) .clobber with
            | .error fault =>
              return ← stop 4
                ("couldn't open file ".toList ++ name ++ ": ".toList ++ fault.reason.toList)
            | .ok f =>
              let d := 2 * inputDescriptor + targets.length
              setDescriptor d (some (← addFile f))
              targets := (name, .descriptor d) :: targets
        let e : Script.Editor :=
          { files, targets, silent
            lineEnd := if a.has 'z' then Char.ofNat 0 else '\n'
            separate := a.has 's' || a.has 'i'
            inPlace := a.value? 'i'
            width := ((a.value? 'l').bind natural?).getD 70 }
        match ← (program.edit loopLimit false).run e with
        | .ok (status, e) => return if e.status ≠ 0 then e.status else status
        | .error (why, status) => stop status why

end ImportResolver.Tool

import ImportResolver.Shell.Process
/- What a process does with its state, with open files and with the tree. -/
namespace ImportResolver.Shell

namespace Action

def process : Action Process := do return (← get).process

def modifyProcess (f : Process → Process) : Action Unit :=
  modify fun m => { m with process := f m.process }

def setStatus (n : Nat) : Action Unit := modifyProcess fun p => { p with status := n }

def freshNumber : Action Nat := do
  let n := (← get).fresh
  modify fun m => { m with fresh := n + 1 }
  return n

def fileSystem : Action FileSystem := do return (← get).fs

def setFileSystem (fs : FileSystem) : Action Unit := modify fun m => { m with fs }

/-- The outcome of an action, with nothing passed on but the end of all work. -/
def outcome {α : Type} (a : Action α) : Action (Except Stop α) := do
  let r ← tryCatch (do return Except.ok (← a)) fun stop => return .error stop
  match r with
  | .error .exhausted => throw .exhausted
  | r => return r

def iterate : Nat → Action Bool → Action Unit
  | 0, _ => throw .exhausted
  | n + 1, step => do if ← step then iterate n step

def loopLimit : Nat := 10000000

/- Time and turns. -/

/-- Microseconds that things take. -/
def commandTime : Nat := 10

def startTime : Nat := 200

def loadTime : Nat := 500

def noticeTime : Nat := 50

def charge (time : Nat) : Action Unit := modifyProcess fun p => { p with clock := p.clock + time }

def rouse : Action Unit :=
  modify fun m =>
    let soon := m.process.clock + noticeTime
    { m with horizon := some (match m.horizon with
      | some t => min t soon
      | none => soon) }

/-- The signals that wait for this process and are not ignored, the first one first. -/
def pending : Action (List Nat) := do
  let m ← get
  if m.signals.isEmpty then return []
  let mine := (m.signals.filter (·.1 = m.process.number)).map (·.2)
  return mine.reverse.filter fun n => !(m.process.response n matches .ignored)

def perish : Action Unit := do
  let p ← process
  for n in ← pending do
    if p.response n matches .ends then throw (.killed n)

def interrupted : Action Bool := do
  let p ← process
  return (← pending).any fun n => p.response n matches .handled _

/-- Lets others go on until something happens, or until a signal comes that ends the process. -/
def await (event : Event) (heeds : Bool) : Action Unit := do
  (Routine.pause { event, heeds } : Routine Machine Pause Unit)
  perish

def spend (time : Nat) : Action Unit := do
  charge time
  let m ← get
  if m.horizon.any (· < m.process.clock) then await .turn false

def tick : Nat := 4000

def setTime (loc : FileSystem.Location) (time : Int) : Action Unit :=
  modify fun m => { m with changed := (loc, time) :: m.changed.filter (·.1 ≠ loc) }

def stamp (loc : FileSystem.Location) : Action Unit := do
  let now : Int := ((← process).clock / tick + 1) * tick
  if (← get).changed.head? ≠ some (loc, now) then setTime loc now

/- Open files. -/

def put {α : Type} (key : Nat) (a : α) (xs : List (Nat × α)) : List (Nat × α) :=
  (key, a) :: xs.filter (·.1 ≠ key)

def openFile? (descriptor : Nat) : Action (Option (Nat × OpenFile)) := do
  let m ← get
  return do
    let d ← m.process.descriptors.find? (·.1 = descriptor)
    m.files.find? (·.1 = d.2)

/-- How many open files are kept before those that nobody holds are dropped. -/
def fileRoom : Nat := 24

/-- Drops the open files that nobody holds, and the buffers that no open file leads to. -/
def dropUnused : Action Unit :=
  modify fun m =>
    if m.files.length ≤ fileRoom then m
    else
      let held := m.alive.flatMap Process.openFiles
      let files := m.files.filter fun f => held.contains f.1
      { m with
        files
        buffers := m.buffers.filter fun b =>
          b.2.limit.isNone || files.any (·.2.endpoint = .buffer b.1) }

def addFile (f : OpenFile) : Action Nat := do
  dropUnused
  let n ← freshNumber
  modify fun m => { m with files := (n, f) :: m.files }
  return n

def setFile (number : Nat) (f : OpenFile) : Action Unit :=
  modify fun m => { m with files := put number f m.files }

def setDescriptor (descriptor : Nat) (file : Option Nat) : Action Unit :=
  modifyProcess fun p =>
    { p with
      descriptors :=
        match file with
        | some n => put descriptor n p.descriptors
        | none => p.descriptors.filter (·.1 ≠ descriptor) }

def hold (file : Nat) : Action Unit := modifyProcess fun p => { p with held := file :: p.held }

def release (file : Nat) : Action Unit := do
  modifyProcess fun p => { p with held := p.held.filter (· ≠ file) }
  rouse

/-- Carries out `body`, and puts some descriptors back at the end as they are now. -/
def keepingDescriptors {α : Type} (kept : List Nat) (body : Action α) : Action α := do
  let isKept (d : Nat × Nat) : Bool := kept.contains d.1
  let before := (← process).descriptors.filter isKept
  modifyProcess fun p => { p with aside := before :: p.aside }
  let r ← tryCatch (do return Except.ok (← body)) fun stop => return .error stop
  modifyProcess fun p =>
    { p with
      descriptors := before ++ p.descriptors.filter (!isKept ·), aside := p.aside.tail }
  rouse
  match r with
  | .ok a => return a
  | .error stop => throw stop

def buffer (number : Nat) : Action Buffer := do
  return (((← get).buffers.find? (·.1 = number)).map (·.2)).getD {}

def setBuffer (number : Nat) (b : Buffer) : Action Unit :=
  modify fun m => { m with buffers := put number b m.buffers }

def pipeSize : Nat := 65536

def pipeUnit : Nat := 4096

/-- A pipe: the open file to read from it and the one to write to it, neither held by anyone. -/
def addPipe : Action (Nat × Nat) := do
  dropUnused
  let n ← freshNumber
  modify fun m => { m with buffers := (n, { limit := some pipeSize }) :: m.buffers }
  let input ← freshNumber
  let output ← freshNumber
  modify fun m =>
    { m with
      files :=
        (input, { endpoint := .buffer n, canRead := true, canWrite := false }) ::
        (output, { endpoint := .buffer n, canRead := false, canWrite := true }) :: m.files }
  return (input, output)

def addDocument (text : Chars) : Action Nat := do
  dropUnused
  let n ← freshNumber
  let file ← freshNumber
  let b : Buffer := { front := text, size := text.length, limit := some pipeSize }
  modify fun m =>
    { m with
      buffers := (n, b) :: m.buffers
      files := (file, { endpoint := .buffer n, canRead := true, canWrite := false }) :: m.files }
  return file

end Action

namespace Machine

/-- Whether anyone holds an open file on a buffer of which something holds. -/
def holds (m : Machine) (number : Nat) (use : OpenFile → Bool) : Bool :=
  let ends := (m.files.filter fun f => f.2.endpoint = .buffer number && use f.2).map (·.1)
  !ends.isEmpty && m.alive.any fun p => p.openFiles.any ends.contains

def buffer (m : Machine) (number : Nat) : Buffer :=
  ((m.buffers.find? (·.1 = number)).map (·.2)).getD {}

/-- Whether reading a buffer gives an answer: bytes, or that there will be none. -/
def canRead (m : Machine) (number : Nat) : Bool :=
  (m.buffer number).size ≠ 0 || !m.holds number OpenFile.canWrite

/-- Whether so many bytes can be written to a buffer, or nobody will ever read them. -/
def canWrite (m : Machine) (number size : Nat) : Bool :=
  let b := m.buffer number
  size ≤ b.room size || b.limit.isSome && !m.holds number OpenFile.canRead

end Machine

namespace Action

/-- The bytes of a file with others written over them from a position on. -/
def overwritten (old : Bytes) (position : Nat) (new : Bytes) : Bytes :=
  let kept := old.take position
  kept ++ List.replicate (position - kept.length) 0 ++ new ++ old.drop (position + new.length)

def raise (signal : Nat) : Action Unit := do
  modify fun m => { m with signals := (m.process.number, signal) :: m.signals }
  perish

/-- Writes to a buffer, if need be a part at a time; false if nobody will ever read it. -/
def writeBuffer (number : Nat) : Nat → Chars → Action Bool
  | 0, _ => throw .exhausted
  | n + 1, cs => do
    let m ← get
    let b := m.buffer number
    if b.limit.isSome && !m.holds number OpenFile.canRead then
      raise 13
      return false
    let size := cs.length
    let room := b.room size
    if size ≤ room then
      setBuffer number (b.write cs)
      rouse
      return true
    else
      let part := if size ≤ pipeUnit then 0 else room
      if part ≠ 0 then
        setBuffer number (b.write (cs.take part))
        rouse
      await (.room number (min pipeUnit (size - part))) false
      writeBuffer number n (cs.drop part)

def detachedContent (number : Nat) : Action Bytes := do
  return (((← get).detached.find? (·.1 = number)).map (·.2)).getD []

/-- Writes to a descriptor; false if that cannot be done. -/
def write (descriptor : Nat) (cs : Chars) : Action Bool := do
  match ← openFile? descriptor with
  | none => return cs.isEmpty
  | some (number, f) =>
    if !f.canWrite then return cs.isEmpty
    if cs.isEmpty then return true
    let placed (bytes : Bytes) : Bytes × Nat :=
      let new := charBytes cs
      let position := if f.appends then bytes.length else f.position
      (overwritten bytes position new, position + new.length)
    match f.endpoint with
    | .device kind => return kind ≠ .full
    | .buffer n => writeBuffer n loopLimit cs
    | .file loc =>
      let fs ← fileSystem
      match fs.tree.get? loc with
      | some (.file bytes mode) =>
        let (bytes, position) := placed bytes
        setFileSystem (fs.set loc (.file bytes mode))
        stamp loc
        setFile number { f with position }
        rouse
        return true
      | _ => return false
    | .detached n =>
      let (bytes, position) := placed (← detachedContent n)
      modify fun m => { m with detached := put n bytes m.detached }
      setFile number { f with position }
      return true

def blockSize : Nat := 131072

/-- Bytes that are hard to foretell, put in front of others. Each follows from a number that
follows from the one before. -/
def noise : Nat → Nat → Chars → Chars
  | 0, _, after => after
  | n + 1, seed, after =>
    let next := (seed * 1103515245 + 12345) % 2147483648
    noise n next (Char.ofNat (next / 65536 % 256) :: after)

/-- What can be read from a descriptor next, without taking it; none if that cannot be done. What
a pipe holds is waited for, unless it will never come. A signal ends that wait as the end of the
pipe does, if `heeds` is set. -/
def ahead? (descriptor : Nat) (heeds : Bool) : Action (Option Chars) := do
  match ← openFile? descriptor with
  | none => return none
  | some (number, f) =>
    if !f.canRead then return none
    match f.endpoint with
    | .device .random => return some (noise blockSize (number * 65537 + f.position * 97) [])
    | .device .zero | .device .full => return some (List.replicate blockSize (Char.ofNat 0))
    | .device _ => return some []
    | .buffer n =>
      if !(← get).canRead n then await (.input n) heeds
      return some (← buffer n).content
    | .file loc =>
      match (← fileSystem).tree.get? loc with
      | some (.file bytes _) => return some (byteChars (bytes.drop f.position))
      | some (.directory _) => return none
      | _ => return some []
    | .detached n => return some (byteChars ((← detachedContent n).drop f.position))

def skip (descriptor count : Nat) : Action Unit := do
  match ← openFile? descriptor with
  | none => return
  | some (number, f) =>
    match f.endpoint with
    | .device .random => setFile number { f with position := f.position + count }
    | .device _ => return
    | .buffer n =>
      let b ← buffer n
      setBuffer n { b with front := b.content.drop count, back := [], size := b.size - count }
      rouse
    | _ => setFile number { f with position := f.position + count }

/-- Reads what is there, at least something if there will be anything, and no more than `most`. -/
def readSome? (descriptor most : Nat) : Action (Option Chars) := do
  match ← ahead? descriptor false with
  | none => return none
  | some cs =>
    let cs := cs.take most
    skip descriptor cs.length
    return some cs

def isEndless (descriptor : Nat) : Action Bool := do
  return (← openFile? descriptor).any fun e =>
    [.device .zero, .device .full, .device .random].contains e.2.endpoint

def readAll? (descriptor : Nat) : Action (Option Chars) := do
  if ← isEndless descriptor then throw .exhausted
  let rec more : Nat → List Chars → Action (Option Chars)
    | 0, _ => throw .exhausted
    | n + 1, acc => do
      match ← readSome? descriptor blockSize with
      | none => return if acc.isEmpty then none else some acc.reverse.flatten
      | some [] => return some acc.reverse.flatten
      | some cs => more n (cs :: acc)
  more loopLimit []

/-- Reads up to the next line end; also says whether there was one. -/
def readLine? (descriptor : Nat) (heeds : Bool) : Action (Option (Chars × Bool)) := do
  let rec more : Nat → Chars → Action (Option (Chars × Bool))
    | 0, _ => throw .exhausted
    | n + 1, before => do
      match ← ahead? descriptor heeds with
      | none => return none
      | some cs =>
        let (line, rest) := cs.span (· ≠ '\n')
        let ended := !rest.isEmpty
        skip descriptor (line.length + if ended then 1 else 0)
        if ended || line.isEmpty then return some (before ++ line, ended)
        else more n (before ++ line)
  more loopLimit []

/-- Writes to the standard output. That it could not be done is kept in mind. -/
def output (cs : Chars) : Action Bool := do
  let written ← write 1 cs
  if !written then modifyProcess fun p => { p with isFull := true }
  return written

def complain (message : Chars) : Action Unit := do
  let p ← process
  let lead := [p.name, decimal p.line] ++ p.commandName.toList
  let _ ← write 2 (lead.flatMap (· ++ ": ".toList) ++ message ++ ['\n'])

def fail {α : Type} (message : String) : Action α := do
  complain (charsOf message)
  setStatus 2
  throw .fault

/- Places in the tree. -/

def refusal (fault : Fault) (absent : String) : String :=
  match fault with
  | .notFound | .notADirectory => absent
  | fault => fault.reason

/-- Lets the open files on a node of the tree keep their content when it goes away. -/
def detach (loc : FileSystem.Location) : Action Unit := do
  let m ← get
  if m.files.any (·.2.endpoint = .file loc) then
    match m.fs.tree.get? loc with
    | some (.file bytes _) =>
      let n ← freshNumber
      modify fun m =>
        { m with
          detached := (n, bytes) :: m.detached
          files := m.files.map fun f =>
            if f.2.endpoint = .file loc then (f.1, { f.2 with endpoint := .detached n }) else f }
    | _ => return

/-- Lets the open files on a node, and on those below it, follow it to another place. -/
def follow (old new : FileSystem.Location) : Action Unit :=
  modify fun m =>
    { m with
      files := m.files.map fun f =>
        match f.2.endpoint with
        | .file loc =>
          if old.isSuffixOf loc then
            let moved := loc.take (loc.length - old.length) ++ new
            (f.1, { f.2 with endpoint := .file moved })
          else f
        | _ => f }

def descriptorNamed? (p : Path) : Option Nat :=
  match p.text with
  | "/dev/stdin" => some 0
  | "/dev/stdout" => some 1
  | "/dev/stderr" => some 2
  | text =>
    let digits := text.toList.drop "/dev/fd/".length
    if text.startsWith "/dev/fd/" && digits ≠ [] && digits.all Char.isDigit then
      (String.ofList digits).toNat?
    else none

/-- Opens a pipe that has a name. Readers and writers wait for one another. -/
def openPipe (number : Nat) (d : Direction) : Action OpenFile := do
  let reads := d matches .read | .both
  let writes := !(d matches .read)
  let f : OpenFile := { endpoint := .buffer number, canRead := reads, canWrite := writes }
  let isIdle := !(← get).holds number fun _ => true
  let m ← get
  let b : Buffer := if isIdle then { limit := some pipeSize } else m.buffer number
  setBuffer number
    { b with
      readers := b.readers + if reads then 1 else 0
      writers := b.writers + if writes then 1 else 0 }
  let file ← addFile f
  hold file
  rouse
  if !(← get).holds number (fun g => if reads then g.canWrite else g.canRead) then
    await (.opened number reads (if reads then b.writers else b.readers)) false
  release file
  return f

def openNode (loc : FileSystem.Location) (d : Direction) : Action (Except Fault OpenFile) := do
  let fs ← fileSystem
  if d = .read then
    match fs.tree.get? loc with
    | none => return .error .notFound
    | some (.device .terminal _) => return .error .noDevice
    | some (.device kind _) =>
      return .ok { endpoint := .device kind, canRead := true, canWrite := false }
    | some (.pipe number _) => return .ok (← openPipe number d)
    | some n =>
      if !n.isReadable then return .error .permissionDenied
      else return .ok { endpoint := .file loc, canRead := true, canWrite := false }
  else
    let f : OpenFile :=
      { endpoint := .file loc, canRead := d = .both, canWrite := true, appends := d = .append }
    match fs.tree.get? loc with
    | some (.device .terminal _) => return .error .noDevice
    | some (.device kind _) => return .ok { f with endpoint := .device kind }
    | some (.pipe number _) => return .ok (← openPipe number d)
    | some (.file _ mode) =>
      if d = .write && (← process).options.contains 'C' then return .error .alreadyExists
      if d = .write || d = .clobber then
        setFileSystem (fs.set loc (.file [] mode))
        stamp loc
      return .ok f
    | some (.directory _) => return .error .isADirectory
    | some _ => return .error .permissionDenied
    | none =>
      let mode := 0o666 &&& (0o777 - (← process).creationMask &&& 0o777)
      setFileSystem (fs.set loc (.file [] mode))
      stamp loc
      return .ok f

def openPath (p : Path) (d : Direction) : Action (Except Fault OpenFile) := do
  let fs ← fileSystem
  match descriptorNamed? p with
  | some n =>
    match ← openFile? n with
    | some (_, f) =>
      match f.endpoint with
      | .file loc => openNode loc d
      | _ =>
        return .ok
          { f with canRead := d matches .read | .both, canWrite := !(d matches .read) }
    | none => return .error .notFound
  | none =>
    match if d = .read then fs.locate p true else fs.writable p with
    | .error fault => return .error fault
    | .ok loc => openNode loc d

/-- The text of a file with commands; none if it cannot be read as a file. -/
def scriptText? (path : Chars) : Action (Except Fault (Option Chars)) := do
  match ← openPath (pathOf path) .read with
  | .error fault => return .error fault
  | .ok f =>
    let file ← addFile f
    hold file
    let text? ← keepingDescriptors [10] do
      setDescriptor 10 (some file)
      readAll? 10
    release file
    return .ok text?

end Action
end ImportResolver.Shell

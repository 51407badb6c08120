import ImportResolver.FileSystem.Change
import ImportResolver.FileSystem.Permission
import ImportResolver.Tool.Dates
import ImportResolver.Tool.Names
/- Programs that make and remove files and directories. -/
namespace ImportResolver.Tool

open Shell Shell.Action

/-- Does a thing for each of some files. It complains of what could not be done. -/
def forEach (files : List Chars) (act : Chars → Action (Option Chars)) : Action Nat := do
  let mut status := 0
  for p in files do
    match ← act p with
    | none => pure ()
    | some why =>
      warn why
      status := 1
  return status

def newMode (most : Nat) : Action Nat := do
  return FileSystem.Permission.without most (← process).creationMask

def cannot (what : String) (p : Chars) (why : String) : Chars :=
  "cannot ".toList ++ what.toList ++ [' '] ++ quotedFully p ++ ": ".toList ++ why.toList

/-- The node at the end of a path. A link that comes last is not followed. -/
def nodeHere? (fs : FileSystem) (p : Chars) : Option (FileSystem.Location × FileSystem.Node) :=
  match fs.locate (pathOf p) false with
  | .ok loc => (fs.tree.get? loc).map fun n => (loc, n)
  | .error _ => none

def isLinkHere (fs : FileSystem) (p : Chars) : Bool :=
  match nodeHere? fs (withoutSlashes p) with
  | some (_, .link _) => true
  | _ => false

def faultAt (fs : FileSystem) (p : Chars) : Fault :=
  match fs.locate (pathOf p) false with
  | .ok _ => .notFound
  | .error fault => fault

/-- Asks whether to go on; the answer is read from the standard input. -/
def isAgreed (question : Chars) : Action Bool := do
  flush
  let _ ← write 2 ((← process).name ++ ": ".toList ++ question)
  match ← readLine? 0 false with
  | some (c :: _, _) => return c = 'y' || c = 'Y'
  | _ => return false

/-- Takes a node away. Open files on it keep their content. -/
def removeNode (loc : FileSystem.Location) : Action Unit := do
  detach loc
  let fs ← fileSystem
  setFileSystem { fs with tree := fs.tree.remove loc }
  stamp loc.tail

def makeNode (loc : FileSystem.Location) (n : FileSystem.Node) : Action Unit := do
  setFileSystem ((← fileSystem).set loc n)
  stamp loc
  stamp loc.tail

/-- The beginnings of a path that end before slashes, and the path itself. -/
def beginnings (p : Chars) : List Chars :=
  let cuts := (List.range p.length).filter fun i =>
    0 < i && p[i]? = some '/' && p[i - 1]? ≠ some '/' && (p.drop i).any (· ≠ '/')
  cuts.map (fun i => p.take i) ++ [p]

def makeDirectory (p : Chars) (mode? : Option Chars) (isBetween : Bool) :
    Action (Except Fault Unit) := do
  let fs ← fileSystem
  match fs.place (pathOf p) with
  | .error .busy => return .error .alreadyExists
  | .error fault => return .error fault
  | .ok place =>
    if (fs.tree.get? place.location).isSome then return .error .alreadyExists
    let mode ← newMode 0o777
    let mode := if isBetween then mode ||| 0o300 else mode
    let mask := (← process).creationMask
    let mode := (mode?.bind (FileSystem.Permission.changed? mask true 0o777)).getD mode
    makeNode place.location (.directory mode)
    return .ok ()

def mkdir (args : List Chars) : Action Nat :=
  let known : Known :=
    { flags := "pvZ", valued := "m"
      long := [("parents", 'p'), ("mode", 'm'), ("verbose", 'v')] }
  withArguments known 1 args fun a => do
    if a.operands.isEmpty then return ← misused known 1 missingOperand
    let mode? := a.value? 'm'
    if let some m := mode? then
      if (FileSystem.Permission.changed? 0 true 0 m).isNone then
        warn ("invalid mode ".toList ++ inQuotes m)
        return 1
    let problem (p : Chars) (fault : Fault) : Option Chars :=
      some (cannot "create directory" p fault.reason)
    let tell (p : Chars) : Action Unit := do
      if a.has 'v' then
        printLine ((← process).name ++ ": created directory ".toList ++ quotedFully p)
    let rec each : List Chars → Action (Option Chars)
      | [] => return none
      | p :: rest => do
        let isLast := rest.isEmpty
        if (← fileSystem).isDirectory (pathOf p) then each rest
        else
          match ← makeDirectory p (if isLast then mode? else none) (!isLast) with
          | .ok () =>
            tell p
            each rest
          | .error fault =>
            return problem p (if fault = .alreadyExists && !isLast then .notADirectory else fault)
    forEach a.operands fun p => do
      if a.has 'p' then each (beginnings p)
      else
        match ← makeDirectory p mode? false with
        | .ok () =>
          tell p
          return none
        | .error fault => return problem p fault

def isEmptyDirectory (fs : FileSystem) (loc : FileSystem.Location) : Bool :=
  (fs.tree.children loc).isEmpty

def removeDirectory (p : Chars) : Action (Except String Unit) := do
  let fs ← fileSystem
  match nodeHere? fs p with
  | some (loc, .directory _) =>
    if isLinkHere fs p then return .error "Symbolic link not followed"
    if lastName p = ['.'] then return .error Fault.invalidArgument.reason
    if loc = [] then return .error Fault.busy.reason
    if !isEmptyDirectory fs loc then return .error Fault.notEmpty.reason
    removeNode loc
    return .ok ()
  | some _ => return .error Fault.notADirectory.reason
  | none => return .error (faultAt fs p).reason

def rmdir (args : List Chars) : Action Nat :=
  let known : Known :=
    { flags := "pvi"
      long := [("parents", 'p'), ("verbose", 'v'), ("ignore-fail-on-non-empty", 'i')] }
  withArguments known 1 args fun a => do
    if a.operands.isEmpty then return ← misused known 1 missingOperand
    let rec each (whole : Chars) : List Chars → Action (Option Chars)
      | [] => return none
      | p :: rest => do
        if a.has 'v' then
          printLine ((← process).name ++ ": removing directory, ".toList ++ quotedFully p)
        match ← removeDirectory p with
        | .ok () => each whole rest
        | .error why =>
          if a.has 'i' && why = Fault.notEmpty.reason then return none
          let what := if p = whole then "failed to remove " else "failed to remove directory "
          return some (what.toList ++ quotedFully p ++ ": ".toList ++ why.toList)
    forEach a.operands fun p =>
      each p (if a.has 'p' then (beginnings (withoutSlashes p)).reverse else [p])

namespace Removing

def kindOf : FileSystem.Node → String
  | .file bytes _ => if bytes.isEmpty then "regular empty file" else "regular file"
  | .tool _ => "regular file"
  | .directory _ => "directory"
  | .link _ => "symbolic link"
  | .device _ _ => "character special file"
  | .pipe _ _ => "fifo"

def known : Known :=
  { flags := "frRdiIvxPO"
    long := [("force", 'f'), ("recursive", 'r'), ("dir", 'd'), ("verbose", 'v'),
      ("interactive", 'i'), ("one-file-system", 'x'), ("preserve-root", 'P'),
      ("no-preserve-root", 'O')] }

/-- Removes a node, with all that is below it; false if something is left. -/
def removeAll (a : Arguments) : Nat → Chars → FileSystem.Location → Action Bool
  | 0, _, _ => return false
  | fuel + 1, p, loc => do
    let asks := a.last? ['i', 'f'] = some 'i'
    match (← fileSystem).tree.get? loc with
    | none => return true
    | some (.directory _) =>
      let inside := ((← fileSystem).tree.children loc).map (·.1)
      if asks && !inside.isEmpty then
        if !(← isAgreed ("descend into directory ".toList ++ quotedFully p ++ "? ".toList)) then
          return true
      let rec each : List String → Action Bool
        | [] => return true
        | name :: names => do
          let one ← removeAll a fuel (inDirectory p (charsOf name)) (name :: loc)
          let rest ← each names
          return one && rest
      let whole ← each (inside.mergeSort fun x y => decide (x ≤ y))
      if !whole then return false
      if asks then
        if !(← isAgreed ("remove directory ".toList ++ quotedFully p ++ "? ".toList)) then
          return true
      if !isEmptyDirectory (← fileSystem) loc then return true
      removeNode loc
      if a.has 'v' then printLine ("removed directory ".toList ++ quotedFully p)
      return true
    | some (.tool _) =>
      warn (cannot "remove" p Fault.permissionDenied.reason)
      return false
    | some n =>
      if asks then
        let what := (kindOf n).toList ++ [' '] ++ quotedFully p
        if !(← isAgreed ("remove ".toList ++ what ++ "? ".toList)) then return true
      removeNode loc
      if a.has 'v' then printLine ("removed ".toList ++ quotedFully p)
      return true

end Removing

open Removing in
def rm (args : List Chars) : Action Nat :=
  withArguments known 1 args fun a => do
    if a.operands.isEmpty then
      return ← if a.has 'f' then return 0 else misused known 1 missingOperand
    let deep := a.has 'r' || a.has 'R'
    let mut status := 0
    for p in a.operands do
      let fs ← fileSystem
      let name := lastName p
      let refuse (fault : Fault) : Action Unit := warn (cannot "remove" p fault.reason)
      match nodeHere? fs p with
      | none =>
        let fault := faultAt fs p
        if !(a.last? ['f', 'i'] = some 'f' && (fault = .notFound || fault = .notADirectory)) then
          refuse fault
          status := 1
      | some (loc, n) =>
        if deep && (name = ['.'] || name = ['.', '.']) then
          warn ("refusing to remove '.' or '..' directory: skipping ".toList ++ quotedFully p)
          status := 1
        else if n.isDirectory && !deep && !(a.has 'd') then
          refuse .isADirectory
          status := 1
        else if deep && loc = [] then
          warn "it is dangerous to operate recursively on '/'".toList
          warn "use --no-preserve-root to override this failsafe".toList
          status := 1
        else if n.isDirectory && isLinkHere fs p then
          refuse .notADirectory
          status := 1
        else if n.isDirectory && !deep && !isEmptyDirectory fs loc then
          refuse .notEmpty
          status := 1
        else if !(← removeAll a 300 p loc) then status := 1
    return status

def unlink (args : List Chars) : Action Nat :=
  let known : Known := { flags := "" }
  withArguments known 1 args fun a => do
    match a.operands with
    | [] => misused known 1 missingOperand
    | [p] =>
      let fs ← fileSystem
      let refuse (fault : Fault) : Action Nat := do
        warn (cannot "unlink" p fault.reason)
        return 1
      match nodeHere? fs p with
      | none => refuse (faultAt fs p)
      | some (_, .directory _) => refuse .isADirectory
      | some (loc, _) =>
        removeNode loc
        return 0
    | _ :: extra :: _ => misused known 1 (extraOperand extra)

def touch (args : List Chars) : Action Nat :=
  let known : Known :=
    { flags := "acmfhT", valued := "dtr"
      long := [("no-create", 'c'), ("date", 'd'), ("reference", 'r'), ("no-dereference", 'h'),
        ("time", 'T')] }
  withArguments known 1 args fun a => do
    let (now, micro) ← now
    let now : Int := now * 1000000 + micro
    let thisYear := (Moment.ofSeconds (now.fdiv 1000000)).year
    let invalid (cs : Chars) : Action Nat := do
      warn ("invalid date format ".toList ++ inQuotes cs)
      return 1
    let fs ← fileSystem
    let reference ←
      match a.value? 'r' with
      | none => pure (Except.ok none)
      | some p =>
        match fs.locate (pathOf p) true with
        | .error fault => pure (.error (p, fault))
        | .ok loc =>
          let times := (← get).changed
          pure (.ok (some (((times.find? (·.1 = loc)).map (·.2)).getD 0)))
    match reference with
    | .error (p, fault) =>
      warn ("failed to get attributes of ".toList ++ quotedFully p ++ ": ".toList ++
        fault.reason.toList)
      return 1
    | .ok reference =>
      let start := startOfTime * 1000000
      let time : Option (Option Int) :=
        match a.value? 't', a.value? 'd' with
        | some cs, _ => (Moment.ofDigits? thisYear cs).map fun m => some (machineTime m.seconds)
        | none, some cs =>
          let now := match reference with
            | some t => start + t
            | none => now
          (Dates.read? cs (now * 1000)).map fun t => some (t.fdiv 1000 - start)
        | none, none => some reference
      match time with
      | none => invalid (((a.value? 't').or (a.value? 'd')).getD [])
      | some time =>
        if a.operands.isEmpty then return ← misused known 1 "missing file operand".toList
        let mark (loc : FileSystem.Location) : Action Unit :=
          match time with
          | some t => setTime loc t
          | none => stamp loc
        forEach a.operands fun p => do
          let fs ← fileSystem
          let refuse (fault : Fault) : Option Chars :=
            let isLate := p.getLast? = some '/'
            some (if isLate then
              "setting times of ".toList ++ quotedFully p ++ ": ".toList ++ fault.reason.toList
            else cannot "touch" p fault.reason)
          match fs.locate (pathOf p) (!a.has 'h') with
          | .ok loc =>
            if (fs.tree.get? loc).isSome then
              if !(a.has 'a' && !a.has 'm') then mark loc
              return none
            else return refuse .notFound
          | .error fault =>
            if a.has 'c' || a.has 'h' then
              return if fault = .notFound then none else refuse fault
            match fs.writable (pathOf p) with
            | .error fault => return refuse (if fault = .isADirectory then .notFound else fault)
            | .ok loc =>
              makeNode loc (.file [] (← newMode 0o666))
              mark loc
              return none

def mkfifo (args : List Chars) : Action Nat :=
  let known : Known := { flags := "", valued := "m", long := [("mode", 'm')] }
  withArguments known 1 args fun a => do
    if a.operands.isEmpty then return ← misused known 1 missingOperand
    let mask := (← process).creationMask
    let usual ← newMode 0o666
    let mode? : Option Nat :=
      match a.value? 'm' with
      | none => some usual
      | some cs => FileSystem.Permission.changed? mask false 0o666 cs
    match mode? with
    | none =>
      warn "invalid mode".toList
      return 1
    | some mode =>
      forEach a.operands fun p => do
        let fs ← fileSystem
        match fs.place (pathOf p) with
        | .error fault =>
          let fault := if fault = .busy then .alreadyExists else fault
          return some (cannot "create fifo" p fault.reason)
        | .ok place =>
          if (fs.tree.get? place.location).isSome then
            return some (cannot "create fifo" p Fault.alreadyExists.reason)
          makeNode place.location (.pipe (← freshNumber) mode)
          return none

def mktemp (args : List Chars) : Action Nat :=
  let known : Known :=
    { flags := "dqut", valued := "ps"
      long := [("directory", 'd'), ("tmpdir", 'p'), ("quiet", 'q'), ("dry-run", 'u'),
        ("suffix", 's')] }
  withArguments known 1 args fun a => do
    if 1 < a.operands.length then return ← misused known 1 "too many templates".toList
    let template := a.operands.headD "tmp.XXXXXXXXXX".toList
    let (lead, ending) : Chars × Chars :=
      match a.value? 's' with
      | some ending => (template, ending)
      | none =>
        let ending := (template.reverse.takeWhile (· ≠ 'X')).reverse
        if template.contains 'X' then (template.take (template.length - ending.length), ending)
        else (template, [])
    let marks := lead.reverse.takeWhile (· = 'X')
    if marks.length < 3 then
      warn ("too few X's in template ".toList ++ inQuotes template)
      return 1
    let digits := decimal (← freshNumber)
    let name := lead.take (lead.length - marks.length) ++
      List.replicate (marks.length - digits.length) 'a' ++
      digits.drop (digits.length - marks.length) ++ ending
    let usual := ((← process).value? "TMPDIR".toList).filter (· ≠ [])
    let directory? : Option Chars :=
      if a.operands.isEmpty || a.has 't' then
        some ((usual.or ((a.value? 'p').filter (· ≠ []))).getD "/tmp".toList)
      else a.value? 'p'
    let directory? := if a.operands.isEmpty then ((a.value? 'p').filter (· ≠ [])).or directory?
      else directory?
    let path := match directory? with
      | some directory => inDirectory directory name
      | none => name
    let shown := match directory? with
      | some directory => inDirectory directory template
      | none => template
    let fs ← fileSystem
    match fs.place (pathOf path) with
    | .error fault =>
      if !a.has 'q' then
        let what := if a.has 'd' then "directory" else "file"
        warn ("failed to create ".toList ++ what.toList ++ " via template ".toList ++
          inQuotes shown ++ ": ".toList ++ fault.reason.toList)
      return 1
    | .ok place =>
      if !a.has 'u' then
        makeNode place.location (if a.has 'd' then .directory 0o700 else .file [] 0o600)
      sayLines [path] 0

def truncate (args : List Chars) : Action Nat :=
  let known : Known :=
    { flags := "co", valued := "sr"
      long := [("no-create", 'c'), ("size", 's'), ("reference", 'r'), ("io-blocks", 'o')] }
  withArguments known 1 args fun a => do
    let wanted ←
      match a.value? 's', a.value? 'r' with
      | none, none => pure none
      | some cs, _ => pure (some cs)
      | none, some p =>
        match (← fileSystem).read (pathOf p) with
        | .ok bytes => pure (some (decimal bytes.length))
        | .error _ => pure (some [])
    match wanted with
    | none => misused known 1 "you must specify either '--size' or '--reference'".toList
    | some cs =>
      let (mark, number) := match cs with
        | c :: rest => if "+-<>/%".toList.contains c then (some c, rest) else (none, cs)
        | [] => (none, [])
      match size? number with
      | none =>
        warn ("Invalid number: ".toList ++ inQuotes cs)
        return 1
      | some n =>
        if a.operands.isEmpty then return ← misused known 1 "missing file operand".toList
        let sized (old : Nat) : Nat :=
          match mark with
          | some '+' => old + n
          | some '-' => old - n
          | some '<' => min old n
          | some '>' => max old n
          | some '/' => old / n * n
          | some '%' => (old + n - 1) / n * n
          | _ => n
        forEach a.operands fun p => do
          let fs ← fileSystem
          match fs.writable (pathOf p) with
          | .error fault =>
            return some ("cannot open ".toList ++ quotedFully p ++ " for writing: ".toList ++
              fault.reason.toList)
          | .ok loc =>
            match fs.tree.get? loc with
            | some (.file bytes mode) =>
              let size := sized bytes.length
              let bytes := bytes.take size ++ List.replicate (size - bytes.length) 0
              setFileSystem (fs.set loc (.file bytes mode))
              stamp loc
              return none
            | some (.pipe _ _) =>
              return some ("cannot open ".toList ++ quotedFully p ++
                " for writing: No such device or address".toList)
            | some _ => return none
            | none =>
              if !a.has 'c' then
                makeNode loc (.file (List.replicate (sized 0) 0) (← newMode 0o666))
              return none

end ImportResolver.Tool

import ImportResolver.Tool.Files
/- Programs that copy, move and link files. -/
namespace ImportResolver.Tool

open Shell Shell.Action

namespace Copying

abbrev Pair := Chars × Chars

def arrow (p : Pair) : Chars := quotedFully p.1 ++ " -> ".toList ++ quotedFully p.2

def areTheSame (p : Pair) : Chars :=
  quotedFully p.1 ++ " and ".toList ++ quotedFully p.2 ++ " are the same file".toList

/-- Pairs each source with the place that it goes to. The goal is a directory, or the last operand
a name for the only source. A goal `plain` is not looked into. -/
def pairs (known : Known) (a : Arguments) (plain : Bool) (act : List Pair → Action Nat) :
    Action Nat := do
  let fs ← fileSystem
  let refuse (what : String) (p : Chars) (fault : Fault) : Action Nat := do
    warn (what.toList ++ [' '] ++ quotedFully p ++ ": ".toList ++ fault.reason.toList)
    return 1
  let inside (goal : Chars) (sources : List Chars) : List Pair :=
    sources.map fun p => (p, inDirectory goal (lastName p))
  let directoryFault (p : Chars) : Option Fault :=
    match fs.node (pathOf p) with
    | .ok n => if n.isDirectory then none else some .notADirectory
    | .error fault => some fault
  match a.value? 't', a.operands.reverse with
  | _, [] => misused known 1 "missing file operand".toList
  | some goal, _ =>
    match directoryFault goal with
    | some fault => refuse "target directory" goal fault
    | none => act (inside goal a.operands)
  | none, [p] => misused known 1 ("missing destination file operand after ".toList ++ quotedFully p)
  | none, goal :: source :: rest =>
    let sources := (source :: rest).reverse
    if plain then
      if sources.length = 1 then act [(source, goal)]
      else misused known 1 (extraOperand (a.operands.getD 2 []))
    else
      match directoryFault goal with
      | none => act (inside goal sources)
      | some fault =>
        if sources.length = 1 then
          let isHidden := fault ≠ .notFound && (nodeHere? fs goal).isNone
          if isHidden && fault = .notADirectory then refuse "cannot stat" goal fault
          else act [(source, goal)]
        else refuse "target" goal fault

def forEachPair (ps : List Pair) (act : Pair → Action Bool) : Action Nat := do
  let mut status := 0
  for p in ps do
    if !(← act p) then status := 1
  return status

def timeOf (loc : FileSystem.Location) : Action Int := do
  return (((← get).changed.find? (·.1 = loc)).map (·.2)).getD 0

/-- Whether to go on where something is already: not if that is forbidden, if it is newer and that
matters, or if the user does not agree. -/
def isWanted (a : Arguments) (source goal : FileSystem.Location) (shown : Chars) :
    Action Bool := do
  if a.has 'u' && (← timeOf source) ≤ (← timeOf goal) then return false
  match a.last? ['i', 'f', 'n'] with
  | some 'n' => return false
  | some 'i' => isAgreed ("overwrite ".toList ++ quotedFully shown ++ "? ".toList)
  | _ => return true

def putAside (a : Arguments) (loc : FileSystem.Location) : Action Unit := do
  if a.has 'b' || a.has 'S' then
    match loc with
    | name :: parent =>
      let ending := stringOf ((a.value? 'S').getD ['~'])
      let fs ← fileSystem
      match fs.tree.get? loc with
      | some n =>
        follow loc ((name ++ ending) :: parent)
        setFileSystem { fs with
          tree := (fs.tree.remove loc).insert ((name ++ ending) :: parent) n }
      | none => return
    | [] => return

def copyKnown : Known :=
  { flags := "rRafnpvLPHdiuxlsbTZ", valued := "tSQUV"
    free := "BD"
    long := [("recursive", 'r'), ("archive", 'a'), ("force", 'f'), ("no-clobber", 'n'),
      ("target-directory", 't'), ("no-target-directory", 'T'), ("preserve", 'D'),
      ("verbose", 'v'), ("dereference", 'L'), ("no-dereference", 'P'), ("interactive", 'i'),
      ("link", 'l'), ("symbolic-link", 's'), ("backup", 'B'), ("suffix", 'S'),
      ("no-preserve", 'Q'), ("sparse", 'U'), ("reflink", 'V'), ("update", 'u'), ("parents", 'm'),
      ("remove-destination", 'M'), ("one-file-system", 'x'), ("attributes-only", 'A')] }

def isDeep (a : Arguments) : Bool := a.has 'r' || a.has 'R' || a.has 'a'

def keepsLinks (a : Arguments) : Bool :=
  match a.last? ['L', 'P', 'd', 'a', 'H'] with
  | some 'L' | some 'H' => false
  | some _ => true
  | none => isDeep a

def keepsModes (a : Arguments) : Bool := a.has 'p' || a.has 'a' || a.has 'D'

def copyFile (a : Arguments) (p : Pair) (source : FileSystem.Location) (n : FileSystem.Node) :
    Action Bool := do
  let fs ← fileSystem
  let refuse (message : Chars) : Action Bool := do
    warn message
    return false
  let refuseGoal (fault : Fault) : Action Bool :=
    refuse (cannot "create regular file" p.2 fault.reason)
  let done : Action Bool := do
    if a.has 'v' then printLine (arrow p)
    return true
  let isRead := !(a.has 'l' || a.has 's')
  let content? : Except String Bytes ←
    if !n.isReadable then pure (.error Fault.permissionDenied.reason)
    else match n with
      | .file bytes _ => pure (.ok bytes)
      | .pipe _ _ => do
        if isRead then pure ((← contentOf p.1).map charBytes) else pure (.ok [])
      | _ => pure (.ok [])
  match content? with
  | .error why =>
    refuse ("cannot open ".toList ++ quotedFully p.1 ++ " for reading: ".toList ++ why.toList)
  | .ok bytes =>
    let pour : Action Bool := do
      match ← writeWhole p.2 (byteChars bytes) with
      | some why => refuse (cannot "create regular file" p.2 why)
      | none => done
    if isRead && (descriptorNamed? (pathOf p.2)).isSome then return ← pour
    let there := fs.locate (pathOf p.2) true
    let linked (loc : FileSystem.Location) : Action Bool := do
      if a.has 's' then
        if p.1.head? ≠ some '/' && directoryPart p.2 ≠ ['.'] then
          return ← refuse
            (p.2 ++ ": can make relative symbolic links only in current directory".toList)
        makeNode loc (.link (stringOf p.1))
      else makeNode loc n
      done
    match there with
    | .ok goal =>
      match fs.tree.get? goal with
      | some (.directory _) =>
        refuse ("cannot overwrite directory ".toList ++ quotedFully p.2 ++
          " with non-directory".toList)
      | some (.device _ _) => done
      | some (.pipe _ _) => pour
      | some old =>
        if goal = source then return ← refuse (areTheSame p)
        if !(← isWanted a source goal p.2) then return true
        if !isRead then
          if a.has 'f' then return ← linked goal
          let what := if a.has 's' then "cannot create symbolic link " else
            "cannot create hard link "
          return ← refuse (what.toList ++ quotedFully p.2 ++ " to ".toList ++
            quotedFully p.1 ++ ": ".toList ++ Fault.alreadyExists.reason.toList)
        putAside a goal
        let isNew := a.has 'b' || a.has 'S'
        if !old.isWritable && !isNew then
          if a.has 'f' && old.isFile then removeNode goal
          else return ← refuseGoal .permissionDenied
        let mode ← if keepsModes a then pure n.mode
          else if isNew || !old.isWritable then newMode n.mode else pure old.mode
        setFileSystem ((← fileSystem).set goal (.file bytes mode))
        stamp goal
        if keepsModes a then setTime goal (← timeOf source)
        done
      | none => refuseGoal .notFound
    | .error _ =>
      match fs.place (pathOf p.2) with
      | .error .busy => refuseGoal .notFound
      | .error fault => refuseGoal fault
      | .ok place =>
        if place.asDirectory then return ← refuseGoal .notADirectory
        if (fs.tree.get? place.location).isSome then
          return ← refuse ("not writing through dangling symlink ".toList ++ quotedFully p.2)
        if !isRead then return ← linked place.location
        let mode ← if keepsModes a then pure n.mode else newMode n.mode
        makeNode place.location (.file bytes mode)
        if keepsModes a then setTime place.location (← timeOf source)
        done

/-- Puts a node at a place, instead of what is there unless that is a directory. -/
def copyNode (a : Arguments) (p : Pair) (source : FileSystem.Location) (n : FileSystem.Node) :
    Action Bool := do
  let fs ← fileSystem
  let refuse (message : Chars) : Action Bool := do
    warn message
    return false
  match fs.place (pathOf p.2) with
  | .error fault =>
    let what := if n matches .link _ then "create symbolic link" else "create fifo"
    refuse (cannot what p.2 fault.reason)
  | .ok place =>
    match fs.tree.get? place.location with
    | some (.directory _) =>
      return ← refuse ("cannot overwrite directory ".toList ++ quotedFully p.2 ++
        " with non-directory".toList)
    | some _ =>
      if place.location = source then return ← refuse (areTheSame p)
      if !(← isWanted a source place.location p.2) then return true
      removeNode place.location
    | none => pure ()
    makeNode place.location n
    if a.has 'v' then printLine (arrow p)
    return true

def copyOpen (a : Arguments) (p : Pair) (descriptor : Nat) : Action Bool := do
  let fs ← fileSystem
  let source? : Option (FileSystem.Location × FileSystem.Node) ←
    match ← openFile? descriptor with
    | none => pure none
    | some (_, f) => do
      match f.endpoint with
      | .file loc => pure ((fs.tree.get? loc).map (loc, ·))
      | .device kind => pure (some ([], .device kind 0o666))
      | .detached number => pure (some ([], .file (← detachedContent number) 0o644))
      | .buffer number => pure (some ([], .pipe number 0o600))
  match source? with
  | some (loc, n) => copyFile a p loc n
  | none =>
    warn (cannot "stat" p.1 Fault.notFound.reason)
    return false

def copy (a : Arguments) : Nat → Pair → Action Bool
  | 0, _ => return false
  | fuel + 1, p => do
    let fs ← fileSystem
    let refuse (message : Chars) : Action Bool := do
      warn message
      return false
    if let some d := descriptorNamed? (pathOf p.1) then
      if !keepsLinks a then return ← copyOpen a p d
    let found : Except Fault FileSystem.Location := fs.locate (pathOf p.1) (!keepsLinks a)
    match found, found.toOption.bind fs.tree.get? with
    | .error fault, _ => refuse (cannot "stat" p.1 fault.reason)
    | .ok _, none => refuse (cannot "stat" p.1 Fault.notFound.reason)
    | .ok source, some (.directory mode) =>
      if !isDeep a then
        return ← refuse ("-r not specified; omitting directory ".toList ++ quotedFully p.1)
      match fs.place (pathOf p.2), fs.locate (pathOf p.2) true with
      | .error .busy, .error fault => refuse (cannot "create directory" p.2 fault.reason)
      | place?, there =>
        let goal? : Except Fault FileSystem.Location := match there, place? with
          | .ok loc, _ => .ok loc
          | .error _, .ok place => .ok place.location
          | .error _, .error fault => .error fault
        match goal? with
        | .error fault => refuse (cannot "create directory" p.2 fault.reason)
        | .ok goal =>
          if source.isSuffixOf goal then
            return ← refuse ("cannot copy a directory, ".toList ++ quotedFully p.1 ++
              ", into itself, ".toList ++ quotedFully p.2)
          match fs.tree.get? goal with
          | some (.directory _) => pure ()
          | some _ =>
            return ← refuse ("cannot overwrite non-directory ".toList ++ quotedFully p.2 ++
              " with directory ".toList ++ quotedFully p.1)
          | none =>
            makeNode goal (.directory (← if keepsModes a then pure mode else newMode mode))
            if a.has 'v' then printLine (arrow p)
          let names := ((fs.tree.children source).map (·.1)).mergeSort fun x y => decide (x ≤ y)
          let rec each : List String → Action Bool
            | [] => return true
            | name :: names => do
              let one ← copy a fuel
                (inDirectory p.1 (charsOf name), inDirectory p.2 (charsOf name))
              let rest ← each names
              return one && rest
          each names
    | .ok source, some (.link target) => copyNode a p source (.link target)
    | .ok source, some (.pipe number mode) =>
      if isDeep a then
        copyNode a p source (.pipe (← freshNumber) (← if keepsModes a then pure mode else newMode mode))
      else copyFile a p source (.pipe number mode)
    | .ok source, some n => copyFile a p source n

end Copying

open Copying in
def cp (args : List Chars) : Action Nat :=
  let known := { copyKnown with flags := copyKnown.flags ++ "mMA" }
  withArguments known 1 args fun a => do
    let a := if a.has 'B' then a.withOptions [('b', [])] else a
    pairs known a (a.has 'T') fun ps =>
      forEachPair ps fun p => do
        let p :=
          if a.has 'm' then
            let goal := ((a.value? 't').or a.operands.getLast?).getD []
            (p.1, inDirectory goal p.1)
          else p
        if a.has 'm' then
          let fs ← fileSystem
          match fs.makeDirectories (pathOf (directoryPart p.2)) with
          | .ok fs => setFileSystem fs
          | .error _ => pure ()
        if a.has 'M' then
          match nodeHere? (← fileSystem) p.2 with
          | some (loc, n) => if !n.isDirectory then removeNode loc
          | none => pure ()
        copy a 300 p

namespace Copying

def relocated (t : FileSystem.Tree) (source goal : FileSystem.Location) : FileSystem.Tree :=
  let moved := t.entries.filter fun e => source.isSuffixOf e.1
  let kept := t.entries.filter fun e => !source.isSuffixOf e.1 && e.1 ≠ goal
  ⟨moved.map (fun e => (e.1.take (e.1.length - source.length) ++ goal, e.2)) ++ kept⟩

def moveNode (source goal : FileSystem.Location) : Action Unit := do
  detach goal
  let fs ← fileSystem
  setFileSystem { fs with tree := relocated fs.tree source goal }
  follow source goal
  modify fun m =>
    { m with
      changed := (m.changed.filter (·.1 ≠ goal)).map fun e =>
        if source.isSuffixOf e.1 then (e.1.take (e.1.length - source.length) ++ goal, e.2) else e }
  stamp source.tail
  stamp goal.tail

def moveKnown : Known :=
  { flags := "finTvbuZE", valued := "tS", free := "B"
    long := [("force", 'f'), ("no-clobber", 'n'), ("target-directory", 't'),
      ("no-target-directory", 'T'), ("verbose", 'v'), ("interactive", 'i'), ("backup", 'B'),
      ("suffix", 'S'), ("update", 'u'), ("strip-trailing-slashes", 'E')] }

def move (a : Arguments) (p : Pair) : Action Bool := do
  let fs ← fileSystem
  let refuse (message : Chars) : Action Bool := do
    warn message
    return false
  let refuseMove (fault : Fault) : Action Bool :=
    refuse ("cannot move ".toList ++ quotedFully p.1 ++ " to ".toList ++ quotedFully p.2 ++
      ": ".toList ++ fault.reason.toList)
  match nodeHere? fs p.1 with
  | none => refuse (cannot "stat" p.1 (faultAt fs p.1).reason)
  | some (source, n) =>
    if isLinkHere fs p.1 && p.1.getLast? = some '/' then return ← refuseMove .notADirectory
    if lastName p.1 = ['.'] || lastName p.1 = ['.', '.'] then return ← refuseMove .busy
    match fs.place (pathOf p.2) with
    | .error fault => refuseMove fault
    | .ok place =>
      let goal := place.location
      if place.asDirectory && !n.isDirectory then return ← refuseMove .notADirectory
      if goal = source then return ← refuse (areTheSame p)
      if source.isSuffixOf goal then
        return ← refuse ("cannot move ".toList ++ quotedFully p.1 ++
          " to a subdirectory of itself, ".toList ++ quotedFully p.2)
      match fs.tree.get? goal, n.isDirectory with
      | some old, isDirectory =>
        if a.last? ['n', 'i', 'f'] = some 'n' then
          return ← refuse ("not replacing ".toList ++ quotedFully p.2)
        if old.isDirectory && !isDirectory then
          return ← refuse ("cannot overwrite directory ".toList ++ quotedFully p.2 ++
            " with non-directory".toList)
        if !old.isDirectory && isDirectory then
          return ← refuse ("cannot overwrite non-directory ".toList ++ quotedFully p.2 ++
            " with directory ".toList ++ quotedFully p.1)
        if !isDirectory && (fs.locate (pathOf p.1) true).toOption = some goal then
          return ← refuse (areTheSame p)
        if !(← isWanted a source goal p.2) then return true
        if a.has 'b' || a.has 'S' then putAside a goal
        else if old.isDirectory && !isEmptyDirectory fs goal then
          return ← refuse (cannot "overwrite" p.2 Fault.notEmpty.reason)
      | none, _ => pure ()
      moveNode source goal
      if a.has 'v' then printLine ("renamed ".toList ++ arrow p)
      return true

end Copying

open Copying in
def mv (args : List Chars) : Action Nat :=
  withArguments moveKnown 1 args fun a => do
    let a := if a.has 'B' then a.withOptions [('b', [])] else a
    pairs moveKnown a (a.has 'T') fun ps => forEachPair ps (move a)

namespace Copying

def linkKnown : Known :=
  { flags := "sfnTvirLPbFd", valued := "tS", free := "B"
    long := [("symbolic", 's'), ("force", 'f'), ("no-dereference", 'n'),
      ("no-target-directory", 'T'), ("target-directory", 't'), ("verbose", 'v'),
      ("relative", 'r'), ("logical", 'L'), ("physical", 'P'), ("interactive", 'i'),
      ("backup", 'B'), ("suffix", 'S')] }

def link (a : Arguments) (p : Pair) : Action Bool := do
  let fs ← fileSystem
  let kind := if a.has 's' then "symbolic link" else "hard link"
  let refuse (message : Chars) : Action Bool := do
    warn message
    return false
  let refuseGoal (fault : Fault) : Action Bool :=
    let aim := if fault = .notFound && p.1 = [] then " -> ''".toList else []
    refuse ("failed to create ".toList ++ kind.toList ++ [' '] ++ quotedFully p.2 ++ aim ++
      ": ".toList ++ fault.reason.toList)
  let make (n : FileSystem.Node) : Action Bool := do
    match fs.place (pathOf p.2) with
    | .error .busy => refuseGoal .alreadyExists
    | .error fault => refuseGoal fault
    | .ok place =>
      match fs.tree.get? place.location with
      | some (.directory _) =>
        if a.has 'f' then return ← refuse (quotedFully p.2 ++ ": cannot overwrite directory".toList)
        return ← refuseGoal .alreadyExists
      | some _ =>
        if a.has 'b' then putAside a place.location
        else if a.has 'i' then
          if !(← isAgreed ("replace ".toList ++ quotedFully p.2 ++ "? ".toList)) then return true
          removeNode place.location
        else if a.has 'f' then
          if !a.has 's' && (nodeHere? fs p.1).any (·.1 = place.location) then
            return ← refuse (areTheSame p)
          removeNode place.location
        else return ← refuseGoal .alreadyExists
      | none => if place.asDirectory then return ← refuseGoal .notFound
      makeNode place.location n
      if a.has 'v' then
        let mark := if a.has 's' then " -> " else " => "
        printLine (quotedFully p.2 ++ mark.toList ++ quotedFully p.1)
      return true
  if a.has 's' then
    if p.1 = [] then return ← refuseGoal .notFound
    let target :=
      if a.has 'r' then
        match resolved fs .nothing p.1, resolved fs .nothing (directoryPart p.2) with
        | .ok loc, .ok origin => relativeText origin loc
        | _, _ => p.1
      else p.1
    make (.link (stringOf target))
  else
    let found := if a.has 'L' then
        ((fs.locate (pathOf p.1) true).toOption.bind fun loc => (fs.tree.get? loc))
      else (nodeHere? fs p.1).map (·.2)
    match found with
    | none =>
      refuse ("failed to access ".toList ++ quotedFully p.1 ++ ": ".toList ++
        (faultAt fs p.1).reason.toList)
    | some (.directory _) => refuse (p.1 ++ ": hard link not allowed for directory".toList)
    | some n => make n

end Copying

open Copying in
def ln (args : List Chars) : Action Nat :=
  withArguments linkKnown 1 args fun a => do
    let a := if a.has 'B' then a.withOptions [('b', [])] else a
    let a := match a.operands, a.value? 't' with
      | [p], none => if a.has 'T' then a else { a with operands := [p, ['.']] }
      | _, _ => a
    let fs ← fileSystem
    let goal := a.operands.getLastD []
    let plain := a.has 'T' || a.has 'n' && isLinkHere fs goal
    pairs linkKnown a plain fun ps => forEachPair ps (link a)

def hardLink (args : List Chars) : Action Nat :=
  let known : Known := { flags := "" }
  withArguments known 1 args fun a => do
    match a.operands with
    | [] => misused known 1 missingOperand
    | [p] => misused known 1 ("missing operand after ".toList ++ inQuotes p)
    | [source, goal] =>
      let fs ← fileSystem
      let refuse (fault : Fault) : Action Nat := do
        warn ("cannot create link ".toList ++ quotedFully goal ++ " to ".toList ++
          quotedFully source ++ ": ".toList ++ fault.reason.toList)
        return 1
      match nodeHere? fs source, fs.place (pathOf goal) with
      | none, _ => refuse (faultAt fs source)
      | some (_, .directory _), _ => do
        warn ("cannot create link ".toList ++ quotedFully goal ++ " to ".toList ++
          quotedFully source ++ ": Operation not permitted".toList)
        return 1
      | _, .error fault => refuse (if fault = .busy then .alreadyExists else fault)
      | some (_, n), .ok place =>
        if (fs.tree.get? place.location).isSome then refuse .alreadyExists
        else
          makeNode place.location n
          return 0
    | _ => misused known 1 (extraOperand (a.operands.getD 2 []))

open Copying in
def install (args : List Chars) : Action Nat :=
  let known : Known :=
    { flags := "dDvTcpsCb", valued := "mtogS"
      long := [("directory", 'd'), ("mode", 'm'), ("verbose", 'v'), ("target-directory", 't'),
        ("no-target-directory", 'T'), ("owner", 'o'), ("group", 'g'), ("compare", 'C'),
        ("preserve-timestamps", 'p'), ("strip", 's'), ("suffix", 'S')] }
  withArguments known 1 args fun a => do
    let text := (a.value? 'm').getD "755".toList
    match FileSystem.Permission.changed? 0 false 0 text with
    | none =>
      warn ("invalid mode ".toList ++ inQuotes text)
      return 1
    | some mode =>
      let giveMode (p : Chars) : Action Unit := do
        let fs ← fileSystem
        match fs.locate (pathOf p) true with
        | .ok loc =>
          match fs.tree.get? loc with
          | some (.file bytes _) => setFileSystem (fs.set loc (.file bytes mode))
          | some (.directory _) => setFileSystem (fs.set loc (.directory mode))
          | _ => return
        | .error _ => return
      if a.has 'd' then
        if a.operands.isEmpty then return ← misused known 1 "missing file operand".toList
        forEach a.operands fun p => do
          match (← fileSystem).makeDirectories (pathOf p) with
          | .ok fs =>
            setFileSystem fs
            giveMode p
            return none
          | .error fault => return some (cannot "create directory" p fault.reason)
      else
        if a.has 'D' then
          let goal := a.operands.getLastD []
          match (← fileSystem).makeDirectories (pathOf (directoryPart goal)) with
          | .ok fs => setFileSystem fs
          | .error _ => pure ()
        pairs known a (a.has 'T') fun ps =>
          forEachPair ps fun p => do
            let fs ← fileSystem
            let place : Action Bool := do
              match nodeHere? fs p.2 with
              | some (loc, n) => if !n.isDirectory then removeNode loc
              | none => pure ()
              let plain : Arguments := { options := a.options.filter (·.1 = 'v') }
              let whole ← copy plain 300 p
              if whole then giveMode p.2
              return whole
            if (descriptorNamed? (pathOf p.1)).isSome then return ← place
            match fs.node (pathOf p.1) with
            | .ok (.directory _) =>
              warn ("omitting directory ".toList ++ quotedFully p.1)
              return false
            | .ok _ => place
            | .error fault =>
              warn (cannot "stat" p.1 fault.reason)
              return false

end ImportResolver.Tool

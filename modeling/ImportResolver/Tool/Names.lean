import ImportResolver.Tool.Arguments
/- Programs that work on names of files. -/
namespace ImportResolver.Tool

open Shell Shell.Action

def withoutSlashes (cs : Chars) : Chars := (cs.reverse.dropWhile (· = '/')).reverse

def lastName (cs : Chars) : Chars :=
  let trimmed := withoutSlashes cs
  if trimmed = [] then cs.take 1 else (trimmed.reverse.takeWhile (· ≠ '/')).reverse

def directoryPart (cs : Chars) : Chars :=
  let trimmed := withoutSlashes cs
  if trimmed = [] then if cs = [] then ['.'] else ['/']
  else if !trimmed.contains '/' then ['.']
  else
    let kept := withoutSlashes (trimmed.reverse.dropWhile (· ≠ '/')).reverse
    if kept = [] then ['/'] else kept

def inDirectory (directory name : Chars) : Chars :=
  if directory.getLast? = some '/' then directory ++ name else directory ++ '/' :: name

def lineEnd (a : Arguments) (zero : Char) : Char := if a.has zero then Char.ofNat 0 else '\n'

def missingOperand : Chars := "missing operand".toList

def extraOperand (cs : Chars) : Chars := "extra operand ".toList ++ inQuotes cs

def basename (args : List Chars) : Action Nat :=
  let known : Known :=
    { flags := "az", valued := "s", anywhere := false,
      long := [("multiple", 'a'), ("suffix", 's'), ("zero", 'z')] }
  withArguments known 1 args fun a => do
    let shortened (ending name : Chars) : Chars :=
      if ending ≠ name && ending.isSuffixOf name then name.take (name.length - ending.length)
      else name
    let answer (names : List Chars) : Action Nat :=
      say (names.flatMap (· ++ [lineEnd a 'z'])) 0
    match a.operands with
    | [] => misused known 1 missingOperand
    | operands =>
      if a.has 'a' || a.has 's' then
        let ending := (a.value? 's').getD []
        answer (operands.map fun p => shortened ending (lastName p))
      else
        match operands with
        | [p] => answer [lastName p]
        | [p, ending] => answer [shortened ending (lastName p)]
        | _ => misused known 1 (extraOperand (operands.getD 2 []))

def dirname (args : List Chars) : Action Nat :=
  let known : Known := { flags := "z", long := [("zero", 'z')] }
  withArguments known 1 args fun a => do
    if a.operands.isEmpty then return ← misused known 1 missingOperand
    say (a.operands.flatMap fun p => directoryPart p ++ [lineEnd a 'z']) 0

/-- How much of a path has to be there. -/
inductive Presence where
  | nothing
  | allButLast
  | everything

def walkAnyhow (t : FileSystem.Tree) (loc : FileSystem.Location) :
    List String → FileSystem.Location
  | [] => loc
  | "." :: names => walkAnyhow t loc names
  | ".." :: names => walkAnyhow t loc.tail names
  | name :: names =>
    match t.walk true FileSystem.maxLinks loc [name] with
    | .ok next => walkAnyhow t next names
    | .error _ => walkAnyhow t (name :: loc) names

def resolved (fs : FileSystem) (needed : Presence) (path : Chars) :
    Except Fault FileSystem.Location :=
  let p := pathOf path
  match fs.locate p true, needed with
  | .ok loc, _ => .ok loc
  | .error fault, .everything => .error fault
  | .error fault, .allButLast =>
    match fs.place p with
    | .ok place =>
      match fs.tree.writeTarget FileSystem.maxLinks place.location with
      | .ok loc => if (fs.tree.get? loc).isNone then .ok loc else .error fault
      | .error fault => .error fault
    | .error _ => .error fault
  | .error fault, .nothing =>
    if path = [] then .error fault
    else .ok (walkAnyhow fs.tree (fs.start p.text) (FileSystem.names p.text))

def locationText (loc : FileSystem.Location) : Chars :=
  charsOf (FileSystem.Location.path loc).text

def linkTarget? (fs : FileSystem) (path : Chars) : Except Fault Chars := do
  match fs.tree.get? (← fs.locate (pathOf path) false) with
  | some (.link target) => .ok (charsOf target)
  | some _ => .error .invalidArgument
  | none => .error .notFound

def readlink (args : List Chars) : Action Nat :=
  let known : Known :=
    { flags := "fenmqsvz"
      long := [("canonicalize", 'f'), ("canonicalize-existing", 'e'),
        ("canonicalize-missing", 'm'), ("no-newline", 'n'), ("quiet", 'q'), ("silent", 's'),
        ("verbose", 'v'), ("zero", 'z')] }
  withArguments known 1 args fun a => do
    if a.operands.isEmpty then return ← misused known 1 missingOperand
    let many := 1 < a.operands.length
    if a.has 'n' && many then warn "ignoring --no-newline with multiple arguments".toList
    let ending := if a.has 'n' && !many then [] else [lineEnd a 'z']
    let fs ← fileSystem
    let mut status := 0
    for p in a.operands do
      let answer :=
        match a.last? ['f', 'e', 'm'] with
        | some 'f' => (resolved fs .allButLast p).map locationText
        | some 'e' => (resolved fs .everything p).map locationText
        | some _ => (resolved fs .nothing p).map locationText
        | none => linkTarget? fs p
      match answer with
      | .ok cs => print (cs ++ ending)
      | .error fault =>
        if a.last? ['v', 'q', 's'] = some 'v' then warnOf p fault.reason
        status := 1
    return status

def relativeText (origin loc : FileSystem.Location) : Chars :=
  let rec apart : List String → List String → List String × List String
    | x :: xs, y :: ys => if x = y then apart xs ys else (x :: xs, y :: ys)
    | xs, ys => (xs, ys)
  let (up, down) := apart origin.reverse loc.reverse
  let names := (up.map fun _ => ['.', '.']) ++ down.map charsOf
  if names.isEmpty then ['.'] else (names.intersperse ['/']).flatten

def realpath (args : List Chars) : Action Nat :=
  let known : Known :=
    { flags := "emqsLPz", valued := "tb"
      long := [("canonicalize-existing", 'e'), ("canonicalize-missing", 'm'), ("quiet", 'q'),
        ("strip", 's'), ("no-symlinks", 's'), ("logical", 'L'), ("physical", 'P'),
        ("relative-to", 't'), ("relative-base", 'b'), ("zero", 'z')] }
  withArguments known 1 args fun a => do
    if a.operands.isEmpty then return ← misused known 1 missingOperand
    let fs ← fileSystem
    let needed : Presence :=
      match a.last? ['e', 'm'] with
      | some 'e' => .everything
      | some _ => .nothing
      | none => .allButLast
    let place (p : Chars) : Except Fault FileSystem.Location :=
      if a.has 's' then
        let path := pathOf p
        let names := (FileSystem.names path.text).foldl
          (fun loc name =>
            if name = "." then loc else if name = ".." then loc.tail else name :: loc)
          (fs.start path.text)
        if p = [] then .error .notFound else .ok names
      else resolved fs needed p
    let base := (a.value? 'b').bind fun p => (place p).toOption
    let origin := (a.value? 't').bind fun p => (place p).toOption
    let shown (loc : FileSystem.Location) : Chars :=
      match origin, base with
      | some origin, none => relativeText origin loc
      | some origin, some base =>
        if base.isSuffixOf loc && base.isSuffixOf origin then relativeText origin loc
        else locationText loc
      | none, some base =>
        if base.isSuffixOf loc then relativeText base loc else locationText loc
      | none, none => locationText loc
    let mut status := 0
    for p in a.operands do
      match place p with
      | .ok loc => print (shown loc ++ [lineEnd a 'z'])
      | .error fault =>
        if !a.has 'q' then warnOf p fault.reason
        status := 1
    return status

def pwd (args : List Chars) : Action Nat :=
  withArguments { flags := "LP", long := [("logical", 'L'), ("physical", 'P')] } 1 args fun a => do
    if !a.operands.isEmpty then warn "ignoring non-option arguments".toList
    let fs ← fileSystem
    let here := locationText fs.cwd
    let called := ((← process).value? "PWD".toList).getD []
    let isPlain := !(Text.runs '/' called).any fun name => name = ['.'] || name = ['.', '.']
    let holds := called.head? = some '/' && isPlain &&
      (fs.locate (pathOf called) true).toOption = some fs.cwd
    sayLines [if a.last? ['L', 'P'] = some 'L' && holds then called else here] 0

/-- The first of the listed directories in which a program is; all of them if asked for. -/
def which (args : List Chars) : Action Nat := do
  let usage (_ : Chars) : Chars := "Usage: /usr/bin/which [-as] args\n".toList
  let known : Known := { flags := "as", anywhere := false, usage }
  match known.read args with
  | .error why =>
    let letter := (why.reverse.drop 1).take 1
    let _ ← write 2 ("Illegal option -".toList ++ letter ++ ['\n'])
    explain known
    return 2
  | .ok a =>
    let fs ← fileSystem
    let dirs := Text.runs ':' (((← process).value? "PATH".toList).getD [])
    let isProgram (p : Chars) : Bool :=
      (fs.node? (pathOf p)).any fun n => n.isFile && n.isExecutable
    let found := a.operands.map fun name =>
      let candidates :=
        if name.contains '/' then [name]
        else dirs.map fun dir => inDirectory (if dir = [] then ['.'] else dir) name
      let there := candidates.filter isProgram
      if a.has 'a' then there else there.take 1
    let status := failed (found.all (!·.isEmpty) && !found.isEmpty)
    if a.has 's' then return status
    sayLines found.flatten status

end ImportResolver.Tool

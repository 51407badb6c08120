import ImportResolver.Tool.Files
/- Modes of files: how they are shown, and changed. -/
namespace ImportResolver.Tool

open Shell Shell.Action

namespace Modes

def kindLetter : FileSystem.Node → Char
  | .directory _ => 'd'
  | .link _ => 'l'
  | .device _ _ => 'c'
  | .pipe _ _ => 'p'
  | _ => '-'

def rights (mode : Nat) : Chars :=
  let three (shift special : Nat) (mark : Char) : Chars :=
    let bits := mode >>> shift
    let last :=
      if mode &&& special ≠ 0 then if bits &&& 1 ≠ 0 then mark else mark.toUpper
      else if bits &&& 1 ≠ 0 then 'x'
      else '-'
    [if bits &&& 4 ≠ 0 then 'r' else '-', if bits &&& 2 ≠ 0 then 'w' else '-', last]
  three 6 0o4000 's' ++ three 3 0o2000 's' ++ three 0 0o1000 't'

def octal (width n : Nat) : Chars :=
  let digits := Nat.toDigits 8 n
  List.replicate (width - digits.length) '0' ++ digits

def both (mode : Nat) : Chars := octal 4 mode ++ " (".toList ++ rights mode ++ [')']

def withMode (n : FileSystem.Node) (mode : Nat) : FileSystem.Node :=
  match n with
  | .file bytes _ => .file bytes mode
  | .directory _ => .directory mode
  | .device kind _ => .device kind mode
  | .pipe number _ => .pipe number mode
  | n => n

def known : Known :=
  { flags := "Rfvc", valued := "r"
    long := [("recursive", 'R'), ("reference", 'r'), ("silent", 'f'), ("quiet", 'f'),
      ("verbose", 'v'), ("changes", 'c'), ("no-preserve-root", 'N'), ("preserve-root", 'N')] }

/-- Gives a node the mode that `change` makes of its mode, and, if need be, all below it. -/
def apply (a : Arguments) (change : FileSystem.Node → Nat) :
    Nat → Chars → FileSystem.Location → Action Bool
  | 0, _, _ => return false
  | fuel + 1, p, loc => do
    let fs ← fileSystem
    match fs.tree.get? loc with
    | none => return true
    | some (.tool _) =>
      if !a.has 'f' then
        warn ("changing permissions of ".toList ++ quotedFully p ++
          ": Operation not permitted".toList)
      return false
    | some n =>
      let mode := change n
      setFileSystem (fs.set loc (withMode n mode))
      if mode ≠ n.mode then
        if a.has 'v' || a.has 'c' then
          printLine ("mode of ".toList ++ quotedFully p ++ " changed from ".toList ++
            both n.mode ++ " to ".toList ++ both mode)
      else if a.last? ['v', 'c'] = some 'v' then
        printLine ("mode of ".toList ++ quotedFully p ++ " retained as ".toList ++ both mode)
      if a.has 'R' && n.isDirectory then
        let inside := (fs.tree.children loc).filter fun e => !(e.2 matches .link _)
        let names := (inside.map (·.1)).mergeSort fun x y => decide (x ≤ y)
        let rec each : List String → Action Bool
          | [] => return true
          | name :: names => do
            let one ← apply a change fuel (inDirectory p (charsOf name)) (name :: loc)
            let rest ← each names
            return one && rest
        each names
      else return true

end Modes

open Modes in
def chmod (args : List Chars) : Action Nat := do
  let isMode (cs : Chars) : Bool :=
    match cs with
    | '-' :: c :: _ => "rwxXstugo0123456789".toList.contains c
    | _ => false
  let before := args.takeWhile (· ≠ "--".toList)
  let modes := before.filter isMode
  let rest := before.filter (!isMode ·) ++ args.drop before.length
  withArguments { known with flags := known.flags ++ "N" } 1 rest fun a => do
    let (mode?, files) : Option Chars × List Chars :=
      match a.value? 'r', modes with
      | some _, _ => (none, a.operands)
      | none, [] => (a.operands.head?, a.operands.drop 1)
      | none, modes => (some ((modes.intersperse [',']).flatten), a.operands)
    let mask := (← process).creationMask
    if a.value? 'r' = none && mode?.isNone then return ← misused known 1 missingOperand
    if files.isEmpty then
      return ← misused known 1 (match mode? with
        | some m => "missing operand after ".toList ++ inQuotes m
        | none => missingOperand)
    let fs ← fileSystem
    let model : Except Fault Nat :=
      match a.value? 'r' with
      | none => .ok 0
      | some p => (fs.node (pathOf p)).map FileSystem.Node.mode
    match model with
    | .error fault =>
      warn ("failed to get attributes of ".toList ++ quotedFully ((a.value? 'r').getD []) ++
        ": ".toList ++ fault.reason.toList)
      return 1
    | .ok model =>
      let change (n : FileSystem.Node) : Option Nat :=
        match mode? with
        | some m => FileSystem.Permission.changed? mask n.isDirectory n.mode m
        | none => some model
      if mode? = some [] || (change (.file [] 0)).isNone then
        return ← misused known 1 ("invalid mode: ".toList ++ inQuotes (mode?.getD []))
      let mut status := 0
      for p in files do
        let fs ← fileSystem
        match fs.locate (pathOf p) true with
        | .error fault =>
          if !a.has 'f' then
            warn (if isLinkHere fs p && fault = .notFound then
                "cannot operate on dangling symlink ".toList ++ quotedFully p
              else cannot "access" p fault.reason)
          status := 1
        | .ok loc =>
          if !(← apply a (fun n => (change n).getD n.mode) 300 p loc) then status := 1
      return status

end ImportResolver.Tool

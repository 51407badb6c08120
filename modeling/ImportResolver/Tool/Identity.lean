import ImportResolver.FileSystem.Base
import ImportResolver.Tool.Files
/- Programs that tell who uses a machine, and which machine it is. -/
namespace ImportResolver.Tool

open Shell Shell.Action

def userName : String := "root"

def telling (line : String) (args : List Chars) : Action Nat :=
  let known : Known := { flags := "" }
  withArguments known 1 args fun a => do
    match a.operands with
    | extra :: _ => misused known 1 (extraOperand extra)
    | [] => sayLines [line.toList] 0

def uname (args : List Chars) : Action Nat :=
  let known : Known :=
    { flags := "asnrvmpio"
      long := [("all", 'a'), ("kernel-name", 's'), ("nodename", 'n'), ("kernel-release", 'r'),
        ("kernel-version", 'v'), ("machine", 'm'), ("processor", 'p'), ("hardware-platform", 'i'),
        ("operating-system", 'o')] }
  withArguments known 1 args fun a => do
    match a.operands with
    | extra :: _ => misused known 1 (extraOperand extra)
    | [] =>
      let parts : List (Char × String) :=
        [('s', "Linux"), ('n', "localhost"), ('r', "6.1.0"), ('v', "#1 SMP"), ('m', "x86_64"),
          ('p', "x86_64"), ('i', "x86_64"), ('o', "GNU/Linux")]
      let isAsked (c : Char) : Bool :=
        a.has c || a.has 'a' && c ≠ 'p' && c ≠ 'i' || a.options.isEmpty && c = 's'
      let asked := (parts.filter fun e => isAsked e.1).map fun e => e.2.toList
      sayLines [(asked.intersperse [' ']).flatten] 0

def logname (args : List Chars) : Action Nat :=
  let known : Known := { flags := "" }
  withArguments known 1 args fun a => do
    match a.operands with
    | extra :: _ => misused known 1 (extraOperand extra)
    | [] =>
      warn "no login name".toList
      return 1

/-- Tells which terminal the standard input is; it is none. -/
def tty (args : List Chars) : Action Nat :=
  let known : Known :=
    { flags := "s", long := [("silent", 's'), ("quiet", 's')] }
  withArguments known 2 args fun a => do
    match a.operands with
    | extra :: _ => misused known 2 (extraOperand extra)
    | [] => if a.has 's' then return 1 else sayLines ["not a tty".toList] 1

def processors : Nat := 1

def nproc (args : List Chars) : Action Nat :=
  let known : Known :=
    { flags := "A", valued := "I", long := [("all", 'A'), ("ignore", 'I')] }
  withArguments known 1 args fun a => do
    match a.operands with
    | extra :: _ => misused known 1 (extraOperand extra)
    | [] =>
      let ignored := (a.value? 'I').getD ['0']
      match natural? ignored with
      | some n => sayLines [decimal (max 1 (processors - n))] 0
      | none =>
        warn ("invalid number: ".toList ++ inQuotes ignored)
        return 1

namespace Identity

/-- A user and the group that is the user's own. -/
structure User where
  name : String
  number : Nat
  group : String
  groupNumber : Nat

def user? (cs : Chars) : Option User :=
  let found := FileSystem.users.find? fun (name, number, _) =>
    name = String.ofList cs || natural? cs = some number
  found.map fun (name, number, _) =>
    let groupNumber := FileSystem.groupOf name number
    let group :=
      if groupNumber = 65534 then "nogroup"
      else ((FileSystem.users.find? fun e => e.2.1 = groupNumber).map (·.1)).getD name
    { name, number, group, groupNumber }

end Identity

open Identity in
def id (args : List Chars) : Action Nat :=
  let known : Known :=
    { flags := "agGnruzZ"
      long := [("group", 'g'), ("groups", 'G'), ("name", 'n'), ("real", 'r'), ("user", 'u'),
        ("zero", 'z'), ("context", 'Z')] }
  withArguments known 1 args fun a => do
    let kinds := ['u', 'g', 'G', 'Z'].filter a.has
    let refuse (why : String) : Action Nat := do
      warn why.toList
      return 1
    if a.has 'Z' then
      return ← refuse "--context (-Z) works only on an SELinux-enabled kernel"
    if 1 < kinds.length then
      return ← refuse "cannot print \"only\" of more than one choice"
    if kinds.isEmpty && (a.has 'n' || a.has 'r') then
      return ← refuse "cannot print only names or real IDs in default format"
    if kinds.isEmpty && a.has 'z' then
      return ← refuse "option --zero not permitted in default format"
    let asked := if a.operands.isEmpty then [userName.toList] else a.operands
    let mut whole := true
    for name in asked do
      match user? name with
      | none =>
        warn (inQuotes name ++ ": no such user".toList)
        whole := false
      | some u =>
        let plain (name : String) (number : Nat) : Chars :=
          if a.has 'n' then name.toList else decimal number
        let full (name : String) (number : Nat) : Chars :=
          decimal number ++ ['('] ++ name.toList ++ [')']
        let text :=
          match kinds with
          | ['u'] => plain u.name u.number
          | _ :: _ => plain u.group u.groupNumber
          | [] =>
            "uid=".toList ++ full u.name u.number ++ " gid=".toList ++
              full u.group u.groupNumber ++ " groups=".toList ++ full u.group u.groupNumber
        print (text ++ [if a.has 'z' then Char.ofNat 0 else '\n'])
    return failed whole

open Identity in
def groups (args : List Chars) : Action Nat :=
  let known : Known := { flags := "" }
  withArguments known 1 args fun a => do
    if a.operands.isEmpty then return ← sayLines [userName.toList] 0
    let mut whole := true
    for name in a.operands do
      match user? name with
      | some u => printLine (name ++ " : ".toList ++ u.group.toList)
      | none =>
        warn (inQuotes name ++ ": no such user".toList)
        whole := false
    return failed whole

open Identity in
/-- Gives files to a user or a group. All belong to the only one that programs run for, and are
shown so afterwards. -/
def chown (isGroup : Bool) (args : List Chars) : Action Nat :=
  let known : Known :=
    { flags := "RhvcfHLP", valued := "\x01"
      long := [("recursive", 'R'), ("no-dereference", 'h'), ("verbose", 'v'), ("changes", 'c'),
        ("silent", 'f'), ("quiet", 'f'), ("reference", '\x01')] }
  withArguments known 1 args fun a => do
    let (owner, files) :=
      if a.has '\x01' then (none, a.operands) else (a.operands.head?, a.operands.drop 1)
    match owner, files with
    | none, [] => misused known 1 missingOperand
    | some owner, [] => misused known 1 ("missing operand after ".toList ++ inQuotes owner)
    | owner, files =>
      let owner := owner.getD []
      let (user, rest) :=
        if isGroup then ([], ':' :: owner) else owner.span fun c => c ≠ ':' && c ≠ '.'
      let isKnown (name : Chars) : Bool :=
        name.isEmpty || (natural? name).isSome || (user? name).isSome
      if !isKnown user then
        warn ("invalid user: ".toList ++ inQuotes owner)
        return 1
      else if !isKnown (rest.drop 1) then
        warn ("invalid group: ".toList ++ inQuotes owner)
        return 1
      else
        forEach files fun p => do
          let fs ← fileSystem
          match fs.locate (pathOf p) (!a.has 'h') with
          | .error fault => return if a.has 'f' then none else some (cannot "access" p fault.reason)
          | .ok loc =>
            return if (fs.tree.get? loc).isSome || a.has 'f' then none
              else some (cannot "access" p Fault.notFound.reason)

def hostname (args : List Chars) : Action Nat :=
  let known : Known :=
    { flags := "asfdiIAy", long := [("short", 's'), ("fqdn", 'f'), ("long", 'f')] }
  withArguments known 1 args fun a => do
    if a.operands.isEmpty then sayLines ["localhost".toList] 0
    else
      warn "you must be root to change the host name".toList
      return 1

end ImportResolver.Tool

import ImportResolver.FileSystem.Tree
import ImportResolver.Text.Runs
/- Modes as they are written: in octal digits, or as changes such as `u+x,go=r`. -/
namespace ImportResolver.FileSystem.Permission

def isOctal (c : Char) : Bool := '0' ≤ c && c ≤ '7'

/-- The bits of the users that letters name. -/
def usersOf (cs : List Char) : Nat :=
  cs.foldl
    (fun m c =>
      m ||| match c with
        | 'u' => 0o4700
        | 'g' => 0o2070
        | 'o' => 0o1007
        | _ => 0o7777)
    0

/-- The bits, for all users, that letters name. -/
def rightsOf (mode : Nat) (isDirectory : Bool) (cs : List Char) : Nat :=
  cs.foldl
    (fun m c =>
      m ||| match c with
        | 'r' => 0o444
        | 'w' => 0o222
        | 'x' => 0o111
        | 'X' => if isDirectory || mode &&& 0o111 ≠ 0 then 0o111 else 0
        | 's' => 0o6000
        | 't' => 0o1000
        | 'u' => (mode / 64 &&& 7) * 0o111
        | 'g' => (mode / 8 &&& 7) * 0o111
        | _ => (mode &&& 7) * 0o111)
    0

def without (a b : Nat) : Nat := a - (a &&& b)

/-- The operators of a clause, each with its letters. -/
def operations? : Nat → List Char → Option (List (Char × List Char))
  | 0, _ => none
  | _ + 1, [] => some []
  | n + 1, c :: cs =>
    if ['+', '-', '='].contains c then
      let (letters, rest) := cs.span "rwxXstugo".toList.contains
      (operations? n rest).map ((c, letters) :: ·)
    else none

/-- Applies a change for some users to a mode. Without users it is for all, less what `mask`
takes away. Rights that are copied are those of `source`, or of the mode as it changes. -/
def clause? (mask : Nat) (isDirectory : Bool) (source : Option Nat) (mode : Nat)
    (cs : List Char) : Option Nat :=
  let (users, rest) := cs.span "ugoa".toList.contains
  let affected := if users = [] then without 0o7777 mask else usersOf users
  match operations? (rest.length + 1) rest with
  | none => none
  | some [] => none
  | some operations =>
    some (operations.foldl
      (fun mode (operator, letters) =>
        let bits := rightsOf (source.getD mode) isDirectory letters &&& affected
        if operator = '+' then mode ||| bits
        else if operator = '-' then without mode bits
        else without mode (if users = [] then 0o7777 else usersOf users) ||| bits)
      mode)

/-- The mode that a text makes of a mode. -/
def changed? (mask : Nat) (isDirectory : Bool) (mode : Nat) (cs : List Char) : Option Nat :=
  if cs ≠ [] && cs.all isOctal then
    let n := cs.foldl (fun n c => n * 8 + (c.toNat - '0'.toNat)) 0
    if n ≤ 0o7777 then some n else none
  else
    (Text.runs ',' cs).foldl
      (fun mode? cs => mode?.bind fun mode => clause? mask isDirectory none mode cs)
      (some mode)

end ImportResolver.FileSystem.Permission

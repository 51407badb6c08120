import ImportResolver.FileSystem.Base
import ImportResolver.FileSystem.Change
import ImportResolver.Json.Basic
import ImportResolver.Json.Token
/- File trees written down as a list of entries, to be made one after another. -/
namespace ImportResolver.FileSystem

inductive Entry where
  | file (bytes : Bytes) (mode : Nat)
  | directory
  | link (target : String)
  deriving DecidableEq

/-- Bytes as pairs of hexadecimal digits. -/
def hexBytes? : List Char → Option Bytes
  | [] => some []
  | a :: b :: r => do
    return UInt8.ofNat ((← Json.hexValue? a) * 16 + (← Json.hexValue? b)) :: (← hexBytes? r)
  | _ => none

/-- Content is a text, or an object that gives its bytes in hexadecimal. -/
def contentOf? (v : Json) : Option Bytes :=
  match v.member? "hex" with
  | some hex => hex.text?.bind fun h => hexBytes? h.toList
  | none => ((v.member? "text").getD v).text?.map Text.Utf8.encode

def octalMode (digits : String) : Nat :=
  digits.toList.foldl (fun n c => n * 8 + (c.toNat - '0'.toNat)) 0

def defaultMode : Nat := 0o644

def Entry.ofJson? (v : Json) : Option Entry :=
  if ((v.member? "dir").bind Json.asBool?).getD false then some .directory
  else
    match v.member? "link" with
    | some target => target.text?.map .link
    | none => do
      let mode := (((v.member? "mode").bind Json.text?).map octalMode).getD defaultMode
      return .file (← contentOf? v) mode

/-- Makes an entry, with the directories that lead to it. -/
def put (fs : FileSystem) (p : Path) (e : Entry) : Except Fault FileSystem := do
  match e with
  | .directory => fs.makeDirectories p
  | .link target => (← fs.makeDirectories (p.parent?.getD ⟨""⟩)).makeLink p target
  | .file bytes mode => (← fs.makeDirectories (p.parent?.getD ⟨""⟩)).writeFile p bytes mode

/-- Makes entries below `root`. One that cannot be made is left out. -/
def putAll (fs : FileSystem) (root : Path) (entries : List (String × Entry)) : FileSystem :=
  entries.foldl (fun fs e => (put fs (root.join e.1) e.2).toOption.getD fs) fs

def entriesOf? : Json → Option (List (String × Entry)) :=
  Json.asList? fun
    | .array [name, entry] => do return (← name.text?, ← Entry.ofJson? entry)
    | _ => none

end ImportResolver.FileSystem

import Std.Data.HashMap
import ImportResolver.Shell.Process
import ImportResolver.Tool.Awk.Value
/- Tables from keys to values. The keys stand in lists, and a key's list follows from its text; the
lists, and the keys in each, are in the order in which a table is gone through. -/
namespace ImportResolver.Tool.Awk

open Shell

/-- A key as it is given: a whole number, or a text. -/
inductive Key where
  | whole (n : Int)
  | text (cs : Chars)

def Key.toText : Key → String
  | .whole n => toString n
  | .text cs => String.ofList cs

structure Table where
  /-- Values by the texts of their keys. -/
  values : Std.HashMap String Value := {}
  /-- Keys by their texts, the one that was used last first. -/
  texts : Std.HashMap Nat (List Chars) := {}
  /-- Keys that were given as whole numbers, by these. -/
  wholes : Std.HashMap Nat (List Int) := {}
  /-- How many lists there are. -/
  lists : Nat := 64
  /-- Whether the keys that were given as numbers stand among the texts. -/
  hasTexts : Bool := false

namespace Table

def hash (cs : Chars) : Nat :=
  cs.foldl (fun h c => ((h ^^^ c.toNat) * 16777619) % Nat.pow 2 32) 2166136261

def crowd : Nat := 12

def size (t : Table) : Nat := t.values.size

def textList (t : Table) (cs : Chars) : Nat := hash cs % t.lists

def wholeList (t : Table) (n : Int) : Nat := (n % t.lists).toNat

def putText (t : Table) (cs : Chars) : Table :=
  let i := t.textList cs
  { t with texts := t.texts.insert i (cs :: (t.texts.getD i [])) }

def putWhole (t : Table) (n : Int) : Table :=
  let i := t.wholeList n
  { t with wholes := t.wholes.insert i (n :: (t.wholes.getD i [])) }

def withTexts (t : Table) : Table :=
  if t.hasTexts then t
  else
    let all := (List.range t.lists).flatMap fun i => t.wholes.getD i []
    { all.foldl (fun t n => t.putText (toString n).toList) t with hasTexts := true }

/-- Twice as many lists. What moves to a new one comes to stand the other way round. -/
def doubled (t : Table) : Table :=
  let wide := { t with texts := {}, wholes := {}, lists := t.lists * 2 }
  let wide := (List.range t.lists).foldl
    (fun (w : Table) i =>
      let (kept, moved) := (t.texts.getD i []).partition fun cs => w.textList cs = i
      let w := if kept.isEmpty then w else { w with texts := w.texts.insert i kept }
      moved.foldl putText w)
    wide
  (List.range t.lists).foldl
    (fun (w : Table) i =>
      let (kept, moved) := (t.wholes.getD i []).partition fun n => w.wholeList n = i
      let w := if kept.isEmpty then w else { w with wholes := w.wholes.insert i kept }
      moved.foldl putWhole w)
    wide

def widened (t : Table) : Table := if t.lists * crowd ≤ t.size then t.doubled else t

def front {α : Type} [BEq α] (a : α) (as : List α) : List α :=
  match as with
  | b :: _ => if a == b then as else a :: as.erase a
  | [] => as

/-- Takes note that a key is looked for, and makes it if it is not there. -/
def touchText (t : Table) (cs : Chars) : Table :=
  let t := t.withTexts
  if t.values.contains (String.ofList cs) then
    let i := t.textList cs
    { t with texts := t.texts.insert i (front cs (t.texts.getD i [])) }
  else
    let t := t.widened.putText cs
    { t with values := t.values.insert (String.ofList cs) .none }

def touch (t : Table) : Key → Table
  | .text cs => t.touchText cs
  | .whole n =>
    let i := t.wholeList n
    let list := t.wholes.getD i []
    if list.contains n then { t with wholes := t.wholes.insert i (front n list) }
    else if t.hasTexts then (t.touchText (toString n).toList).putWhole n
    else
      let t := t.widened.putWhole n
      { t with values := t.values.insert (toString n) .none }

def has (t : Table) (k : Key) : Bool := t.values.contains k.toText

def get (t : Table) (k : Key) : Value × Table :=
  let t := t.touch k
  (t.values.getD k.toText .none, t)

def set (t : Table) (k : Key) (v : Value) : Table :=
  let t := t.touch k
  { t with values := t.values.insert k.toText v }

def erase (t : Table) (k : Key) : Table :=
  let text := k.toText
  let cs := text.toList
  if !t.values.contains text then t
  else if t.size = 1 then {}
  else
    let i := t.textList cs
    let t := { t with
      values := t.values.erase text
      texts := t.texts.insert i ((t.texts.getD i []).erase cs) }
    match text.toInt? with
    | some n =>
      let j := t.wholeList n
      { t with wholes := t.wholes.insert j ((t.wholes.getD j []).erase n) }
    | Option.none => t

def keys (t : Table) : List Chars :=
  (List.range t.lists).flatMap fun i => t.texts.getD i []

def ofList (vs : List Value) : Table :=
  (vs.zipIdx 1).foldl (fun t e => t.set (.whole (e.2 : Nat)) e.1) {}

end Table

end ImportResolver.Tool.Awk

import ImportResolver.Text.Utf8
/- File trees: a finite table from locations to nodes. -/
namespace ImportResolver.FileSystem

/-- The names on the way to a node, the node's own name first. The root is `[]`. -/
abbrev Location := List String

inductive Device where
  /-- Reads as empty, and takes everything. -/
  | null
  /-- Reads as zeros without end, and takes everything. -/
  | zero
  /-- Reads as zeros without end, and has no room for anything. -/
  | full
  /-- Reads as bytes that cannot be foretold, without end, and takes everything. -/
  | random
  /-- Stands for a terminal that is not there. -/
  | terminal
  deriving DecidableEq, Inhabited

inductive Node where
  | file (bytes : Bytes) (mode : Nat)
  | directory (mode : Nat)
  | link (target : String)
  | device (kind : Device) (mode : Nat)
  /-- A pipe that has a name; its number tells it from others. -/
  | pipe (number mode : Nat)
  /-- A program that belongs to the system. Its content is not described. -/
  | tool (name : String)
  deriving DecidableEq, Inhabited

namespace Node

def isDirectory : Node → Bool
  | .directory _ => true
  | _ => false

def isFile : Node → Bool
  | .file .. => true
  | .tool _ => true
  | _ => false

def mode : Node → Nat
  | .file _ m => m
  | .directory m => m
  | .link _ => 0o777
  | .device _ m => m
  | .pipe _ m => m
  | .tool _ => 0o755

/-- Whether a mode grants its owner, for whom all work is done, what the bit stands for. -/
def grants (n : Node) (bit : Nat) : Bool := n.mode &&& bit ≠ 0

def isReadable (n : Node) : Bool := n.grants 0o400

def isWritable (n : Node) : Bool := n.grants 0o200

def isExecutable (n : Node) : Bool := n.grants 0o100

end Node

structure Tree where
  entries : List (Location × Node)
  deriving DecidableEq, Inhabited

namespace Tree

def rootNode : Node := .directory 0o755

/-- The root is a directory in every tree. -/
def get? (t : Tree) (loc : Location) : Option Node :=
  if loc = [] then some rootNode else (t.entries.find? (·.1 = loc)).map (·.2)

def insert (t : Tree) (loc : Location) (n : Node) : Tree :=
  ⟨(loc, n) :: t.entries.filter (·.1 ≠ loc)⟩

/-- Takes one node away. -/
def remove (t : Tree) (loc : Location) : Tree := ⟨t.entries.filter (·.1 ≠ loc)⟩

/-- Takes a node away, with all that is below it. -/
def erase (t : Tree) (loc : Location) : Tree := ⟨t.entries.filter fun e => !loc.isSuffixOf e.1⟩

/-- The nodes in a directory, by name. -/
def children (t : Tree) (loc : Location) : List (String × Node) :=
  t.entries.filterMap fun
    | (name :: parent, n) => if parent = loc then some (name, n) else none
    | ([], _) => none

/-- Every node stands once, and in a directory. -/
structure WellFormed (t : Tree) : Prop where
  nodup : (t.entries.map (·.1)).Nodup
  parent : ∀ name loc n, (name :: loc, n) ∈ t.entries →
    ∃ d, t.get? loc = some d ∧ d.isDirectory = true

theorem get?_insert_self (t : Tree) {loc : Location} (n : Node) (h : loc ≠ []) :
    (t.insert loc n).get? loc = some n := by
  simp [get?, insert, h]

theorem get?_insert_of_ne (t : Tree) {loc other : Location} (n : Node) (h : other ≠ loc) :
    (t.insert loc n).get? other = t.get? other := by
  unfold get? insert
  split
  · rfl
  · rw [List.find?_cons_of_neg (by simpa using Ne.symm h), List.find?_filter]
    congr 2
    funext e
    by_cases he : e.1 = other <;> simp [he, h]

/-- Where nothing was, nothing is left of what was put there and taken away again. -/
theorem remove_insert_of_get?_eq_none {t : Tree} {loc : Location} (n : Node)
    (h : t.get? loc = none) : (t.insert loc n).remove loc = t := by
  have habsent : ∀ e ∈ t.entries, e.1 ≠ loc := by
    intro e he hloc
    unfold get? at h
    split at h
    · simp at h
    · have := List.find?_eq_none.1 (Option.map_eq_none_iff.1 h) e he
      simp [hloc] at this
  cases t with
  | mk entries =>
    simp only [insert, remove, ne_eq, not_true, decide_false, Bool.false_eq_true,
      not_false_eq_true, List.filter_cons_of_neg, List.filter_filter, Bool.and_self, mk.injEq]
    exact List.filter_eq_self.2 fun e he => by simpa using habsent e he

theorem insert_insert (t : Tree) (loc : Location) (m n : Node) :
    (t.insert loc m).insert loc n = t.insert loc n := by
  simp [insert, List.filter_filter]

end Tree
end ImportResolver.FileSystem

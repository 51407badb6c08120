/- The order of texts, their blank ends, and sequences that begin or end with another one. -/
namespace ImportResolver.Text

/-- Whether `a` is `b` or stands before it. -/
def inOrder (a b : List Char) : Bool := !List.lex b a fun c d => decide (c.toNat < d.toNat)

/-- The characters with the Unicode property White_Space. -/
def isBlank (c : Char) : Bool :=
  let n := c.toNat
  (0x9 ≤ n && n ≤ 0xD) || n = 0x20 || n = 0x85 || n = 0xA0 || n = 0x1680 ||
    (0x2000 ≤ n && n ≤ 0x200A) || n = 0x2028 || n = 0x2029 || n = 0x202F || n = 0x205F ||
    n = 0x3000

def trim (s : String) : String :=
  String.ofList ((s.toList.dropWhile isBlank).reverse.dropWhile isBlank).reverse

example : trim " \t fs\r\n" = "fs" := by decide +kernel

variable {α : Type} [DecidableEq α]

/-- What stands after `lead`, if the sequence begins with it. -/
def dropLead? : List α → List α → Option (List α)
  | [], s => some s
  | _ :: _, [] => none
  | a :: lead, b :: s => if a = b then dropLead? lead s else none

/-- What stands before `tail`, if the sequence ends with it. -/
def dropTail? (tail s : List α) : Option (List α) :=
  (dropLead? tail.reverse s.reverse).map List.reverse

theorem dropLead?_eq_some_iff {lead s rest : List α} :
    dropLead? lead s = some rest ↔ lead ++ rest = s := by
  fun_induction dropLead? lead s with
  | case1 s => simp [eq_comm]
  | case2 => simp
  | case3 a lead s ih => simp [ih]
  | case4 a lead b s h => simp [h]

theorem dropTail?_eq_some_iff {tail s rest : List α} :
    dropTail? tail s = some rest ↔ rest ++ tail = s := by
  rw [dropTail?, Option.map_eq_some_iff]
  constructor
  · rintro ⟨r, h, rfl⟩
    simpa using congrArg List.reverse (dropLead?_eq_some_iff.1 h)
  · rintro rfl
    exact ⟨rest.reverse, dropLead?_eq_some_iff.2 (by simp), by simp⟩

def startsWith (s lead : String) : Bool := (dropLead? lead.toList s.toList).isSome

def endsWith (s tail : String) : Bool := (dropTail? tail.toList s.toList).isSome

theorem startsWith_iff {s lead : String} :
    startsWith s lead = true ↔ ∃ rest, s = lead ++ rest := by
  rw [startsWith, Option.isSome_iff_exists]
  constructor
  · rintro ⟨rest, h⟩
    exact ⟨String.ofList rest, by rw [← String.toList_inj]; simp [dropLead?_eq_some_iff.1 h]⟩
  · rintro ⟨rest, rfl⟩
    exact ⟨rest.toList, dropLead?_eq_some_iff.2 (by simp)⟩

theorem endsWith_iff {s tail : String} : endsWith s tail = true ↔ ∃ rest, s = rest ++ tail := by
  rw [endsWith, Option.isSome_iff_exists]
  constructor
  · rintro ⟨rest, h⟩
    exact ⟨String.ofList rest, by rw [← String.toList_inj]; simp [dropTail?_eq_some_iff.1 h]⟩
  · rintro ⟨rest, rfl⟩
    exact ⟨rest.toList, dropTail?_eq_some_iff.2 (by simp)⟩

end ImportResolver.Text

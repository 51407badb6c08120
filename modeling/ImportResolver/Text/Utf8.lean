/- UTF-8: encoding, and decoding that marks what forms no character. -/
namespace ImportResolver

abbrev Bytes := List UInt8

namespace Text.Utf8

def encode (s : String) : Bytes := s.toList.flatMap String.utf8EncodeChar

/-- For the first byte of a longer sequence: its payload, how many bytes follow, and the bounds
of the byte after it. -/
def lead? (b : UInt8) : Option (Nat × Nat × UInt8 × UInt8) :=
  if 0xC2 ≤ b && b ≤ 0xDF then some (b.toNat - 0xC0, 1, 0x80, 0xBF)
  else if b = 0xE0 then some (0, 2, 0xA0, 0xBF)
  else if b = 0xED then some (0xD, 2, 0x80, 0x9F)
  else if 0xE1 ≤ b && b ≤ 0xEF then some (b.toNat - 0xE0, 2, 0x80, 0xBF)
  else if b = 0xF0 then some (0, 3, 0x90, 0xBF)
  else if 0xF1 ≤ b && b ≤ 0xF3 then some (b.toNat - 0xF0, 3, 0x80, 0xBF)
  else if b = 0xF4 then some (4, 3, 0x80, 0x8F)
  else none

/-- Takes `n` continuation bytes, the first of them between `low` and `high`, onto `value`. -/
def continued (value : Nat) : Nat → UInt8 → UInt8 → Bytes → Option Nat × Bytes
  | 0, _, _, bs => (some value, bs)
  | _ + 1, _, _, [] => (none, [])
  | n + 1, low, high, b :: bs =>
    if low ≤ b && b ≤ high then continued (value * 64 + (b.toNat - 0x80)) n 0x80 0xBF bs
    else (none, b :: bs)

theorem continued_length (value n : Nat) (low high : UInt8) (bs : Bytes) :
    (continued value n low high bs).2.length ≤ bs.length := by
  fun_induction continued value n low high bs <;> grind

/-- The character that starts with byte `b`, or `none` for the longest beginning of a character
that cannot be completed; and the bytes left. -/
def head (b : UInt8) (bs : Bytes) : Option Char × Bytes :=
  if b < 0x80 then (some (Char.ofNat b.toNat), bs)
  else
    match lead? b with
    | none => (none, bs)
    | some (value, n, low, high) =>
      let (code, rest) := continued value n low high bs
      (code.map Char.ofNat, rest)

theorem head_length (b : UInt8) (bs : Bytes) : (head b bs).2.length ≤ bs.length := by
  unfold head
  split
  · simp
  · split
    · simp
    · exact continued_length ..

def decode : Bytes → List (Option Char)
  | [] => []
  | b :: bs =>
    match _h : head b bs with
    | (c, rest) => c :: decode rest
termination_by bs => bs.length
decreasing_by
  have h := head_length b bs
  rw [_h] at h
  exact Nat.lt_succ_of_le h

/-- The text of well-formed bytes. -/
def decode? (bs : Bytes) : Option String := ((decode bs).mapM id).map String.ofList

/-- Each ill-formed part reads as U+FFFD. -/
def decodeLossy (bs : Bytes) : String :=
  String.ofList ((decode bs).map (·.getD (Char.ofNat 0xFFFD)))

example : decode [0x61, 0xE2, 0x82, 0xAC, 0xF0, 0x9F, 0x61] =
    [some 'a', some '€', none, some 'a'] := by decide +kernel
example : decode [0xC0, 0xAF, 0xED, 0xA0, 0x80] = [none, none, none, none, none] := by
  decide +kernel

end Text.Utf8
end ImportResolver

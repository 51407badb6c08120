import ImportResolver.Text.Utf8
import Mathlib.Data.List.Basic
import Mathlib.Data.Nat.Basic
/- The sequences of bytes that encode a character: a first byte with a payload, and continuation
bytes with six bits each. Reading takes them apart and encoding puts them together. -/
namespace ImportResolver.Text.Utf8

/-- The continuation byte that carries six bits. -/
def continuation (x : Nat) : UInt8 := UInt8.ofNat (0x80 + x)

/-- Six bits after another, below a payload. -/
def code (value : Nat) (xs : List Nat) : Nat := xs.foldl (fun v x => v * 64 + x) value

theorem code_cons (value x : Nat) (xs : List Nat) :
    code value (x :: xs) = code (value * 64 + x) xs := rfl

/-- What the first byte of a longer sequence carries, how many bytes it asks for, and the bounds of
the one after it. -/
inductive Leads : UInt8 → Nat → Nat → UInt8 → UInt8 → Prop
  | two (a : Nat) : a < 32 → 2 ≤ a → Leads (UInt8.ofNat (0xC0 + a)) a 1 0x80 0xBF
  | three (a : Nat) : a < 16 → Leads (UInt8.ofNat (0xE0 + a)) a 2
      (if a = 0 then 0xA0 else 0x80) (if a = 0xD then 0x9F else 0xBF)
  | four (a : Nat) : a < 5 → Leads (UInt8.ofNat (0xF0 + a)) a 3
      (if a = 0 then 0x90 else 0x80) (if a = 4 then 0x8F else 0xBF)

/-- Six-bit groups, the first of them within bounds. -/
structure Within (low high : UInt8) (xs : List Nat) : Prop where
  small : ∀ x ∈ xs, x < 64
  first : ∀ x, xs.head? = some x → low ≤ continuation x ∧ continuation x ≤ high

theorem toNat_continuation {x : Nat} (h : x < 64) : (continuation x).toNat = 0x80 + x := by
  rw [continuation, UInt8.toNat_ofNat']
  omega

theorem exists_continuation {b : UInt8} (hlow : 0x80 ≤ b) (hhigh : b ≤ 0xBF) :
    b.toNat - 0x80 < 64 ∧ continuation (b.toNat - 0x80) = b := by
  have hl : 128 ≤ b.toNat := hlow
  have hh : b.toNat ≤ 191 := hhigh
  refine ⟨by omega, UInt8.toNat_inj.mp ?_⟩
  rw [toNat_continuation (by omega)]
  omega

theorem Leads.bounds {b low high : UInt8} {value n : Nat} (h : Leads b value n low high) :
    0x80 ≤ low ∧ high ≤ 0xBF := by
  cases h with
  | two a _ _ => decide
  | three a _ => split_ifs <;> decide
  | four a _ => split_ifs <;> decide

theorem Leads.first_not_lt {b low high : UInt8} {value n : Nat} (h : Leads b value n low high) :
    ¬ b < 0x80 := by
  rw [UInt8.lt_iff_toNat_lt]
  change ¬ b.toNat < 128
  cases h with
  | two _ h h' => rw [UInt8.toNat_ofNat']; omega
  | three _ h => rw [UInt8.toNat_ofNat']; omega
  | four _ h => rw [UInt8.toNat_ofNat']; omega

/-- The table of first bytes, by number. -/
def row (k : Nat) : Option (Nat × Nat × UInt8 × UInt8) :=
  if 0xC2 ≤ k ∧ k < 0xE0 then some (k - 0xC0, 1, 0x80, 0xBF)
  else if 0xE0 ≤ k ∧ k < 0xF0 then
    some (k - 0xE0, 2, if k - 0xE0 = 0 then 0xA0 else 0x80, if k - 0xE0 = 0xD then 0x9F else 0xBF)
  else if 0xF0 ≤ k ∧ k < 0xF5 then
    some (k - 0xF0, 3, if k - 0xF0 = 0 then 0x90 else 0x80, if k - 0xF0 = 4 then 0x8F else 0xBF)
  else none

theorem lead?_ofNat : ∀ k, k < 256 → lead? (UInt8.ofNat k) = row k := by decide +kernel

theorem Leads.lead? {b low high : UInt8} {value n : Nat} (h : Leads b value n low high) :
    lead? b = some (value, n, low, high) := by
  cases h with
  | two _ h h' =>
      rw [lead?_ofNat _ (by omega), row, if_pos (by omega), Nat.add_sub_cancel_left]
  | three _ h =>
      rw [lead?_ofNat _ (by omega), row, if_neg (by omega), if_pos (by omega),
        Nat.add_sub_cancel_left]
  | four _ h =>
      rw [lead?_ofNat _ (by omega), row, if_neg (by omega), if_neg (by omega), if_pos (by omega),
        Nat.add_sub_cancel_left]

theorem leads_of_row {k : Nat} {r : Nat × Nat × UInt8 × UInt8} (h : row k = some r) :
    Leads (UInt8.ofNat k) r.1 r.2.1 r.2.2.1 r.2.2.2 := by
  rw [row] at h
  by_cases htwo : 0xC2 ≤ k ∧ k < 0xE0
  · rw [if_pos htwo] at h
    rw [← Option.some.inj h]
    have hleads := Leads.two (k - 0xC0) (by omega) (by omega)
    rwa [Nat.add_sub_cancel' (by omega)] at hleads
  · rw [if_neg htwo] at h
    by_cases hthree : 0xE0 ≤ k ∧ k < 0xF0
    · rw [if_pos hthree] at h
      rw [← Option.some.inj h]
      have hleads := Leads.three (k - 0xE0) (by omega)
      rw [Nat.add_sub_cancel' hthree.1] at hleads
      dsimp only
      exact hleads
    · rw [if_neg hthree] at h
      by_cases hfour : 0xF0 ≤ k ∧ k < 0xF5
      · rw [if_pos hfour] at h
        rw [← Option.some.inj h]
        have hleads := Leads.four (k - 0xF0) (by omega)
        rw [Nat.add_sub_cancel' hfour.1] at hleads
        dsimp only
        exact hleads
      · rw [if_neg hfour] at h
        cases h

theorem leads_of_lead? {b low high : UInt8} {value n : Nat}
    (h : Utf8.lead? b = some (value, n, low, high)) : Leads b value n low high := by
  have hb : UInt8.ofNat b.toNat = b := UInt8.ofNat_toNat
  rw [← hb, lead?_ofNat _ b.toNat_lt] at h
  have hleads := leads_of_row h
  rwa [hb] at hleads

/-- What a character of this number is encoded as. -/
def encodeCode (v : Nat) : Bytes :=
  if v ≤ 127 then [UInt8.ofNat v]
  else if v ≤ 2047 then [UInt8.ofNat (v / 64 % 32 + 192), UInt8.ofNat (v % 64 + 128)]
  else if v ≤ 65535 then
    [UInt8.ofNat (v / 4096 % 16 + 224), UInt8.ofNat (v / 64 % 64 + 128), UInt8.ofNat (v % 64 + 128)]
  else
    [UInt8.ofNat (v / 262144 % 8 + 240), UInt8.ofNat (v / 4096 % 64 + 128),
      UInt8.ofNat (v / 64 % 64 + 128), UInt8.ofNat (v % 64 + 128)]

theorem utf8EncodeChar_eq (c : Char) : String.utf8EncodeChar c = encodeCode c.toNat := rfl

theorem toNat_ofNat {v : Nat} (h : v.isValidChar) : (Char.ofNat v).toNat = v := by
  rw [Char.ofNat, dif_pos h]
  rfl

theorem Within.between {low high : UInt8} {x : Nat} {xs : List Nat}
    (h : Within low high (x :: xs)) : low.toNat ≤ 0x80 + x ∧ 0x80 + x ≤ high.toNat := by
  obtain ⟨hlow, hhigh⟩ := h.first x rfl
  rw [UInt8.le_iff_toNat_le, toNat_continuation (h.small x List.mem_cons_self)] at hlow hhigh
  exact ⟨hlow, hhigh⟩

/-- A first byte and the continuation that it asks for encode a character. -/
theorem Leads.encode {b low high : UInt8} {value n : Nat} (h : Leads b value n low high)
    {xs : List Nat} (hlength : xs.length = n) (hxs : Within low high xs) :
    (code value xs).isValidChar ∧ encodeCode (code value xs) = b :: xs.map continuation := by
  cases h with
  | two _ h h' =>
      obtain ⟨x, rfl⟩ := List.length_eq_one_iff.mp hlength
      have hx := hxs.small x (by simp)
      have hcode : code value [x] = value * 64 + x := rfl
      have h₁ : (value * 64 + x) / 64 % 32 + 192 = 0xC0 + value := by omega
      have h₂ : (value * 64 + x) % 64 + 128 = 0x80 + x := by omega
      rw [hcode]
      refine ⟨.inl (by omega), ?_⟩
      rw [encodeCode, if_neg (by omega), if_pos (by omega), h₁, h₂]
      rfl
  | three _ h =>
      obtain ⟨x, y, rfl⟩ := List.length_eq_two.mp hlength
      have hx := hxs.small x (by simp)
      have hy := hxs.small y (by simp)
      obtain ⟨hlow, hhigh⟩ := hxs.between
      have hfirst : value = 0 → 0xA0 ≤ 0x80 + x := by
        rintro rfl
        simpa using hlow
      have hlast : value = 0xD → 0x80 + x ≤ 0x9F := by
        rintro rfl
        simpa using hhigh
      have hcode : code value [x, y] = (value * 64 + x) * 64 + y := rfl
      have h₁ : ((value * 64 + x) * 64 + y) / 4096 % 16 + 224 = 0xE0 + value := by omega
      have h₂ : ((value * 64 + x) * 64 + y) / 64 % 64 + 128 = 0x80 + x := by omega
      have h₃ : ((value * 64 + x) * 64 + y) % 64 + 128 = 0x80 + y := by omega
      rw [hcode]
      refine ⟨?_, ?_⟩
      · rw [Nat.isValidChar]
        omega
      · rw [encodeCode, if_neg (by omega), if_neg (by omega), if_pos (by omega), h₁, h₂, h₃]
        rfl
  | four _ h =>
      obtain ⟨x, y, z, rfl⟩ := List.length_eq_three.mp hlength
      have hx := hxs.small x (by simp)
      have hy := hxs.small y (by simp)
      have hz := hxs.small z (by simp)
      obtain ⟨hlow, hhigh⟩ := hxs.between
      have hfirst : value = 0 → 0x90 ≤ 0x80 + x := by
        rintro rfl
        simpa using hlow
      have hlast : value = 4 → 0x80 + x ≤ 0x8F := by
        rintro rfl
        simpa using hhigh
      have hcode : code value [x, y, z] = ((value * 64 + x) * 64 + y) * 64 + z := rfl
      have h₁ : (((value * 64 + x) * 64 + y) * 64 + z) / 262144 % 8 + 240 = 0xF0 + value := by omega
      have h₂ : (((value * 64 + x) * 64 + y) * 64 + z) / 4096 % 64 + 128 = 0x80 + x := by omega
      have h₃ : (((value * 64 + x) * 64 + y) * 64 + z) / 64 % 64 + 128 = 0x80 + y := by omega
      have h₄ : (((value * 64 + x) * 64 + y) * 64 + z) % 64 + 128 = 0x80 + z := by omega
      rw [hcode]
      refine ⟨.inr ⟨by omega, by omega⟩, ?_⟩
      rw [encodeCode, if_neg (by omega), if_neg (by omega), if_neg (by omega), h₁, h₂, h₃, h₄]
      rfl

theorem within_cons {low high : UInt8} {x : Nat} {xs : List Nat} (hsmall : ∀ y ∈ x :: xs, y < 64)
    (hlow : low.toNat ≤ 0x80 + x) (hhigh : 0x80 + x ≤ high.toNat) : Within low high (x :: xs) := by
  refine ⟨hsmall, fun y hy => ?_⟩
  obtain rfl : x = y := Option.some.inj hy
  rw [UInt8.le_iff_toNat_le, UInt8.le_iff_toNat_le,
    toNat_continuation (hsmall x List.mem_cons_self)]
  exact ⟨hlow, hhigh⟩

/-- Every character beyond the first 128 is encoded in that way. -/
theorem exists_leads (c : Char) (h : 0x80 ≤ c.toNat) :
    ∃ b value n low high xs, Leads b value n low high ∧ xs.length = n ∧ Within low high xs ∧
      code value xs = c.toNat := by
  have hvalid : c.toNat.isValidChar := c.valid
  generalize c.toNat = v at h hvalid
  rw [Nat.isValidChar] at hvalid
  by_cases htwo : v ≤ 0x7FF
  · refine ⟨_, v / 64, 1, _, _, [v % 64], .two (v / 64) (by omega) (by omega), rfl, ?_, ?_⟩
    · exact within_cons (by simp; omega) (Nat.le_add_right _ _) (by
        have : v % 64 < 64 := Nat.mod_lt v (by decide)
        change 0x80 + v % 64 ≤ 191
        omega)
    · change v / 64 * 64 + v % 64 = v
      omega
  · by_cases hthree : v ≤ 0xFFFF
    · refine ⟨_, v / 4096, 2, _, _, [v / 64 % 64, v % 64], .three (v / 4096) (by omega), rfl, ?_, ?_⟩
      · refine within_cons (by simp; omega) ?_ ?_
        · split_ifs with h0
          · change 160 ≤ _
            omega
          · exact Nat.le_add_right _ _
        · split_ifs with hD
          · change _ ≤ 159
            omega
          · change _ ≤ 191
            omega
      · change (v / 4096 * 64 + v / 64 % 64) * 64 + v % 64 = v
        omega
    · refine ⟨_, v / 262144, 3, _, _, [v / 4096 % 64, v / 64 % 64, v % 64],
        .four (v / 262144) (by omega), rfl, ?_, ?_⟩
      · refine within_cons (by simp; omega) ?_ ?_
        · split_ifs with h0
          · change 144 ≤ _
            omega
          · exact Nat.le_add_right _ _
        · split_ifs with h4
          · change _ ≤ 143
            omega
          · change _ ≤ 191
            omega
      · change ((v / 262144 * 64 + v / 4096 % 64) * 64 + v / 64 % 64) * 64 + v % 64 = v
        omega

/-- Reading a whole continuation. -/
theorem continued_map {value : Nat} {low high : UInt8} {xs : List Nat} (h : Within low high xs)
    (rest : Bytes) :
    continued value xs.length low high (xs.map continuation ++ rest) =
      (some (code value xs), rest) := by
  induction xs generalizing value low high with
  | nil => rfl
  | cons x xs ih =>
      have hx := h.small x List.mem_cons_self
      have hrest : Within 0x80 0xBF xs := by
        refine ⟨fun y hy => h.small y (List.mem_cons_of_mem x hy), fun y hy => ?_⟩
        have hy := h.small y (List.mem_cons_of_mem x (List.mem_of_head? hy))
        rw [UInt8.le_iff_toNat_le, UInt8.le_iff_toNat_le, toNat_continuation hy]
        refine ⟨Nat.le_add_right _ _, ?_⟩
        change _ ≤ 191
        omega
      rw [List.map_cons, List.cons_append, List.length_cons, continued,
        if_pos (by simpa using h.first x rfl), toNat_continuation hx, Nat.add_sub_cancel_left,
        ih hrest, code_cons]

/-- Reading takes groups as long as they are within bounds. -/
theorem exists_of_continued {value n : Nat} {low high : UInt8} {bs rest : Bytes} {v : Option Nat}
    (hlow : 0x80 ≤ low) (hhigh : high ≤ 0xBF) (h : continued value n low high bs = (v, rest)) :
    ∃ xs, bs = xs.map continuation ++ rest ∧ Within low high xs ∧
      ((xs.length = n ∧ v = some (code value xs)) ∨
        (xs.length < n ∧ v = none ∧ ∀ b more, rest.head? = some b →
          (continued value n low high (xs.map continuation ++ b :: more)).1 = none)) := by
  induction n generalizing value low high bs with
  | zero =>
      cases h
      exact ⟨[], rfl, ⟨by simp, by simp⟩, .inl ⟨rfl, rfl⟩⟩
  | succ n ih =>
      cases bs with
      | nil =>
          cases h
          refine ⟨[], rfl, ⟨by simp, by simp⟩, .inr ⟨Nat.succ_pos n, rfl, fun b more hb => ?_⟩⟩
          cases hb
      | cons b bs =>
          rw [continued] at h
          by_cases hb : low ≤ b ∧ b ≤ high
          · rw [if_pos (by simpa using hb)] at h
            obtain ⟨hx, hcont⟩ := exists_continuation (UInt8.le_trans hlow hb.1)
              (UInt8.le_trans hb.2 hhigh)
            obtain ⟨xs, rfl, hxs, hend⟩ := ih (by decide) (by decide) h
            refine ⟨(b.toNat - 0x80) :: xs, ?_, ⟨List.forall_mem_cons.mpr ⟨hx, hxs.small⟩, ?_⟩, ?_⟩
            · rw [List.map_cons, hcont, List.cons_append]
            · intro y hy
              obtain rfl := Option.some.inj hy
              rwa [hcont]
            · rcases hend with ⟨hlength, hv⟩ | ⟨hlength, hv, hstuck⟩
              · exact .inl ⟨congrArg Nat.succ hlength, by rw [hv, code_cons]⟩
              · refine .inr ⟨Nat.succ_lt_succ hlength, hv, fun c more hc => ?_⟩
                rw [List.map_cons, hcont, List.cons_append, continued, if_pos (by simpa using hb)]
                exact hstuck c more hc
          · rw [if_neg (by simpa using hb)] at h
            cases h
            refine ⟨[], rfl, ⟨by simp, by simp⟩, .inr ⟨Nat.succ_pos n, rfl, fun c more hc => ?_⟩⟩
            obtain rfl : b = c := Option.some.inj hc
            rw [List.map_nil, List.nil_append, continued, if_neg (by simpa using hb)]

end ImportResolver.Text.Utf8

import ImportResolver.Proofs.Source.Bytewise
import ImportResolver.Proofs.Source.Splice
import ImportResolver.Proofs.Text.Mending
/- The bytes of a text, read one by one. No byte of a character beyond ASCII is taken for one of
another kind, so what goes on at its first byte goes on to its last. -/
namespace ImportResolver.Source.Bytewise

/-- The same character, or another one of those beyond ASCII. -/
def Similar (c d : Char) : Prop := d = c ∨ (0x80 ≤ c.toNat ∧ 0x80 ≤ d.toNat)

theorem toNat_letter (b : UInt8) : (letter b).toNat = b.toNat := by
  have := b.toNat_lt
  exact Text.Utf8.toNat_ofNat (.inl (by omega))

theorem utf8EncodeChar_ascii {c : Char} (h : c.toNat < 0x80) :
    String.utf8EncodeChar c = [UInt8.ofNat c.toNat] := Text.Utf8.encodeCode_ascii h

theorem exists_encode (c : Char) : ∃ b bs, String.utf8EncodeChar c = b :: bs := by
  refine List.exists_cons_of_length_pos ?_
  rw [String.length_utf8EncodeChar]
  exact c.utf8Size_pos

theorem utf8Size_ascii {c : Char} (h : c.toNat < 0x80) : c.utf8Size = 1 := by
  rw [← String.length_utf8EncodeChar, utf8EncodeChar_ascii h]
  rfl

theorem byteSize_reverse (s : List Char) : byteSize s.reverse = byteSize s := by
  induction s with
  | nil => rfl
  | cons c s ih => simp [ih, Nat.add_comm]

theorem letter_ascii {c : Char} (h : c.toNat < 0x80) : letter (UInt8.ofNat c.toNat) = c := by
  have hb : (UInt8.ofNat c.toNat).toNat = c.toNat := by
    rw [UInt8.toNat_ofNat']
    omega
  rw [letter, hb, Char.ofNat_toNat]

theorem high_of_mem {c : Char} (h : 0x80 ≤ c.toNat) {b : UInt8}
    (hb : b ∈ String.utf8EncodeChar c) : 0x80 ≤ b.toNat := by
  rw [Text.Utf8.utf8EncodeChar_eq, Text.Utf8.encodeCode] at hb
  split_ifs at hb
  · omega
  · simp only [List.mem_cons, List.not_mem_nil, or_false] at hb
    rcases hb with rfl | rfl <;> rw [UInt8.toNat_ofNat'] <;> omega
  · simp only [List.mem_cons, List.not_mem_nil, or_false] at hb
    rcases hb with rfl | rfl | rfl <;> rw [UInt8.toNat_ofNat'] <;> omega
  · simp only [List.mem_cons, List.not_mem_nil, or_false] at hb
    rcases hb with rfl | rfl | rfl | rfl <;> rw [UInt8.toNat_ofNat'] <;> omega

/-- Every byte of a character reads as the character or as another one beyond ASCII. -/
theorem similar_of_mem {c : Char} {b : UInt8} (hb : b ∈ String.utf8EncodeChar c) :
    Similar c (letter b) := by
  by_cases h : c.toNat < 0x80
  · rw [utf8EncodeChar_ascii h] at hb
    rw [List.mem_singleton.mp hb, letter_ascii h]
    exact .inl rfl
  · have hhigh := high_of_mem (Nat.le_of_not_lt h) hb
    exact .inr ⟨Nat.le_of_not_lt h, by rw [toNat_letter]; exact hhigh⟩

/-- A test that does not tell characters beyond ASCII apart. -/
def Uniform (p : Char → Bool) : Prop :=
  ∀ c d : Char, 0x80 ≤ c.toNat → 0x80 ≤ d.toNat → p c = p d

theorem Uniform.similar {p : Char → Bool} (hp : Uniform p) {c d : Char} (h : Similar c d) :
    p d = p c := by
  rcases h with rfl | ⟨hc, hd⟩
  · rfl
  · exact hp d c hd hc

theorem Similar.eq_iff {c d a : Char} (h : Similar c d) (ha : a.toNat < 0x80) : d = a ↔ c = a := by
  rcases h with rfl | ⟨hc, hd⟩
  · rfl
  · constructor
    · rintro rfl
      omega
    · rintro rfl
      omega

theorem isWord_of_high {c : Char} (h : 0x80 ≤ c.toNat) : isWord c = true := by simp [isWord, h]

theorem uniform_isWord : Uniform isWord := fun c d hc hd => by
  rw [isWord_of_high hc, isWord_of_high hd]

theorem uniform_isSpace : Uniform isSpace := fun c d hc hd => by
  have hnot {c : Char} (h : 0x80 ≤ c.toNat) : isSpace c = false := by
    simp only [isSpace, Bool.or_eq_false_iff, decide_eq_false_iff_not]
    refine ⟨⟨⟨⟨?_, ?_⟩, ?_⟩, ?_⟩, ?_⟩ <;> rintro rfl <;> exact absurd h (by decide)
  rw [hnot hc, hnot hd]

theorem uniform_isQuote : Uniform isQuote := fun c d hc hd => by
  have hnot {c : Char} (h : 0x80 ≤ c.toNat) : isQuote c = false := by
    simp only [isQuote, Bool.or_eq_false_iff, decide_eq_false_iff_not]
    refine ⟨⟨?_, ?_⟩, ?_⟩ <;> rintro rfl <;> exact absurd h (by decide)
  rw [hnot hc, hnot hd]

theorem uniform_ne {a : Char} (ha : a.toNat < 0x80) : Uniform (· ≠ a) := fun c d hc hd => by
  have hne {c : Char} (h : 0x80 ≤ c.toNat) : c ≠ a := by
    rintro rfl
    omega
  simp [hne hc, hne hd]

theorem uniform_isClauseChar : Uniform isClauseChar := fun c d hc hd => by
  simp [isClauseChar, isWord_of_high hc, isWord_of_high hd]

/-- From the index `i` on, the input is this text. -/
def At (input : Bytes) (i : Nat) (s : List Char) : Prop :=
  ∃ front, input = front ++ bytes s ∧ i = front.length

/-- The index `i` is where these two parts of the input meet, the first one written backward. -/
structure Between (input : Bytes) (i : Nat) (before s : List Char) : Prop where
  input : input = bytes (before.reverse ++ s)
  index : i = byteSize before

section

variable {input : Bytes} {i : Nat} {before s t : List Char} {c : Char}

theorem At.advance (h : At input i (t ++ s)) : At input (i + byteSize t) s := by
  obtain ⟨front, rfl, rfl⟩ := h
  exact ⟨front ++ bytes t, by simp, by simp⟩

theorem At.tail (h : At input i (c :: s)) : At input (i + c.utf8Size) s :=
  At.advance (t := [c]) h

theorem At.length (h : At input i s) : input.length = i + byteSize s := by
  obtain ⟨front, rfl, rfl⟩ := h
  simp

theorem At.length_nil (h : At input i []) : input.length = i := h.length

theorem At.drop (h : At input i s) : input.drop i = bytes s := by
  obtain ⟨front, rfl, rfl⟩ := h
  exact List.drop_left

theorem At.lt (h : At input i (c :: s)) : i < input.length := by
  have := c.utf8Size_pos
  rw [h.length, byteSize_cons]
  omega

theorem look_eq_of_at? {d : Char} (h : at? input i = some d) : look input i = .ok d := by
  rw [look, h]

theorem At.at?_nil (h : At input i []) : at? input i = none := by
  rw [at?, List.getElem?_eq_none (Nat.le_of_eq h.length_nil)]
  rfl

/-- What is read where a character begins. -/
theorem At.at?_cons (h : At input i (c :: s)) : ∃ d, Similar c d ∧ at? input i = some d := by
  obtain ⟨b, bs, hb⟩ := exists_encode c
  have hat : input[i]? = some b := by
    rw [← Nat.add_zero i, ← List.getElem?_drop, h.drop]
    change (String.utf8EncodeChar c ++ bytes s)[0]? = _
    rw [hb]
    rfl
  refine ⟨letter b, similar_of_mem (c := c) (by rw [hb]; exact List.mem_cons_self), ?_⟩
  rw [at?, hat]
  rfl

theorem At.at?_ascii (h : At input i (c :: s)) (hc : c.toNat < 0x80) : at? input i = some c := by
  obtain ⟨d, hd, hat⟩ := h.at?_cons
  rwa [(hd.eq_iff hc).mpr rfl] at hat

theorem At.at?_eq_iff (h : At input i s) {a : Char} (ha : a.toNat < 0x80) :
    at? input i = some a ↔ s.head? = some a := by
  cases s with
  | nil => rw [h.at?_nil]; rfl
  | cons c s =>
      obtain ⟨d, hd, hat⟩ := h.at?_cons
      rw [hat, List.head?_cons, Option.some.injEq, Option.some.injEq]
      exact hd.eq_iff ha

/-- What goes on from each of some bytes as from the next goes on behind them. -/
theorem pass_over {α : Type} (f : Nat → α) (front mid back : Bytes)
    (h : input = front ++ (mid ++ back))
    (hstep : ∀ i b, input[i]? = some b → b ∈ mid → f i = f (i + 1)) :
    f front.length = f (front.length + mid.length) := by
  induction mid generalizing front with
  | nil => rfl
  | cons b mid ih =>
      have hb : input[front.length]? = some b := by
        rw [h, List.getElem?_append_right (Nat.le_refl _), Nat.sub_self]
        rfl
      have hrest := ih (front ++ [b]) (by rw [h]; simp) fun i d hi hd =>
        hstep i d hi (List.mem_cons_of_mem b hd)
      rw [hstep front.length b hb List.mem_cons_self]
      rw [List.length_append, List.length_singleton] at hrest
      rw [hrest, List.length_cons, Nat.add_assoc, Nat.add_comm 1]

/-- What goes on at every byte beyond ASCII goes on from the second byte of a character. -/
theorem At.pass_tail {α : Type} (f : Nat → α) (h : At input i (c :: s))
    (hstep : ∀ i d, at? input i = some d → 0x80 ≤ d.toNat → f i = f (i + 1)) :
    f (i + 1) = f (i + c.utf8Size) := by
  obtain ⟨b, bs, hb⟩ := exists_encode c
  have hsize := String.length_utf8EncodeChar c
  rw [hb, List.length_cons] at hsize
  obtain ⟨front, rfl, rfl⟩ := h
  have hinput : front ++ bytes (c :: s) = (front ++ [b]) ++ (bs ++ bytes s) := by
    change front ++ (String.utf8EncodeChar c ++ bytes s) = _
    rw [hb]
    simp
  have hpass := pass_over f (front ++ [b]) bs (bytes s) hinput fun i d hi hd => by
    refine hstep i (letter d) (by rw [at?, hi]; rfl) ?_
    have hc : 0x80 ≤ c.toNat := by
      by_contra hc
      rw [utf8EncodeChar_ascii (Nat.lt_of_not_le hc), List.cons.injEq] at hb
      rw [← hb.2] at hd
      cases hd
    rw [toNat_letter]
    exact high_of_mem hc (by rw [hb]; exact List.mem_cons_of_mem b hd)
  rw [List.length_append, List.length_singleton, Nat.add_assoc, Nat.add_comm 1, hsize] at hpass
  exact hpass

/-- What goes on at all bytes that read as a character goes on behind it. -/
theorem At.pass_char {α : Type} (f : Nat → α) (h : At input i (c :: s))
    (hstep : ∀ i d, at? input i = some d → Similar c d → f i = f (i + 1)) :
    f i = f (i + c.utf8Size) := by
  obtain ⟨d, hd, hat⟩ := h.at?_cons
  rw [hstep i d hat hd]
  by_cases hc : c.toNat < 0x80
  · rw [utf8Size_ascii hc]
  · exact h.pass_tail f fun j e he hhigh => hstep j e he (.inr ⟨Nat.le_of_not_lt hc, hhigh⟩)

theorem Between.at (h : Between input i before s) : At input i s := by
  obtain ⟨rfl, rfl⟩ := h
  exact ⟨bytes before.reverse, by simp, by rw [length_bytes, byteSize_reverse]⟩

theorem Between.advance (h : Between input i before (t ++ s)) :
    Between input (i + byteSize t) (t.reverse ++ before) s := by
  obtain ⟨rfl, rfl⟩ := h
  exact ⟨by simp, by rw [byteSize_append, byteSize_reverse, Nat.add_comm]⟩

theorem Between.tail (h : Between input i before (c :: s)) :
    Between input (i + c.utf8Size) (c :: before) s := Between.advance (t := [c]) h

/-- The same place in a text, with what was passed there put back. -/
theorem Between.back (h : Between input i (t ++ before) s) :
    Between input (byteSize before) before (t.reverse ++ s) :=
  ⟨by rw [h.input]; simp, rfl⟩

/-- What is read just before a place. -/
theorem Between.at?_prev (h : Between input i (c :: before) s) :
    0 < i ∧ ∃ d, Similar c d ∧ at? input (i - 1) = some d := by
  have hsize := c.utf8Size_pos
  have hi : i = c.utf8Size + byteSize before := h.index
  have hlt : c.utf8Size - 1 < (String.utf8EncodeChar c).length := by
    rw [String.length_utf8EncodeChar]
    omega
  have hget : input[i - 1]? = (String.utf8EncodeChar c)[c.utf8Size - 1]? := by
    have hback : At input (byteSize before) (c :: s) := (Between.back (t := [c]) h).at
    rw [show i - 1 = byteSize before + (c.utf8Size - 1) by omega, ← List.getElem?_drop, hback.drop]
    exact List.getElem?_append_left hlt
  rw [List.getElem?_eq_getElem hlt] at hget
  exact ⟨by omega, _, similar_of_mem (List.getElem_mem hlt), by rw [at?, hget]; rfl⟩

end

/-- Bytes of a text, each read as a character. -/
def letters (s : List Char) : List Char := (bytes s).map letter

theorem letters_cons (c : Char) (s : List Char) :
    letters (c :: s) = (String.utf8EncodeChar c).map letter ++ letters s := List.map_append

/-- A text of ASCII characters stands in the bytes just where it stands in the text. -/
theorem prefix_letters_iff {word s : List Char} (hword : ∀ c ∈ word, c.toNat < 0x80) :
    word <+: letters s ↔ word <+: s := by
  induction word generalizing s with
  | nil => simp
  | cons a word ih =>
      have ha := hword a List.mem_cons_self
      cases s with
      | nil => rfl
      | cons c s =>
          rw [letters_cons, List.cons_prefix_cons]
          by_cases hc : c.toNat < 0x80
          · rw [utf8EncodeChar_ascii hc, List.map_singleton, letter_ascii hc, List.singleton_append,
              List.cons_prefix_cons, ih fun d hd => hword d (List.mem_cons_of_mem a hd)]
          · obtain ⟨b, bs, hb⟩ := exists_encode c
            have hhigh : 0x80 ≤ (letter b).toNat := by
              rw [toNat_letter]
              exact high_of_mem (Nat.le_of_not_lt hc) (by rw [hb]; exact List.mem_cons_self)
            rw [hb, List.map_cons, List.cons_append, List.cons_prefix_cons]
            refine iff_of_false ?_ ?_
            · rintro ⟨rfl, -⟩
              omega
            · rintro ⟨rfl, -⟩
              exact hc ha

theorem letters_ascii {word : List Char} (hword : ∀ c ∈ word, c.toNat < 0x80) :
    letters word = word := by
  induction word with
  | nil => rfl
  | cons a word ih =>
      have ha := hword a List.mem_cons_self
      rw [letters_cons, utf8EncodeChar_ascii ha, List.map_singleton, letter_ascii ha,
        ih fun d hd => hword d (List.mem_cons_of_mem a hd)]
      rfl

theorem letters_eq_iff {word s : List Char} (hword : ∀ c ∈ word, c.toNat < 0x80) :
    letters s = word ↔ s = word := by
  constructor
  · intro h
    obtain ⟨rest, rfl⟩ := (prefix_letters_iff hword).mp (by rw [h])
    have hrest : letters rest = [] := by
      have hsplit : letters (word ++ rest) = letters word ++ letters rest := by
        rw [letters, bytes_append, List.map_append]
        rfl
      rw [hsplit, letters_ascii hword] at h
      exact List.append_right_eq_self.mp h
    have hlength : byteSize rest = 0 := by
      rw [← length_bytes, ← List.length_map (f := letter)]
      exact congrArg List.length hrest
    have := length_le_byteSize rest
    have hnil : rest = [] := List.eq_nil_of_length_eq_zero (by omega)
    rw [hnil, List.append_nil]
  · rintro rfl
    exact letters_ascii hword

end ImportResolver.Source.Bytewise

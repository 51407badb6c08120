import ImportResolver.Proofs.Text.Sequence
/- Reading bytes as text and encoding the text again keeps the bytes of every character and mends
what forms none. -/
namespace ImportResolver.Text.Utf8

theorem encodeCode_ascii {v : Nat} (h : v < 0x80) : encodeCode v = [UInt8.ofNat v] := by
  rw [encodeCode, if_pos (by omega)]

/-- The bytes of a character are read as that character, whatever follows them. -/
theorem head_encode (c : Char) (rest : Bytes) :
    ∃ b bs, String.utf8EncodeChar c = b :: bs ∧ head b (bs ++ rest) = (some c, rest) := by
  rw [utf8EncodeChar_eq]
  by_cases hascii : c.toNat < 0x80
  · refine ⟨UInt8.ofNat c.toNat, [], encodeCode_ascii hascii, ?_⟩
    have hb : (UInt8.ofNat c.toNat).toNat = c.toNat := by
      rw [UInt8.toNat_ofNat']
      omega
    have hlt : UInt8.ofNat c.toNat < 0x80 := by
      rw [UInt8.lt_iff_toNat_lt, hb]
      exact hascii
    rw [head, if_pos hlt, hb, Char.ofNat_toNat]
    rfl
  · obtain ⟨b, value, n, low, high, xs, hleads, rfl, hxs, hcode⟩ :=
      exists_leads c (Nat.le_of_not_lt hascii)
    refine ⟨b, xs.map continuation, ?_, ?_⟩
    · rw [← hcode]
      exact (hleads.encode rfl hxs).2
    · rw [head, if_neg hleads.first_not_lt, hleads.lead?]
      simp only [continued_map hxs, hcode, Option.map_some, Char.ofNat_toNat]

/-- What is read as a character are the bytes of that character. -/
theorem eq_of_head {b : UInt8} {bs rest : Bytes} {c : Char} (h : head b bs = (some c, rest)) :
    b :: bs = String.utf8EncodeChar c ++ rest := by
  rw [utf8EncodeChar_eq]
  rw [head] at h
  by_cases hascii : b < 0x80
  · rw [if_pos hascii] at h
    cases h
    have hb : b.toNat < 0x80 := hascii
    rw [toNat_ofNat (.inl (by omega)), encodeCode_ascii hb, UInt8.ofNat_toNat]
    rfl
  · rw [if_neg hascii] at h
    cases hl : lead? b with
    | none =>
        rw [hl] at h
        cases h
    | some r =>
        obtain ⟨value, n, low, high⟩ := r
        have hleads := leads_of_lead? hl
        obtain ⟨v, rest', hv⟩ : ∃ v rest', continued value n low high bs = (v, rest') :=
          ⟨_, _, rfl⟩
        simp only [hl, hv] at h
        obtain ⟨xs, rfl, hxs, ⟨hlength, rfl⟩ | ⟨-, rfl, -⟩⟩ :=
          exists_of_continued hleads.bounds.1 hleads.bounds.2 hv
        · cases h
          obtain ⟨hvalid, hencode⟩ := hleads.encode hlength hxs
          rw [toNat_ofNat hvalid, hencode]
          rfl
        · cases h

/-- A part of bytes at which no character begins: as much as could begin one, or else one byte. -/
structure IllFormed (part rest : Bytes) : Prop where
  nonempty : part ≠ []
  noCharacter : ∀ c, ¬ String.utf8EncodeChar c <+: part ++ rest
  begins : part.length = 1 ∨ ∃ c, part <+: String.utf8EncodeChar c
  longest : ∀ c more, more <+: part ++ rest → more <+: String.utf8EncodeChar c →
    more.length ≤ part.length

theorem not_encode_prefix {b : UInt8} {bs rest : Bytes} (h : head b bs = (none, rest)) (c : Char) :
    ¬ String.utf8EncodeChar c <+: b :: bs := by
  rintro ⟨after, hafter⟩
  obtain ⟨b', bs', hc, hhead⟩ := head_encode c after
  rw [hc, List.cons_append] at hafter
  obtain ⟨rfl, rfl⟩ := List.cons.inj hafter
  rw [hhead] at h
  cases h

/-- Nothing longer than what was taken begins a character. -/
theorem length_le_of_stuck {b : UInt8} {taken rest more : Bytes} {c : Char}
    (hstuck : ∀ x after, rest.head? = some x → (head b (taken ++ x :: after)).1 = none)
    (hmore : more <+: b :: taken ++ rest) (hc : more <+: String.utf8EncodeChar c) :
    more.length ≤ (b :: taken).length := by
  by_contra hlong
  -- Then the next byte is in the encoding, so reading that would be stuck there as well.
  obtain ⟨x, rest', rfl⟩ : ∃ x rest', rest = x :: rest' := by
    cases rest with
    | nil =>
        rw [List.append_nil] at hmore
        exact absurd hmore.length_le hlong
    | cons x rest' => exact ⟨x, rest', rfl⟩
  have hnext : b :: taken ++ [x] <+: String.utf8EncodeChar c := by
    refine List.IsPrefix.trans ?_ hc
    refine @List.prefix_of_prefix_length_le _ _ _ (b :: taken ++ x :: rest') ?_ hmore ?_
    · exact ⟨rest', by simp⟩
    · simp at hlong ⊢
      omega
  obtain ⟨after, hafter⟩ := hnext
  obtain ⟨b', bs', hcode, hhead⟩ := head_encode c []
  rw [hcode] at hafter
  simp only [List.cons_append, List.append_assoc, List.cons.injEq] at hafter
  obtain ⟨rfl, rfl⟩ := hafter
  have hnone := hstuck x after rfl
  rw [List.append_nil] at hhead
  simp only [List.nil_append] at hhead
  rw [hhead] at hnone
  cases hnone

/-- Groups that are too few can be completed by zeros. -/
theorem Leads.begins {b low high : UInt8} {value n x : Nat} {xs : List Nat}
    (h : Leads b value n low high) (hlength : (x :: xs).length ≤ n)
    (hxs : Within low high (x :: xs)) :
    ∃ c, b :: (x :: xs).map continuation <+: String.utf8EncodeChar c := by
  let zeros := List.replicate (n - (x :: xs).length) 0
  have hall : ((x :: xs) ++ zeros).length = n := by
    rw [List.length_append, List.length_replicate]
    omega
  have hwithin : Within low high ((x :: xs) ++ zeros) := by
    refine ⟨fun y hy => ?_, fun y hy => hxs.first y hy⟩
    rcases List.mem_append.mp hy with hy | hy
    · exact hxs.small y hy
    · rw [List.eq_of_mem_replicate hy]
      decide
  obtain ⟨hvalid, hencode⟩ := h.encode hall hwithin
  refine ⟨Char.ofNat (code value ((x :: xs) ++ zeros)), zeros.map continuation, ?_⟩
  rw [utf8EncodeChar_eq, toNat_ofNat hvalid, hencode, List.map_append]
  rfl

theorem illFormed_of_head {b : UInt8} {bs rest : Bytes} (h : head b bs = (none, rest)) :
    ∃ part, b :: bs = part ++ rest ∧ IllFormed part rest := by
  have hnone := not_encode_prefix h
  rw [head] at h
  by_cases hascii : b < 0x80
  · rw [if_pos hascii] at h
    cases h
  · rw [if_neg hascii] at h
    cases hl : lead? b with
    | none =>
        rw [hl] at h
        cases h
        refine ⟨[b], rfl, by simp, hnone, .inl rfl, fun c more hmore hc => ?_⟩
        refine @length_le_of_stuck b [] bs more c (fun x after _ => ?_) hmore hc
        rw [head, if_neg hascii, hl]
    | some r =>
        obtain ⟨value, n, low, high⟩ := r
        have hleads := leads_of_lead? hl
        obtain ⟨v, rest', hv⟩ : ∃ v rest', continued value n low high bs = (v, rest') :=
          ⟨_, _, rfl⟩
        simp only [hl, hv] at h
        obtain ⟨xs, rfl, hxs, ⟨-, rfl⟩ | ⟨hlength, rfl, hstuck⟩⟩ :=
          exists_of_continued hleads.bounds.1 hleads.bounds.2 hv
        · cases h
        · cases h
          refine ⟨b :: xs.map continuation, rfl, by simp, hnone, ?_, fun c more hmore hc => ?_⟩
          · cases xs with
            | nil => exact .inl rfl
            | cons x xs => exact .inr (hleads.begins (Nat.le_of_lt hlength) hxs)
          · refine length_le_of_stuck (fun x after hx => ?_) hmore hc
            have hnone := hstuck x after hx
            rw [head, if_neg hascii, hl]
            simp only [hnone, Option.map_none]

/-- The bytes of characters stay, and each part that forms none becomes a replacement character. -/
inductive Mended : Bytes → Bytes → Prop
  | nil : Mended [] []
  | kept (c : Char) {bs cs : Bytes} : Mended bs cs →
      Mended (String.utf8EncodeChar c ++ bs) (String.utf8EncodeChar c ++ cs)
  | mended {part bs cs : Bytes} : IllFormed part bs → Mended bs cs →
      Mended (part ++ bs) ([0xEF, 0xBF, 0xBD] ++ cs)

theorem mended_decode (bs : Bytes) :
    Mended bs (((decode bs).map (·.getD (Char.ofNat 0xFFFD))).flatMap String.utf8EncodeChar) := by
  fun_induction decode bs with
  | case1 => exact .nil
  | case2 b bs c rest h ih =>
      cases c with
      | some c =>
          rw [eq_of_head h]
          exact .kept c ih
      | none =>
          obtain ⟨part, hpart, hill⟩ := illFormed_of_head h
          rw [hpart]
          exact .mended hill ih

theorem mended_decodeLossy (bs : Bytes) : Mended bs (encode (decodeLossy bs)) := by
  have h := mended_decode bs
  rwa [encode, decodeLossy, String.toList_ofList]

theorem decode_utf8EncodeChar (c : Char) (rest : Bytes) :
    decode (String.utf8EncodeChar c ++ rest) = some c :: decode rest := by
  obtain ⟨b, bs, hc, hhead⟩ := head_encode c rest
  rw [hc, List.cons_append, decode, hhead]

/-- Well-formed text is read as it is. -/
theorem decodeLossy_encode (s : String) : decodeLossy (encode s) = s := by
  have hdecode : ∀ cs : List Char, decode (cs.flatMap String.utf8EncodeChar) = cs.map some := by
    intro cs
    induction cs with
    | nil => rw [List.flatMap_nil, decode, List.map_nil]
    | cons c cs ih => rw [List.flatMap_cons, decode_utf8EncodeChar, ih, List.map_cons]
  rw [decodeLossy, encode, hdecode, List.map_map]
  simp [Function.comp_def]

end ImportResolver.Text.Utf8

import ImportResolver.Proofs.Source.Piece
import ImportResolver.Source.Site
import ImportResolver.Text.Utf8
import Mathlib.Data.String.Basic
/- Source text as bytes: where the sites stand in it, and the bytes with other texts in the place of
the sites. -/
namespace ImportResolver.Source

def bytes (cs : List Char) : Bytes := cs.flatMap String.utf8EncodeChar

@[simp] theorem bytes_toList (s : String) : bytes s.toList = Text.Utf8.encode s := rfl

@[simp] theorem bytes_append (s t : List Char) : bytes (s ++ t) = bytes s ++ bytes t :=
  List.flatMap_append

@[simp] theorem byteSize_nil : byteSize [] = 0 := rfl

@[simp] theorem byteSize_cons (c : Char) (s : List Char) :
    byteSize (c :: s) = c.utf8Size + byteSize s := rfl

@[simp] theorem byteSize_append (s t : List Char) :
    byteSize (s ++ t) = byteSize s + byteSize t := by
  induction s with
  | nil => simp
  | cons c s ih => rw [List.cons_append, byteSize_cons, byteSize_cons, ih, Nat.add_assoc]

@[simp] theorem lineFeeds_append (s t : List Char) :
    lineFeeds (s ++ t) = lineFeeds s + lineFeeds t := List.count_append

theorem lineFeeds_quote {quote : Char} (hq : isQuote quote = true) : lineFeeds [quote] = 0 := by
  rcases isQuote_iff.mp hq with rfl | rfl | rfl <;> rfl

@[simp] theorem length_bytes (s : List Char) : (bytes s).length = byteSize s := by
  induction s with
  | nil => rfl
  | cons c s ih =>
      change (String.utf8EncodeChar c ++ bytes s).length = _
      rw [List.length_append, String.length_utf8EncodeChar, ih, byteSize_cons]

theorem length_le_byteSize (s : List Char) : s.length ≤ byteSize s := by
  induction s with
  | nil => exact Nat.le_refl 0
  | cons c s ih =>
      have := c.utf8Size_pos
      rw [List.length_cons, byteSize_cons]
      omega

theorem byteSize_eq_utf8Len (s : List Char) : byteSize s = String.utf8Len s := by
  induction s with
  | nil => rfl
  | cons c s ih => rw [byteSize_cons, String.utf8Len_cons, ih, Nat.add_comm]

theorem utf8ByteSize_eq (s : String) : s.utf8ByteSize = byteSize s.toList := by
  rw [byteSize_eq_utf8Len, ← String.utf8ByteSize_ofList, String.ofList_toList]

@[simp] theorem encode_ofList (s : List Char) : Text.Utf8.encode (String.ofList s) = bytes s := by
  rw [← bytes_toList, String.toList_ofList]

theorem take_bytes (s t : List Char) : (bytes (s ++ t)).take (byteSize s) = bytes s := by
  rw [bytes_append, ← length_bytes, List.take_left]

theorem drop_bytes (s t : List Char) : (bytes (s ++ t)).drop (byteSize s) = bytes t := by
  rw [bytes_append, ← length_bytes, List.drop_left]

/-- What stands between two places of a text, the first not behind the second. -/
theorem bytes_between (s m t : List Char) :
    ((bytes (s ++ (m ++ t))).take (byteSize (s ++ m))).drop (byteSize s) = bytes m := by
  rw [← List.append_assoc, take_bytes, drop_bytes]

theorem slice_eq {source : String} {s m t : List Char} (h : source.toList = s ++ (m ++ t)) :
    slice source (byteSize s) (byteSize (s ++ m)) = String.ofList m := by
  have he := String.extract_of_valid s m t
  rw [List.append_assoc, ← h, String.ofList_toList] at he
  rw [slice, byteSize_append, byteSize_eq_utf8Len, byteSize_eq_utf8Len]
  exact he

/-- The bytes from `last` on, with a text in place of each site. -/
def splicedBytes (source : Bytes) (last : Nat) : List (Site × String) → Bytes
  | [] => source.drop last
  | (site, text) :: rest =>
      (source.take site.start).drop last ++ Text.Utf8.encode text ++
        splicedBytes source site.stop rest

/-- The sites stand behind `last` in the bytes, one behind another, and each has its specifier in
its span. -/
def Placed (source : Bytes) (last : Nat) : List Site → Prop
  | [] => last ≤ source.length
  | site :: rest =>
      last < site.start ∧ site.start ≤ site.stop ∧
        (source.take site.stop).drop site.start = Text.Utf8.encode site.raw ∧
        Placed source site.stop rest

theorem Placed.mono {source : Bytes} {last last' : Nat} {sites : List Site}
    (h : Placed source last' sites) (hle : last ≤ last') : Placed source last sites := by
  cases sites with
  | nil => exact Nat.le_trans hle h
  | cons site rest => exact ⟨Nat.lt_of_le_of_lt hle h.1, h.2⟩

theorem Placed.sublist {source : Bytes} {last : Nat} {sites kept : List Site}
    (hkept : kept.Sublist sites) (h : Placed source last sites) : Placed source last kept := by
  induction hkept generalizing last with
  | slnil => exact h
  | cons site _ ih =>
      obtain ⟨hstart, hstop, -, hrest⟩ := h
      exact ih (hrest.mono (Nat.le_trans (Nat.le_of_lt hstart) hstop))
  | cons_cons site _ ih => exact ⟨h.1, h.2.1, h.2.2.1, ih h.2.2.2⟩

theorem take_drop_append_drop {α : Type} (l : List α) {i j : Nat} (h : i ≤ j) :
    (l.take j).drop i ++ l.drop j = l.drop i := by
  obtain ⟨k, rfl⟩ := Nat.exists_eq_add_of_le h
  rw [List.drop_take, Nat.add_sub_cancel_left, ← List.drop_drop, List.take_append_drop]

/-- Bytes before the first site are copied. -/
theorem splicedBytes_copy {source : Bytes} {last start : Nat} {rest : List (Site × String)}
    (hle : last ≤ start) (h : Placed source start (rest.map (·.1))) :
    (source.take start).drop last ++ splicedBytes source start rest =
      splicedBytes source last rest := by
  cases rest with
  | nil => exact take_drop_append_drop source hle
  | cons s rest =>
      have hstart : start ≤ s.1.start := Nat.le_of_lt h.1
      have hcopy := take_drop_append_drop (source.take s.1.start) hle
      rw [List.take_take, Nat.min_eq_left hstart] at hcopy
      rw [splicedBytes, splicedBytes, ← hcopy, List.append_assoc, List.append_assoc,
        List.append_assoc]

/-- Sites that keep their specifiers need not be spliced. -/
theorem splicedBytes_filter {α : Type} {source : Bytes} (f : α → Site × String) (changed : α → Bool)
    {xs : List α} {last : Nat} (h : Placed source last (xs.map fun x => (f x).1))
    (hsame : ∀ x ∈ xs, changed x = false → (f x).2 = (f x).1.raw) :
    splicedBytes source last ((xs.filter changed).map f) =
      splicedBytes source last (xs.map f) := by
  induction xs generalizing last with
  | nil => rfl
  | cons x xs ih =>
      obtain ⟨hstart, hstop, hraw, hrest⟩ := h
      have hxs := ih hrest fun y hy => hsame y (List.mem_cons_of_mem x hy)
      cases hx : changed x with
      | true =>
          rw [List.filter_cons_of_pos hx, List.map_cons, List.map_cons, splicedBytes, splicedBytes,
            hxs]
      | false =>
          have hplaced : Placed source (f x).1.stop (((xs.filter changed).map f).map (·.1)) := by
            rw [List.map_map]
            exact Placed.sublist (List.filter_sublist.map _) hrest
          rw [List.filter_cons_of_neg (by simp [hx]), List.map_cons, splicedBytes,
            hsame x List.mem_cons_self hx, ← hraw, ← hxs, List.append_assoc,
            splicedBytes_copy hstop hplaced,
            splicedBytes_copy (Nat.le_of_lt hstart) (hplaced.mono hstop)]

theorem sitesFrom_site (start line : Nat) (kind : SiteKind) (lead raw : List Char) (quote : Char)
    (ps : List Piece) :
    sitesFrom start line (.site kind lead raw quote :: ps) =
      ⟨String.ofList raw, kind, start + byteSize lead, start + byteSize lead + byteSize raw,
        line + lineFeeds lead⟩ ::
        sitesFrom (start + byteSize lead + byteSize raw + quote.utf8Size)
          (line + lineFeeds lead + lineFeeds raw) ps := rfl

theorem placed_pieces {ps : List Piece} (hp : ∀ p ∈ ps, p.Proper) (s : List Char)
    (last line : Nat) (hlast : last ≤ byteSize s) :
    Placed (bytes (s ++ ps.flatMap Piece.text)) last (sitesFrom (byteSize s) line ps) := by
  induction ps generalizing s last line with
  | nil => simpa [sitesFrom, Placed] using hlast
  | cons p ps ih =>
      have hps := fun q hq => hp q (List.mem_cons_of_mem p hq)
      cases p with
      | other text =>
          have h := ih hps (s ++ text) last (line + lineFeeds text)
            (Nat.le_trans hlast (by rw [byteSize_append]; exact Nat.le_add_right _ _))
          rw [byteSize_append, List.append_assoc] at h
          exact h
      | site kind lead raw quote =>
          have hlead : 7 ≤ byteSize lead :=
            Nat.le_trans (hp _ List.mem_cons_self).2 (length_le_byteSize lead)
          have hspan := bytes_between (s ++ lead) raw ([quote] ++ ps.flatMap Piece.text)
          have h := ih hps (s ++ lead ++ raw ++ [quote]) (byteSize (s ++ lead ++ raw))
            (line + lineFeeds lead + lineFeeds raw)
            (by rw [byteSize_append _ [quote]]; exact Nat.le_add_right _ _)
          have htext : s ++ (Piece.site kind lead raw quote :: ps).flatMap Piece.text =
              s ++ lead ++ (raw ++ ([quote] ++ ps.flatMap Piece.text)) := by
            simp [Piece.text]
          rw [sitesFrom_site, htext]
          simp only [byteSize_append, List.append_assoc, byteSize_cons, byteSize_nil,
            Nat.add_zero, ← Nat.add_assoc] at hspan h ⊢
          refine ⟨?_, Nat.le_add_right _ _, ?_, h⟩
          · dsimp only
            omega
          · rw [hspan, encode_ofList]

/-- The sites of every text stand in it one behind another. -/
theorem placed_sites (source : String) :
    Placed (Text.Utf8.encode source) 0 (sites source) := by
  have h := placed_pieces (pieces_proper [] source.toList) [] 0 1 (Nat.le_refl 0)
  rwa [List.nil_append, flatMap_text_pieces, bytes_toList] at h

/-- The pieces with these texts as the specifiers of their sites. -/
def respelled : List Piece → List String → List Piece
  | .other text :: ps, texts => .other text :: respelled ps texts
  | .site kind lead _ quote :: ps, text :: texts =>
      .site kind lead text.toList quote :: respelled ps texts
  | ps, _ => ps

theorem splicedBytes_pieces (ps : List Piece) (texts : List String) (s m : List Char) (line : Nat)
    (h : texts.length = (sitesFrom (byteSize (s ++ m)) line ps).length) :
    splicedBytes (bytes (s ++ (m ++ ps.flatMap Piece.text))) (byteSize s)
        ((sitesFrom (byteSize (s ++ m)) line ps).zip texts) =
      bytes (m ++ (respelled ps texts).flatMap Piece.text) := by
  induction ps generalizing s m line texts with
  | nil =>
      change (bytes (s ++ (m ++ []))).drop (byteSize s) = _
      rw [drop_bytes]
      cases texts <;> rfl
  | cons p ps ih =>
      cases p with
      | other text =>
          have h' := ih texts s (m ++ text) (line + lineFeeds text)
          simp only [byteSize_append, List.append_assoc, ← Nat.add_assoc] at h h' ⊢
          exact h' h
      | site kind lead raw quote =>
          rw [sitesFrom_site] at h ⊢
          cases texts with
          | nil => cases h
          | cons text texts =>
              have h' := ih texts (s ++ (m ++ (lead ++ raw))) [quote]
                (line + lineFeeds lead + lineFeeds raw)
              have hlead := bytes_between s (m ++ lead)
                (raw ++ ([quote] ++ ps.flatMap Piece.text))
              have htext : s ++ (m ++ (Piece.site kind lead raw quote :: ps).flatMap Piece.text) =
                  s ++ (m ++ lead ++ (raw ++ ([quote] ++ ps.flatMap Piece.text))) := by
                simp [Piece.text]
              have hout : (respelled (.site kind lead raw quote :: ps) (text :: texts)).flatMap
                  Piece.text = lead ++ text.toList ++
                    ([quote] ++ (respelled ps texts).flatMap Piece.text) := by
                simp [respelled, Piece.text]
              rw [htext, hout]
              simp only [byteSize_append, byteSize_cons, byteSize_nil, Nat.add_zero,
                List.append_assoc, ← Nat.add_assoc] at h h' hlead ⊢
              rw [List.zip_cons_cons, splicedBytes, hlead, h' (Nat.succ.inj h)]
              simp only [bytes_append, bytes_toList, List.append_assoc]

/-- The spliced bytes are a text: that of the pieces with the texts in their sites. -/
theorem splicedBytes_sites {source : String} {texts : List String}
    (h : texts.length = (sites source).length) :
    splicedBytes (Text.Utf8.encode source) 0 ((sites source).zip texts) =
      bytes ((respelled (pieces [] source.toList) texts).flatMap Piece.text) := by
  have h' := splicedBytes_pieces (pieces [] source.toList) texts [] [] 1 h
  rwa [List.nil_append, List.nil_append, flatMap_text_pieces, bytes_toList] at h'

end ImportResolver.Source

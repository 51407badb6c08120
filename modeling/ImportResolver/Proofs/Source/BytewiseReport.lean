import ImportResolver.Proofs.Source.BytewiseScan
/- What the walk reports of the sites it finds: their texts, which begin and end with whole
characters, and their lines, counted in 32 bits. -/
namespace ImportResolver.Source.Bytewise

/-- Whether a character begins or ends at an index: a byte that continues one is 0x80 to 0xBF. -/
def isBoundary (bytes : Bytes) (i : Nat) : Bool :=
  i = 0 || i = bytes.length || bytes[i]?.any fun b => b < 0x80 || 0xC0 ≤ b

/-- Two places that bound a part of a text. -/
structure Bounds (bytes : Bytes) (start stop : Nat) : Prop where
  le : start ≤ stop
  length : stop ≤ bytes.length
  start : isBoundary bytes start = true
  stop : isBoundary bytes stop = true

instance (bytes : Bytes) (start stop : Nat) : Decidable (Bounds bytes start stop) :=
  decidable_of_iff (start ≤ stop ∧ stop ≤ bytes.length ∧ isBoundary bytes start = true ∧
    isBoundary bytes stop = true)
    ⟨fun ⟨hle, hlength, hstart, hstop⟩ => ⟨hle, hlength, hstart, hstop⟩,
      fun h => ⟨h.le, h.length, h.start, h.stop⟩⟩

def sliceText (source : String) (start stop : Nat) : Checked String :=
  if Bounds (Text.Utf8.encode source) start stop then .ok (Source.slice source start stop)
  else .error (.slice start stop)

/-- A line number has 32 bits, and so has what is added to it. -/
def lineLimit : Nat := 2 ^ 32

def addLines (line passed : Nat) : Checked Nat :=
  if line + passed % lineLimit < lineLimit then .ok (line + passed % lineLimit) else .error .line

/-- The sites that are found behind `counted`, where `line` is. -/
def report (source : String) (line counted : Nat) :
    List (SiteKind × Span) → Checked (List Site)
  | [] => .ok []
  | (kind, span) :: found => do
    let passed ← slice (Text.Utf8.encode source) counted span.start
    let line ← addLines line (passed.count 0x0A)
    let raw ← sliceText source span.start span.stop
    let sites ← report source line span.start found
    return ⟨raw, kind, span.start, span.stop, line⟩ :: sites

/-- The walk over the bytes of a text, and what it reports. -/
def scan (source : String) : Checked (List Site) := do
  report source 1 0 (← scanFrom (Text.Utf8.encode source) 0)

/-- The first byte of a character does not continue one. -/
theorem first_of_encode {c : Char} {b : UInt8} {bs : Bytes}
    (h : String.utf8EncodeChar c = b :: bs) : b < 0x80 ∨ 0xC0 ≤ b := by
  rw [Text.Utf8.utf8EncodeChar_eq, Text.Utf8.encodeCode] at h
  rw [UInt8.lt_iff_toNat_lt, UInt8.le_iff_toNat_le]
  change b.toNat < 0x80 ∨ 0xC0 ≤ b.toNat
  split_ifs at h
  · obtain ⟨rfl, -⟩ := List.cons.inj h
    rw [UInt8.toNat_ofNat']
    omega
  · obtain ⟨rfl, -⟩ := List.cons.inj h
    rw [UInt8.toNat_ofNat']
    omega
  · obtain ⟨rfl, -⟩ := List.cons.inj h
    rw [UInt8.toNat_ofNat']
    omega
  · obtain ⟨rfl, -⟩ := List.cons.inj h
    rw [UInt8.toNat_ofNat']
    omega

theorem At.isBoundary {input : Bytes} {i : Nat} {s : List Char} (h : At input i s) :
    isBoundary input i = true := by
  cases s with
  | nil => simp [Bytewise.isBoundary, h.length_nil]
  | cons c s =>
      obtain ⟨b, bs, hb⟩ := exists_encode c
      have hat : input[i]? = some b := by
        rw [← Nat.add_zero i, ← List.getElem?_drop, h.drop]
        change (String.utf8EncodeChar c ++ bytes s)[0]? = _
        rw [hb]
        rfl
      have hfirst := first_of_encode hb
      simp [Bytewise.isBoundary, hat, hfirst]

theorem at_of_split {source : String} {s t : List Char} (h : source.toList = s ++ t) :
    At (Text.Utf8.encode source) (byteSize s) t :=
  ⟨bytes s, by rw [← bytes_toList, h, bytes_append], (length_bytes s).symm⟩

theorem bounds_of_split {source : String} {s m t : List Char}
    (h : source.toList = s ++ (m ++ t)) :
    Bounds (Text.Utf8.encode source) (byteSize s) (byteSize (s ++ m)) := by
  have hstart := at_of_split h
  have hstop : At (Text.Utf8.encode source) (byteSize (s ++ m)) t :=
    at_of_split (by rw [h, List.append_assoc])
  refine ⟨?_, ?_, hstart.isBoundary, hstop.isBoundary⟩
  · rw [byteSize_append]
    exact Nat.le_add_right _ _
  · rw [hstop.length]
    exact Nat.le_add_right _ _

theorem sliceText_of_split {source : String} {s m t : List Char}
    (h : source.toList = s ++ (m ++ t)) :
    sliceText source (byteSize s) (byteSize (s ++ m)) = .ok (String.ofList m) := by
  rw [sliceText, if_pos (bounds_of_split h), slice_eq h]

theorem count_encode (c : Char) :
    (String.utf8EncodeChar c).count 0x0A = lineFeeds [c] := by
  by_cases hfeed : c = '\n'
  · subst hfeed
    decide
  · have hnone : lineFeeds [c] = 0 := List.count_eq_zero.mpr (by simpa using Ne.symm hfeed)
    rw [hnone, List.count_eq_zero]
    intro hmem
    -- The byte of a line feed would read as a character like `c`.
    have hsimilar := similar_of_mem hmem
    exact hfeed ((hsimilar.eq_iff (a := '\n') (by decide)).mp rfl)

theorem count_bytes (s : List Char) : (bytes s).count 0x0A = lineFeeds s := by
  induction s with
  | nil => rfl
  | cons c s ih =>
      change (String.utf8EncodeChar c ++ bytes s).count 0x0A = lineFeeds ([c] ++ s)
      rw [List.count_append, lineFeeds_append, ih, count_encode]

theorem addLines_ok {line passed : Nat} (h : line + passed < lineLimit) :
    addLines line passed = .ok (line + passed) := by
  have hmod : passed % lineLimit = passed := Nat.mod_eq_of_lt (by omega)
  rw [addLines, hmod, if_pos h]

/-- The invariant of the report: the text `s` is counted, `m` comes before the next piece, and the
line numbers of the pieces that are left all fit. -/
theorem report_pieces {source : String} (ps : List Piece) (hp : ∀ p ∈ ps, p.Proper)
    (s m : List Char) (line : Nat) (hsource : source.toList = s ++ (m ++ ps.flatMap Piece.text))
    (hline : line + lineFeeds (m ++ ps.flatMap Piece.text) < lineLimit) :
    report source line (byteSize s)
        ((sitesFrom (byteSize (s ++ m)) (line + lineFeeds m) ps).map ofSite) =
      .ok (sitesFrom (byteSize (s ++ m)) (line + lineFeeds m) ps) := by
  induction ps generalizing s m line with
  | nil => rfl
  | cons p ps ih =>
      have hps := fun q hq => hp q (List.mem_cons_of_mem p hq)
      cases p with
      | other text =>
          have h := ih hps s (m ++ text) line
            (by simpa [Piece.text] using hsource) (by simpa [Piece.text] using hline)
          simpa [sitesFrom, Nat.add_assoc] using h
      | site kind lead raw quote =>
          have hquote : isQuote quote = true := (hp _ List.mem_cons_self).1.quote
          have hfeed : lineFeeds [quote] = 0 := lineFeeds_quote hquote
          have htext : source.toList =
              s ++ (m ++ lead ++ (raw ++ ([quote] ++ ps.flatMap Piece.text))) := by
            simpa [Piece.text] using hsource
          have hfeeds : line + lineFeeds (m ++ lead) +
              lineFeeds (raw ++ [quote] ++ ps.flatMap Piece.text) < lineLimit := by
            simpa [Piece.text, Nat.add_assoc] using hline
          have hpassed := slice_at (at_of_split htext)
          have hraw := @sliceText_of_split source (s ++ (m ++ lead)) raw
            ([quote] ++ ps.flatMap Piece.text) (by rw [htext]; simp)
          have hlines := addLines_ok (Nat.lt_of_le_of_lt (Nat.le_add_right _ _) hfeeds)
          have hrest := ih hps (s ++ (m ++ lead)) (raw ++ [quote]) (line + lineFeeds (m ++ lead))
            (by rw [htext]; simp) hfeeds
          have hfirst : byteSize (s ++ m) + byteSize lead = byteSize s + byteSize (m ++ lead) := by
            simp [Nat.add_assoc]
          have hline : line + lineFeeds m + lineFeeds lead = line + lineFeeds (m ++ lead) := by
            simp [Nat.add_assoc]
          have hsize : byteSize (raw ++ [quote]) = byteSize raw + quote.utf8Size := by simp
          have hfeed : lineFeeds (raw ++ [quote]) = lineFeeds raw := by simp [hfeed]
          rw [byteSize_append _ raw, byteSize_append s] at hraw
          rw [byteSize_append _ (raw ++ [quote]), byteSize_append s, hsize, hfeed,
            ← Nat.add_assoc] at hrest
          rw [sitesFrom_site, hfirst, hline, List.map_cons]
          simp only [ofSite, report, bind, Except.bind]
          rw [hpassed]
          dsimp only
          rw [count_bytes, hlines]
          dsimp only
          rw [hraw]
          dsimp only
          rw [hrest]
          rfl

/-- The walk reports the sites, if there are fewer line feeds than 32 bits can count. -/
theorem scan_eq {source : String} (h : lineFeeds source.toList < lineLimit - 1) :
    scan source = .ok (sites source) := by
  have htext := flatMap_text_pieces [] source.toList
  rw [scan, scanFrom_sites]
  have hreport := report_pieces (pieces [] source.toList) (pieces_proper [] source.toList) [] [] 1
    (by rw [htext]; rfl) (by rw [List.nil_append, htext]; omega)
  exact hreport

theorem bounds_pieces {source : String} (ps : List Piece) (s : List Char) (line : Nat)
    (hsource : source.toList = s ++ ps.flatMap Piece.text) :
    ∀ site ∈ sitesFrom (byteSize s) line ps,
      Bounds (Text.Utf8.encode source) site.start site.stop := by
  induction ps generalizing s line with
  | nil => exact fun site hsite => absurd hsite List.not_mem_nil
  | cons p ps ih =>
      cases p with
      | other text =>
          have h := ih (s ++ text) (line + lineFeeds text) (by simpa [Piece.text] using hsource)
          rwa [byteSize_append] at h
      | site kind lead raw quote =>
          have hrest := ih (s ++ (lead ++ (raw ++ [quote])))
            (line + lineFeeds lead + lineFeeds raw) (by simpa [Piece.text] using hsource)
          have hbounds := @bounds_of_split source (s ++ lead) raw ([quote] ++ ps.flatMap Piece.text)
            (by simpa [Piece.text] using hsource)
          simp only [byteSize_append, byteSize_cons, byteSize_nil, Nat.add_zero, ← Nat.add_assoc]
            at hrest hbounds
          rw [sitesFrom_site]
          exact List.forall_mem_cons.mpr ⟨hbounds, hrest⟩

/-- Every site of a text begins and ends with whole characters. -/
theorem bounds_sites (source : String) :
    ∀ site ∈ sites source, Bounds (Text.Utf8.encode source) site.start site.stop :=
  bounds_pieces (pieces [] source.toList) [] 1 (flatMap_text_pieces [] source.toList).symm

/-- The sites of a text stand apart, one behind another. -/
theorem pairwise_of_placed {input : Bytes} {last : Nat} {sites : List Site}
    (h : Placed input last sites) :
    (∀ site ∈ sites, last < site.start) ∧ sites.Pairwise (·.stop < ·.start) := by
  induction sites generalizing last with
  | nil => exact ⟨by simp, .nil⟩
  | cons site sites ih =>
      obtain ⟨hstart, hstop, -, hrest⟩ := h
      obtain ⟨hbehind, hpairwise⟩ := ih hrest
      refine ⟨List.forall_mem_cons.mpr ⟨hstart, fun other hother => ?_⟩, .cons hbehind hpairwise⟩
      exact Nat.lt_of_lt_of_le hstart (Nat.le_trans hstop (Nat.le_of_lt (hbehind other hother)))

end ImportResolver.Source.Bytewise

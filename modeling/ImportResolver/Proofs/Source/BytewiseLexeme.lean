import ImportResolver.Proofs.Source.Bytewise
import ImportResolver.Proofs.Source.Letters
import ImportResolver.Proofs.Source.Literal
/- The readers of lexical parts on the bytes of a text stop where those for characters do. -/
namespace ImportResolver.Source.Bytewise

variable {input : Bytes} {i : Nat} {before s : List Char} {c : Char}

theorem skipWhile_pass {p : Char → Bool} {d : Char} (h : at? input i = some d) (hp : p d = true) :
    skipWhile p input i = skipWhile p input (i + 1) := by
  rw [skipWhile, if_pos (lt_of_at? h), look_eq_of_at? h]
  exact if_pos hp

theorem skipWhile_at {p : Char → Bool} (hp : Uniform p) (h : At input i s) :
    skipWhile p input i = .ok (i + byteSize (s.takeWhile p)) := by
  induction s generalizing i with
  | nil =>
      rw [skipWhile, if_neg (Nat.not_lt_of_le (Nat.le_of_eq h.length_nil))]
      rfl
  | cons c s ih =>
      cases hc : p c with
      | true =>
          rw [List.takeWhile_cons_of_pos hc, byteSize_cons, ← Nat.add_assoc, ← ih h.tail]
          refine h.pass_char (skipWhile p input) fun j d hat hd => skipWhile_pass hat ?_
          rw [hp.similar hd, hc]
      | false =>
          obtain ⟨d, hd, hat⟩ := h.at?_cons
          rw [List.takeWhile_cons_of_neg (by simp [hc]), skipWhile, if_pos h.lt, look_eq_of_at? hat]
          exact if_neg (by simp [hp.similar hd, hc])

theorem blockEnd_pass {d : Char} (h : at? input i = some d)
    (hmark : ¬ (d = '*' ∧ at? input (i + 1) = some '/')) :
    blockEnd input i = blockEnd input (i + 1) := by
  by_cases hlt : i + 1 < input.length
  · obtain ⟨e, he, hat⟩ := look_ok hlt
    rw [blockEnd, if_pos hlt, look_eq_of_at? h, he]
    refine if_neg ?_
    simp only [Bool.and_eq_true, decide_eq_true_eq]
    rintro ⟨rfl, rfl⟩
    exact hmark ⟨rfl, hat⟩
  · have := lt_of_at? h
    rw [blockEnd, if_neg hlt, blockEnd, if_neg (by omega)]
    congr 1
    omega

theorem blockEnd_at (h : At input i s) :
    blockEnd input i = .ok (i + byteSize (blockBody s).1) := by
  fun_induction blockBody s generalizing i with
  | case1 =>
      have hlength := h.length_nil
      rw [blockEnd, if_neg (by omega), Nat.min_eq_right (by omega), hlength]
      rfl
  | case2 s =>
      have hsecond : At input (i + 1) ('/' :: s) := h.tail
      have hlt := hsecond.lt
      rw [blockEnd, if_pos hlt, look_eq_of_at? (h.at?_ascii (by decide)),
        look_eq_of_at? (hsecond.at?_ascii (by decide))]
      refine (if_pos (by decide)).trans ?_
      rw [Nat.min_eq_left hlt]
      rfl
  | case3 c s hmark ih =>
      rw [Cut.push_fst, byteSize_cons, ← Nat.add_assoc, ← ih h.tail]
      -- Only a star asks for the byte behind it.
      by_cases hc : c = '*'
      · subst hc
        refine blockEnd_pass (h.at?_ascii (by decide)) ?_
        rintro ⟨-, hslash⟩
        have hhead := (At.at?_eq_iff h.tail (by decide)).mp hslash
        obtain ⟨rest, rfl⟩ := List.head?_eq_some_iff.mp hhead
        exact hmark rest rfl rfl
      · refine h.pass_char (blockEnd input) fun j d hat hd => blockEnd_pass hat ?_
        rintro ⟨hstar, -⟩
        exact hc ((hd.eq_iff (by decide)).mp hstar)

theorem skipComment_at (h : At input i s) :
    skipComment input i = .ok ((comment? s).map fun cut => i + byteSize cut.1) := by
  have hslash := h.at?_eq_iff (a := '/') (by decide)
  rw [skipComment]
  fun_cases comment? s with
  | case1 s =>
      have hsecond : At input (i + 1) ('/' :: s) := h.tail
      have hline := skipWhile_at (uniform_ne (a := '\n') (by decide)) hsecond.tail
      change skipWhile _ input (i + 2) = _ at hline
      rw [if_pos (hslash.mpr rfl), hsecond.at?_ascii (by decide), hline, Option.map_some,
        Cut.push_fst, Cut.push_fst, byteSize_cons, byteSize_cons, ← Nat.add_assoc, ← Nat.add_assoc]
      rfl
  | case2 s =>
      have hsecond : At input (i + 1) ('*' :: s) := h.tail
      have hblock := blockEnd_at hsecond.tail
      change blockEnd input (i + 2) = _ at hblock
      rw [if_pos (hslash.mpr rfl), hsecond.at?_ascii (by decide), hblock, Option.map_some,
        Cut.push_fst, Cut.push_fst, byteSize_cons, byteSize_cons, ← Nat.add_assoc, ← Nat.add_assoc]
      rfl
  | case3 s hline hblock =>
      split_ifs with hfirst
      · obtain ⟨s, rfl⟩ := List.head?_eq_some_iff.mp (hslash.mp hfirst)
        have hsecond : At input (i + 1) s := h.tail
        split
        · next hat =>
            obtain ⟨rest, rfl⟩ := List.head?_eq_some_iff.mp
              ((hsecond.at?_eq_iff (by decide)).mp hat)
            exact absurd rfl (hline rest)
        · next hat =>
            obtain ⟨rest, rfl⟩ := List.head?_eq_some_iff.mp
              ((hsecond.at?_eq_iff (by decide)).mp hat)
            exact absurd rfl (hblock rest)
        · rfl
      · rfl

theorem skipTrivia_eq {j : Nat} (hskip : skipWhile isSpace input i = .ok j) :
    skipTrivia input i = (do
      match ← skipComment input j with
      | none => return j
      | some next => skipTrivia input next) := by
  rw [skipTrivia]
  split
  · next htrap =>
      rw [hskip] at htrap
      cases htrap
  · next k hk =>
      rw [hskip] at hk
      cases hk
      split
      · next htrap => rw [htrap]; rfl
      · next hnone => rw [hnone]; rfl
      · next hsome => rw [hsome]; rfl

theorem skipTrivia_at (h : At input i s) :
    skipTrivia input i = .ok (i + byteSize (trivia s).1) := by
  revert i
  fun_induction trivia s with
  | case1 s blanks =>
      rename_i hcomment
      intro i h
      have hblanks : At input (i + byteSize blanks.1) blanks.2 :=
        At.advance (by rwa [cutWhile_append])
      have hskip : skipWhile isSpace input i = .ok (i + byteSize blanks.1) :=
        skipWhile_at uniform_isSpace h
      rw [skipTrivia_eq hskip, skipComment_at hblanks, hcomment]
      rfl
  | case2 s blanks text rest hcomment more =>
      rename_i ih
      intro i h
      have hblanks : At input (i + byteSize blanks.1) blanks.2 :=
        At.advance (by rwa [cutWhile_append])
      have hrest : At input (i + byteSize blanks.1 + byteSize text) rest :=
        At.advance (by rwa [comment?_append hcomment])
      have hskip : skipWhile isSpace input i = .ok (i + byteSize blanks.1) :=
        skipWhile_at uniform_isSpace h
      rw [skipTrivia_eq hskip, skipComment_at hblanks, hcomment]
      refine (ih hrest).trans ?_
      simp only [more, byteSize_append, Nat.add_assoc]

theorem At.trivia (h : At input i s) : At input (i + byteSize (trivia s).1) (trivia s).2 :=
  At.advance (by rwa [trivia_append])

theorem regexFlags_at {t : List Char} (h : At input i ('/' :: t)) :
    regexFlags input i = .ok (i + 1 + byteSize (cutWhile isWord t).1) := by
  have htail : At input (i + 1) t := h.tail
  have hrest : At input (i + 1 + byteSize (cutWhile isWord t).1) (cutWhile isWord t).2 :=
    At.advance (by rwa [cutWhile_append])
  rw [regexFlags, skipWhile_at uniform_isWord htail]
  change Except.ok (min (i + 1 + byteSize (cutWhile isWord t).1) input.length) = _
  rw [Nat.min_eq_left (by rw [hrest.length]; exact Nat.le_add_right _ _)]

theorem regexEnd_of_le {inClass : Bool} (h : input.length ≤ i) :
    regexEnd input inClass i = .ok input.length := by
  rw [regexEnd, if_neg (Nat.not_lt_of_le h), regexFlags, skipWhile, if_neg (by omega)]
  exact congrArg Except.ok (Nat.min_eq_right (by omega))

theorem regexEnd_step {inClass : Bool} {d : Char} (h : at? input i = some d) :
    regexEnd input inClass i =
      if d = '\\' then regexEnd input inClass (i + 2)
      else if d = '\n' then .ok i
      else if d = '[' then regexEnd input true (i + 1)
      else if d = ']' then regexEnd input false (i + 1)
      else if d = '/' && !inClass then regexFlags input i
      else regexEnd input inClass (i + 1) := by
  rw [regexEnd, if_pos (lt_of_at? h), look_eq_of_at? h]

theorem ne_of_high {d a : Char} (h : 0x80 ≤ d.toNat) (ha : a.toNat < 0x80) : d ≠ a := by
  rintro rfl
  omega

theorem regexEnd_high {inClass : Bool} {d : Char} (h : at? input i = some d)
    (hhigh : 0x80 ≤ d.toNat) : regexEnd input inClass i = regexEnd input inClass (i + 1) := by
  have hne {a : Char} (ha : a.toNat < 0x80) : ¬ d = a := ne_of_high hhigh ha
  rw [regexEnd_step h, if_neg (hne (by decide)), if_neg (hne (by decide)),
    if_neg (hne (by decide)), if_neg (hne (by decide)), if_neg]
  simp [hne (a := '/') (by decide)]

theorem regexEnd_at {inClass : Bool} (h : At input i s) :
    regexEnd input inClass i = .ok (i + byteSize (regexBody inClass s).1) := by
  fun_induction regexBody inClass s generalizing i with
  | case1 => rw [regexEnd_of_le (Nat.le_of_eq h.length_nil), h.length_nil]; rfl
  | case2 inClass c s ih =>
      -- Two bytes are skipped, so the walk may go on within the escaped character.
      have hescaped : At input (i + 1) (c :: s) := h.tail
      have htail := hescaped.pass_tail (regexEnd input inClass) fun j d => regexEnd_high
      rw [regexEnd_step (h.at?_ascii (by decide)), if_pos rfl, htail, ih hescaped.tail]
      simp only [Cut.push_fst, byteSize_cons, ← Nat.add_assoc]
      rfl
  | case3 inClass s hescape =>
      rw [regexEnd_step (h.at?_ascii (by decide))]
      rfl
  | case4 inClass s _ _ ih =>
      have htail : At input (i + 1) s := h.tail
      rw [regexEnd_step (h.at?_ascii (by decide))]
      refine (ih htail).trans ?_
      simp only [Cut.push_fst, byteSize_cons, ← Nat.add_assoc]
      rfl
  | case5 inClass s _ _ _ ih =>
      have htail : At input (i + 1) s := h.tail
      rw [regexEnd_step (h.at?_ascii (by decide))]
      refine (ih htail).trans ?_
      simp only [Cut.push_fst, byteSize_cons, ← Nat.add_assoc]
      rfl
  | case6 inClass c s _ _ _ _ hslash =>
      obtain ⟨hc, -⟩ : c = '/' ∧ inClass = false := by simpa using hslash
      subst hc
      rw [regexEnd_step (h.at?_ascii (by decide))]
      refine (if_pos hslash).trans ((regexFlags_at h).trans ?_)
      rw [Cut.push_fst, byteSize_cons, ← Nat.add_assoc]
      rfl
  | case7 inClass c s hescape hfeed hopen hclose hslash ih =>
      rw [Cut.push_fst, byteSize_cons, ← Nat.add_assoc]
      by_cases hback : c = '\\'
      · -- A backslash at the very end is skipped with a character that is not there.
        subst hback
        cases s with
        | cons d s => exact absurd rfl (hescape d s rfl)
        | nil =>
            have htail : At input (i + 1) [] := h.tail
            rw [regexEnd_step (h.at?_ascii (by decide)), if_pos rfl,
              regexEnd_of_le (by rw [htail.length_nil]; omega), htail.length_nil]
            rfl
      · rw [← ih h.tail]
        refine h.pass_char (regexEnd input inClass) fun j d hat hd => ?_
        rw [regexEnd_step hat, if_neg (mt (hd.eq_iff (by decide)).mp hback),
          if_neg (mt (hd.eq_iff (by decide)).mp hfeed),
          if_neg (mt (hd.eq_iff (by decide)).mp hopen),
          if_neg (mt (hd.eq_iff (by decide)).mp hclose), if_neg]
        simpa [hd.eq_iff (a := '/') (by decide)] using hslash

theorem skipRegex_at {t : List Char} (h : At input i ('/' :: t)) :
    skipRegex input i = .ok (i + byteSize ('/' :: (regexBody false t).1)) := by
  have htail : At input (i + 1) t := h.tail
  rw [skipRegex, regexEnd_at htail, byteSize_cons, ← Nat.add_assoc]
  rfl

theorem stringEnd_of_le {quote : Char} (h : input.length ≤ i) :
    stringEnd input quote i = .ok input.length := by
  rw [stringEnd, if_neg (Nat.not_lt_of_le h), Nat.min_eq_right (by omega)]

theorem stringEnd_step {quote d : Char} (h : at? input i = some d) :
    stringEnd input quote i =
      if d = quote then .ok (min (i + 1) input.length)
      else if d = '\\' then stringEnd input quote (i + 2)
      else if d = '\n' && quote ≠ '\x60' then .ok i
      else stringEnd input quote (i + 1) := by
  rw [stringEnd, if_pos (lt_of_at? h), look_eq_of_at? h]

theorem toNat_quote {quote : Char} (h : isQuote quote = true) : quote.toNat < 0x80 := by
  rcases isQuote_iff.mp h with rfl | rfl | rfl <;> decide

theorem backslash_ne_quote {quote : Char} (h : isQuote quote = true) : ¬ '\\' = quote := by
  rintro rfl
  cases h

theorem stringEnd_high {quote d : Char} (hquote : isQuote quote = true)
    (h : at? input i = some d) (hhigh : 0x80 ≤ d.toNat) :
    stringEnd input quote i = stringEnd input quote (i + 1) := by
  rw [stringEnd_step h, if_neg (ne_of_high hhigh (toNat_quote hquote)),
    if_neg (ne_of_high hhigh (by decide)), if_neg]
  simp [ne_of_high (a := '\n') hhigh (by decide)]

theorem stringEnd_at {quote : Char} (hquote : isQuote quote = true) (h : At input i s) :
    stringEnd input quote i = .ok (i + byteSize (stringBody quote s).1) := by
  fun_induction stringBody quote s generalizing i with
  | case1 => rw [stringEnd_of_le (Nat.le_of_eq h.length_nil), h.length_nil]; rfl
  | case2 c s ih =>
      have hescaped : At input (i + 1) (c :: s) := h.tail
      have htail := hescaped.pass_tail (stringEnd input quote) fun j d => stringEnd_high hquote
      rw [stringEnd_step (h.at?_ascii (by decide)), if_neg (backslash_ne_quote hquote), if_pos rfl,
        htail, ih hescaped.tail]
      simp only [Cut.push_fst, byteSize_cons, ← Nat.add_assoc]
      rfl
  | case3 s hescape =>
      have hsize := utf8Size_ascii (toNat_quote hquote)
      have htail := h.tail
      rw [hsize] at htail
      rw [stringEnd_step (h.at?_ascii (toNat_quote hquote)), if_pos rfl,
        Nat.min_eq_left (Nat.succ_le_of_lt h.lt), byteSize_cons, hsize]
      rfl
  | case4 c s hescape hend hfeed =>
      obtain ⟨hc, -⟩ : c = '\n' ∧ quote ≠ '\x60' := by simpa using hfeed
      subst hc
      rw [stringEnd_step (h.at?_ascii (by decide)), if_neg hend, if_neg (by decide), if_pos hfeed]
      rfl
  | case5 c s hescape hend hfeed ih =>
      rw [Cut.push_fst, byteSize_cons, ← Nat.add_assoc]
      by_cases hback : c = '\\'
      · subst hback
        cases s with
        | cons d s => exact absurd rfl (hescape d s rfl)
        | nil =>
            have htail : At input (i + 1) [] := h.tail
            rw [stringEnd_step (h.at?_ascii (by decide)), if_neg hend, if_pos rfl,
              stringEnd_of_le (by rw [htail.length_nil]; omega), htail.length_nil]
            rfl
      · rw [← ih h.tail]
        refine h.pass_char (stringEnd input quote) fun j d hat hd => ?_
        rw [stringEnd_step hat, if_neg (mt (hd.eq_iff (toNat_quote hquote)).mp hend),
          if_neg (mt (hd.eq_iff (by decide)).mp hback), if_neg]
        simpa [hd.eq_iff (a := '\n') (by decide)] using hfeed

theorem skipString_at {quote : Char} (hquote : isQuote quote = true) {t : List Char}
    (h : At input i (quote :: t)) :
    skipString input i = .ok (i + byteSize (quote :: (stringBody quote t).1)) := by
  have htail := h.tail
  rw [utf8Size_ascii (toNat_quote hquote)] at htail
  rw [skipString, look_eq_of_at? (h.at?_ascii (toNat_quote hquote))]
  refine (stringEnd_at hquote htail).trans ?_
  rw [byteSize_cons, utf8Size_ascii (toNat_quote hquote), ← Nat.add_assoc]

theorem contentEnd_step {quote d : Char} (h : at? input i = some d) :
    contentEnd input quote i =
      if d = quote then .ok (some i)
      else if d = '\\' || d = '\n' then .ok none
      else if d = '$' && quote = '\x60' && at? input (i + 1) = some '\x7b' then .ok none
      else contentEnd input quote (i + 1) := by
  rw [contentEnd, if_pos (lt_of_at? h), look_eq_of_at? h]

theorem contentEnd_at {quote : Char} (hquote : isQuote quote = true) (h : At input i s) :
    contentEnd input quote i =
      .ok ((plainContent? quote s).map fun cut => i + byteSize cut.1) := by
  fun_induction plainContent? quote s generalizing i with
  | case1 =>
      rw [contentEnd, if_neg (Nat.not_lt_of_le (Nat.le_of_eq h.length_nil))]
      rfl
  | case2 s =>
      rw [contentEnd_step (h.at?_ascii (toNat_quote hquote)), if_pos rfl]
      rfl
  | case3 c s hend hstop =>
      have hc : c.toNat < 0x80 := by
        simp only [Bool.or_eq_true, decide_eq_true_eq] at hstop
        rcases hstop with rfl | rfl <;> decide
      rw [contentEnd_step (h.at?_ascii hc), if_neg hend, if_pos hstop]
      rfl
  | case4 c s hend hstop hbrace =>
      simp only [Bool.and_eq_true, decide_eq_true_eq] at hbrace
      obtain ⟨⟨rfl, rfl⟩, hhead⟩ := hbrace
      have hnext : at? input (i + 1) = some '\x7b' :=
        (At.at?_eq_iff h.tail (by decide)).mpr hhead
      rw [contentEnd_step (h.at?_ascii (by decide)), if_neg (by decide), if_neg (by decide),
        if_pos (by simp [hnext])]
      rfl
  | case5 c s hend hstop hbrace ih =>
      have hrest : contentEnd input quote i = contentEnd input quote (i + c.utf8Size) := by
        simp only [Bool.or_eq_true, decide_eq_true_eq, not_or] at hstop
        -- Only a dollar sign asks for the byte behind it.
        by_cases hdollar : c = '$'
        · subst hdollar
          have hnext : at? input (i + 1) = some '\x7b' ↔ s.head? = some '\x7b' :=
            At.at?_eq_iff h.tail (by decide)
          rw [contentEnd_step (h.at?_ascii (by decide)), if_neg hend, if_neg (by decide), if_neg]
          · rfl
          · simpa [hnext] using hbrace
        · refine h.pass_char (contentEnd input quote) fun j d hat hd => ?_
          rw [contentEnd_step hat, if_neg (mt (hd.eq_iff (toNat_quote hquote)).mp hend),
            if_neg, if_neg]
          · simp [hd.eq_iff (a := '$') (by decide), hdollar]
          · simpa [hd.eq_iff (a := '\\') (by decide), hd.eq_iff (a := '\n') (by decide)] using hstop
      rw [hrest, ih h.tail, Option.map_map]
      congr 1
      refine congrArg (Option.map · _) (funext fun cut => ?_)
      simp [Nat.add_assoc]

theorem backWhile_step {p : Char → Bool} {d : Char} (h : at? input i = some d) :
    backWhile p input (i + 1) = if p d then backWhile p input i else .ok (i + 1) := by
  rw [backWhile, look_eq_of_at? h]

/-- What goes back from behind each of some bytes as from before it goes back to the first. -/
theorem backWhile_over {p : Char → Bool} (front mid back : Bytes)
    (h : input = front ++ (mid ++ back)) (hmid : ∀ b ∈ mid, p (letter b) = true) :
    backWhile p input (front.length + mid.length) = backWhile p input front.length := by
  induction mid generalizing front with
  | nil => rfl
  | cons b mid ih =>
      have hb : at? input front.length = some (letter b) := by
        rw [at?, h, List.getElem?_append_right (Nat.le_refl _), Nat.sub_self]
        rfl
      have hrest := ih (front ++ [b]) (by rw [h]; simp) fun d hd =>
        hmid d (List.mem_cons_of_mem b hd)
      rw [List.length_append, List.length_singleton, backWhile_step hb,
        if_pos (hmid b List.mem_cons_self)] at hrest
      rw [← hrest, List.length_cons, Nat.add_assoc, Nat.add_comm 1]

theorem backWhile_at {p : Char → Bool} (hp : Uniform p) (h : Between input i before s) :
    backWhile p input i = .ok (byteSize (before.dropWhile p)) := by
  induction before generalizing i s with
  | nil =>
      rw [h.index]
      rfl
  | cons c before ih =>
      cases hc : p c with
      | true =>
          have hback : Between input (byteSize before) before (c :: s) := Between.back (t := [c]) h
          rw [List.dropWhile_cons_of_pos hc, ← ih hback, h.index, byteSize_cons, Nat.add_comm]
          have hinput : input = bytes before.reverse ++ (String.utf8EncodeChar c ++ bytes s) := by
            rw [hback.input, bytes_append]
            rfl
          have hover := backWhile_over (p := p) _ _ _ hinput fun b hb => by
            rw [hp.similar (similar_of_mem hb), hc]
          rwa [length_bytes, byteSize_reverse, String.length_utf8EncodeChar] at hover
      | false =>
          obtain ⟨hpos, d, hd, hat⟩ := h.at?_prev
          rw [List.dropWhile_cons_of_neg (by simp [hc]), ← h.index]
          have hstep := backWhile_step (p := p) hat
          rw [Nat.sub_add_cancel hpos] at hstep
          rw [hstep, hp.similar hd, hc]
          rfl

theorem ascii_of_all {word : List Char} (h : word.all (fun c => c.toNat < 0x80) = true) :
    ∀ c ∈ word, c.toNat < 0x80 := by
  simpa using h

theorem ascii_regexWords {w : String} (h : w ∈ regexWords) : ∀ c ∈ w.toList, c.toNat < 0x80 := by
  have hall : regexWords.all (fun w => w.toList.all fun c => c.toNat < 0x80) = true := by decide
  exact ascii_of_all (List.all_eq_true.mp hall w h)

theorem contains_letters (s : List Char) :
    regexWords.contains (String.ofList (letters s)) = regexWords.contains (String.ofList s) := by
  rw [Bool.eq_iff_iff, List.contains_iff_mem, List.contains_iff_mem]
  have hword {t : List Char} (ht : String.ofList t ∈ regexWords) : ∀ c ∈ t, c.toNat < 0x80 := by
    simpa using ascii_regexWords ht
  constructor
  · intro h
    have hsame : s = letters s := (letters_eq_iff (hword h)).mp rfl
    rwa [← hsame] at h
  · intro h
    rwa [letters_ascii (hword h)]

theorem slice_at {t : List Char} (h : At input i (t ++ s)) :
    slice input i (i + byteSize t) = .ok (bytes t) := by
  have hlength := h.length
  rw [byteSize_append] at hlength
  rw [slice_ok (Nat.le_add_right _ _) (by omega), List.drop_take, Nat.add_sub_cancel_left, h.drop,
    take_bytes]

theorem regexAllowed_at (h : Between input i before s) :
    regexAllowed input i = .ok (Source.regexAllowed before) := by
  rw [regexAllowed, backWhile_at uniform_isSpace h, Source.regexAllowed]
  simp only [bind, Except.bind]
  have hblanks := List.takeWhile_append_dropWhile (p := isSpace) (l := before)
  generalize before.takeWhile isSpace = blanks at hblanks
  cases hb : before.dropWhile isSpace with
  | nil => rfl
  | cons c rest =>
      rw [hb] at hblanks
      have hstop : Between input (byteSize (c :: rest)) (c :: rest) (blanks.reverse ++ s) :=
        Between.back (hblanks ▸ h)
      obtain ⟨hpos, d, hd, hat⟩ := hstop.at?_prev
      rw [if_neg (Nat.ne_of_gt hpos), look_eq_of_at? hat]
      simp only [uniform_isWord.similar hd, hd.eq_iff (a := ')') (by decide),
        hd.eq_iff (a := ']') (by decide)]
      split_ifs with hclose hother hword
      · rfl
      · rw [Bool.not_eq_true'] at hother
        rw [hother] at hword
        cases hword
      · rfl
      · have hsplit := List.takeWhile_append_dropWhile (p := isWord) (l := c :: rest)
        rw [backWhile_at uniform_isWord hstop]
        generalize (c :: rest).takeWhile isWord = word at hsplit ⊢
        generalize (c :: rest).dropWhile isWord = front at hsplit ⊢
        rw [← hsplit] at hstop ⊢
        have hslice := slice_at hstop.back.at
        rw [byteSize_reverse, Nat.add_comm, ← byteSize_append] at hslice
        dsimp only
        rw [hslice]
        exact congrArg Except.ok (contains_letters word.reverse)
      · simp_all

end ImportResolver.Source.Bytewise

import ImportResolver.Proofs.Source.BytewiseLexeme
import ImportResolver.Proofs.Source.LexemeScan
/- The walk over the bytes of a text goes as the search in its characters does: with each step it
passes a part that holds no site, or finds the site that the search finds there. -/
namespace ImportResolver.Source.Bytewise

variable {input : Bytes} {i : Nat} {before s : List Char} {c : Char}

/-- Where the content of a literal stands that is read from `i` on. -/
def spanAt (i : Nat) (l : Literal) : Span :=
  ⟨i + byteSize l.lead, i + byteSize l.lead + byteSize l.raw,
    i + byteSize l.lead + byteSize l.raw + 1⟩

theorem spanAt_after (i : Nat) (text : List Char) (l : Literal) :
    spanAt i (l.after text) = spanAt (i + byteSize text) l := by
  simp only [spanAt, Literal.after_lead, Literal.after_raw, byteSize_append, Nat.add_assoc]

theorem map_spanAt_after (i : Nat) (text : List Char) (found : Option Literal) :
    (found.map (Literal.after text)).map (spanAt i) = found.map (spanAt (i + byteSize text)) := by
  rw [Option.map_map]
  exact congrArg (Option.map · found) (funext (spanAt_after i text))

theorem readLiteral_at (h : At input i s) :
    readLiteral input i = .ok ((literal? s).map (spanAt i)) := by
  cases s with
  | nil =>
      rw [readLiteral, h.at?_nil]
      rfl
  | cons c s =>
      obtain ⟨d, hd, hat⟩ := h.at?_cons
      rw [readLiteral, hat, literal?]
      dsimp only
      rw [uniform_isQuote.similar hd]
      split_ifs with hquote
      · have hsize := utf8Size_ascii (toNat_quote hquote)
        have htail := h.tail
        rw [hsize] at htail
        obtain rfl : d = c := (hd.eq_iff (toNat_quote hquote)).mpr rfl
        rw [contentEnd_at hquote htail]
        simp only [Except.map, Option.map_map]
        refine congrArg (fun f => Except.ok (Option.map f _)) (funext fun cut => ?_)
        simp [spanAt, hsize]
      · rfl

theorem At.literal {l : Literal} (h : At input i l.whole) (hquote : isQuote l.quote = true) :
    At input (spanAt i l).next l.rest := by
  have hsize := utf8Size_ascii (toNat_quote hquote)
  have hrest : At input (i + byteSize (l.lead ++ l.raw)) (l.quote :: l.rest) := h.advance
  have hnext := hrest.tail
  rwa [hsize, byteSize_append, ← Nat.add_assoc] at hnext

/-- What is read of a place where a word stands. -/
theorem slice_letters {word : List Char} (h : At input i s)
    (hlong : i + word.length ≤ input.length) :
    ∃ mid, slice input i (i + word.length) = .ok mid ∧
      mid.map letter = (letters s).take word.length := by
  refine ⟨_, slice_ok (Nat.le_add_right _ _) hlong, ?_⟩
  rw [List.drop_take, Nat.add_sub_cancel_left, h.drop, List.map_take]
  rfl

theorem opensWord_at (h : Between input i before s) :
    opensWord input i = .ok (!isTied before.head?) := by
  cases before with
  | nil =>
      rw [opensWord, if_neg (by rw [h.index]; exact Nat.not_lt_zero 0)]
      rfl
  | cons c before =>
      obtain ⟨hpos, d, hd, hat⟩ := h.at?_prev
      rw [opensWord, if_pos hpos, look_eq_of_at? hat]
      simp [Except.map, isTied, uniform_isWord.similar hd, hd.eq_iff (a := '.') (by decide)]

theorem closesWord_at (h : At input i s) :
    closesWord input i = .ok (!s.head?.any isWord) := by
  cases s with
  | nil =>
      rw [closesWord, if_neg (Nat.not_lt_of_le (Nat.le_of_eq h.length_nil))]
      rfl
  | cons c s =>
      obtain ⟨d, hd, hat⟩ := h.at?_cons
      rw [closesWord, if_pos h.lt, look_eq_of_at? hat]
      simp [Except.map, uniform_isWord.similar hd]

theorem byteSize_ascii {word : List Char} (hword : ∀ c ∈ word, c.toNat < 0x80) :
    byteSize word = word.length := by
  rw [← length_bytes, ← List.length_map (f := letter)]
  exact congrArg List.length (letters_ascii hword)

theorem isSome_keyword? (prev : Option Char) (word rest : List Char) :
    (keyword? word prev (word ++ rest)).isSome = (!isTied prev && !rest.head?.any isWord) := by
  rw [Bool.eq_iff_iff, Option.isSome_iff_exists, Bool.and_eq_true, Bool.not_eq_true',
    Bool.not_eq_true']
  constructor
  · rintro ⟨other, hother⟩
    obtain ⟨hprev, heq, hrest⟩ := keyword?_eq_some_iff.mp hother
    rw [List.append_cancel_left heq]
    exact ⟨hprev, hrest⟩
  · rintro ⟨hprev, hrest⟩
    exact ⟨rest, keyword?_eq_some_iff.mpr ⟨hprev, rfl, hrest⟩⟩

theorem matchesKeyword_at {word : List Char} (hword : ∀ c ∈ word, c.toNat < 0x80)
    (h : Between input i before s) :
    matchesKeyword input i word = .ok (keyword? word before.head? s).isSome := by
  rw [matchesKeyword]
  by_cases hstands : word <+: s
  · obtain ⟨rest, rfl⟩ := hstands
    have hafter := h.at.advance
    have hlength := hafter.length
    have hslice := slice_at h.at
    have hletters : (bytes word).map letter = word := letters_ascii hword
    rw [byteSize_ascii hword] at hafter hlength hslice
    rw [if_neg (by omega), hslice, isSome_keyword?]
    simp only [bind, Except.bind]
    rw [if_pos hletters, opensWord_at h, closesWord_at hafter]
    cases isTied before.head? <;> rfl
  · have hnone : keyword? word before.head? s = none := by
      rw [Option.eq_none_iff_forall_ne_some]
      intro rest hrest
      exact hstands ⟨rest, keyword?_append hrest⟩
    rw [hnone]
    split_ifs with hlong
    · rfl
    · obtain ⟨mid, hmid, hletters⟩ := slice_letters h.at (Nat.le_of_not_lt hlong)
      rw [hmid]
      simp only [bind, Except.bind]
      rw [if_neg]
      · rfl
      · rw [hletters]
        intro heq
        exact hstands ((prefix_letters_iff hword).mp (List.prefix_iff_eq_take.mpr heq.symm))

/-- No keyword stands where another character does. -/
theorem matchesKeyword_of_ne {a d : Char} {word : List Char} (h : at? input i = some d)
    (hne : d ≠ a) : matchesKeyword input i (a :: word) = .ok false := by
  rw [matchesKeyword]
  split_ifs with hlong
  · rfl
  · rw [slice_ok (Nat.le_add_right _ _) (Nat.le_of_not_lt hlong)]
    simp only [bind, Except.bind]
    rw [if_neg]
    · rfl
    · obtain ⟨b, hb, rfl⟩ := Option.map_eq_some_iff.mp h
      obtain ⟨hlt, rfl⟩ := List.getElem?_eq_some_iff.mp hb
      rw [List.drop_take, Nat.add_sub_cancel_left, List.length_cons, List.drop_eq_getElem_cons hlt,
        List.take_succ_cons, List.map_cons, List.cons.injEq]
      exact fun heq => hne heq.1

theorem skipComment_of_ne {d : Char} (h : at? input i = some d) (hne : d ≠ '/') :
    skipComment input i = .ok none := by
  rw [skipComment, if_neg]
  rw [h]
  exact fun heq => hne (Option.some.inj heq)

theorem scanClause_of_le (h : input.length ≤ i) : scanClause input i = .ok none := by
  rw [scanClause, if_neg (Nat.not_lt_of_le h)]

theorem scanClause_eq {d : Char} (h : at? input i = some d) :
    scanClause input i = (do
      match ← skipComment input i with
      | some next => scanClause input next
      | none =>
        if ← matchesKeyword input i fromWord then
          readLiteral input (← skipTrivia input (i + fromWord.length))
        else if isClauseChar d then scanClause input (i + 1)
        else return none) := by
  rw [scanClause, if_pos (lt_of_at? h), look_eq_of_at? h]
  dsimp only
  split
  · next htrap => rw [htrap]; rfl
  · next hsome => rw [hsome]; rfl
  · next hnone =>
      obtain ⟨r, hr, -⟩ := matchesKeyword_ok input i fromWord
      rw [hnone, hr]
      cases r <;> rfl

theorem scanClause_high {d : Char} (h : at? input i = some d) (hhigh : 0x80 ≤ d.toNat) :
    scanClause input i = scanClause input (i + 1) := by
  have hkeyword : matchesKeyword input i fromWord = .ok false :=
    matchesKeyword_of_ne h (ne_of_high hhigh (by decide))
  have hchar : isClauseChar d = true := isClauseChar_of_isWord (isWord_of_high hhigh)
  rw [scanClause_eq h, skipComment_of_ne h (ne_of_high hhigh (by decide)), hkeyword]
  exact if_pos hchar

theorem ascii_fromWord : ∀ c ∈ fromWord, c.toNat < 0x80 := ascii_of_all (by decide)

theorem head?_reverse_append {text rest : List Char} (h : comment? s = some (text, rest)) :
    (text.reverse ++ before).head? = text.getLast? := by
  have hne := comment?_fst_ne_nil h
  rw [List.head?_append, List.head?_reverse, List.getLast?_eq_some_getLast hne]
  rfl

/-- A clause where no comment begins goes on with the keyword, behind the character, or not. -/
theorem scanClause_char (h : Between input i before (c :: s))
    (hcomment : comment? (c :: s) = none) :
    scanClause input i = (do
      if (keyword? fromWord before.head? (c :: s)).isSome then
        readLiteral input (← skipTrivia input (i + fromWord.length))
      else if isClauseChar c then scanClause input (i + 1)
      else return none) := by
  obtain ⟨d, hd, hat⟩ := h.at.at?_cons
  have hskip := skipComment_at h.at
  rw [hcomment] at hskip
  rw [scanClause_eq hat, hskip, matchesKeyword_at ascii_fromWord h, uniform_isClauseChar.similar hd]
  rfl

theorem scanClause_at (h : Between input i before s) :
    scanClause input i = .ok ((clause? before.head? s).map (spanAt i)) := by
  generalize hprev : before.head? = prev
  revert i before
  fun_induction clause? prev s with
  | case1 prev =>
      intro i before h _
      exact scanClause_of_le (Nat.le_of_eq h.at.length_nil)
  | case2 prev c s text rest hcomment ih =>
      intro i before h hprev
      obtain ⟨d, hd, hat⟩ := h.at.at?_cons
      have hskip := skipComment_at h.at
      rw [hcomment] at hskip
      rw [← comment?_append hcomment] at h
      rw [scanClause_eq hat, hskip, map_spanAt_after]
      exact ih h.advance (head?_reverse_append hcomment)
  | case3 prev c s hcomment rest hkeyword =>
      intro i before h hprev
      have hsome : (keyword? fromWord before.head? (c :: s)).isSome = true := by
        rw [hprev, hkeyword]
        rfl
      rw [scanClause_char h hcomment, if_pos hsome]
      rw [← keyword?_append hkeyword] at h
      have hrest : At input (i + fromWord.length) rest := h.at.advance
      rw [skipTrivia_at hrest]
      refine (readLiteral_at hrest.trivia).trans ?_
      rw [map_spanAt_after, byteSize_append, ← Nat.add_assoc]
      rfl
  | case4 prev c s hcomment hkeyword hchar ih =>
      intro i before h hprev
      rw [scanClause_char h hcomment, hprev, hkeyword, if_neg (by decide), if_pos hchar,
        h.at.pass_tail (scanClause input) fun j e => scanClause_high, ih h.tail rfl,
        map_spanAt_after]
      rfl
  | case5 prev c s hcomment hkeyword hchar =>
      intro i before h hprev
      rw [scanClause_char h hcomment, hprev, hkeyword, if_neg (by decide), if_neg hchar]
      rfl

/-- The site that is read from `i` on. -/
def foundAt (i : Nat) (found : SiteKind × Literal) : SiteKind × Span :=
  (found.1, spanAt i found.2)

theorem scanCall_at (h : At input i s) :
    scanCall input i = .ok ((callArgument? s).map (spanAt i)) := by
  rw [scanCall, skipTrivia_at h]
  simp only [bind, Except.bind]
  rw [readLiteral_at h.trivia, callArgument?]
  cases hl : literal? (trivia s).2 with
  | none => rfl
  | some l =>
      have hnext : At input (spanAt (i + byteSize (trivia s).1) l).next l.rest := by
        refine At.literal ?_ (literal?_proper hl).quote
        rw [literal?_whole hl]
        exact h.trivia
      have hafter := hnext.trivia
      simp only [Option.map_some]
      rw [skipTrivia_at hnext]
      dsimp only
      cases hr : (trivia l.rest).2 with
      | nil =>
          rw [hr] at hafter
          rw [hafter.at?_nil]
          rfl
      | cons c rest =>
          rw [hr] at hafter
          obtain ⟨d, hd, hat⟩ := hafter.at?_cons
          rw [hat]
          simp only [hd.eq_iff (a := ')') (by decide), hd.eq_iff (a := ',') (by decide),
            List.head?_cons]
          split_ifs
          · rw [Option.map_some, spanAt_after]
            rfl
          · rfl

theorem map_foundAt_after (kind : SiteKind) (i : Nat) (text : List Char) (found : Option Literal) :
    (found.map fun l => (kind, l.after text)).map (foundAt i) =
      (found.map (spanAt (i + byteSize text))).map (kind, ·) := by
  rw [Option.map_map, Option.map_map]
  refine congrArg (Option.map · found) (funext fun l => ?_)
  simp only [Function.comp, foundAt, spanAt_after]

theorem scanImport_at (h : Between input i before s) (hprev : before.head? = some 't') :
    scanImport input i = .ok ((importSpecifier? s).map (foundAt i)) := by
  have htrivia := h.at.trivia
  have hlast : ((trivia s).1.reverse ++ before).head? =
      some ((trivia s).1.getLast?.getD 't') := by
    rw [List.head?_append, List.head?_reverse, hprev]
    cases (trivia s).1.getLast? <;> rfl
  rw [scanImport, skipTrivia_at h.at]
  simp only [bind, Except.bind]
  cases hs : (trivia s).2 with
  | nil =>
      rw [hs] at htrivia
      rw [htrivia.at?_nil, importSpecifier?]
      simp only [hs]
      rfl
  | cons c rest =>
      rw [hs] at htrivia
      obtain ⟨d, hd, hat⟩ := htrivia.at?_cons
      rw [hat]
      dsimp only
      simp only [hd.eq_iff (a := '(') (by decide), hd.eq_iff (a := '"') (by decide),
        hd.eq_iff (a := '\'') (by decide)]
      split_ifs with hcall hquote
      · subst hcall
        have hcall : scanCall input (i + byteSize (trivia s).1 + 1) = _ := scanCall_at htrivia.tail
        have hsize : i + byteSize (trivia s).1 + 1 = i + byteSize ((trivia s).1 ++ ['(']) := by
          rw [byteSize_append, ← Nat.add_assoc]
          rfl
        rw [importSpecifier?_of_call hs, hcall, hsize]
        exact congrArg Except.ok (map_foundAt_after .dynamic i _ _).symm
      · rw [importSpecifier?_of_quote hs (by simpa using hquote), readLiteral_at htrivia, hs]
        exact congrArg Except.ok (map_foundAt_after .imported i _ _).symm
      · have hclause : Between input (i + byteSize (trivia s).1) ((trivia s).1.reverse ++ before)
            (trivia s).2 := Between.advance (by rwa [trivia_append])
        rw [importSpecifier?_of_clause hs hcall (by simpa using hquote), ← hlast,
          scanClause_at hclause]
        exact congrArg Except.ok (map_foundAt_after .imported i _ _).symm

theorem ascii_importWord : ∀ c ∈ importWord, c.toNat < 0x80 := ascii_of_all (by decide)

theorem ascii_exportWord : ∀ c ∈ exportWord, c.toNat < 0x80 := ascii_of_all (by decide)

theorem step_eq {d : Char} (h : at? input i = some d) :
    step input i = (do
      match ← skipComment input i with
      | some next => return (none, next)
      | none =>
        if ← opensRegex input i d then return (none, ← skipRegex input i)
        else if isQuote d then return (none, ← skipString input i)
        else keywordStep input i) := by
  rw [step, look_eq_of_at? h]
  rfl

theorem step_high {d : Char} (h : at? input i = some d) (hhigh : 0x80 ≤ d.toNat) :
    step input i = .ok (none, i + 1) := by
  have himport : matchesKeyword input i importWord = .ok false :=
    matchesKeyword_of_ne h (ne_of_high hhigh (by decide))
  have hexport : matchesKeyword input i exportWord = .ok false :=
    matchesKeyword_of_ne h (ne_of_high hhigh (by decide))
  have hquote : isQuote d = false := by
    rw [← Bool.not_eq_true]
    exact fun hq => absurd (toNat_quote hq) (Nat.not_lt_of_le hhigh)
  rw [step_eq h, skipComment_of_ne h (ne_of_high hhigh (by decide)), opensRegex,
    if_neg (ne_of_high hhigh (by decide))]
  simp only [bind, Except.bind, hquote, keywordStep, himport, hexport]
  rfl

theorem keywordStep_import {rest : List Char} (h : Between input i before s)
    (hkeyword : keyword? importWord before.head? s = some rest) :
    keywordStep input i =
      .ok (afterKeyword i importWord ((importSpecifier? rest).map (foundAt (i + 6)))) := by
  have hmatches := matchesKeyword_at ascii_importWord h
  rw [hkeyword] at hmatches
  rw [← keyword?_append hkeyword] at h
  have hrest := scanImport_at h.advance rfl
  change scanImport input (i + importWord.length) = _ at hrest
  rw [keywordStep, hmatches]
  simp only [bind, Except.bind, Option.isSome_some, if_true]
  rw [hrest]
  rfl

theorem keywordStep_export {rest : List Char} (h : Between input i before s)
    (hkeyword : keyword? exportWord before.head? s = some rest) :
    keywordStep input i =
      .ok (afterKeyword i exportWord
        (((clause? (some 't') rest).map (spanAt (i + 6))).map (SiteKind.exported, ·))) := by
  have himport := matchesKeyword_at ascii_importWord h
  have hexport := matchesKeyword_at ascii_exportWord h
  rw [hkeyword] at hexport
  rw [keyword?_import_of_export hkeyword] at himport
  rw [← keyword?_append hkeyword] at h
  have hrest := scanClause_at h.advance
  change scanClause input (i + exportWord.length) = _ at hrest
  rw [keywordStep, himport]
  simp only [bind, Except.bind, Option.isSome_none, Bool.false_eq_true, if_false]
  rw [hexport]
  simp only [Option.isSome_some, if_true]
  rw [hrest]
  rfl

theorem keywordStep_other (h : Between input i before s)
    (himport : keyword? importWord before.head? s = none)
    (hexport : keyword? exportWord before.head? s = none) :
    keywordStep input i = .ok (none, i + 1) := by
  have hi := matchesKeyword_at ascii_importWord h
  have he := matchesKeyword_at ascii_exportWord h
  rw [himport] at hi
  rw [hexport] at he
  rw [keywordStep, hi]
  simp only [bind, Except.bind, Option.isSome_none, Bool.false_eq_true, if_false]
  rw [he]
  rfl

theorem scanFrom_of_le (h : input.length ≤ i) : scanFrom input i = .ok [] := by
  rw [scanFrom, dif_neg (Nat.not_lt_of_le h)]

theorem scanFrom_of_step {found : Option (SiteKind × Span)} {next : Nat} (h : i < input.length)
    (hstep : step input i = .ok (found, next)) :
    scanFrom input i = (scanFrom input next).map (found.toList ++ ·) := by
  rw [scanFrom, dif_pos h]
  split
  · next htrap =>
      rw [hstep] at htrap
      cases htrap
  · next hfound =>
      rw [hstep] at hfound
      cases hfound
      rfl

theorem scanFrom_of_none {next : Nat} (h : i < input.length)
    (hstep : step input i = .ok (none, next)) : scanFrom input i = scanFrom input next := by
  rw [scanFrom_of_step h hstep]
  cases scanFrom input next <;> rfl

theorem scanFrom_high {d : Char} (h : at? input i = some d) (hhigh : 0x80 ≤ d.toNat) :
    scanFrom input i = scanFrom input (i + 1) :=
  scanFrom_of_none (lt_of_at? h) (step_high h hhigh)

/-- A place where no comment, regular expression or string begins is one for a keyword. -/
theorem step_keyword (h : Between input i before (c :: s)) (hcomment : comment? (c :: s) = none)
    (hregex : ¬ (c = '/' ∧ Source.regexAllowed before = true)) (hquote : isQuote c = false) :
    step input i = keywordStep input i := by
  obtain ⟨d, hd, hat⟩ := h.at.at?_cons
  have hskip := skipComment_at h.at
  rw [hcomment] at hskip
  have hopens : opensRegex input i d = .ok false := by
    rw [opensRegex]
    split_ifs with hslash
    · have hc : c = '/' := (hd.eq_iff (by decide)).mp hslash
      rw [regexAllowed_at h]
      simpa [hc] using hregex
    · rfl
  rw [step_eq hat, hskip, hopens]
  simp only [bind, Except.bind, Option.map_none, Bool.false_eq_true, if_false,
    uniform_isQuote.similar hd, hquote]

theorem step_regex (h : Between input i before (c :: s)) (hcomment : comment? (c :: s) = none)
    (hc : c = '/') (hallowed : Source.regexAllowed before = true) :
    step input i = .ok (none, i + byteSize (c :: (regexBody false s).1)) := by
  subst hc
  have hskip := skipComment_at h.at
  rw [hcomment] at hskip
  rw [step_eq (h.at.at?_ascii (by decide)), hskip, opensRegex, if_pos rfl, regexAllowed_at h,
    hallowed]
  simp only [bind, Except.bind, if_true]
  rw [skipRegex_at h.at]
  rfl

theorem step_quote (h : Between input i before (c :: s)) (hquote : isQuote c = true) :
    step input i = .ok (none, i + byteSize (c :: (stringBody c s).1)) := by
  have hat := h.at.at?_ascii (toNat_quote hquote)
  have hslash := isQuote_ne_slash hquote
  rw [step_eq hat, skipComment_of_ne hat hslash, opensRegex, if_neg hslash]
  simp only [bind, Except.bind, Bool.false_eq_true, if_false, hquote, if_true]
  rw [skipString_at hquote h.at]
  rfl

/-- A text that the walk passes as the search in characters does. -/
def PassedOver (input : Bytes) (i : Nat) (before s : List Char) : Prop :=
  ∃ t rest, t ++ rest = s ∧ t ≠ [] ∧ Passed before t rest ∧
    scanFrom input i = scanFrom input (i + byteSize t)

theorem passedOver_of_piece {text rest : List Char} (h : Between input i before (c :: s))
    (hpiece : piece before c s = (.other text, rest))
    (hstep : step input i = .ok (none, i + byteSize text)) :
    PassedOver input i before (c :: s) := by
  have happend := piece_append before c s
  have hne := piece_text_ne_nil before c s
  rw [hpiece] at happend hne
  exact ⟨text, rest, happend, hne, passed_of_piece hpiece, scanFrom_of_none h.at.lt hstep⟩

theorem passedOver_keyword {word rest : List Char} (h : Between input i before s)
    (hword : (Lexeme.word word).Valid) (hascii : ∀ c ∈ word, c.toNat < 0x80)
    (hsplit : word ++ rest = s) (hsite : site? before.head? s = none)
    (hstep : step input i = .ok (afterKeyword i word none)) : PassedOver input i before s := by
  subst hsplit
  refine ⟨word, rest, rfl, hword.1, passed_word hword hsite, ?_⟩
  have hlt : i < input.length := by
    have hlength := h.at.length
    have := List.length_pos_iff.mpr hword.1
    rw [byteSize_append, byteSize_ascii hascii] at hlength
    omega
  rw [byteSize_ascii hascii]
  exact scanFrom_of_none hlt hstep

theorem keywordStep_site {kind : SiteKind} {l : Literal} (h : Between input i before s)
    (hsite : site? before.head? s = some (kind, l)) :
    keywordStep input i = .ok (some (kind, spanAt i l), (spanAt i l).next) := by
  rcases site?_cases hsite with ⟨rest, m, hkeyword, hm, rfl⟩ | ⟨rest, m, hkeyword, hm, rfl, rfl⟩
  · rw [keywordStep_import h hkeyword, hm, spanAt_after]
    rfl
  · rw [keywordStep_export h hkeyword, hm, spanAt_after]
    rfl

/-- Behind a keyword that begins no site the walk goes on, and elsewhere behind the character. -/
theorem passedOver_of_none (h : Between input i before (c :: s))
    (hsite : site? before.head? (c :: s) = none) (hpiece : piece before c s = (.other [c], s))
    (hstep : step input i = keywordStep input i) : PassedOver input i before (c :: s) := by
  cases himport : keyword? importWord before.head? (c :: s) with
  | some rest =>
      have hnone : importSpecifier? rest = none := by
        rw [site?_of_import himport] at hsite
        exact Option.map_eq_none_iff.mp hsite
      refine passedOver_keyword h ⟨List.cons_ne_nil _ _, isWord_of_mem_import⟩ ascii_importWord
        (keyword?_append himport) hsite ?_
      rw [hstep, keywordStep_import h himport, hnone]
      rfl
  | none =>
      cases hexport : keyword? exportWord before.head? (c :: s) with
      | some rest =>
          have hnone : clause? (some 't') rest = none := by
            rw [site?_of_export hexport] at hsite
            exact Option.map_eq_none_iff.mp hsite
          refine passedOver_keyword h ⟨List.cons_ne_nil _ _, isWord_of_mem_export⟩ ascii_exportWord
            (keyword?_append hexport) hsite ?_
          rw [hstep, keywordStep_export h hexport, hnone]
          rfl
      | none =>
          refine ⟨[c], s, rfl, List.cons_ne_nil c [], passed_of_piece hpiece, ?_⟩
          rw [scanFrom_of_none h.at.lt (hstep.trans (keywordStep_other h himport hexport))]
          exact h.at.pass_tail (scanFrom input) fun j d => scanFrom_high

/-- What a step does where a character begins. -/
theorem step_cases (h : Between input i before (c :: s)) :
    PassedOver input i before (c :: s) ∨
      ∃ kind l, piece before c s = (.site kind l.lead l.raw l.quote, l.rest) ∧
        step input i = .ok (some (kind, spanAt i l), (spanAt i l).next) := by
  rcases piece_cases before s c with ⟨text, rest, hcomment, hpiece⟩ |
    ⟨hcomment, hc, hallowed, hpiece⟩ | ⟨hquote, hpiece⟩ |
    ⟨hcomment, hregex, hquote, kind, l, hsite, hpiece⟩ | ⟨hcomment, hregex, hquote, hsite, hpiece⟩
  · obtain ⟨d, hd, hat⟩ := h.at.at?_cons
    have hskip := skipComment_at h.at
    rw [hcomment] at hskip
    refine .inl (passedOver_of_piece h hpiece ?_)
    rw [step_eq hat, hskip]
    rfl
  · exact .inl (passedOver_of_piece h hpiece (step_regex h hcomment hc hallowed))
  · exact .inl (passedOver_of_piece h hpiece (step_quote h hquote))
  · refine .inr ⟨kind, l, hpiece, ?_⟩
    rw [step_keyword h hcomment hregex hquote, keywordStep_site h hsite]
  · exact .inl (passedOver_of_none h hsite hpiece (step_keyword h hcomment hregex hquote))

/-- A site as the walk finds it. -/
def ofSite (site : Site) : SiteKind × Span := (site.kind, ⟨site.start, site.stop, site.stop + 1⟩)

/-- From every character on the walk finds the sites of the text behind it. -/
theorem scanFrom_at (h : Between input i before s) (line : Nat) :
    scanFrom input i = .ok ((sitesFrom i line (pieces before s)).map ofSite) := by
  -- The induction is on the text that is left: every step passes a part of it.
  induction hn : s.length using Nat.strong_induction_on generalizing i before s line with
  | _ n ih =>
    subst hn
    cases s with
    | nil =>
        rw [scanFrom_of_le (Nat.le_of_eq h.at.length_nil), pieces]
        rfl
    | cons c s =>
        rcases step_cases h with ⟨t, rest, hsplit, hne, hpassed, hscan⟩ | ⟨kind, l, hpiece, hstep⟩
        · have hlt : rest.length < (c :: s).length := by
            have := List.length_pos_iff.mpr hne
            rw [← hsplit, List.length_append]
            omega
          rw [← hsplit] at h ⊢
          rw [hscan, hpassed]
          exact ih _ hlt h.advance _ rfl
        · have happend := piece_append before c s
          have hproper := piece_proper before s c
          rw [hpiece] at happend hproper
          have hquote : isQuote l.quote = true := hproper.1.quote
          have hsize := utf8Size_ascii (toNat_quote hquote)
          have hlt : l.rest.length < (c :: s).length := by
            have := piece_length before c s
            rw [hpiece] at this
            exact Nat.lt_succ_of_le this
          have hrest : Between input (spanAt i l).next
              ((Piece.site kind l.lead l.raw l.quote).text.reverse ++ before) l.rest := by
            have hadvance := Between.advance (happend.symm ▸ h)
            simp only [Piece.text, byteSize_append, byteSize_cons, byteSize_nil, hsize,
              ← Nat.add_assoc] at hadvance
            exact hadvance
          have hscan := ih _ hlt hrest (line + lineFeeds l.lead + lineFeeds l.raw) rfl
          rw [scanFrom_of_step h.at.lt hstep, hscan, pieces_cons hpiece, sitesFrom_site, hsize]
          rfl

/-- The walk over the bytes of a text finds its sites. -/
theorem scanFrom_sites (source : String) :
    scanFrom (Text.Utf8.encode source) 0 = .ok ((sites source).map ofSite) :=
  @scanFrom_at _ 0 [] source.toList ⟨rfl, rfl⟩ 1

end ImportResolver.Source.Bytewise

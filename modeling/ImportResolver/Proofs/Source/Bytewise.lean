import ImportResolver.Source.Site
import ImportResolver.Text.Utf8
import Mathlib.Tactic.SplitIfs
/- The search for sites as a walk over bytes by their indices, in which every access and every slice
is checked. However the bytes read, the walk goes forward with each step and ends. -/
namespace ImportResolver.Source.Bytewise

/-- What a walk over bytes must not do. -/
inductive Trap where
  | index (i : Nat)
  | slice (start stop : Nat)
  /-- A line number that does not fit. -/
  | line
  deriving DecidableEq

abbrev Checked := Except Trap

/-- A byte as the character of that number. Bytes of characters beyond ASCII stay beyond it. -/
def letter (b : UInt8) : Char := Char.ofNat b.toNat

/-- The byte at an index, if there is one. -/
def at? (bytes : Bytes) (i : Nat) : Option Char := bytes[i]?.map letter

/-- The byte at an index that has to be there. -/
def look (bytes : Bytes) (i : Nat) : Checked Char :=
  match at? bytes i with
  | some c => .ok c
  | none => .error (.index i)

def slice (bytes : Bytes) (start stop : Nat) : Checked Bytes :=
  if start ≤ stop ∧ stop ≤ bytes.length then .ok ((bytes.take stop).drop start)
  else .error (.slice start stop)

/-- Forward from `i` as long as the bytes pass the test. -/
def skipWhile (p : Char → Bool) (bytes : Bytes) (i : Nat) : Checked Nat :=
  if i < bytes.length then
    match look bytes i with
    | .error trap => .error trap
    | .ok c => if p c then skipWhile p bytes (i + 1) else .ok i
  else .ok i
termination_by bytes.length - i

/-- Backward from `i` as long as the bytes pass the test. -/
def backWhile (p : Char → Bool) (bytes : Bytes) : Nat → Checked Nat
  | 0 => .ok 0
  | i + 1 =>
    match look bytes i with
    | .error trap => .error trap
    | .ok c => if p c then backWhile p bytes i else .ok (i + 1)

/-- Through the end mark of a block comment. -/
def blockEnd (bytes : Bytes) (i : Nat) : Checked Nat :=
  if i + 1 < bytes.length then
    match look bytes i, look bytes (i + 1) with
    | .ok c, .ok d =>
      if c = '*' && d = '/' then .ok (min (i + 2) bytes.length) else blockEnd bytes (i + 1)
    | .error trap, _ => .error trap
    | _, .error trap => .error trap
  else .ok (min (i + 2) bytes.length)
termination_by bytes.length - i

def skipComment (bytes : Bytes) (i : Nat) : Checked (Option Nat) :=
  if at? bytes i = some '/' then
    match at? bytes (i + 1) with
    | some '/' => (skipWhile (· ≠ '\n') bytes (i + 2)).map some
    | some '*' => (blockEnd bytes (i + 2)).map some
    | _ => .ok none
  else .ok none

/-- Whether a slash at `i` begins a regular expression. -/
def regexAllowed (bytes : Bytes) (i : Nat) : Checked Bool := do
  let stop ← backWhile isSpace bytes i
  if stop = 0 then return true
  let prev ← look bytes (stop - 1)
  if prev = ')' || prev = ']' then return false
  if !isWord prev then return true
  let start ← backWhile isWord bytes stop
  let word ← slice bytes start stop
  return regexWords.contains (String.ofList (word.map letter))

/-- Whether the byte `c` at `i` begins a regular expression. -/
def opensRegex (bytes : Bytes) (i : Nat) (c : Char) : Checked Bool :=
  if c = '/' then regexAllowed bytes i else .ok false

/-- After the flags of a regular expression whose closing slash is at `i`. -/
def regexFlags (bytes : Bytes) (i : Nat) : Checked Nat :=
  (skipWhile isWord bytes (i + 1)).map (min · bytes.length)

def regexEnd (bytes : Bytes) (inClass : Bool) (i : Nat) : Checked Nat :=
  if i < bytes.length then
    match look bytes i with
    | .error trap => .error trap
    | .ok c =>
      if c = '\\' then regexEnd bytes inClass (i + 2)
      else if c = '\n' then .ok i
      else if c = '[' then regexEnd bytes true (i + 1)
      else if c = ']' then regexEnd bytes false (i + 1)
      else if c = '/' && !inClass then regexFlags bytes i
      else regexEnd bytes inClass (i + 1)
  else regexFlags bytes i
termination_by bytes.length - i

def skipRegex (bytes : Bytes) (i : Nat) : Checked Nat := regexEnd bytes false (i + 1)

def stringEnd (bytes : Bytes) (quote : Char) (i : Nat) : Checked Nat :=
  if i < bytes.length then
    match look bytes i with
    | .error trap => .error trap
    | .ok c =>
      if c = quote then .ok (min (i + 1) bytes.length)
      else if c = '\\' then stringEnd bytes quote (i + 2)
      else if c = '\n' && quote ≠ '\x60' then .ok i
      else stringEnd bytes quote (i + 1)
  else .ok (min (i + 1) bytes.length)
termination_by bytes.length - i

def skipString (bytes : Bytes) (i : Nat) : Checked Nat := do
  stringEnd bytes (← look bytes i) (i + 1)

/-- Where the content of a literal ends, if its text is its value. -/
def contentEnd (bytes : Bytes) (quote : Char) (i : Nat) : Checked (Option Nat) :=
  if i < bytes.length then
    match look bytes i with
    | .error trap => .error trap
    | .ok c =>
      if c = quote then .ok (some i)
      else if c = '\\' || c = '\n' then .ok none
      else if c = '$' && quote = '\x60' && at? bytes (i + 1) = some '\x7b' then .ok none
      else contentEnd bytes quote (i + 1)
  else .ok none
termination_by bytes.length - i

/-- The content of a literal, and where the text goes on after the closing quote. -/
structure Span where
  start : Nat
  stop : Nat
  next : Nat
  deriving DecidableEq

def readLiteral (bytes : Bytes) (i : Nat) : Checked (Option Span) :=
  match at? bytes i with
  | none => .ok none
  | some quote =>
    if isQuote quote then
      (contentEnd bytes quote (i + 1)).map (·.map fun stop => ⟨i + 1, stop, stop + 1⟩)
    else .ok none

/-- Whether what stands before `i` lets a word begin there that is no member's name. -/
def opensWord (bytes : Bytes) (i : Nat) : Checked Bool :=
  if 0 < i then (look bytes (i - 1)).map fun c => !(isWord c || c = '.') else .ok true

/-- Whether what stands at `i` lets a word end there. -/
def closesWord (bytes : Bytes) (i : Nat) : Checked Bool :=
  if i < bytes.length then (look bytes i).map fun c => !isWord c else .ok true

/-- Whether a keyword stands at `i` as a word of its own. -/
def matchesKeyword (bytes : Bytes) (i : Nat) (word : List Char) : Checked Bool :=
  if bytes.length < i + word.length then .ok false
  else do
    if (← slice bytes i (i + word.length)).map letter = word then
      if ← opensWord bytes i then closesWord bytes (i + word.length) else return false
    else return false

/-- `next` lies behind `i`, and not behind the end. -/
def Ahead (bytes : Bytes) (i next : Nat) : Prop := i < next ∧ next ≤ bytes.length

section

variable {bytes : Bytes} {i next : Nat}

theorem at?_eq_some (h : i < bytes.length) : ∃ c, at? bytes i = some c := by
  rw [at?, List.getElem?_eq_getElem h]
  exact ⟨_, rfl⟩

theorem lt_of_at? {c : Char} (h : at? bytes i = some c) : i < bytes.length := by
  obtain ⟨b, hb, -⟩ := Option.map_eq_some_iff.mp h
  exact (List.getElem?_eq_some_iff.mp hb).1

theorem look_ok (h : i < bytes.length) : ∃ c, look bytes i = .ok c ∧ at? bytes i = some c := by
  obtain ⟨c, hc⟩ := at?_eq_some h
  refine ⟨c, ?_, hc⟩
  rw [look, hc]

/-- Within the bytes no access traps. -/
theorem look_ne_error (h : i < bytes.length) (trap : Trap) : look bytes i ≠ .error trap := by
  obtain ⟨c, hc, -⟩ := look_ok h
  rw [hc]
  exact nofun

theorem slice_ok {start stop : Nat} (h : start ≤ stop) (hstop : stop ≤ bytes.length) :
    slice bytes start stop = .ok ((bytes.take stop).drop start) := if_pos ⟨h, hstop⟩

theorem skipWhile_ok (p : Char → Bool) (h : i ≤ bytes.length) :
    ∃ next, skipWhile p bytes i = .ok next ∧ i ≤ next ∧ next ≤ bytes.length := by
  fun_induction skipWhile p bytes i with
  | case1 i hlt trap hlook => exact absurd hlook (look_ne_error hlt trap)
  | case2 i hlt c hlook hp ih =>
      obtain ⟨next, hnext, hle, hlen⟩ := ih hlt
      exact ⟨next, hnext, by omega, hlen⟩
  | case3 i hlt c hlook hp => exact ⟨i, rfl, Nat.le_refl i, h⟩
  | case4 i hlt => exact ⟨i, rfl, Nat.le_refl i, h⟩

theorem blockEnd_ok (h : i ≤ bytes.length) :
    ∃ next, blockEnd bytes i = .ok next ∧ i ≤ next ∧ next ≤ bytes.length := by
  fun_induction blockEnd bytes i with
  | case1 i hlt c d hc hd hmark => exact ⟨_, rfl, by omega, Nat.min_le_right _ _⟩
  | case2 i hlt c d hc hd hmark ih =>
      obtain ⟨next, hnext, hle, hlen⟩ := ih (by omega)
      exact ⟨next, hnext, by omega, hlen⟩
  | case3 i hlt trap hlook => exact absurd hlook (look_ne_error (Nat.lt_of_succ_lt hlt) trap)
  | case4 i hlt trap hlook => exact absurd hlook (look_ne_error hlt trap)
  | case5 i hlt => exact ⟨_, rfl, by omega, Nat.min_le_right _ _⟩

theorem skipComment_ok (bytes : Bytes) (i : Nat) :
    ∃ r, skipComment bytes i = .ok r ∧ ∀ next, r = some next → Ahead bytes i next := by
  rw [skipComment]
  split_ifs with hslash
  · split
    · next hsecond =>
      obtain ⟨next, hnext, hle, hlen⟩ := skipWhile_ok (· ≠ '\n') (lt_of_at? hsecond)
      refine ⟨some next, by rw [hnext]; rfl, fun other hother => ?_⟩
      cases hother
      exact ⟨by omega, hlen⟩
    · next hsecond =>
      obtain ⟨next, hnext, hle, hlen⟩ := blockEnd_ok (lt_of_at? hsecond)
      refine ⟨some next, by rw [hnext]; rfl, fun other hother => ?_⟩
      cases hother
      exact ⟨by omega, hlen⟩
    · exact ⟨none, rfl, nofun⟩
  · exact ⟨none, rfl, nofun⟩

theorem ahead_of_skipComment (h : skipComment bytes i = .ok (some next)) : Ahead bytes i next := by
  obtain ⟨r, hr, hahead⟩ := skipComment_ok bytes i
  rw [h] at hr
  exact hahead next (Except.ok.inj hr).symm

theorem le_of_skipWhile {p : Char → Bool} (h : skipWhile p bytes i = .ok next) : i ≤ next := by
  by_cases hi : i ≤ bytes.length
  · obtain ⟨other, hother, hle, -⟩ := skipWhile_ok p hi
    rw [h] at hother
    cases hother
    exact hle
  · rw [skipWhile, if_neg (by omega)] at h
    cases h
    exact Nat.le_refl i

theorem backWhile_ok (p : Char → Bool) (h : i ≤ bytes.length) :
    ∃ start, backWhile p bytes i = .ok start ∧ start ≤ i := by
  induction i with
  | zero => exact ⟨0, rfl, Nat.le_refl 0⟩
  | succ i ih =>
      obtain ⟨c, hc, -⟩ := look_ok h
      rw [backWhile, hc]
      dsimp only
      split_ifs
      · obtain ⟨start, hstart, hle⟩ := ih (Nat.le_of_succ_le h)
        exact ⟨start, hstart, Nat.le_succ_of_le hle⟩
      · exact ⟨i + 1, rfl, Nat.le_refl _⟩

theorem regexAllowed_ok (h : i ≤ bytes.length) : ∃ allowed, regexAllowed bytes i = .ok allowed := by
  obtain ⟨stop, hstop, hle⟩ := backWhile_ok isSpace h
  rw [regexAllowed, hstop]
  simp only [bind, Except.bind]
  split_ifs with hzero
  · exact ⟨true, rfl⟩
  · obtain ⟨c, hc, -⟩ := @look_ok bytes (stop - 1) (by omega)
    rw [hc]
    dsimp only
    split_ifs
    · exact ⟨false, rfl⟩
    · exact ⟨true, rfl⟩
    · obtain ⟨start, hstart, hback⟩ := backWhile_ok isWord (Nat.le_trans hle h)
      rw [hstart]
      dsimp only
      rw [slice_ok hback (Nat.le_trans hle h)]
      exact ⟨_, rfl⟩

theorem opensRegex_ok (h : i ≤ bytes.length) (c : Char) : ∃ r, opensRegex bytes i c = .ok r := by
  rw [opensRegex]
  split_ifs
  · exact regexAllowed_ok h
  · exact ⟨false, rfl⟩

theorem regexFlags_ok (bytes : Bytes) (i : Nat) :
    ∃ next, regexFlags bytes i = .ok next ∧ min (i + 1) bytes.length ≤ next ∧
      next ≤ bytes.length := by
  rw [regexFlags]
  by_cases h : i + 1 ≤ bytes.length
  · obtain ⟨next, hnext, hle, hlen⟩ := skipWhile_ok isWord h
    rw [hnext]
    exact ⟨min next bytes.length, rfl, by omega, Nat.min_le_right _ _⟩
  · rw [skipWhile, if_neg (by omega)]
    exact ⟨min (i + 1) bytes.length, rfl, Nat.le_refl _, Nat.min_le_right _ _⟩

theorem regexEnd_ok (bytes : Bytes) (inClass : Bool) (i : Nat) :
    ∃ next, regexEnd bytes inClass i = .ok next ∧ min i bytes.length ≤ next ∧
      next ≤ bytes.length := by
  fun_induction regexEnd bytes inClass i with
  | case1 inClass i hlt trap hlook => exact absurd hlook (look_ne_error hlt trap)
  | case2 inClass i hlt hlook ih | case4 inClass i hlt hlook _ _ ih
  | case5 inClass i hlt hlook _ _ _ ih | case7 inClass i hlt c hlook _ _ _ _ _ ih =>
      obtain ⟨next, hnext, hle, hlen⟩ := ih
      exact ⟨next, hnext, by omega, hlen⟩
  | case3 inClass i hlt hlook => exact ⟨i, rfl, by omega, by omega⟩
  | case6 inClass i hlt c hlook _ _ _ _ _ =>
      obtain ⟨next, hnext, hle, hlen⟩ := regexFlags_ok bytes i
      exact ⟨next, hnext, by omega, hlen⟩
  | case8 inClass i hlt =>
      obtain ⟨next, hnext, hle, hlen⟩ := regexFlags_ok bytes i
      exact ⟨next, hnext, by omega, hlen⟩

theorem skipRegex_ok (h : i < bytes.length) :
    ∃ next, skipRegex bytes i = .ok next ∧ Ahead bytes i next := by
  obtain ⟨next, hnext, hle, hlen⟩ := regexEnd_ok bytes false (i + 1)
  exact ⟨next, hnext, by omega, hlen⟩

theorem stringEnd_ok (bytes : Bytes) (quote : Char) (i : Nat) :
    ∃ next, stringEnd bytes quote i = .ok next ∧ min i bytes.length ≤ next ∧
      next ≤ bytes.length := by
  fun_induction stringEnd bytes quote i with
  | case1 i hlt trap hlook => exact absurd hlook (look_ne_error hlt trap)
  | case2 i hlt hlook => exact ⟨_, rfl, by omega, Nat.min_le_right _ _⟩
  | case3 i hlt hlook hquote ih | case5 i hlt c hlook _ _ _ ih =>
      obtain ⟨next, hnext, hle, hlen⟩ := ih
      exact ⟨next, hnext, by omega, hlen⟩
  | case4 i hlt c hlook => exact ⟨i, rfl, by omega, by omega⟩
  | case6 i hlt => exact ⟨_, rfl, by omega, Nat.min_le_right _ _⟩

theorem skipString_ok (h : i < bytes.length) :
    ∃ next, skipString bytes i = .ok next ∧ Ahead bytes i next := by
  obtain ⟨c, hc, -⟩ := look_ok h
  obtain ⟨next, hnext, hle, hlen⟩ := stringEnd_ok bytes c (i + 1)
  refine ⟨next, ?_, by omega, hlen⟩
  rw [skipString, hc]
  exact hnext

theorem contentEnd_ok (bytes : Bytes) (quote : Char) (i : Nat) :
    ∃ r, contentEnd bytes quote i = .ok r ∧ ∀ stop, r = some stop → i ≤ stop ∧
      stop < bytes.length := by
  fun_induction contentEnd bytes quote i with
  | case1 i hlt trap hlook => exact absurd hlook (look_ne_error hlt trap)
  | case2 i hlt hlook =>
      refine ⟨some i, rfl, fun stop hstop => ?_⟩
      cases hstop
      exact ⟨Nat.le_refl i, hlt⟩
  | case3 | case4 | case6 => exact ⟨none, rfl, nofun⟩
  | case5 i hlt c hlook _ _ _ ih =>
      obtain ⟨r, hr, hall⟩ := ih
      refine ⟨r, hr, fun stop hstop => ?_⟩
      have := hall stop hstop
      omega

/-- The content of a literal lies behind its quote, and the closing quote behind that. -/
structure Span.Within (span : Span) (bytes : Bytes) (i : Nat) : Prop where
  start : i < span.start
  stop : span.start ≤ span.stop
  next : span.stop < span.next
  length : span.next ≤ bytes.length

theorem Span.Within.mono {span : Span} {i j : Nat} (h : span.Within bytes j) (hle : i ≤ j) :
    span.Within bytes i := ⟨Nat.lt_of_le_of_lt hle h.start, h.stop, h.next, h.length⟩

theorem readLiteral_ok (bytes : Bytes) (i : Nat) :
    ∃ r, readLiteral bytes i = .ok r ∧ ∀ span, r = some span → span.Within bytes i := by
  rw [readLiteral]
  split
  · exact ⟨none, rfl, nofun⟩
  · next quote hquote =>
    split_ifs
    · obtain ⟨r, hr, hall⟩ := contentEnd_ok bytes quote (i + 1)
      refine ⟨_, by rw [hr]; rfl, fun span hspan => ?_⟩
      obtain ⟨stop, hstop, rfl⟩ := Option.map_eq_some_iff.mp hspan
      obtain ⟨hle, hlt⟩ := hall stop hstop
      exact ⟨Nat.lt_succ_self i, hle, Nat.lt_succ_self stop, hlt⟩
    · exact ⟨none, rfl, nofun⟩

theorem opensWord_ok (h : i ≤ bytes.length) : ∃ r, opensWord bytes i = .ok r := by
  rw [opensWord]
  split_ifs
  · obtain ⟨c, hc, -⟩ := @look_ok bytes (i - 1) (by omega)
    rw [hc]
    exact ⟨_, rfl⟩
  · exact ⟨true, rfl⟩

theorem closesWord_ok (bytes : Bytes) (i : Nat) : ∃ r, closesWord bytes i = .ok r := by
  rw [closesWord]
  split_ifs with h
  · obtain ⟨c, hc, -⟩ := look_ok h
    rw [hc]
    exact ⟨_, rfl⟩
  · exact ⟨true, rfl⟩

theorem matchesKeyword_ok (bytes : Bytes) (i : Nat) (word : List Char) :
    ∃ r, matchesKeyword bytes i word = .ok r ∧ (r = true → i + word.length ≤ bytes.length) := by
  rw [matchesKeyword]
  split_ifs with hlong
  · exact ⟨false, rfl, nofun⟩
  · have hstop : i + word.length ≤ bytes.length := Nat.le_of_not_lt hlong
    obtain ⟨opens, hopens⟩ := @opensWord_ok bytes i (by omega)
    obtain ⟨closes, hcloses⟩ := closesWord_ok bytes (i + word.length)
    simp only [slice_ok (Nat.le_add_right i _) hstop, hopens, hcloses, bind, Except.bind]
    split_ifs
    · exact ⟨closes, rfl, fun _ => hstop⟩
    · exact ⟨false, rfl, nofun⟩
    · exact ⟨false, rfl, nofun⟩

end

/-- After blanks and comments. -/
def skipTrivia (bytes : Bytes) (i : Nat) : Checked Nat :=
  match _h : skipWhile isSpace bytes i with
  | .error trap => .error trap
  | .ok j =>
    match _hc : skipComment bytes j with
    | .error trap => .error trap
    | .ok none => .ok j
    | .ok (some next) => skipTrivia bytes next
termination_by bytes.length - i
decreasing_by
  have := le_of_skipWhile _h
  have := ahead_of_skipComment _hc
  simp only [Ahead] at this
  omega

theorem skipTrivia_ok {bytes : Bytes} {i : Nat} (h : i ≤ bytes.length) :
    ∃ next, skipTrivia bytes i = .ok next ∧ i ≤ next ∧ next ≤ bytes.length := by
  fun_induction skipTrivia bytes i with
  | case1 i trap hskip =>
      obtain ⟨next, hnext, -⟩ := skipWhile_ok isSpace h
      rw [hskip] at hnext
      cases hnext
  | case2 i j hskip trap hcomment =>
      obtain ⟨r, hr, -⟩ := skipComment_ok bytes j
      rw [hcomment] at hr
      cases hr
  | case3 i j hskip hcomment =>
      obtain ⟨next, hnext, hle, hlen⟩ := skipWhile_ok isSpace h
      rw [hskip] at hnext
      cases hnext
      exact ⟨j, rfl, hle, hlen⟩
  | case4 i j hskip next hcomment ih =>
      have hle := le_of_skipWhile hskip
      obtain ⟨hlt, hlen⟩ := ahead_of_skipComment hcomment
      obtain ⟨last, hlast, hnext, hend⟩ := ih hlen
      exact ⟨last, hlast, by omega, hend⟩

/-- The literal after the first `from` of a clause. -/
def scanClause (bytes : Bytes) (i : Nat) : Checked (Option Span) :=
  if i < bytes.length then
    match look bytes i with
    | .error trap => .error trap
    | .ok c =>
      match _hc : skipComment bytes i with
      | .error trap => .error trap
      | .ok (some next) => scanClause bytes next
      | .ok none =>
        match matchesKeyword bytes i fromWord with
        | .error trap => .error trap
        | .ok true => do readLiteral bytes (← skipTrivia bytes (i + fromWord.length))
        | .ok false => if isClauseChar c then scanClause bytes (i + 1) else .ok none
  else .ok none
termination_by bytes.length - i
decreasing_by
  · have := ahead_of_skipComment _hc
    simp only [Ahead] at this
    omega
  · omega

theorem scanClause_ok (bytes : Bytes) (i : Nat) :
    ∃ r, scanClause bytes i = .ok r ∧ ∀ span, r = some span → span.Within bytes i := by
  fun_induction scanClause bytes i with
  | case1 i hlt trap hlook => exact absurd hlook (look_ne_error hlt trap)
  | case2 i hlt c hlook trap hcomment =>
      obtain ⟨r, hr, -⟩ := skipComment_ok bytes i
      rw [hcomment] at hr
      cases hr
  | case3 i hlt c hlook next hcomment ih =>
      obtain ⟨r, hr, hall⟩ := ih
      have hnext := (ahead_of_skipComment hcomment).1
      exact ⟨r, hr, fun span hspan => (hall span hspan).mono (Nat.le_of_lt hnext)⟩
  | case4 i hlt c hlook hcomment trap hkeyword =>
      obtain ⟨r, hr, -⟩ := matchesKeyword_ok bytes i fromWord
      rw [hkeyword] at hr
      cases hr
  | case5 i hlt c hlook hcomment hkeyword =>
      obtain ⟨r, hr, hword⟩ := matchesKeyword_ok bytes i fromWord
      rw [hkeyword] at hr
      obtain ⟨j, hj, hle, -⟩ := skipTrivia_ok (hword (Except.ok.inj hr).symm)
      obtain ⟨r, hr, hall⟩ := readLiteral_ok bytes j
      refine ⟨r, by rw [hj]; exact hr, fun span hspan => (hall span hspan).mono ?_⟩
      exact Nat.le_trans (Nat.le_add_right i _) hle
  | case6 i hlt c hlook hcomment hkeyword hchar ih =>
      obtain ⟨r, hr, hall⟩ := ih
      exact ⟨r, hr, fun span hspan => (hall span hspan).mono (Nat.le_succ i)⟩
  | case7 | case8 => exact ⟨none, rfl, nofun⟩

/-- The literal between parentheses that a comma or the closing one follows. -/
def scanCall (bytes : Bytes) (i : Nat) : Checked (Option Span) := do
  match ← readLiteral bytes (← skipTrivia bytes i) with
  | none => return none
  | some span =>
    match at? bytes (← skipTrivia bytes span.next) with
    | some d => return if d = ')' || d = ',' then some span else none
    | none => return none

theorem scanCall_ok {bytes : Bytes} {i : Nat} (h : i ≤ bytes.length) :
    ∃ r, scanCall bytes i = .ok r ∧ ∀ span, r = some span → span.Within bytes i := by
  obtain ⟨j, hj, hle, -⟩ := skipTrivia_ok h
  obtain ⟨r, hr, hall⟩ := readLiteral_ok bytes j
  rw [scanCall, hj]
  simp only [bind, Except.bind]
  rw [hr]
  cases r with
  | none => exact ⟨none, rfl, nofun⟩
  | some span =>
      have hspan := (hall span rfl).mono hle
      obtain ⟨k, hk, -⟩ := skipTrivia_ok hspan.length
      dsimp only
      rw [hk]
      dsimp only
      split
      · refine ⟨_, rfl, fun found hfound => ?_⟩
        split_ifs at hfound
        cases hfound
        exact hspan
      · exact ⟨none, rfl, nofun⟩

/-- What follows the keyword `import`. -/
def scanImport (bytes : Bytes) (i : Nat) : Checked (Option (SiteKind × Span)) := do
  let i ← skipTrivia bytes i
  match at? bytes i with
  | none => return none
  | some c =>
    if c = '(' then return (← scanCall bytes (i + 1)).map (SiteKind.dynamic, ·)
    else if c = '"' || c = '\'' then
      return (← readLiteral bytes i).map (SiteKind.imported, ·)
    else return (← scanClause bytes i).map (SiteKind.imported, ·)

theorem scanImport_ok {bytes : Bytes} {i : Nat} (h : i ≤ bytes.length) :
    ∃ r, scanImport bytes i = .ok r ∧ ∀ found, r = some found → found.2.Within bytes i := by
  obtain ⟨j, hj, hle, -⟩ := skipTrivia_ok h
  -- Every form hands on what one reader finds behind `i`.
  have hread (kind : SiteKind) {r : Option Span} {k : Nat} (hk : i ≤ k)
      (hall : ∀ span, r = some span → span.Within bytes k) :
      ∀ found, r.map (kind, ·) = some found → found.2.Within bytes i := by
    intro found hfound
    obtain ⟨span, hspan, rfl⟩ := Option.map_eq_some_iff.mp hfound
    exact (hall span hspan).mono hk
  rw [scanImport, hj]
  simp only [bind, Except.bind]
  split
  · exact ⟨none, rfl, nofun⟩
  · next c hc =>
    split_ifs
    · obtain ⟨r, hr, hall⟩ := @scanCall_ok bytes (j + 1) (lt_of_at? hc)
      rw [hr]
      exact ⟨_, rfl, hread .dynamic (Nat.le_succ_of_le hle) hall⟩
    · obtain ⟨r, hr, hall⟩ := readLiteral_ok bytes j
      rw [hr]
      exact ⟨_, rfl, hread .imported hle hall⟩
    · obtain ⟨r, hr, hall⟩ := scanClause_ok bytes j
      rw [hr]
      exact ⟨_, rfl, hread .imported hle hall⟩

/-- What a step finds, and where the walk goes on. -/
abbrev Found := Option (SiteKind × Span) × Nat

/-- After a keyword the walk goes on behind the site, or else behind the keyword. -/
def afterKeyword (i : Nat) (word : List Char) (found : Option (SiteKind × Span)) : Found :=
  (found, (found.map (·.2.next)).getD (i + word.length))

/-- The step at what is no comment, regular expression or string. -/
def keywordStep (bytes : Bytes) (i : Nat) : Checked Found := do
  if ← matchesKeyword bytes i importWord then
    return afterKeyword i importWord (← scanImport bytes (i + importWord.length))
  else if ← matchesKeyword bytes i exportWord then
    return afterKeyword i exportWord
      ((← scanClause bytes (i + exportWord.length)).map (SiteKind.exported, ·))
  else return (none, i + 1)

def step (bytes : Bytes) (i : Nat) : Checked Found := do
  let c ← look bytes i
  match ← skipComment bytes i with
  | some next => return (none, next)
  | none =>
    if ← opensRegex bytes i c then return (none, ← skipRegex bytes i)
    else if isQuote c then return (none, ← skipString bytes i)
    else keywordStep bytes i

/-- A step goes ahead, and what it finds lies between where it begins and where it ends. -/
structure Found.Sound (found : Found) (bytes : Bytes) (i : Nat) : Prop where
  ahead : Ahead bytes i found.2
  within : ∀ f, found.1 = some f → f.2.Within bytes i ∧ f.2.next = found.2

theorem sound_none {bytes : Bytes} {i next : Nat} (h : Ahead bytes i next) :
    Found.Sound (none, next) bytes i := ⟨h, nofun⟩

theorem sound_afterKeyword {bytes : Bytes} {i : Nat} {word : List Char}
    {found : Option (SiteKind × Span)} (hword : word ≠ []) (h : i + word.length ≤ bytes.length)
    (hfound : ∀ f, found = some f → f.2.Within bytes i) :
    (afterKeyword i word found).Sound bytes i := by
  cases found with
  | none => exact sound_none ⟨Nat.lt_add_of_pos_right (List.length_pos_iff.mpr hword), h⟩
  | some f =>
      have hf := hfound f rfl
      refine ⟨⟨?_, hf.length⟩, fun g hg => ?_⟩
      · exact Nat.lt_of_lt_of_le hf.start (Nat.le_trans hf.stop (Nat.le_of_lt hf.next))
      · cases hg
        exact ⟨hf, rfl⟩

theorem keywordStep_ok {bytes : Bytes} {i : Nat} (h : i < bytes.length) :
    ∃ found, keywordStep bytes i = .ok found ∧ found.Sound bytes i := by
  obtain ⟨imports, himports, himport⟩ := matchesKeyword_ok bytes i importWord
  obtain ⟨exports, hexports, hexport⟩ := matchesKeyword_ok bytes i exportWord
  rw [keywordStep, himports]
  simp only [bind, Except.bind]
  split_ifs with hi
  · obtain ⟨r, hr, hall⟩ := scanImport_ok (himport hi)
    rw [hr]
    refine ⟨_, rfl, sound_afterKeyword (by decide) (himport hi) fun f hf => ?_⟩
    exact (hall f hf).mono (Nat.le_add_right i _)
  · rw [hexports]
    dsimp only
    split_ifs with he
    · obtain ⟨r, hr, hall⟩ := scanClause_ok bytes (i + exportWord.length)
      rw [hr]
      refine ⟨_, rfl, sound_afterKeyword (by decide) (hexport he) fun f hf => ?_⟩
      obtain ⟨span, hspan, rfl⟩ := Option.map_eq_some_iff.mp hf
      exact (hall span hspan).mono (Nat.le_add_right i _)
    · exact ⟨(none, i + 1), rfl, sound_none ⟨Nat.lt_succ_self i, h⟩⟩

theorem step_ok {bytes : Bytes} {i : Nat} (h : i < bytes.length) :
    ∃ found, step bytes i = .ok found ∧ found.Sound bytes i := by
  obtain ⟨c, hc, -⟩ := look_ok h
  obtain ⟨r, hr, hcomment⟩ := skipComment_ok bytes i
  obtain ⟨regex, hregex⟩ := opensRegex_ok (Nat.le_of_lt h) c
  rw [step, hc]
  simp only [bind, Except.bind]
  rw [hr]
  cases r with
  | some next => exact ⟨(none, next), rfl, sound_none (hcomment next rfl)⟩
  | none =>
      dsimp only
      rw [hregex]
      dsimp only
      split_ifs
      · obtain ⟨next, hnext, hahead⟩ := skipRegex_ok h
        rw [hnext]
        exact ⟨(none, next), rfl, sound_none hahead⟩
      · obtain ⟨next, hnext, hahead⟩ := skipString_ok h
        rw [hnext]
        exact ⟨(none, next), rfl, sound_none hahead⟩
      · exact keywordStep_ok h

/-- All that the walk finds from `i` on. It ends, as every step goes ahead. -/
def scanFrom (bytes : Bytes) (i : Nat) : Checked (List (SiteKind × Span)) :=
  if _hlt : i < bytes.length then
    match _h : step bytes i with
    | .error trap => .error trap
    | .ok (found, next) => (scanFrom bytes next).map (found.toList ++ ·)
  else .ok []
termination_by bytes.length - i
decreasing_by
  obtain ⟨found, hfound, hsound⟩ := step_ok _hlt
  rw [_h] at hfound
  cases hfound
  have := hsound.ahead
  simp only [Ahead] at this
  omega

/-- What is found lies in the bytes, one behind another. -/
def Ordered (bytes : Bytes) (i : Nat) : List (SiteKind × Span) → Prop
  | [] => True
  | f :: found => f.2.Within bytes i ∧ Ordered bytes f.2.next found

theorem Ordered.mono {bytes : Bytes} {i j : Nat} {found : List (SiteKind × Span)}
    (h : Ordered bytes j found) (hle : i ≤ j) : Ordered bytes i found := by
  cases found with
  | nil => trivial
  | cons f found => exact ⟨h.1.mono hle, h.2⟩

theorem scanFrom_ok (bytes : Bytes) (i : Nat) :
    ∃ found, scanFrom bytes i = .ok found ∧ Ordered bytes i found := by
  fun_induction scanFrom bytes i with
  | case1 i hlt trap hstep =>
      obtain ⟨found, hfound, -⟩ := step_ok hlt
      rw [hstep] at hfound
      cases hfound
  | case2 i hlt found next hstep ih =>
      obtain ⟨other, hother, hsound⟩ := step_ok hlt
      rw [hstep] at hother
      cases hother
      obtain ⟨rest, hrest, hordered⟩ := ih
      refine ⟨found.toList ++ rest, by rw [hrest]; rfl, ?_⟩
      cases found with
      | none => exact hordered.mono (Nat.le_of_lt hsound.ahead.1)
      | some f =>
          obtain ⟨hwithin, rfl⟩ := hsound.within f rfl
          exact ⟨hwithin, hordered⟩
  | case3 i hlt => exact ⟨[], rfl, trivial⟩

/-- On these bytes no reader traps, each goes forward, and so does the walk as a whole. -/
structure Progress (bytes : Bytes) : Prop where
  step : ∀ i < bytes.length, ∃ found next, step bytes i = .ok (found, next) ∧ Ahead bytes i next
  comment : ∀ i, ∃ r, skipComment bytes i = .ok r ∧ ∀ next, r = some next → Ahead bytes i next
  regex : ∀ i < bytes.length, ∃ next, skipRegex bytes i = .ok next ∧ Ahead bytes i next
  string : ∀ i < bytes.length, ∃ next, skipString bytes i = .ok next ∧ Ahead bytes i next
  literal : ∀ i, ∃ r, readLiteral bytes i = .ok r ∧ ∀ span, r = some span → span.Within bytes i
  walk : ∀ i, ∃ found, scanFrom bytes i = .ok found ∧ Ordered bytes i found

theorem progress (bytes : Bytes) : Progress bytes where
  step i h := by
    obtain ⟨found, hfound, hsound⟩ := step_ok h
    exact ⟨found.1, found.2, hfound, hsound.ahead⟩
  comment := skipComment_ok bytes
  regex _ h := skipRegex_ok h
  string _ h := skipString_ok h
  literal := readLiteral_ok bytes
  walk := scanFrom_ok bytes

end ImportResolver.Source.Bytewise

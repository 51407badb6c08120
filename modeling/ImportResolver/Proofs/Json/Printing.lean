import ImportResolver.Json.Printer
import ImportResolver.Json.Reader
import Mathlib.Data.List.Basic
/- Values that are written and read again. Both ways to write a value give a text with the tokens of the
value, and reading these tokens gives the value back. -/
namespace ImportResolver.Json

/-- A value without numbers, in which every string is a text. -/
inductive Legible : Json → Prop
  | null : Legible .null
  | bool (b : Bool) : Legible (.bool b)
  | string (s : String) : Legible (.string (some s))
  | array {items : List Json} : (∀ v ∈ items, Legible v) → Legible (.array items)
  | object {members : List (Option String × Json)} : (∀ m ∈ members, ∃ s, m.1 = some s) →
      (∀ m ∈ members, Legible m.2) → Legible (.object members)

mutual

/-- The tokens that write a value. -/
def written : Json → List Token
  | .null => [.null]
  | .bool b => [.bool b]
  | .number literal => [.number literal]
  | .string text => [.string text]
  | .array [] => [.openArray, .closeArray]
  | .array (v :: vs) => .openArray :: (written v ++ writtenItems vs)
  | .object [] => [.openObject, .closeObject]
  | .object ((name, v) :: ms) =>
    .openObject :: .string name :: .colon :: (written v ++ writtenMembers ms)

def writtenItems : List Json → List Token
  | [] => [.closeArray]
  | v :: vs => .comma :: (written v ++ writtenItems vs)

def writtenMembers : List (Option String × Json) → List Token
  | [] => [.closeObject]
  | (name, v) :: ms => .comma :: .string name :: .colon :: (written v ++ writtenMembers ms)

end

theorem hexUnit?_hexDigit : ∀ n < 0x20,
    hexUnit? '0' '0' (hexDigit (n / 16)) (hexDigit (n % 16)) = some n := by
  decide

theorem spelled?_short {e c : Char} (hu : e ≠ 'u') (h : shortEscape? e = some c) (s : List Char) :
    spelled? ('\\' :: e :: s) = (spelled? s).map fun r => (.char c :: r.1, r.2) := by
  rw [spelled?, h]
  · cases spelled? s <;> rfl
  · exact fun a b c d s he _ => hu he

theorem spelled?_unit {n : Nat} {a b c d : Char} (h : hexUnit? a b c d = some n) (s : List Char) :
    spelled? ('\\' :: 'u' :: a :: b :: c :: d :: s) =
      (spelled? s).map fun r => (.unit n :: r.1, r.2) := by
  rw [spelled?, h]
  cases spelled? s <;> rfl

theorem spelled?_char {c : Char} (hquote : c ≠ '"') (hbackslash : c ≠ '\\')
    (hcontrol : ¬ c.toNat < 0x20) (s : List Char) :
    spelled? (c :: s) = (spelled? s).map fun r => (.char c :: r.1, r.2) := by
  rw [spelled?, if_neg (by simp [hcontrol, hbackslash])]
  · cases spelled? s <;> rfl
  · exact hquote
  · exact fun a b c d s hc _ => hbackslash hc
  · exact fun e s hc _ => hbackslash hc

/-- However a character is written in a string, one item is read for it, which stands for it. -/
theorem exists_spelled (c : Char) : ∃ item,
    (∀ s, spelled? (escape c ++ s) = (spelled? s).map fun r => (item :: r.1, r.2)) ∧
      ∀ items, assemble (item :: items) = (assemble items).map (c :: ·) := by
  unfold escape
  split_ifs with h₁ h₂ h₃ h₄ h₅ h₆ h₇ hcontrol
  · exact ⟨.char c, spelled?_short (by decide) (by rw [h₁]; rfl), fun _ => rfl⟩
  · exact ⟨.char c, spelled?_short (by decide) (by rw [h₂]; rfl), fun _ => rfl⟩
  · exact ⟨.char c, spelled?_short (by decide) (by rw [h₃]; rfl), fun _ => rfl⟩
  · exact ⟨.char c, spelled?_short (by decide) (by rw [h₄]; rfl), fun _ => rfl⟩
  · exact ⟨.char c, spelled?_short (by decide) (by rw [h₅]; rfl), fun _ => rfl⟩
  · exact ⟨.char c, spelled?_short (by decide) (by rw [h₆]; rfl), fun _ => rfl⟩
  · exact ⟨.char c, spelled?_short (by decide) (by rw [h₇]; rfl), fun _ => rfl⟩
  · refine ⟨.unit c.toNat, spelled?_unit (hexUnit?_hexDigit _ hcontrol), fun items => ?_⟩
    have hlow : isLow c.toNat = false := by simp [isLow]; omega
    have hhigh : isHigh c.toNat = false := by simp [isHigh]; omega
    rw [assemble.eq_def]
    simp only [hlow, hhigh, Char.ofNat_toNat, Bool.false_eq_true, if_false]
  · exact ⟨.char c, spelled?_char h₁ h₂ hcontrol, fun _ => rfl⟩

/-- A string that is written reads as its text. -/
theorem exists_spelled_quoted (s rest : List Char) : ∃ items,
    spelled? (s.flatMap escape ++ '"' :: rest) = some (items, rest) ∧ assemble items = some s := by
  induction s with
  | nil => exact ⟨[], rfl, rfl⟩
  | cons c s ih =>
      obtain ⟨items, hitems, hs⟩ := ih
      obtain ⟨item, hitem, hc⟩ := exists_spelled c
      refine ⟨item :: items, ?_, ?_⟩
      · rw [List.flatMap_cons, List.append_assoc, hitem, hitems]
        rfl
      · rw [hc, hs]
        rfl

/-- What a text has for tokens when it stands in front of another one. -/
def Lexes (text : List Char) (ts : List Token) : Prop :=
  ∀ rest, tokens? (text ++ rest) = (tokens? rest).map (ts ++ ·)

namespace Lexes

variable {text text' : List Char} {ts ts' : List Token}

theorem nil : Lexes [] [] := by
  intro rest
  simp

theorem append (h : Lexes text ts) (h' : Lexes text' ts') : Lexes (text ++ text') (ts ++ ts') := by
  intro rest
  rw [List.append_assoc, h, h', Option.map_map]
  congr 1
  funext more
  simp

theorem token {c : Char} {t : Token} (hc : isSpace c = false)
    (h : ∀ rest, token? (c :: (text ++ rest)) = some (t, rest)) : Lexes (c :: text) [t] := by
  intro rest
  rw [List.cons_append, tokens?, if_neg (by simp [hc])]
  split
  · next hnone => rw [h] at hnone; cases hnone
  · next t' rest' hsome =>
      rw [h] at hsome
      cases hsome
      rfl

theorem space {c : Char} (hc : isSpace c = true) : Lexes [c] [] := by
  intro rest
  rw [List.singleton_append, tokens?, if_pos hc]
  simp

theorem spaces {text : List Char} (h : ∀ c ∈ text, isSpace c = true) : Lexes text [] := by
  induction text with
  | nil => exact nil
  | cons c text ih =>
      obtain ⟨hc, htext⟩ := List.forall_mem_cons.mp h
      exact (space hc).append (ih htext)

theorem quotedText {name : Option String} (h : ∃ s, name = some s) :
    Lexes (quotedText name) [.string name] := by
  obtain ⟨s, rfl⟩ := h
  refine token (by decide) fun rest => ?_
  obtain ⟨items, hitems, hs⟩ := exists_spelled_quoted s.toList rest
  change token? ('"' :: (s.toList.flatMap escape ++ ['"'] ++ rest)) = _
  rw [List.append_assoc, List.singleton_append, token?, hitems, Option.map_some]
  simp [hs]

/-- A mark with blanks behind it is the token of the mark. -/
theorem mark {c : Char} {t : Token} {blanks : List Char} (hc : isSpace c = false)
    (h : ∀ rest, token? (c :: rest) = some (t, rest)) (hblanks : Lexes blanks []) :
    Lexes (c :: blanks) [t] := by
  have hmark : Lexes [c] [t] := token hc h
  exact hmark.append hblanks

variable {write : Json → List Char} {start comma colon close : List Char} {v : Json}
  {vs : List Json} {name : Option String} {ms : List (Option String × Json)}

/-- Items that are written one after another, with a comma in front of each. -/
theorem items (hcomma : Lexes comma [.comma]) (hclose : Lexes close [.closeArray])
    (h : ∀ v ∈ vs, Lexes (write v) (written v)) :
    Lexes ((vs.flatMap fun v => comma ++ write v) ++ close) (writtenItems vs) := by
  induction vs with
  | nil => exact hclose
  | cons v vs ih =>
      obtain ⟨hv, hvs⟩ := List.forall_mem_cons.mp h
      rw [List.flatMap_cons, List.append_assoc, List.append_assoc]
      exact hcomma.append (hv.append (ih hvs))

theorem members (hcomma : Lexes comma [.comma]) (hcolon : Lexes colon [.colon])
    (hclose : Lexes close [.closeObject]) (hnames : ∀ m ∈ ms, ∃ s, m.1 = some s)
    (h : ∀ m ∈ ms, Lexes (write m.2) (written m.2)) :
    Lexes ((ms.flatMap fun m => comma ++ (Json.quotedText m.1 ++ (colon ++ write m.2))) ++ close)
      (writtenMembers ms) := by
  induction ms with
  | nil => exact hclose
  | cons m ms ih =>
      obtain ⟨hname, hnames⟩ := List.forall_mem_cons.mp hnames
      obtain ⟨hm, hms⟩ := List.forall_mem_cons.mp h
      simp only [List.flatMap_cons, List.append_assoc]
      exact hcomma.append ((quotedText hname).append (hcolon.append (hm.append (ih hnames hms))))

theorem array (hstart : Lexes start [.openArray]) (hcomma : Lexes comma [.comma])
    (hclose : Lexes close [.closeArray]) (h : ∀ w ∈ v :: vs, Lexes (write w) (written w)) :
    Lexes (start ++ (write v ++ ((vs.flatMap fun w => comma ++ write w) ++ close)))
      (written (.array (v :: vs))) := by
  obtain ⟨hv, hvs⟩ := List.forall_mem_cons.mp h
  exact hstart.append (hv.append (items hcomma hclose hvs))

theorem object (hstart : Lexes start [.openObject]) (hcomma : Lexes comma [.comma])
    (hcolon : Lexes colon [.colon]) (hclose : Lexes close [.closeObject])
    (hnames : ∀ m ∈ (name, v) :: ms, ∃ s, m.1 = some s)
    (h : ∀ m ∈ (name, v) :: ms, Lexes (write m.2) (written m.2)) :
    Lexes (start ++ (Json.quotedText name ++ (colon ++ (write v ++
        ((ms.flatMap fun m => comma ++ (Json.quotedText m.1 ++ (colon ++ write m.2))) ++ close)))))
      (written (.object ((name, v) :: ms))) := by
  obtain ⟨hname, hnames⟩ := List.forall_mem_cons.mp hnames
  obtain ⟨hv, hms⟩ := List.forall_mem_cons.mp h
  exact hstart.append ((quotedText hname).append
    (hcolon.append (hv.append (members hcomma hcolon hclose hnames hms))))

end Lexes

theorem compactItems_eq (vs : List Json) :
    compactItems vs = (vs.flatMap fun v => [','] ++ compact v) ++ [']'] := by
  induction vs with
  | nil => rfl
  | cons v vs ih => simp [compactItems, ih]

theorem compactMembers_eq (ms : List (Option String × Json)) :
    compactMembers ms =
      (ms.flatMap fun m => [','] ++ (quotedText m.1 ++ ([':'] ++ compact m.2))) ++ ['\x7d'] := by
  induction ms with
  | nil => rfl
  | cons m ms ih => simp [compactMembers, ih]

theorem indentedItems_eq (depth : Nat) (vs : List Json) :
    indentedItems depth vs =
      (vs.flatMap fun v => (',' :: newLine (depth + 1)) ++ indented (depth + 1) v) ++
        (newLine depth ++ [']']) := by
  induction vs with
  | nil => rfl
  | cons v vs ih => simp [indentedItems, ih]

theorem indentedMembers_eq (depth : Nat) (ms : List (Option String × Json)) :
    indentedMembers depth ms =
      (ms.flatMap fun m => (',' :: newLine (depth + 1)) ++
        (quotedText m.1 ++ ([':', ' '] ++ indented (depth + 1) m.2))) ++
          (newLine depth ++ ['\x7d']) := by
  induction ms with
  | nil => rfl
  | cons m ms ih => simp [indentedMembers, ih]

theorem lexes_newLine (depth : Nat) : Lexes (newLine depth) [] := by
  refine .spaces fun c hc => ?_
  rcases List.mem_cons.mp hc with rfl | hc
  · rfl
  · rw [List.eq_of_mem_replicate hc]
    rfl

theorem lexes_compact {v : Json} (h : Legible v) : Lexes (compact v) (written v) := by
  induction h with
  | null => exact .token (by decide) fun _ => rfl
  | bool b => cases b <;> exact .token (by decide) fun _ => rfl
  | string s => exact .quotedText ⟨s, rfl⟩
  | @array items _ ih =>
      have hstart : Lexes ['['] [.openArray] := .mark (by decide) (fun _ => rfl) .nil
      have hcomma : Lexes [','] [.comma] := .mark (by decide) (fun _ => rfl) .nil
      have hclose : Lexes [']'] [.closeArray] := .mark (by decide) (fun _ => rfl) .nil
      cases items with
      | nil => exact hstart.append hclose
      | cons v vs => simpa [compact, compactItems_eq] using Lexes.array hstart hcomma hclose ih
  | @object members hnames _ ih =>
      have hstart : Lexes ['\x7b'] [.openObject] := .mark (by decide) (fun _ => rfl) .nil
      have hcomma : Lexes [','] [.comma] := .mark (by decide) (fun _ => rfl) .nil
      have hcolon : Lexes [':'] [.colon] := .mark (by decide) (fun _ => rfl) .nil
      have hclose : Lexes ['\x7d'] [.closeObject] := .mark (by decide) (fun _ => rfl) .nil
      cases members with
      | nil => exact hstart.append hclose
      | cons m ms =>
          simpa [compact, compactMembers_eq] using
            Lexes.object hstart hcomma hcolon hclose hnames ih

theorem lexes_indented {v : Json} (h : Legible v) (depth : Nat) :
    Lexes (indented depth v) (written v) := by
  induction h generalizing depth with
  | null => exact .token (by decide) fun _ => rfl
  | bool b => cases b <;> exact .token (by decide) fun _ => rfl
  | string s => exact .quotedText ⟨s, rfl⟩
  | @array items _ ih =>
      have hstart : Lexes ('[' :: newLine (depth + 1)) [.openArray] :=
        .mark (by decide) (fun _ => rfl) (lexes_newLine _)
      have hcomma : Lexes (',' :: newLine (depth + 1)) [.comma] :=
        .mark (by decide) (fun _ => rfl) (lexes_newLine _)
      have hclose : Lexes [']'] [.closeArray] := .mark (by decide) (fun _ => rfl) .nil
      cases items with
      | nil => exact (Lexes.mark (by decide) (fun _ => rfl) .nil).append hclose
      | cons v vs =>
          have := Lexes.array hstart hcomma ((lexes_newLine depth).append hclose)
            fun w hw => ih w hw (depth + 1)
          simpa [indented, indentedItems_eq] using this
  | @object members hnames _ ih =>
      have hstart : Lexes ('\x7b' :: newLine (depth + 1)) [.openObject] :=
        .mark (by decide) (fun _ => rfl) (lexes_newLine _)
      have hcomma : Lexes (',' :: newLine (depth + 1)) [.comma] :=
        .mark (by decide) (fun _ => rfl) (lexes_newLine _)
      have hcolon : Lexes [':', ' '] [.colon] :=
        .mark (by decide) (fun _ => rfl) (.space (by decide))
      have hclose : Lexes ['\x7d'] [.closeObject] := .mark (by decide) (fun _ => rfl) .nil
      cases members with
      | nil => exact (Lexes.mark (by decide) (fun _ => rfl) .nil).append hclose
      | cons m ms =>
          have := Lexes.object hstart hcomma hcolon ((lexes_newLine depth).append hclose) hnames
            fun m hm => ih m hm (depth + 1)
          simpa [indented, indentedMembers_eq] using this

/-- Where a value is due, its tokens complete it. -/
def Reads (v : Json) : Prop :=
  ∀ outer rest, (written v ++ rest).foldlM Progress.step? (.valueDue outer) =
    rest.foldlM Progress.step? (.complete v outer)

/-- The first token of a value does not end a list, so it begins the first item of one. -/
theorem foldlM_arrayOpened (v : Json) (outer : List Frame) (rest : List Token) :
    (written v ++ rest).foldlM Progress.step? (.arrayOpened outer) =
      (written v ++ rest).foldlM Progress.step? (.valueDue (.array [] :: outer)) := by
  cases v with
  | null => rfl
  | bool b => rfl
  | number literal => rfl
  | string text => rfl
  | array items => cases items <;> rfl
  | object members => cases members <;> rfl

theorem reads_items {vs : List Json} (h : ∀ v ∈ vs, Reads v) (last : Json) (done : List Json)
    (outer : List Frame) (rest : List Token) :
    (writtenItems vs ++ rest).foldlM Progress.step? (.complete last (.array done :: outer)) =
      rest.foldlM Progress.step? (.complete (.array ((last :: done).reverse ++ vs)) outer) := by
  induction vs generalizing last done with
  | nil => simp [writtenItems, Progress.step?]
  | cons v vs ih =>
      obtain ⟨hv, hvs⟩ := List.forall_mem_cons.mp h
      have hread := hv (.array (last :: done) :: outer) (writtenItems vs ++ rest)
      rw [writtenItems, List.cons_append, List.append_assoc]
      refine hread.trans ?_
      rw [ih hvs]
      simp

theorem reads_members {ms : List (Option String × Json)} (h : ∀ m ∈ ms, Reads m.2)
    (name : Option String) (last : Json) (done : List (Option String × Json)) (outer : List Frame)
    (rest : List Token) :
    (writtenMembers ms ++ rest).foldlM Progress.step? (.complete last (.object done name :: outer)) =
      rest.foldlM Progress.step?
        (.complete (.object (((name, last) :: done).reverse ++ ms)) outer) := by
  induction ms generalizing name last done with
  | nil => simp [writtenMembers, Progress.step?]
  | cons m ms ih =>
      obtain ⟨hm, hms⟩ := List.forall_mem_cons.mp h
      have hread := hm (.object ((name, last) :: done) m.1 :: outer) (writtenMembers ms ++ rest)
      rw [writtenMembers, List.cons_append, List.cons_append, List.cons_append, List.append_assoc]
      refine hread.trans ?_
      rw [ih hms]
      simp

theorem reads {v : Json} (h : Legible v) : Reads v := by
  induction h with
  | null => exact fun _ _ => rfl
  | bool b => exact fun _ _ => rfl
  | string s => exact fun _ _ => rfl
  | @array items _ ih =>
      intro outer rest
      cases items with
      | nil => rfl
      | cons v vs =>
          obtain ⟨hv, hvs⟩ := List.forall_mem_cons.mp ih
          have hread := hv (.array [] :: outer) (writtenItems vs ++ rest)
          rw [written, List.cons_append, List.append_assoc]
          refine (foldlM_arrayOpened v outer _).trans (hread.trans ?_)
          rw [reads_items hvs]
          rfl
  | @object members _ _ ih =>
      intro outer rest
      cases members with
      | nil => rfl
      | cons m ms =>
          obtain ⟨hm, hms⟩ := List.forall_mem_cons.mp ih
          have hread := hm (.object [] m.1 :: outer) (writtenMembers ms ++ rest)
          rw [written, List.cons_append, List.cons_append, List.cons_append, List.append_assoc]
          refine hread.trans ?_
          rw [reads_members hms]
          rfl

theorem parse?_of_lexes {v : Json} {text : List Char} (h : Legible v)
    (ht : Lexes text (written v)) :
    parse? (String.ofList text) = some v := by
  have htokens : tokens? text = some (written v) := by
    have := ht []
    rw [List.append_nil, tokens?] at this
    simpa using this
  have hread := reads h [] []
  rw [List.append_nil] at hread
  rw [parse?, String.toList_ofList, htokens, Option.bind_some, ofTokens?, hread]
  rfl

theorem parse?_render {v : Json} (h : Legible v) : parse? (render v) = some v :=
  parse?_of_lexes h (lexes_compact h)

theorem parse?_pretty {v : Json} (h : Legible v) : parse? (pretty v) = some v :=
  parse?_of_lexes h (lexes_indented h 0)

end ImportResolver.Json

import ImportResolver.Proofs.Source.Declaration
import Mathlib.Data.List.Chain
/- Declarations one behind another. An export list that no semicolon ends runs on into the next
declaration, which is then taken for an export. -/
namespace ImportResolver.Source

/-- `import L`, for what the module does. -/
structure BareImport where
  gap : List Lexeme
  quote : Char
  raw : List Char
  valid : ∀ l ∈ gap, l.Valid
  spacing : ∀ l ∈ gap, l.isSpacing = true
  quoted : quote = '"' ∨ quote = '\''
  plain : IsPlain quote raw

def BareImport.lead (b : BareImport) : List Char :=
  importWord ++ (spelled b.gap ++ [b.quote])

/-- `export` with a list of names of the module itself, none of them `from`. -/
structure LocalExport where
  gap : List Lexeme
  names : List Lexeme
  valid : ∀ l ∈ gap ++ names, l.Valid
  spacing : ∀ l ∈ gap, l.isSpacing = true
  chain : names.IsChain Lexeme.Apart
  named : .word fromWord ∉ names

def LocalExport.lexemes (e : LocalExport) : List Lexeme :=
  .word exportWord :: (e.gap ++ .mark '\x7b' :: (e.names ++ [.mark '\x7d']))

inductive Item where
  | sourced (d : Declaration) (named : .word fromWord ∉ d.clause)
  | bare (b : BareImport)
  | listed (e : LocalExport)

namespace Item

def text : Item → List Char
  | .sourced d _ => d.lead ++ (d.raw ++ [d.quote])
  | .bare b => b.lead ++ (b.raw ++ [b.quote])
  | .listed e => spelled e.lexemes

def raw? : Item → Option String
  | .sourced d _ => some (String.ofList d.raw)
  | .bare b => some (String.ofList b.raw)
  | .listed _ => none

def isImport : Item → Bool
  | .sourced d _ => !d.exported
  | .bare _ => false
  | .listed _ => false

/-- The site of an item, which is an export's behind an export list that is not ended. -/
def site? (runsOn : Bool) (start line : Nat) : Item → Option Site
  | .sourced d _ =>
      some (siteBehind start line (if runsOn then .exported else staticKind d.exported) d.lead
        d.raw)
  | .bare b => some (siteBehind start line .imported b.lead b.raw)
  | .listed _ => none

end Item

/-- A declaration, with or without a semicolon, and the blanks and comments behind it. -/
structure Line where
  item : Item
  ended : Bool
  gap : List Lexeme
  valid : ∀ l ∈ gap, l.Valid
  spacing : ∀ l ∈ gap, l.isSpacing = true

namespace Line

def closing (l : Line) : List Char := (if l.ended then [';'] else []) ++ spelled l.gap

def text (l : Line) : List Char := l.item.text ++ l.closing

/-- No end is seen of an export list without a semicolon. -/
def runsOn (l : Line) : Bool :=
  match l.item with
  | .listed _ => !l.ended
  | _ => false

end Line

/-- The sites of lines that begin at the given place; `runsOn` tells what takes the next declaration
for an export. -/
def sitesOf (runsOn : Line → Bool) : Bool → Nat → Nat → List Line → List Site
  | _, _, _, [] => []
  | on, start, line, l :: ls =>
      (l.item.site? on start line).toList ++
        sitesOf runsOn (runsOn l) (start + byteSize l.text) (line + lineFeeds l.text) ls

def joined (ls : List Line) : List Char := ls.flatMap Line.text

@[simp] theorem joined_cons (l : Line) (ls : List Line) :
    joined (l :: ls) = l.text ++ joined ls := rfl

theorem spelled_append (ls ms : List Lexeme) : spelled (ls ++ ms) = spelled ls ++ spelled ms :=
  List.flatMap_append

variable {ls : List Lexeme} {l next : Lexeme} {tail before : List Char} {quote : Char}

theorem Apart.nil (next : Lexeme) : Apart [] next :=
  ⟨fun _ hl => absurd hl List.not_mem_nil, .singleton next⟩

/-- What does not run into a word runs into nothing. -/
theorem Apart.append {w : List Char} {ms : List Lexeme} (h : Apart ls (.word w))
    (hms : Apart ms next) : Apart (ls ++ ms) next := by
  refine ⟨fun m hm => (List.mem_append.mp hm).elim (h.valid m) (hms.valid m), ?_⟩
  obtain ⟨hchain, -, hjoin⟩ := List.isChain_append.mp h.chain
  rw [List.append_assoc]
  refine hchain.append hms.chain fun a ha b _ hnames => ?_
  exact hjoin a ha (.word w) rfl ⟨hnames.1, rfl⟩

theorem Apart.any {w : List Char} (h : Apart ls (.word w)) (next : Lexeme) : Apart ls next := by
  simpa using h.append (.nil next)

/-- Nothing runs into what is no word. -/
theorem Apart.prepend {ms : List Lexeme} (hv : ∀ l ∈ ls, l.Valid)
    (hchain : ls.IsChain Lexeme.Apart) (hl : l.isName = false) (h : Apart (l :: ms) next) :
    Apart (ls ++ l :: ms) next := by
  refine ⟨fun m hm => (List.mem_append.mp hm).elim (hv m) (h.valid m), ?_⟩
  rw [List.append_assoc]
  refine hchain.append h.chain fun a _ b hb hnames => ?_
  obtain rfl := Option.some.inj hb
  rw [hl] at hnames
  cases hnames.2

theorem Apart.other (hv : l.Valid) (hl : l.isName = false) (h : Apart ls next) :
    Apart (l :: ls) next := by
  refine ⟨List.forall_mem_cons.mpr ⟨hv, h.valid⟩, ?_⟩
  refine List.isChain_cons.mpr ⟨fun m _ hnames => ?_, h.chain⟩
  rw [hl] at hnames
  cases hnames.1

theorem apart_spacing (hv : ∀ l ∈ ls, l.Valid) (hl : ∀ l ∈ ls, l.isSpacing = true)
    (next : Lexeme) : Apart ls next := by
  induction ls with
  | nil => exact .nil next
  | cons l ls ih =>
      obtain ⟨hv, hvs⟩ := List.forall_mem_cons.mp hv
      obtain ⟨hl, hls⟩ := List.forall_mem_cons.mp hl
      exact (ih hvs hls).other hv (Lexeme.isName_of_isSpacing hl)

namespace LocalExport

theorem apart (e : LocalExport) (next : Lexeme) : Apart e.lexemes next := by
  have hvalid (l : Lexeme) (hl : l ∈ e.names) : l.Valid := e.valid l (List.mem_append_right _ hl)
  have hspacing (l : Lexeme) (hl : l ∈ e.gap) : l.Valid := e.valid l (List.mem_append_left _ hl)
  have hclose : Apart [.mark '\x7d'] next := (Apart.nil next).other (by decide) rfl
  have hopen : Apart (.mark '\x7b' :: (e.names ++ [.mark '\x7d'])) next :=
    (Apart.prepend hvalid e.chain rfl hclose).other (by decide) rfl
  have hrest := (apart_spacing hspacing e.spacing (.word exportWord)).append hopen
  refine ⟨List.forall_mem_cons.mpr ⟨⟨by decide, isWord_of_mem_export⟩, hrest.valid⟩, ?_⟩
  refine List.isChain_cons.mpr ⟨fun m hm hnames => ?_, hrest.chain⟩
  have hname : m.isName = false := by
    cases hgap : e.gap with
    | nil =>
        rw [hgap] at hm
        obtain rfl := Option.some.inj hm
        rfl
    | cons g gap =>
        rw [hgap] at hm
        obtain rfl := Option.some.inj hm
        exact Lexeme.isName_of_isSpacing (e.spacing g (by simp [hgap]))
  rw [hname] at hnames
  cases hnames.2

theorem from_not_mem (e : LocalExport) : .word fromWord ∉ e.lexemes := by
  have hgap : .word fromWord ∉ e.gap := fun hmem => by cases e.spacing _ hmem
  have hexport : fromWord ≠ exportWord := by decide
  simp [lexemes, hgap, e.named, hexport]

end LocalExport

theorem follows_nil : Follows (.line []) [] none := by
  refine ⟨fun _ c hc => ?_, fun prev _ => ?_, fun c hc => ?_⟩
  · cases hc
  · rw [clause?]
  · rw [trivia_of_none rfl] at hc
    cases hc

theorem follows_semicolon (s : List Char) : Follows (.line []) (';' :: s) none := by
  refine ⟨fun _ c hc => ?_, fun prev _ => clause?_stopped rfl (by decide) (by decide), ?_⟩
  · obtain rfl := Option.some.inj hc
    decide
  · intro c hc
    rw [trivia_of_head (by decide) (by decide)] at hc
    obtain rfl := Option.some.inj hc
    decide

namespace BareImport

theorem isQuote (b : BareImport) : isQuote b.quote = true := isQuote_of_quoted b.quoted

variable (b : BareImport) (s : List Char)

theorem follows :
    Follows (.word importWord)
      (importWord ++ (spelled b.gap ++ b.quote :: (b.raw ++ b.quote :: s))) none := by
  refine ⟨fun h => ?_, fun prev _ => ?_, ?_⟩
  · cases h
  · have hstop (prev : Option Char) : clause? prev (b.quote :: (b.raw ++ b.quote :: s)) = none := by
      refine clause?_stopped rfl ?_ (isQuote_ne_slash b.isQuote)
      cases hc : isClauseChar b.quote with
      | false => rfl
      | true => simpa [b.isQuote] using isQuote_of_isClauseChar hc
    rw [clause?_word ⟨by decide, isWord_of_mem_import⟩ (by decide)
        (head?_gap b.valid b.spacing b.isQuote _), clause?_trivia,
      trivia_gap b.valid b.spacing b.isQuote, hstop]
    rfl
  · intro c hc
    rw [importWord, List.cons_append, trivia_of_head (by decide) (by decide)] at hc
    obtain rfl := Option.some.inj hc
    decide

theorem site? {prev : Option Char} (hprev : isTied prev = false) :
    Source.site? prev (importWord ++ (spelled b.gap ++ b.quote :: (b.raw ++ b.quote :: s))) =
      some (.imported, ⟨b.lead, b.raw, b.quote, s⟩) := by
  have hliteral : literal? (b.quote :: (b.raw ++ b.quote :: s)) =
      some ⟨[b.quote], b.raw, b.quote, s⟩ :=
    literal?_eq_some_iff.mpr ⟨rfl, rfl, b.isQuote, b.plain⟩
  have htrivia := trivia_gap b.valid b.spacing b.isQuote (b.raw ++ b.quote :: s)
  rw [site?_of_import (keyword?_of_word hprev (head?_gap b.valid b.spacing b.isQuote _)),
    importSpecifier?_of_quote (congrArg Prod.snd htrivia) b.quoted, htrivia, hliteral]
  simp [Literal.after, lead]

end BareImport

theorem passed_semicolon (before s : List Char) : Passed before [';'] s := by
  have hpiece := @piece_of_site? before s ';' (comment?_eq_none_of_ne (by decide))
    (fun e => absurd e.1 (by decide)) rfl
  rw [site?_eq_none_of_ne (by decide) (by decide)] at hpiece
  exact passed_of_piece hpiece

/-- A word may begin behind what does not run into it. -/
theorem Apart.untied {w : List Char} (h : Apart ls (.word w)) (hb : isTied before.head? = false) :
    isTied ((spelled ls).reverse ++ before).head? = false := by
  rcases List.eq_nil_or_concat ls with rfl | ⟨init, last, rfl⟩
  · exact hb
  · rw [List.concat_eq_append] at h ⊢
    have hlast : last ∈ init ++ [last] := List.mem_append_right init List.mem_cons_self
    have hjoin := (List.isChain_append.mp h.chain).2.2 last (by simp) (.word w) rfl
    have hname : last.isName = false := by
      cases hn : last.isName with
      | false => rfl
      | true => exact absurd ⟨hn, rfl⟩ hjoin
    have hbehind := head?_behind (h.valid last hlast) ((spelled init).reverse ++ before)
    rw [spelled_append, List.reverse_append, List.append_assoc, spelled_cons, spelled_nil,
      List.append_nil, hbehind]
    exact getLast?_other (h.valid last hlast) hname

namespace Line

variable (l : Line)

theorem passed_closing (before s : List Char) : Passed before l.closing s := by
  refine Passed.append ?_ (passed_spacings l.valid l.spacing _ s)
  cases l.ended with
  | false => exact .nil before _
  | true => exact passed_semicolon before _

theorem runsOn_iff : l.runsOn = true ↔ ∃ e, l.item = .listed e ∧ l.ended = false := by
  cases hitem : l.item with
  | sourced d named => simp [runsOn, hitem]
  | bare b => simp [runsOn, hitem]
  | listed e => simp [runsOn, hitem]

theorem untied_closing (hb : isTied before.head? = false) :
    isTied (l.closing.reverse ++ before).head? = false := by
  rw [closing, List.reverse_append, List.append_assoc]
  refine (apart_spacing l.valid l.spacing (.word exportWord)).untied ?_
  cases l.ended with
  | false => exact hb
  | true => rfl

end Line

/-- The lexemes of export lists that the scanner may still take for the clause of a declaration
behind them. -/
structure Pending (pend : List Lexeme) : Prop where
  apart : Apart pend (.word exportWord)
  named : .word fromWord ∉ pend
  kind : pend ≠ [] → pend.findSome? Lexeme.kind? = some .exported

theorem Pending.nil : Pending [] :=
  ⟨.nil _, List.not_mem_nil, fun h => absurd rfl h⟩

theorem Pending.listed {pend gap : List Lexeme} (h : Pending pend) (e : LocalExport)
    (hv : ∀ l ∈ gap, l.Valid) (hgap : ∀ l ∈ gap, l.isSpacing = true) :
    Pending (pend ++ (e.lexemes ++ gap)) := by
  have hlist : Apart (e.lexemes ++ gap) (.word exportWord) :=
    (e.apart (.word exportWord)).append (apart_spacing hv hgap _)
  refine ⟨h.apart.append hlist, ?_, fun _ => ?_⟩
  · have hnot : .word fromWord ∉ gap := fun hmem => by cases hgap _ hmem
    simp [h.named, e.from_not_mem, hnot]
  · rw [List.findSome?_append]
    cases pend with
    | nil => rfl
    | cons l pend => rw [h.kind (List.cons_ne_nil l pend), Option.some_or]

/-- The first keyword is that of the lists, if there are any. -/
theorem Pending.siteKind? {pend : List Lexeme} (h : Pending pend) (d : Declaration)
    (hd : .word fromWord ∉ d.clause) :
    Source.siteKind? (pend ++ .word (staticWord d.exported) :: d.clause) =
      some (if !pend.isEmpty then .exported else staticKind d.exported) := by
  have hkeyword : fromWord ≠ staticWord d.exported := by cases d.exported <;> decide
  rw [findSome?_of_siteKind? (by simp [h.named, hd, hkeyword]), List.findSome?_append,
    List.findSome?_cons, kind?_staticWord]
  cases pend with
  | nil => rfl
  | cons l pend => rw [h.kind (List.cons_ne_nil l pend)]; rfl

theorem Item.untied (i : Item) (s before : List Char) :
    isTied ((s ++ i.text).reverse ++ before).head? = false := by
  have hquote {quote : Char} (hq : quote = '"' ∨ quote = '\'') : isTied (some quote) = false := by
    rcases hq with rfl | rfl <;> rfl
  cases i with
  | sourced d named => simpa [text] using hquote d.quoted
  | bare b => simpa [text] using hquote b.quoted
  | listed e => simp [text, LocalExport.lexemes, spelled_append, Lexeme.text, isTied, isWord]

/-- A site that is reported behind the lists that are left. -/
theorem sitesFrom_reported {pend : List Char} {kind : SiteKind} {lead raw s : List Char}
    (h : Reported before (pend ++ (lead ++ (raw ++ quote :: s))) kind
      ⟨pend ++ lead, raw, quote, s⟩) (start line : Nat) :
    sitesFrom start line (pieces before (pend ++ (lead ++ (raw ++ quote :: s)))) =
      siteBehind (start + byteSize pend) (line + lineFeeds pend) kind lead raw ::
        sitesFrom (start + byteSize (pend ++ (lead ++ (raw ++ [quote]))))
          (line + lineFeeds (pend ++ (lead ++ (raw ++ [quote]))))
          (pieces ((pend ++ (lead ++ (raw ++ [quote]))).reverse ++ before) s) := by
  rw [h start line, siteBehind_append, List.append_assoc]

/-- What the scanner makes of one item behind the lists that are left. -/
theorem sitesFrom_item (i : Item) {pend : List Lexeme} (hp : Pending pend)
    (hb : isTied before.head? = false) {s : List Char}
    (hs : ∀ e, i = .listed e → s.head? = some ';') (start line : Nat) :
    sitesFrom start line (pieces before (spelled pend ++ (i.text ++ s))) =
      (i.site? (!pend.isEmpty) (start + byteSize (spelled pend))
        (line + lineFeeds (spelled pend))).toList ++
      sitesFrom (start + byteSize (spelled pend ++ i.text))
        (line + lineFeeds (spelled pend ++ i.text))
        (pieces ((spelled pend ++ i.text).reverse ++ before) s) := by
  cases i with
  | sourced d named =>
      have hq : isQuote d.quote = true := isQuote_of_quoted d.quoted
      have hreported := (passed_or_reported (hp.apart.append d.apart)
        (follows_from d.valid d.spacing hq d.plain s) (fun _ _ _ => hb)).2 _ _ rfl
        (hp.siteKind? d named)
      have htext : spelled (pend ++ .word (staticWord d.exported) :: d.clause) ++
          (fromLiteral d.gap d.quote d.raw ++ s) =
          spelled pend ++ (d.lead ++ (d.raw ++ d.quote :: s)) := by
        simp [spelled_append, fromLiteral, Declaration.lead, Lexeme.text]
      have hlead : spelled (pend ++ .word (staticWord d.exported) :: d.clause) ++
          (fromWord ++ (spelled d.gap ++ [d.quote])) = spelled pend ++ d.lead := by
        simp [spelled_append, Declaration.lead, Lexeme.text]
      rw [htext, Literal.after, hlead] at hreported
      simpa [Item.text, Item.site?] using sitesFrom_reported hreported start line
  | bare b =>
      have hpassed := (passed_or_reported (hp.apart.any (.word importWord)) (b.follows s)
        (fun _ _ _ => hb)).1 (.inl rfl)
      have hreported := hpassed.reported
        (reported_of_site? (by decide) (b.site? s (hp.apart.untied hb)))
      have htext : spelled pend ++ (importWord ++
          (spelled b.gap ++ b.quote :: (b.raw ++ b.quote :: s))) =
          spelled pend ++ (b.lead ++ (b.raw ++ b.quote :: s)) := by
        simp [BareImport.lead]
      change Reported before (spelled pend ++ (importWord ++ _)) _ _ at hreported
      rw [htext] at hreported
      simpa [Item.text, Item.site?] using sitesFrom_reported hreported start line
  | listed e =>
      obtain ⟨t, rfl⟩ := List.head?_eq_some_iff.mp (hs e rfl)
      have hpassed := (passed_or_reported (hp.apart.append (e.apart (.line [])))
        (follows_semicolon t) (fun _ _ _ => hb)).1 (.inl rfl) start line
      rw [spelled_append, List.append_assoc] at hpassed
      exact hpassed

/-- The scanner on lines behind the lists that are left: these are left too if the next line runs
on, and else the line is the last that they reach. -/
theorem sitesFrom_joined (ls : List Line) {pend : List Lexeme} (hp : Pending pend)
    {before : List Char} (hb : isTied before.head? = false) (start line : Nat) :
    sitesFrom start line (pieces before (spelled pend ++ joined ls)) =
      sitesOf Line.runsOn (!pend.isEmpty) (start + byteSize (spelled pend))
        (line + lineFeeds (spelled pend)) ls := by
  induction ls generalizing pend before start line with
  | nil =>
      have hpassed := (passed_or_reported (hp.apart.any (.line [])) follows_nil
        (fun _ _ _ => hb)).1 (.inl rfl) start line
      change sitesFrom start line (pieces before (spelled pend ++ [])) = []
      rw [hpassed, pieces]
      rfl
  | cons l ls ih =>
      cases hruns : l.runsOn with
      | true =>
          obtain ⟨e, hitem, hended⟩ := l.runsOn_iff.mp hruns
          have htext : l.text = spelled (e.lexemes ++ l.gap) := by
            simp [Line.text, Line.closing, hitem, hended, Item.text, spelled_append]
          have hleft : (pend ++ (e.lexemes ++ l.gap)).isEmpty = false := by
            simp [LocalExport.lexemes]
          have hrest := ih (hp.listed e l.valid l.spacing) hb start line
          rw [hleft, spelled_append, ← htext, List.append_assoc, byteSize_append, lineFeeds_append,
            ← Nat.add_assoc, ← Nat.add_assoc] at hrest
          rw [joined_cons, hrest, sitesOf, hruns, hitem]
          rfl
      | false =>
          have hs : ∀ e, l.item = .listed e → (l.closing ++ joined ls).head? = some ';' := by
            intro e hitem
            have hended : l.ended = true := by simpa [Line.runsOn, hitem] using hruns
            simp [Line.closing, hended]
          have hitem := sitesFrom_item l.item hp hb hs start line
          have hrest := ih .nil (l.untied_closing (l.item.untied (spelled pend) before))
            (start + byteSize (spelled pend ++ l.item.text) + byteSize l.closing)
            (line + lineFeeds (spelled pend ++ l.item.text) + lineFeeds l.closing)
          have hnil : lineFeeds [] = 0 := rfl
          rw [joined_cons, Line.text, List.append_assoc, hitem, l.passed_closing, sitesOf, hruns]
          refine congrArg (_ ++ ·) ?_
          simpa [Nat.add_assoc, Line.text, hnil] using hrest

/-- Every site is that of the line's own keyword. -/
def declaredSites (ls : List Line) : List Site := sitesOf (fun _ => false) false 0 1 ls

theorem raw_sitesOf (runsOn : Line → Bool) (on : Bool) (start line : Nat) (ls : List Line) :
    (sitesOf runsOn on start line ls).map Site.raw = ls.filterMap (·.item.raw?) := by
  induction ls generalizing on start line with
  | nil => rfl
  | cons l ls ih =>
      rw [sitesOf, List.map_append, ih, List.filterMap_cons]
      cases l.item <;> rfl

theorem Item.site?_eq_iff (i : Item) (on : Bool) (start line : Nat) :
    i.site? on start line = i.site? false start line ↔ (on = true → i.isImport = false) := by
  cases i with
  | sourced d named => cases on <;> cases hd : d.exported <;>
      simp [site?, isImport, siteBehind, staticKind, hd]
  | bare b => simp [site?, isImport]
  | listed e => simp [site?, isImport]

/-- A line that does not run on, or in front of another line than an import from somewhere. -/
def Separate (l m : Line) : Prop := l.runsOn = true → m.item.isImport = false

theorem sitesOf_eq_iff (on : Bool) (start line : Nat) (ls : List Line) :
    sitesOf Line.runsOn on start line ls = sitesOf (fun _ => false) false start line ls ↔
      (on = true → ∀ l ∈ ls.head?, l.item.isImport = false) ∧ ls.IsChain Separate := by
  induction ls generalizing on start line with
  | nil => simp [sitesOf]
  | cons l ls ih =>
      have hlength : (l.item.site? on start line).toList.length =
          (l.item.site? false start line).toList.length := by
        cases l.item <;> rfl
      have hcons : sitesOf Line.runsOn on start line (l :: ls) =
            sitesOf (fun _ => false) false start line (l :: ls) ↔
          l.item.site? on start line = l.item.site? false start line ∧
            sitesOf Line.runsOn l.runsOn (start + byteSize l.text) (line + lineFeeds l.text) ls =
              sitesOf (fun _ => false) false (start + byteSize l.text) (line + lineFeeds l.text)
                ls := by
        rw [sitesOf, sitesOf]
        constructor
        · intro h
          obtain ⟨hsite, hrest⟩ := List.append_inj h hlength
          exact ⟨by simpa using congrArg List.head? hsite, hrest⟩
        · rintro ⟨hsite, hrest⟩
          rw [hsite, hrest]
      have hfirst : (l.runsOn = true → ∀ m ∈ ls.head?, m.item.isImport = false) ↔
          ∀ m ∈ ls.head?, Separate l m :=
        ⟨fun h m hm hruns => h hruns m hm, fun h hruns m hm => h m hm hruns⟩
      rw [hcons, Item.site?_eq_iff, ih, hfirst, List.isChain_cons]
      simp

/-- Lines of declarations have a site for each literal, in order, with the text of it. The kinds are
those of the lines' own keywords just if no export list without a semicolon stands right in front of
an import from somewhere, which is taken for an export there. -/
theorem sites_joined (ls : List Line) :
    sites (String.ofList (joined ls)) = sitesOf Line.runsOn false 0 1 ls ∧
    (sites (String.ofList (joined ls))).map Site.raw = ls.filterMap (·.item.raw?) ∧
    (sites (String.ofList (joined ls)) = declaredSites ls ↔ ls.IsChain Separate) := by
  have hsites : sites (String.ofList (joined ls)) = sitesOf Line.runsOn false 0 1 ls := by
    rw [sites, String.toList_ofList]
    exact @sitesFrom_joined ls [] .nil [] rfl 0 1
  refine ⟨hsites, ?_, ?_⟩
  · rw [hsites, raw_sitesOf]
  · rw [hsites, declaredSites, sitesOf_eq_iff]
    simp

def exportedName : LocalExport where
  gap := fromImport.gap
  names := [.blank ' ', .word ['a'], .blank ' ']
  valid := by decide
  spacing := fromImport.spacing
  chain := by decide
  named := by decide

def importedName : Declaration :=
  { fromImport with
    clause := [.blank ' ', .word ['a'], .blank ' ']
    raw := ['.', '/', 'a']
    apart := ⟨by decide, by decide⟩
    plain := by decide }

/-- A name that is exported on the line in front of its import. -/
def exportThenImport (ended : Bool) : List Line :=
  [⟨.listed exportedName, ended, [.blank '\n'], by decide, by decide⟩,
    ⟨.sourced importedName (by decide), false, [], by decide, by decide⟩]

theorem sites_joined_unended :
    String.ofList (joined (exportThenImport false)) = "export \x7b a \x7d\nimport a from './a'" ∧
    sites (String.ofList (joined (exportThenImport false))) = [⟨"./a", .exported, 28, 31, 2⟩] ∧
    declaredSites (exportThenImport false) = [⟨"./a", .imported, 28, 31, 2⟩] ∧
    sites (String.ofList (joined (exportThenImport false))) ≠
      declaredSites (exportThenImport false) ∧
    sites (String.ofList (joined (exportThenImport true))) =
      declaredSites (exportThenImport true) := by
  obtain ⟨hsites, -, hiff⟩ := sites_joined (exportThenImport false)
  obtain ⟨-, -, hended⟩ := sites_joined (exportThenImport true)
  refine ⟨by decide, hsites.trans (by decide), by decide, ?_, ?_⟩
  · intro h
    have hseparate := List.isChain_cons_cons.mp (hiff.mp h)
    exact absurd (hseparate.1 rfl) (by decide)
  · refine hended.mpr (.cons_cons (fun hruns => ?_) (.singleton _))
    cases hruns

end ImportResolver.Source

import ImportResolver.Proofs.Source.LexemeScan
/- Import and export declarations as whole texts. The scanner takes the first `from` of a
declaration for the last one, so a declaration that binds this name is lost to it. -/
namespace ImportResolver.Source

/-- The keyword `from` with a literal behind it. -/
def fromLiteral (gap : List Lexeme) (quote : Char) (raw : List Char) : List Char :=
  fromWord ++ (spelled gap ++ quote :: (raw ++ [quote]))

theorem isQuote_of_quoted {quote : Char} (h : quote = '"' ∨ quote = '\'') :
    isQuote quote = true := isQuote_iff.mpr (h.imp_right .inl)

section Gap

variable {gap : List Lexeme} {quote : Char} {raw : List Char}
  (hv : ∀ l ∈ gap, l.Valid) (hgap : ∀ l ∈ gap, l.isSpacing = true) (hq : isQuote quote = true)

include hv hgap hq

theorem head?_gap (s : List Char) :
    ∀ c ∈ (spelled gap ++ quote :: s).head?, isWord c = false := by
  intro c hc
  cases gap with
  | nil =>
      obtain rfl := Option.some.inj hc
      exact isWord_of_isQuote hq
  | cons l gap =>
      rw [spelled_cons, List.append_assoc] at hc
      exact head?_other (hv l List.mem_cons_self)
        (Lexeme.isName_of_isSpacing (hgap l List.mem_cons_self)) _ c hc

theorem trivia_gap (s : List Char) :
    trivia (spelled gap ++ quote :: s) = (spelled gap, quote :: s) := by
  rw [trivia_spacings hv hgap, trivia_of_head (isSpace_of_isQuote hq) (isQuote_ne_slash hq),
    List.append_nil]

theorem follows_from (hraw : IsPlain quote raw) (rest : List Char) :
    Follows (.word fromWord) (fromLiteral gap quote raw ++ rest)
      (some ⟨fromWord ++ (spelled gap ++ [quote]), raw, quote, rest⟩) := by
  have htext : fromLiteral gap quote raw ++ rest =
      fromWord ++ (spelled gap ++ quote :: (raw ++ quote :: rest)) := by
    simp [fromLiteral]
  rw [htext]
  refine ⟨fun h => ?_, fun prev hprev => ?_, ?_⟩
  · cases h
  · have hlit : literal? (quote :: (raw ++ quote :: rest)) = some ⟨[quote], raw, quote, rest⟩ :=
      literal?_eq_some_iff.mpr ⟨rfl, rfl, hq, hraw⟩
    rw [clause?_of_from (keyword?_of_word (hprev rfl) (head?_gap hv hgap hq _)),
      trivia_gap hv hgap hq, hlit]
    simp [Literal.after]
  · intro c hc
    rw [fromWord, List.cons_append, trivia_of_head (by decide) (by decide)] at hc
    obtain rfl := Option.some.inj hc
    decide

theorem ending_from (hraw : IsPlain quote raw) :
    Ending (.word fromWord) (fromLiteral gap quote raw)
      (some ⟨fromWord ++ (spelled gap ++ [quote]), raw, quote, []⟩) := by
  have hfollows := follows_from hv hgap hq hraw []
  rw [List.append_nil] at hfollows
  refine ⟨hfollows.apart, hfollows.clause, hfollows.head, fun before start line => ?_, ?_⟩
  · have hfrom : Passed before fromWord (spelled gap ++ quote :: (raw ++ [quote])) :=
      passed_word ⟨by decide, isWord_of_mem_from⟩
        (site?_eq_none_of_ne (by decide) (by decide))
    rw [fromLiteral, hfrom, passed_spacings hv hgap, pieces_cons (piece_of_quote hq),
      stringBody_of_isPlain hq hraw []]
    simp [sitesFrom, pieces]
  · intro l hl
    obtain rfl := Option.some.inj hl
    rfl

end Gap

/-- A line comment that no line feed ends takes all that comes after it. -/
theorem ending_comment {body : List Char} (h : '\n' ∉ body) :
    Ending (.line []) ('/' :: '/' :: body) none := by
  have hc : comment? ('/' :: '/' :: body) = some ('/' :: '/' :: body, []) := by
    have := @comment?_line body h [] (fun c hc => by cases hc)
    rwa [List.append_nil] at this
  refine ⟨fun _ c hc => ?_, fun prev _ => ?_, ?_, fun before start line => ?_, ?_⟩
  · obtain rfl := Option.some.inj hc
    decide
  · rw [clause?_of_comment hc, clause?]
    rfl
  · intro c hc'
    rw [trivia_comment hc, trivia_of_none rfl] at hc'
    cases hc'
  · rw [pieces_cons (piece_of_comment hc)]
    simp [sitesFrom, pieces]
  · intro l hl
    cases hl

def staticWord (exported : Bool) : List Char := if exported then exportWord else importWord

def staticKind (exported : Bool) : SiteKind := if exported then .exported else .imported

theorem kind?_staticWord (exported : Bool) :
    (Lexeme.word (staticWord exported)).kind? = some (staticKind exported) := by
  cases exported <;> rfl

/-- `import C from L` or `export C from L`, with `C` any words, marks, blanks and comments, and `L`
a literal whose text is its value. -/
structure Declaration where
  exported : Bool
  clause : List Lexeme
  gap : List Lexeme
  quote : Char
  raw : List Char
  apart : Apart (.word (staticWord exported) :: clause) (.word fromWord)
  valid : ∀ l ∈ gap, l.Valid
  spacing : ∀ l ∈ gap, l.isSpacing = true
  quoted : quote = '"' ∨ quote = '\''
  plain : IsPlain quote raw

namespace Declaration

/-- All in front of the specifier. -/
def lead (d : Declaration) : List Char :=
  staticWord d.exported ++ (spelled d.clause ++ (fromWord ++ (spelled d.gap ++ [d.quote])))

def source (d : Declaration) : String := String.ofList (d.lead ++ (d.raw ++ [d.quote]))

end Declaration

theorem findSome?_of_siteKind? {ls : List Lexeme} (h : .word fromWord ∉ ls) :
    siteKind? ls = ls.findSome? Lexeme.kind? := by
  induction ls with
  | nil => rfl
  | cons l ls ih =>
      have hls : .word fromWord ∉ ls := fun e => h (List.mem_cons_of_mem l e)
      rw [siteKind?, if_neg hls, ih hls, List.findSome?_cons]
      cases l.kind? <;> rfl

/-- What stands in front of the last `from` has no site. -/
theorem siteKind?_of_from (before : List Lexeme) {rest : List Lexeme}
    (h : .word fromWord ∉ rest) :
    siteKind? (before ++ .word fromWord :: rest) = rest.findSome? Lexeme.kind? := by
  induction before with
  | nil => rw [List.nil_append, siteKind?_cons_of_none rfl, findSome?_of_siteKind? h]
  | cons l before ih =>
      have hmem : .word fromWord ∈ before ++ .word fromWord :: rest := by simp
      rw [List.cons_append, siteKind?, if_pos hmem, ih]

theorem exists_last_from {ls : List Lexeme} (h : .word fromWord ∈ ls) :
    ∃ before rest, ls = before ++ .word fromWord :: rest ∧ .word fromWord ∉ rest := by
  induction ls with
  | nil => cases h
  | cons l ls ih =>
      by_cases hls : .word fromWord ∈ ls
      · obtain ⟨before, rest, rfl, hrest⟩ := ih hls
        exact ⟨l :: before, rest, rfl, hrest⟩
      · rcases List.mem_cons.mp h with rfl | hmem
        · exact ⟨[], ls, rfl, hls⟩
        · exact absurd hmem hls

theorem siteKind?_eq_some_iff {exported : Bool} {clause : List Lexeme} :
    siteKind? (.word (staticWord exported) :: clause) = some (staticKind exported) ↔
      (.word fromWord ∈ clause → ∃ before rest, clause = before ++ .word fromWord :: rest ∧
        .word fromWord ∉ rest ∧ rest.findSome? Lexeme.kind? = some (staticKind exported)) := by
  by_cases h : .word fromWord ∈ clause
  · obtain ⟨before, rest, rfl, hrest⟩ := exists_last_from h
    rw [siteKind?, if_pos h, siteKind?_of_from before hrest]
    constructor
    · intro hk _
      exact ⟨before, rest, rfl, hrest, hk⟩
    · intro hk
      obtain ⟨before', rest', he, hrest', hk'⟩ := hk h
      rw [← siteKind?_of_from before hrest, he, siteKind?_of_from before' hrest', hk']
  · rw [siteKind?, if_neg h, kind?_staticWord]
    simp [h]

theorem sites_source (d : Declaration) :
    sites d.source = ((siteKind? (.word (staticWord d.exported) :: d.clause)).map fun kind =>
      siteBehind 0 1 kind d.lead d.raw).toList := by
  have hq : isQuote d.quote = true := isQuote_of_quoted d.quoted
  have hscan := sitesFrom_spelled d.apart (ending_from d.valid d.spacing hq d.plain)
    (fun _ _ _ => rfl : Opens ([] : List Char).head? _ _) 0 1
  have htext : d.source.toList =
      spelled (.word (staticWord d.exported) :: d.clause) ++ fromLiteral d.gap d.quote d.raw := by
    simp [Declaration.source, Declaration.lead, fromLiteral, Lexeme.text]
  rw [sites, htext, hscan, Option.bind_some]
  simp [Declaration.lead, Lexeme.text]

/-- A declaration has one site, if it has any: that of the first keyword behind the last `from` in
its clause, or its own if there is none. So it is found as it should be exactly if its clause has
no `from`, or if a keyword like its own comes first behind the last. Nothing is found in front of a
line comment that no line feed ends, even if a carriage return does. -/
theorem sites_declaration (d : Declaration) :
    sites d.source = ((siteKind? (.word (staticWord d.exported) :: d.clause)).map fun kind =>
      siteBehind 0 1 kind d.lead d.raw).toList ∧
    ((∃ site, sites d.source = [site] ∧ site.kind = staticKind d.exported ∧
        site.raw = String.ofList d.raw) ↔
      (.word fromWord ∈ d.clause → ∃ before rest, d.clause = before ++ .word fromWord :: rest ∧
        .word fromWord ∉ rest ∧ rest.findSome? Lexeme.kind? = some (staticKind d.exported))) ∧
    ∀ ls body, Apart (.word (staticWord d.exported) :: ls) (.line []) → '\n' ∉ body →
      sites (String.ofList
        (spelled (.word (staticWord d.exported) :: ls) ++ '/' :: '/' :: body)) = [] := by
  refine ⟨sites_source d, ?_, ?_⟩
  · rw [← siteKind?_eq_some_iff, sites_source]
    cases siteKind? (.word (staticWord d.exported) :: d.clause) with
    | none => simp
    | some kind => simp [siteBehind]
  · intro ls body hls hbody
    have hscan := sitesFrom_spelled hls (ending_comment hbody)
      (fun _ _ _ => rfl : Opens ([] : List Char).head? _ _) 0 1
    rw [sites, String.toList_ofList, hscan]
    rfl

/-- A declaration that binds the name `from`. -/
def fromImport : Declaration where
  exported := false
  clause := [.blank ' ', .mark '\x7b', .blank ' ', .word fromWord, .blank ' ', .mark '\x7d',
    .blank ' ']
  gap := [.blank ' ']
  quote := '\''
  raw := ['r', 'x', 'j', 's']
  apart := ⟨by decide, by decide⟩
  valid := by decide
  spacing := by decide
  quoted := by decide
  plain := by decide

theorem sites_declaration_from :
    fromImport.source = "import \x7b from \x7d from 'rxjs'" ∧ sites fromImport.source = [] ∧
      ¬ ∃ site, sites fromImport.source = [site] ∧ site.kind = .imported ∧
        site.raw = "rxjs" := by
  obtain ⟨hsites, -, -⟩ := sites_declaration fromImport
  have hnone : siteKind? (.word (staticWord fromImport.exported) :: fromImport.clause) = none := by
    decide
  rw [hnone] at hsites
  refine ⟨by decide, hsites, ?_⟩
  rintro ⟨site, hsite, -⟩
  rw [hsites] at hsite
  cases hsite

end ImportResolver.Source

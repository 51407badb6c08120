import ImportResolver.Proofs.Source.BytewiseReport
import ImportResolver.Proofs.Source.Quote
import ImportResolver.Proofs.Source.TokenScan
/- What stands around the sites of a text, whatever the text is: the quotes, what leads up to them
from a keyword, and the lines in front. -/
namespace ImportResolver.Source

/-- The text is spelled with such lexemes. -/
def Spells (p : Lexeme → Bool) (text : List Char) : Prop :=
  ∃ ls : List Lexeme, (∀ l ∈ ls, l.Valid ∧ p l = true) ∧ spelled ls = text

/-- Blanks and comments. -/
def IsSpacing : List Char → Prop := Spells Lexeme.isSpacing

/-- What may stand in an import or export clause. Two words in it may touch. -/
def IsClause : List Char → Prop := Spells fun _ => true

namespace Spells

variable {p : Lexeme → Bool}

theorem nil : Spells p [] := ⟨[], fun _ hl => absurd hl List.not_mem_nil, rfl⟩

theorem cons {l : Lexeme} {text : List Char} (hv : l.Valid) (hl : p l = true)
    (h : Spells p text) : Spells p (l.text ++ text) := by
  obtain ⟨ls, hls, rfl⟩ := h
  exact ⟨l :: ls, List.forall_mem_cons.mpr ⟨⟨hv, hl⟩, hls⟩, rfl⟩

/-- A line feed is a lexeme of its own, unless a line comment ends with it. -/
theorem of_feed {text : List Char} (h : Spells p ('\n' :: text)) : Spells p text := by
  obtain ⟨ls, hls, htext⟩ := h
  cases ls with
  | nil => cases htext
  | cons l ls =>
      obtain ⟨⟨hv, -⟩, hrest⟩ := List.forall_mem_cons.mp hls
      rw [spelled_cons] at htext
      cases l with
      | word w =>
          obtain ⟨c, w, rfl⟩ := List.exists_cons_of_ne_nil hv.1
          obtain ⟨rfl, -⟩ := List.cons.inj htext
          exact absurd (hv.2 '\n' List.mem_cons_self) (by decide)
      | mark c =>
          obtain ⟨rfl, -⟩ := List.cons.inj htext
          exact absurd hv (by decide)
      | blank c =>
          obtain ⟨-, rfl⟩ := List.cons.inj htext
          exact ⟨ls, hrest, rfl⟩
      | block body => cases htext
      | line body => cases htext

theorem blanks (hblank : ∀ c, p (.blank c) = true) {text : List Char}
    (h : ∀ c ∈ text, isSpace c = true) : Spells p text := by
  induction text with
  | nil => exact nil
  | cons c text ih =>
      obtain ⟨hc, htext⟩ := List.forall_mem_cons.mp h
      exact (ih htext).cons (l := .blank c) hc (hblank c)

theorem append {s t : List Char} (hs : Spells p s) (ht : Spells p t) : Spells p (s ++ t) := by
  obtain ⟨ls, hls, rfl⟩ := hs
  obtain ⟨ms, hms, rfl⟩ := ht
  refine ⟨ls ++ ms, fun l hl => ?_, List.flatMap_append⟩
  exact (List.mem_append.mp hl).elim (hls l) (hms l)

end Spells

theorem blockBody_fst {s : List Char} (h : (blockBody s).2 ≠ []) :
    ∃ body, ¬ ['*', '/'] <:+: body ∧ (blockBody s).1 = body ++ ['*', '/'] := by
  fun_induction blockBody s with
  | case1 => exact absurd rfl h
  | case2 s => exact ⟨[], by simp, rfl⟩
  | case3 c s hs ih =>
      obtain ⟨body, hbody, he⟩ := ih h
      refine ⟨c :: body, fun hinfix => ?_, by rw [Cut.push_fst, he]; rfl⟩
      rcases List.infix_cons_iff.mp hinfix with ⟨rest, hprefix⟩ | hinfix
      · obtain ⟨rfl, rfl⟩ := List.cons.inj hprefix
        have htext := blockBody_append s
        rw [he] at htext
        exact hs _ rfl htext.symm
      · exact hbody hinfix

/-- A comment is a lexeme, together with the line feed behind it if it is a line comment. Whatever
stands behind `more` begins no line. -/
theorem Spells.comment {p : Lexeme → Bool} (hblock : ∀ body, p (.block body) = true)
    (hline : ∀ body, p (.line body) = true) {s text more tail : List Char}
    (h : comment? s = some (text, more ++ tail)) (hne : tail ≠ [])
    (hfeed : tail.head? ≠ some '\n') (hmore : Spells p more) : Spells p (text ++ more) := by
  have hrest : more ++ tail ≠ [] := by simp [hne]
  unfold comment? at h
  split at h
  · next s =>
      obtain ⟨rfl, hcut⟩ := Prod.mk.inj (Option.some.inj h)
      have hbody : '\n' ∉ (cutWhile (· ≠ '\n') s).1 := fun hmem => by
        simpa using List.mem_takeWhile_imp hmem
      have hhead (c : Char) (hc : (more ++ tail).head? = some c) : c = '\n' := by
        simpa using head_cutWhile (· ≠ '\n') s c (hcut ▸ hc)
      cases more with
      | nil =>
          obtain ⟨c, tail, rfl⟩ := List.exists_cons_of_ne_nil hne
          exact absurd (congrArg some (hhead c rfl)) hfeed
      | cons c more =>
          obtain rfl := hhead c rfl
          have hspelled : Spells p ((Lexeme.line (cutWhile (· ≠ '\n') s).1).text ++ more) :=
            hmore.of_feed.cons hbody (hline _)
          simpa [Lexeme.text] using hspelled
  · next s =>
      obtain ⟨rfl, hcut⟩ := Prod.mk.inj (Option.some.inj h)
      obtain ⟨body, hbody, he⟩ := blockBody_fst (s := s) (by rw [← hcut] at hrest; exact hrest)
      have hspelled := hmore.cons (l := .block body) hbody (hblock body)
      simpa [Lexeme.text, he] using hspelled
  · cases h

theorem isSpace_head_trivia (s : List Char) : ∀ c ∈ (trivia s).2.head?, isSpace c = false := by
  induction s using trivia.induct with
  | case1 s _ hc =>
      rw [trivia_of_none hc]
      exact head_cutWhile isSpace s
  | case2 s _ text rest hc ih =>
      rw [trivia_of_comment hc]
      exact ih

theorem isSpacing_trivia {s : List Char} (h : (trivia s).2 ≠ []) : IsSpacing (trivia s).1 := by
  have hblanks (s : List Char) : IsSpacing (cutWhile isSpace s).1 :=
    Spells.blanks (fun _ => rfl) fun c hc => List.mem_takeWhile_imp hc
  induction s using trivia.induct with
  | case1 s _ hc =>
      rw [trivia_of_none hc]
      exact hblanks s
  | case2 s _ text rest hc ih =>
      rw [trivia_of_comment hc] at h ⊢
      have hfeed : (trivia rest).2.head? ≠ some '\n' := fun hh =>
        absurd (isSpace_head_trivia rest '\n' hh) (by decide)
      rw [← trivia_append rest] at hc
      rw [List.append_assoc]
      exact (hblanks s).append (Spells.comment (fun _ => rfl) (fun _ => rfl) hc h hfeed (ih h))

theorem isSpacing_of_literal? {s : List Char} {l : Literal} (h : literal? (trivia s).2 = some l) :
    IsSpacing (trivia s).1 := by
  refine isSpacing_trivia fun hnil => ?_
  rw [hnil] at h
  cases h

theorem exists_lexeme {c : Char} (h : isClauseChar c = true) :
    ∃ l : Lexeme, l.Valid ∧ l.text = [c] := by
  by_cases hspace : isSpace c = true
  · exact ⟨.blank c, hspace, rfl⟩
  by_cases hword : isWord c = true
  · exact ⟨.word [c], ⟨List.cons_ne_nil c [], List.forall_mem_singleton.mpr hword⟩, rfl⟩
  · refine ⟨.mark c, ?_, rfl⟩
    change c = '*' ∨ c = '\x7b' ∨ c = '\x7d' ∨ c = ','
    simpa [isClauseChar, hspace, hword, or_assoc] using h

/-- The literal of a clause stands behind a word `from`. -/
theorem clause?_lead {prev : Option Char} {s : List Char} {l : Literal}
    (h : clause? prev s = some l) :
    ∃ mid gap, IsClause mid ∧ IsSpacing gap ∧ isTied (mid.getLast?.or prev) = false ∧
      l.lead = mid ++ (fromWord ++ (gap ++ [l.quote])) := by
  fun_induction clause? prev s generalizing l with
  | case1 => cases h
  | case2 prev c s text rest hc ih =>
      obtain ⟨l, hl, rfl⟩ := Option.map_eq_some_iff.mp h
      obtain ⟨mid, gap, hmid, hgap, htied, hlead⟩ := ih hl
      have hrest : rest = mid ++ (fromWord ++ (gap ++ l.quote :: (l.raw ++ l.quote :: l.rest))) := by
        rw [← clause?_whole hl, Literal.whole, hlead]
        simp
      have hlast : (text ++ mid).getLast?.or prev = mid.getLast?.or text.getLast? := by
        rw [getLast?_append_or, List.getLast?_eq_some_getLast (comment?_fst_ne_nil hc), Option.some_or]
      rw [hrest] at hc
      refine ⟨text ++ mid, gap, ?_, hgap, by rw [hlast]; exact htied, ?_⟩
      · exact Spells.comment (fun _ => rfl) (fun _ => rfl) hc (List.cons_ne_nil _ _)
          (by simp [fromWord]) hmid
      · rw [Literal.after_lead, hlead, List.append_assoc]
        rfl
  | case3 prev c s hc rest hk =>
      obtain ⟨l, hl, rfl⟩ := Option.map_eq_some_iff.mp h
      obtain ⟨-, hlead, -, -⟩ := literal?_eq_some_iff.mp hl
      obtain ⟨htied, -⟩ := keyword?_eq_some_iff.mp hk
      refine ⟨[], (trivia rest).1, Spells.nil, isSpacing_of_literal? hl, htied, ?_⟩
      rw [Literal.after_lead, hlead, List.nil_append, List.append_assoc]
      rfl
  | case4 prev c s hc hk hclause ih =>
      obtain ⟨l, hl, rfl⟩ := Option.map_eq_some_iff.mp h
      obtain ⟨mid, gap, hmid, hgap, htied, hlead⟩ := ih hl
      obtain ⟨x, hx, htext⟩ := exists_lexeme hclause
      refine ⟨c :: mid, gap, ?_, hgap, by rw [getLast?_cons_or]; exact htied, ?_⟩
      · have hspelled := hmid.cons hx rfl
        rwa [htext] at hspelled
      · rw [Literal.after_lead, hlead]
        rfl
  | case5 => cases h

/-- What leads from the keyword of a site to its opening quote: the gap alone, which no backtick
follows, the parenthesis of a call, or the word `from` behind a clause. -/
inductive Introduces : SiteKind → Char → List Char → Prop
  | alone {quote : Char} {gap : List Char} : quote ≠ '\x60' → IsSpacing gap →
      Introduces .imported quote (importWord ++ gap)
  | call {quote : Char} {near far : List Char} : IsSpacing near → IsSpacing far →
      Introduces .dynamic quote (importWord ++ (near ++ '(' :: far))
  | clause (exported : Bool) {quote : Char} {mid gap : List Char} : IsClause mid →
      IsSpacing gap → isTied (staticWord exported ++ mid).getLast? = false →
      Introduces (staticKind exported) quote (staticWord exported ++ (mid ++ (fromWord ++ gap)))

theorem introduces_clause (exported : Bool) {s : List Char} {l : Literal}
    (h : clause? (some 't') s = some l) :
    ∃ lead, (l.after (staticWord exported)).lead = lead ++ [l.quote] ∧
      Introduces (staticKind exported) l.quote lead := by
  obtain ⟨mid, gap, hmid, hgap, htied, hlead⟩ := clause?_lead h
  have hlast : (staticWord exported ++ mid).getLast? = mid.getLast?.or (some 't') := by
    cases exported <;> exact List.getLast?_append
  refine ⟨_, ?_, .clause exported hmid hgap (by rw [hlast]; exact htied)⟩
  simp [hlead]

theorem site?_introduced {prev : Option Char} {s : List Char} {kind : SiteKind} {l : Literal}
    (h : site? prev s = some (kind, l)) :
    ∃ lead, l.lead = lead ++ [l.quote] ∧ Introduces kind l.quote lead := by
  rcases site?_cases h with ⟨rest, l, -, hfound, rfl⟩ | ⟨rest, l, -, hl, rfl, rfl⟩
  · rcases importSpecifier?_cases hfound with ⟨tail, l, ht, hl, rfl, rfl⟩ |
      ⟨c, tail, l, ht, hc, hl, rfl, rfl⟩ | ⟨c, tail, l, ht, -, -, hl, rfl, rfl⟩
    · obtain ⟨l, hliteral, rfl, -⟩ := callArgument?_eq_some_iff.mp hl
      obtain ⟨-, hlead, -, -⟩ := literal?_eq_some_iff.mp hliteral
      have hnear : (trivia rest).2 ≠ [] := by simp [ht]
      refine ⟨_, ?_, .call (isSpacing_trivia hnear) (isSpacing_of_literal? hliteral)⟩
      simp [hlead]
    · obtain ⟨hwhole, hlead, -, -⟩ := literal?_eq_some_iff.mp hl
      have hquote : l.quote = c := by
        rw [ht, Literal.whole, hlead] at hwhole
        exact (List.cons.inj hwhole).1
      have hbacktick : l.quote ≠ '\x60' := by
        rcases hc with rfl | rfl <;> simp [hquote]
      refine ⟨_, ?_, .alone hbacktick (isSpacing_of_literal? hl)⟩
      simp [hlead]
    · exact introduces_clause false (clause?_of_trivia hl)
  · exact introduces_clause true hl

def Piece.Introduced : Piece → Prop
  | .other _ => True
  | .site kind lead _ quote => ∃ front, lead = front ++ [quote] ∧ Introduces kind quote front

theorem pieces_introduced (before s : List Char) : ∀ p ∈ pieces before s, p.Introduced :=
  pieces_satisfy (fun _ => trivial) (fun _ _ _ _ h => site?_introduced h) before s

/-- A site in the text around it. -/
structure Site.Enclosed (text : List Char) (site : Site) (quote : Char)
    (front lead rest : List Char) : Prop where
  quoted : isQuote quote = true
  plain : IsPlain quote site.raw.toList
  text_eq : text = front ++ (lead ++ quote :: (site.raw.toList ++ quote :: rest))
  introduced : Introduces site.kind quote lead
  eq : site = siteBehind 0 1 site.kind (front ++ (lead ++ [quote])) site.raw.toList

/-- The lines are counted on from site to site, and yet every site has the lines of all the text in
front of it. -/
theorem enclosed_pieces {ps : List Piece} (hp : ∀ p ∈ ps, p.Proper ∧ p.Introduced)
    (s : List Char) :
    ∀ site ∈ sitesFrom (byteSize s) (1 + lineFeeds s) ps,
      ∃ quote front lead rest,
        site.Enclosed (s ++ ps.flatMap Piece.text) quote front lead rest := by
  induction ps generalizing s with
  | nil => exact fun site hsite => absurd hsite List.not_mem_nil
  | cons p ps ih =>
      obtain ⟨⟨hproper, hintroduced⟩, hps⟩ := List.forall_mem_cons.mp hp
      have hrest := ih hps (s ++ p.text)
      rw [List.append_assoc, ← List.flatMap_cons, byteSize_append, lineFeeds_append,
        ← Nat.add_assoc] at hrest
      cases p with
      | other text => exact hrest
      | site kind lead raw quote =>
          have hquote : isQuote quote = true := hproper.1.quote
          obtain ⟨lead, rfl, hlead⟩ := hintroduced
          rw [sitesFrom_site]
          refine List.forall_mem_cons.mpr ⟨?_, ?_⟩
          · refine ⟨quote, s, lead, ps.flatMap Piece.text, hquote, by simpa using hproper.1.plain,
              ?_, hlead, ?_⟩
            · simp [Piece.text]
            · simp [siteBehind, Nat.add_assoc]
          · have hsize : byteSize (Piece.site kind (lead ++ [quote]) raw quote).text =
                byteSize (lead ++ [quote]) + byteSize raw + quote.utf8Size := by
              simp [Piece.text, Nat.add_assoc]
            have hfeeds : lineFeeds (Piece.site kind (lead ++ [quote]) raw quote).text =
                lineFeeds (lead ++ [quote]) + lineFeeds raw := by
              simp only [Piece.text, lineFeeds_append, lineFeeds_quote hquote, Nat.add_zero]
            rwa [hsize, hfeeds, ← Nat.add_assoc, ← Nat.add_assoc, ← Nat.add_assoc] at hrest

theorem enclosed_sites (source : String) :
    ∀ site ∈ sites source,
      ∃ quote front lead rest, site.Enclosed source.toList quote front lead rest := by
  have h := @enclosed_pieces (pieces [] source.toList)
    (fun p hp => ⟨pieces_proper [] source.toList p hp, pieces_introduced [] source.toList p hp⟩) []
  rwa [List.nil_append, flatMap_text_pieces] at h

/-- A site as the bytes of the text show it. -/
structure Site.Stands (source : Bytes) (site : Site) (quote : Char) : Prop where
  quoted : isQuote quote = true
  opening : 0 < site.start ∧ source[site.start - 1]? = some (UInt8.ofNat quote.toNat)
  closing : site.start ≤ site.stop ∧ source[site.stop]? = some (UInt8.ofNat quote.toNat)
  raw : (source.take site.stop).drop site.start = Text.Utf8.encode site.raw
  plain : IsPlain quote site.raw.toList
  line : site.line = 1 + (source.take site.start).count 0x0A
  introduced : ∃ front lead, source.take (site.start - 1) = bytes (front ++ lead) ∧
    Introduces site.kind quote lead

theorem getElem?_bytes_quote {quote : Char} (hq : isQuote quote = true) (s t : List Char) :
    (bytes (s ++ quote :: t))[byteSize s]? = some (UInt8.ofNat quote.toNat) := by
  rw [bytes_append, bytes_quote hq, ← length_bytes, List.getElem?_append_right (Nat.le_refl _),
    Nat.sub_self, List.getElem?_cons_zero]

theorem Site.Enclosed.stands {text front lead rest : List Char} {site : Site} {quote : Char}
    (h : site.Enclosed text quote front lead rest) : site.Stands (bytes text) quote := by
  obtain ⟨hq, hplain, rfl, hlead, hsite⟩ := h
  have hstart : site.start = byteSize (front ++ lead ++ [quote]) := by
    rw [hsite]
    simp [siteBehind]
  have hstop : site.stop = byteSize (front ++ lead ++ [quote] ++ site.raw.toList) := by
    rw [hsite]
    simp [siteBehind, Nat.add_assoc]
  have hbefore : site.start - 1 = byteSize (front ++ lead) := by
    rw [hstart, byteSize_append, byteSize_cons, utf8Size_quote hq]
    rfl
  have hopening := getElem?_bytes_quote hq (front ++ lead) (site.raw.toList ++ quote :: rest)
  have hclosing := getElem?_bytes_quote hq (front ++ lead ++ [quote] ++ site.raw.toList) rest
  have hspan := bytes_between (front ++ lead ++ [quote]) site.raw.toList (quote :: rest)
  have hlines := take_bytes (front ++ lead ++ [quote]) (site.raw.toList ++ quote :: rest)
  have hfront := take_bytes (front ++ lead) (quote :: (site.raw.toList ++ quote :: rest))
  rw [← hbefore] at hopening hfront
  rw [← hstop] at hclosing
  rw [← hstart, ← hstop, bytes_toList] at hspan
  rw [← hstart] at hlines
  simp only [List.append_assoc, List.cons_append, List.nil_append]
    at hopening hclosing hspan hlines hfront
  refine ⟨hq, ⟨?_, hopening⟩, ⟨?_, hclosing⟩, hspan, hplain, ?_, front, lead, hfront, hlead⟩
  · rw [hstart, byteSize_append, byteSize_cons, utf8Size_quote hq]
    omega
  · rw [hstop, byteSize_append _ site.raw.toList, hstart]
    exact Nat.le_add_right _ _
  · rw [hlines, Bytewise.count_bytes, hsite]
    simp [siteBehind]

/-- What is reported of a text whose lines 32 bits can count: each site between two quotes of one
kind, in backticks only behind `from` or a parenthesis, and on the line that the line feeds in front
of it tell. -/
theorem sites_enclosed {source : String}
    (h : lineFeeds source.toList < Bytewise.lineLimit - 1) :
    Bytewise.scan source = .ok (sites source) ∧
      ∀ site ∈ sites source, ∃ quote, site.Stands (Text.Utf8.encode source) quote := by
  refine ⟨Bytewise.scan_eq h, fun site hsite => ?_⟩
  obtain ⟨quote, front, lead, rest, henclosed⟩ := enclosed_sites source site hsite
  exact ⟨quote, henclosed.stands⟩

/-- Backticks behind `from` and in a call; those behind the keyword alone are no site. -/
def backticks : String :=
  "import a from \x60./a\x60\nimport './b'\nimport \x60./c\x60\nawait import(/* d */ \x60./d\x60)\n"

theorem sites_enclosed_backticks :
    lineFeeds backticks.toList < Bytewise.lineLimit - 1 ∧
      Bytewise.scan backticks =
        .ok [⟨"./a", .imported, 15, 18, 1⟩, ⟨"./b", .imported, 28, 31, 2⟩,
          ⟨"./d", .dynamic, 68, 71, 4⟩] ∧
      ∀ site ∈ sites backticks, ∃ quote, site.Stands (Text.Utf8.encode backticks) quote := by
  have hfeeds : lineFeeds backticks.toList < Bytewise.lineLimit - 1 := by decide
  have hsites : sites backticks = [⟨"./a", .imported, 15, 18, 1⟩, ⟨"./b", .imported, 28, 31, 2⟩,
      ⟨"./d", .dynamic, 68, 71, 4⟩] := by decide +kernel
  obtain ⟨hscan, hstands⟩ := sites_enclosed hfeeds
  exact ⟨hfeeds, hsites ▸ hscan, hstands⟩

end ImportResolver.Source

import ImportResolver.Proofs.Source.Quote
import ImportResolver.Proofs.Source.Token
/- The scanner on tokens. It passes a token or takes all from a keyword through a literal, so every
site is a literal, and a literal that an `import` stands in front of is one. -/
namespace ImportResolver.Source

/-- What stands from the keyword of a site up to its literal. -/
inductive Leads : SiteKind → List Token → Prop
  | bare {gap : List Token} : (∀ t ∈ gap, t.isSpacing = true) →
      Leads .imported (.word importWord :: gap)
  | call {near far : List Token} : (∀ t ∈ near, t.isSpacing = true) →
      (∀ t ∈ far, t.isSpacing = true) →
      Leads .dynamic (.word importWord :: (near ++ .sign '(' :: far))
  | clause (exported : Bool) {mid gap : List Token} : (∀ t ∈ mid, t.isLexeme = true) →
      (∀ t ∈ gap, t.isSpacing = true) →
      Leads (staticKind exported)
        (.word (staticWord exported) :: (mid ++ .word fromWord :: gap))

variable {ts : List Token} {t : Token} {tail : List Char}

theorem Leads.no_literal {kind : SiteKind} {pre : List Token} (h : Leads kind pre)
    (quote : Char) (body : List Letter) : .literal quote body ∉ pre := by
  have hspacing {gap : List Token} (hgap : ∀ t ∈ gap, t.isSpacing = true) :
      .literal quote body ∉ gap := fun e => by cases hgap _ e
  have hlexeme {mid : List Token} (hmid : ∀ t ∈ mid, t.isLexeme = true) :
      .literal quote body ∉ mid := fun e => by cases hmid _ e
  cases h with
  | bare hgap => simpa using hspacing hgap
  | call hnear hfar => simpa using ⟨hspacing hnear, hspacing hfar⟩
  | clause exported hmid hgap => simpa using ⟨hlexeme hmid, hspacing hgap⟩

theorem clause?_of_trivia {s : List Char} {l : Literal}
    (h : clause? (some ((trivia s).1.getLast?.getD 't')) (trivia s).2 = some l) :
    clause? (some 't') s = some (l.after (trivia s).1) := by
  rw [clause?_trivia (some 't') s, getLast?_or_eq, h]
  rfl

theorem clause?_leads (exported : Bool) (h : WellSpaced (.word (staticWord exported) :: ts))
    (hc : Closing tail) {l : Literal}
    (hl : clause? (some 't') (written ts ++ tail) = some l) :
    ∃ pre quote body post,
      .word (staticWord exported) :: ts = pre ++ .literal quote body :: post ∧
      Leads (staticKind exported) pre ∧
      l.after (staticWord exported) = literalBehind pre quote body (written post ++ tail) := by
  obtain ⟨mid, gap, quote, body, post, hts, hmid, hgap, rfl⟩ :=
    clause?_written h.rest hc (h.begins_word rfl _) hl
  have hlead := literalBehind_after [.word (staticWord exported)] (mid ++ .word fromWord :: gap)
    quote body (written post ++ tail)
  exact ⟨_, quote, body, post, by simp [hts], .clause exported hmid hgap,
    by simpa [Token.text, Lexeme.text] using hlead⟩

/-- The argument of a call. -/
theorem callArgument?_leads (h : WellSpaced (.word importWord :: ts)) (hc : Closing tail)
    {rest : List Char} {l : Literal} (ht : (trivia (written ts ++ tail)).2 = '(' :: rest)
    (hl : callArgument? rest = some l) :
    ∃ pre quote body post, .word importWord :: ts = pre ++ .literal quote body :: post ∧
      Leads .dynamic pre ∧
      (l.after ((trivia (written ts ++ tail)).1 ++ ['('])).after importWord =
        literalBehind pre quote body (written post ++ tail) := by
  rcases trivia_tokens h.rest hc with hhead | ⟨near, t, us, rfl, hnear, htrivia⟩
  · exact absurd rfl (hhead '(' (by rw [ht]; rfl)).2
  · rw [htrivia] at ht ⊢
    have hv := h.rest.valid t (by simp)
    obtain ⟨rfl, rfl⟩ : t = .sign '(' ∧ written us ++ tail = rest := by
      cases t with
      | lexeme l =>
          obtain ⟨c, text, htext, hc⟩ := Lexeme.begins hv
          rw [Token.text, htext] at ht
          obtain ⟨rfl, -⟩ := List.cons.inj ht
          rcases hc with hc | hc <;> cases hc
      | sign c =>
          obtain ⟨rfl, rfl⟩ := List.cons.inj ht
          exact ⟨rfl, rfl⟩
      | literal quote body =>
          obtain ⟨rfl, -⟩ := List.cons.inj ht
          cases hv.1
    obtain ⟨far, quote, body, post, rfl, hfar, rfl⟩ :=
      callArgument?_written h.rest.behind.rest hc hl
    have hlead := literalBehind_after (.word importWord :: (near ++ [.sign '('])) far quote body
      (written post ++ tail)
    exact ⟨_, quote, body, post, by simp, .call hnear hfar,
      by simpa [Literal.after_after, Token.text, Lexeme.text] using hlead⟩

/-- What a keyword leads to. -/
theorem site?_written {w : List Char} (h : WellSpaced (.word w :: ts)) (hc : Closing tail)
    {prev : Option Char} {kind : SiteKind} {l : Literal}
    (hl : site? prev (w ++ (written ts ++ tail)) = some (kind, l)) :
    ∃ pre quote body post, .word w :: ts = pre ++ .literal quote body :: post ∧ Leads kind pre ∧
      l = literalBehind pre quote body (written post ++ tail) := by
  have hw : ∀ c ∈ w, isWord c = true := (h.valid _ List.mem_cons_self).2
  have hhead := h.head rfl hc
  rcases site?_cases hl with ⟨rest, l', hk, hfound, rfl⟩ | ⟨rest, l', hk, hfound, rfl, rfl⟩
  · obtain ⟨rfl, rfl⟩ := eq_of_keyword? isWord_of_mem_import hw hhead hk
    rcases importSpecifier?_cases hfound with ⟨rest, l, ht, hcall, rfl, rfl⟩ |
      ⟨c, rest, l, ht, hq, hlit, rfl, rfl⟩ | ⟨c, rest, l, ht, -, -, hclause, rfl, rfl⟩
    · exact callArgument?_leads h hc ht hcall
    · obtain ⟨gap, quote, body, post, rfl, hgap, htrivia, rfl⟩ := literal?_written h.rest hc hlit
      have hlead := literalBehind_after [.word importWord] gap quote body (written post ++ tail)
      refine ⟨.word importWord :: gap, quote, body, post, rfl, .bare hgap, ?_⟩
      rw [htrivia, literalBehind_after, List.append_nil]
      simpa [Token.text, Lexeme.text] using hlead
    · exact clause?_leads false h hc (clause?_of_trivia hclause)
  · obtain ⟨rfl, rfl⟩ := eq_of_keyword? isWord_of_mem_export hw hhead hk
    exact clause?_leads true h hc hfound

theorem Token.text_ne_nil (hv : t.Valid) : t.text ≠ [] := by
  cases t with
  | lexeme l => exact Source.text_ne_nil hv
  | sign c => exact List.cons_ne_nil _ _
  | literal quote body => exact List.cons_ne_nil _ _

theorem passed_token (hv : t.Valid) {before s : List Char}
    (hs : ∀ w, t = .word w → site? before.head? (w ++ s) = none) : Passed before t.text s := by
  cases t with
  | lexeme l =>
      cases hn : l.isName with
      | false => exact passed_other hv hn before s
      | true =>
          obtain ⟨w, rfl⟩ := Lexeme.exists_of_isName hn
          exact passed_word hv (hs w rfl)
  | sign c =>
      obtain ⟨hclause, hq, hslash, -⟩ := hv
      have hsite : site? before.head? (c :: s) = none := by
        refine site?_eq_none_of_ne ?_ ?_
        · rintro rfl
          cases hclause
        · rintro rfl
          cases hclause
      have hp := @piece_of_site? before s c (comment?_eq_none_of_ne hslash)
        (fun e => hslash e.1) hq
      rw [hsite] at hp
      exact passed_of_piece hp
  | literal quote body =>
      have hp := @piece_of_quote before (content body ++ quote :: s) quote hv.1
      rw [stringBody_letters hv.1 hv.2.1] at hp
      exact passed_of_piece hp

/-- The site of a literal behind some tokens. -/
def siteOf (start line : Nat) (kind : SiteKind) (pre : List Token) (quote : Char)
    (body : List Letter) : Site :=
  siteBehind start line kind (written pre ++ [quote]) (content body)

theorem siteOf_append (start line : Nat) (kind : SiteKind) (us pre : List Token) (quote : Char)
    (body : List Letter) :
    siteOf (start + byteSize (written us)) (line + lineFeeds (written us)) kind pre quote body =
      siteOf start line kind (us ++ pre) quote body := by
  rw [siteOf, siteBehind_append, siteOf, written_append, List.append_assoc]

theorem sitesFrom_of_site? {w before s rest : List Char} {kind : SiteKind} {pre : List Token}
    {quote : Char} {body : List Letter} (hv : (Lexeme.word w).Valid)
    (h : site? before.head? (w ++ s) = some (kind, literalBehind pre quote body rest))
    (start line : Nat) :
    sitesFrom start line (pieces before (w ++ s)) =
      siteOf start line kind pre quote body ::
        sitesFrom (start + byteSize (written (pre ++ [.literal quote body])))
          (line + lineFeeds (written (pre ++ [.literal quote body])))
          (pieces ((written (pre ++ [.literal quote body])).reverse ++ before) rest) := by
  obtain ⟨c, w, rfl⟩ := List.exists_cons_of_ne_nil hv.1
  have hreported := reported_of_site? (hv.2 c List.mem_cons_self) h start line
  have htext : written pre ++ [quote] ++ (content body ++ [quote]) =
      written (pre ++ [.literal quote body]) := by
    simp [Token.text]
  rw [literalBehind, htext] at hreported
  exact hreported

/-- One step of the scanner: it passes a token, or takes all through a literal. -/
theorem sitesFrom_step (h : WellSpaced (t :: ts)) (hc : Closing tail) (before : List Char) :
    (∀ start line, sitesFrom start line (pieces before (written (t :: ts) ++ tail)) =
      sitesFrom (start + byteSize (written [t])) (line + lineFeeds (written [t]))
        (pieces ((written [t]).reverse ++ before) (written ts ++ tail))) ∨
    ∃ kind pre quote body post, t :: ts = pre ++ .literal quote body :: post ∧ Leads kind pre ∧
      ∀ start line, sitesFrom start line (pieces before (written (t :: ts) ++ tail)) =
        siteOf start line kind pre quote body ::
          sitesFrom (start + byteSize (written (pre ++ [.literal quote body])))
            (line + lineFeeds (written (pre ++ [.literal quote body])))
            (pieces ((written (pre ++ [.literal quote body])).reverse ++ before)
              (written post ++ tail)) := by
  have hv := h.valid t List.mem_cons_self
  by_cases hs : ∀ w, t = .word w → site? before.head? (w ++ (written ts ++ tail)) = none
  · have hpassed := passed_token hv hs
    refine .inl fun start line => ?_
    rw [written_cons, List.append_assoc, hpassed start line]
    simp [written]
  · simp only [not_forall] at hs
    obtain ⟨w, rfl, hsite⟩ := hs
    obtain ⟨⟨kind, l⟩, hl⟩ := Option.ne_none_iff_exists'.mp hsite
    obtain ⟨pre, quote, body, post, hts, hleads, rfl⟩ := site?_written h hc hl
    refine .inr ⟨kind, pre, quote, body, post, hts, hleads, fun start line => ?_⟩
    rw [written_cons, List.append_assoc]
    exact sitesFrom_of_site? hv hl start line

/-- Every site is that of a literal. -/
theorem exists_literal_of_mem (h : WellSpaced ts) (hc : Closing tail) (before : List Char)
    (start line : Nat) :
    ∀ site ∈ sitesFrom start line (pieces before (written ts ++ tail)),
      ∃ pre quote body post, ts = pre ++ .literal quote body :: post ∧
        site = siteOf start line site.kind pre quote body := by
  induction hn : ts.length using Nat.strong_induction_on generalizing ts before start line with
  | _ n ih =>
      intro site hsite
      cases ts with
      | nil =>
          rw [written_nil, List.nil_append, hc.silent] at hsite
          cases hsite
      | cons t ts =>
          subst hn
          rcases sitesFrom_step h hc before with hstep |
            ⟨kind, pre, quote, body, post, hts, -, hstep⟩
          · rw [hstep] at hsite
            obtain ⟨pre, quote, body, post, rfl, he⟩ :=
              ih ts.length (Nat.lt_succ_self _) h.rest _ _ _ rfl site hsite
            rw [siteOf_append] at he
            exact ⟨t :: pre, quote, body, post, rfl, he⟩
          · rw [hstep] at hsite
            rcases List.mem_cons.mp hsite with rfl | hsite
            · exact ⟨pre, quote, body, post, hts, rfl⟩
            · have hts' : t :: ts = (pre ++ [.literal quote body]) ++ post := by simp [hts]
              have hlength : post.length < (t :: ts).length := by
                rw [hts']
                simp
                omega
              obtain ⟨pre', quote', body', post', rfl, he⟩ :=
                ih post.length hlength (hts' ▸ h).behind _ _ _ rfl site hsite
              rw [siteOf_append] at he
              exact ⟨pre ++ [.literal quote body] ++ pre', quote', body', post',
                by simp [hts], he⟩

section Core

/- Some tokens in front of a literal that hold no other one, and that nothing leads through but what
begins with them. -/
variable {core post : List Token} {quote : Char} {body : List Letter}
  (hliteral : ∀ quote body, .literal quote body ∉ core)
  (hleads : ∀ kind t pre, ¬ Leads kind (t :: (pre ++ core)))

include hliteral hleads

/-- What is reported first ends in front of them. -/
theorem exists_between {pre pre' post' : List Token} {kind : SiteKind} {quote' : Char}
    {body' : List Letter} (hlead : Leads kind pre')
    (h : t :: (pre ++ (core ++ .literal quote body :: post)) =
      pre' ++ .literal quote' body' :: post') :
    ∃ mid, t :: pre = pre' ++ .literal quote' body' :: mid ∧
      post' = mid ++ (core ++ .literal quote body :: post) := by
  have hne : pre' ≠ t :: (pre ++ core) := by
    rintro rfl
    exact hleads kind t pre hlead
  rw [← List.cons_append] at h
  rcases List.append_eq_append_iff.mp h with ⟨mid, rfl, hmid⟩ | ⟨mid, hpre, hmid⟩
  · rcases List.append_eq_append_iff.mp hmid with ⟨m, rfl, hm⟩ | ⟨m, rfl, hm⟩
    · cases m with
      | nil => exact absurd (by simp) hne
      | cons x m =>
          obtain ⟨rfl, -⟩ := List.cons.inj hm
          exact absurd (by simp) (hlead.no_literal quote body)
    · cases m with
      | nil => exact absurd (by simp) hne
      | cons x m =>
          obtain ⟨rfl, -⟩ := List.cons.inj hm
          exact absurd (by simp) (hliteral quote' body')
  · cases mid with
    | nil =>
        rw [List.append_nil] at hpre
        cases core with
        | nil => exact absurd (by simp [hpre]) hne
        | cons x core =>
            obtain ⟨rfl, -⟩ := List.cons.inj hmid
            exact absurd List.mem_cons_self (hliteral quote' body')
    | cons x mid =>
        obtain ⟨rfl, rfl⟩ := List.cons.inj hmid
        exact ⟨mid, hpre, rfl⟩

/-- The literal is reported if a site begins wherever the scanner comes upon the tokens. -/
theorem siteOf_mem (hc : Closing tail) {kind : SiteKind}
    (hcore : ∀ before start line, isTied before.head? = false →
      siteOf start line kind core quote body ∈ sitesFrom start line
        (pieces before (written (core ++ .literal quote body :: post) ++ tail)))
    (pre : List Token) (h : WellSpaced (pre ++ (core ++ .literal quote body :: post)))
    (before : List Char) (hb : isTied ((written pre).reverse ++ before).head? = false)
    (start line : Nat) :
    siteOf start line kind (pre ++ core) quote body ∈ sitesFrom start line
      (pieces before (written (pre ++ (core ++ .literal quote body :: post)) ++ tail)) := by
  induction hn : pre.length using Nat.strong_induction_on generalizing pre before start line with
  | _ n ih =>
      subst hn
      cases pre with
      | nil => exact hcore before start line hb
      | cons t pre =>
          have hcons : t :: pre ++ (core ++ .literal quote body :: post) =
              t :: (pre ++ (core ++ .literal quote body :: post)) := rfl
          rw [hcons] at h ⊢
          rcases sitesFrom_step h hc before with hstep |
            ⟨kind', pre', quote', body', post', hts, hlead, hstep⟩
          · have hrest := ih pre.length (Nat.lt_succ_self _) pre h.rest
              ((written [t]).reverse ++ before) (by simpa [written] using hb)
              (start + byteSize (written [t])) (line + lineFeeds (written [t])) rfl
            rw [siteOf_append] at hrest
            rw [hstep]
            exact hrest
          · obtain ⟨mid, hpre, rfl⟩ := exists_between hliteral hleads hlead hts
            have hpre : t :: pre = (pre' ++ [.literal quote' body']) ++ mid := by simp [hpre]
            have hlength : mid.length < (t :: pre).length := by
              rw [hpre]
              simp
              omega
            have hwhole : t :: pre ++ core = (pre' ++ [.literal quote' body']) ++ (mid ++ core) := by
              rw [hpre, List.append_assoc]
            rw [hpre, written_append, List.reverse_append, List.append_assoc] at hb
            have hrest := ih mid.length hlength mid
              (by rw [← hcons, hpre, List.append_assoc] at h; exact h.behind) _ hb
              (start + byteSize (written (pre' ++ [.literal quote' body'])))
              (line + lineFeeds (written (pre' ++ [.literal quote' body']))) rfl
            rw [siteOf_append, ← hwhole] at hrest
            rw [hstep]
            exact List.mem_cons_of_mem _ hrest

end Core

/-- The last of some tokens that is neither blank nor comment. -/
theorem last_solid {a b : Token} {xs ys gap gap' : List Token} (ha : a.isSpacing = false)
    (hb : b.isSpacing = false) (hgap : ∀ t ∈ gap, t.isSpacing = true)
    (hgap' : ∀ t ∈ gap', t.isSpacing = true) (h : xs ++ a :: gap = ys ++ b :: gap') : a = b := by
  have hlast (us : List Token) {c : Token} (hc : c.isSpacing = false) {g : List Token}
      (hg : ∀ t ∈ g, t.isSpacing = true) :
      ((us ++ c :: g).filter fun t => !t.isSpacing).getLast? = some c := by
    have hnil : g.filter (fun t => !t.isSpacing) = [] := by
      rw [List.filter_eq_nil_iff]
      intro t ht
      simp [hg t ht]
    rw [List.filter_append, List.filter_cons_of_pos (by simp [hc]), hnil, List.getLast?_append]
    rfl
  have := hlast xs ha hgap
  rw [h, hlast ys hb hgap'] at this
  exact (Option.some.inj this).symm

theorem not_leads_bare {gap : List Token} (hgap : ∀ t ∈ gap, t.isSpacing = true)
    (kind : SiteKind) (t : Token) (pre : List Token) :
    ¬ Leads kind (t :: (pre ++ .word importWord :: gap)) := by
  intro h
  generalize hlead : t :: (pre ++ .word importWord :: gap) = lead at h
  cases h with
  | @bare gap' hgap' =>
      have hmem : .word importWord ∈ gap' := by simp [← (List.cons.inj hlead).2]
      cases hgap' _ hmem
  | @call near far hnear hfar =>
      have hlast := last_solid rfl rfl hgap hfar (List.cons.inj hlead).2
      cases hlast
  | @clause exported mid gap' hmid hgap' =>
      have hlast := last_solid rfl rfl hgap hgap' (List.cons.inj hlead).2
      cases hlast

theorem not_leads_call {near far : List Token} (hfar : ∀ t ∈ far, t.isSpacing = true)
    (kind : SiteKind) (t : Token) (pre : List Token) :
    ¬ Leads kind (t :: (pre ++ .word importWord :: (near ++ .sign '(' :: far))) := by
  intro h
  generalize hlead : t :: (pre ++ .word importWord :: (near ++ .sign '(' :: far)) = lead at h
  have hassoc : pre ++ .word importWord :: (near ++ .sign '(' :: far) =
      (pre ++ .word importWord :: near) ++ .sign '(' :: far := by simp
  rw [hassoc] at hlead
  cases h with
  | @bare gap' hgap' =>
      have hmem : .sign '(' ∈ gap' := by simp [← (List.cons.inj hlead).2]
      cases hgap' _ hmem
  | @call near' far' hnear' hfar' =>
      have hmem : .word importWord ∈ near' ++ .sign '(' :: far' := by
        simp [← (List.cons.inj hlead).2]
      rcases List.mem_append.mp hmem with hmem | hmem
      · cases hnear' _ hmem
      · rcases List.mem_cons.mp hmem with hmem | hmem
        · cases hmem
        · cases hfar' _ hmem
  | @clause exported mid gap' hmid hgap' =>
      have hlast := last_solid rfl rfl hfar hgap' (List.cons.inj hlead).2
      cases hlast

section Literal

variable {gap near far after post : List Token} {quote : Char} {body : List Letter} {closing : Token}

/-- Behind blanks and comments a literal without escapes and line feeds is read as it is. -/
theorem literal?_of_gap (tail : List Char) (h : WellSpaced (gap ++ .literal quote body :: post))
    (hgap : ∀ t ∈ gap, t.isSpacing = true) (hplain : IsPlain quote (content body)) :
    (trivia (written (gap ++ .literal quote body :: post) ++ tail)).1 = written gap ∧
      (trivia (written (gap ++ .literal quote body :: post) ++ tail)).2.head? = some quote ∧
      literal? (trivia (written (gap ++ .literal quote body :: post) ++ tail)).2 =
        some (literalBehind [] quote body (written post ++ tail)) := by
  have hq : isQuote quote = true := (h.valid (.literal quote body) (by simp)).1
  have ht := trivia_written (fun t ht => h.valid t (List.mem_append_left _ ht)) hgap
    (quote :: (content body ++ quote :: (written post ++ tail)))
  rw [trivia_of_head (isSpace_of_isQuote hq) (isQuote_ne_slash hq), List.append_nil] at ht
  have htext : written (gap ++ .literal quote body :: post) ++ tail =
      written gap ++ quote :: (content body ++ quote :: (written post ++ tail)) := by
    simp [Token.text]
  rw [htext, ht]
  exact ⟨rfl, rfl, literal?_eq_some_iff.mpr ⟨rfl, rfl, hq, hplain⟩⟩

theorem site?_bare (h : WellSpaced (.word importWord :: (gap ++ .literal quote body :: post)))
    (hc : Closing tail) (hgap : ∀ t ∈ gap, t.isSpacing = true)
    (hquote : quote = '"' ∨ quote = '\'') (hplain : IsPlain quote (content body))
    {prev : Option Char} (hprev : isTied prev = false) :
    site? prev (importWord ++ (written (gap ++ .literal quote body :: post) ++ tail)) =
      some (.imported,
        literalBehind (.word importWord :: gap) quote body (written post ++ tail)) := by
  obtain ⟨hgapText, hhead, hlit⟩ := literal?_of_gap tail h.rest hgap hplain
  obtain ⟨rest, hrest⟩ := List.head?_eq_some_iff.mp hhead
  rw [site?_of_import (keyword?_of_word hprev (h.head rfl hc)),
    importSpecifier?_of_quote hrest hquote, hgapText, hlit]
  simp [literalBehind, Literal.after, Token.text, Lexeme.text]

/-- A call ends with its argument, or goes on with another. -/
def IsClosing (t : Token) : Prop := t = .sign ')' ∨ t = .lexeme (.mark ',')

instance (t : Token) : Decidable (IsClosing t) := inferInstanceAs (Decidable (_ ∨ _))

theorem site?_call
    (h : WellSpaced (.word importWord :: (near ++ .sign '(' :: (far ++ .literal quote body ::
      (after ++ closing :: post)))))
    (hc : Closing tail) (hnear : ∀ t ∈ near, t.isSpacing = true)
    (hfar : ∀ t ∈ far, t.isSpacing = true) (hafter : ∀ t ∈ after, t.isSpacing = true)
    (hclosing : IsClosing closing) (hplain : IsPlain quote (content body))
    {prev : Option Char} (hprev : isTied prev = false) :
    site? prev (importWord ++ (written (near ++ .sign '(' :: (far ++ .literal quote body ::
        (after ++ closing :: post))) ++ tail)) =
      some (.dynamic, literalBehind (.word importWord :: (near ++ .sign '(' :: far)) quote body
        (written (after ++ closing :: post) ++ tail)) := by
  have hargument := h.rest.behind.rest
  obtain ⟨hgapText, -, hlit⟩ := literal?_of_gap tail hargument hfar hplain
  have hopen := trivia_written (fun t ht => h.rest.valid t (List.mem_append_left _ ht)) hnear
    ('(' :: (written (far ++ .literal quote body :: (after ++ closing :: post)) ++ tail))
  rw [trivia_of_head (by decide) (by decide), List.append_nil] at hopen
  have hend : ∃ c, (trivia (written (after ++ closing :: post) ++ tail)).2.head? = some c ∧
      (c = ')' ∨ c = ',') := by
    have hv (t : Token) (ht : t ∈ after) : t.Valid := hargument.valid t (by simp [ht])
    have htext : written (after ++ closing :: post) ++ tail =
        written after ++ (closing.text ++ (written post ++ tail)) := by simp
    rw [htext, trivia_written hv hafter]
    rcases hclosing with rfl | rfl
    · exact ⟨')', by rw [Token.trivia_solid (by decide) rfl]; rfl, .inl rfl⟩
    · exact ⟨',', by rw [Token.trivia_solid (by decide) rfl]; rfl, .inr rfl⟩
  have hcall := callArgument?_eq_some_iff.mpr ⟨_, hlit, rfl, hend⟩
  have htext : written (near ++ .sign '(' :: (far ++ .literal quote body ::
      (after ++ closing :: post))) ++ tail = written near ++
        '(' :: (written (far ++ .literal quote body :: (after ++ closing :: post)) ++ tail) := by
    simp [Token.text]
  rw [site?_of_import (keyword?_of_word hprev (h.head rfl hc)), htext,
    importSpecifier?_of_call (congrArg Prod.snd hopen), hcall, hgapText, hopen]
  simp [literalBehind, Literal.after, Token.text, Lexeme.text]

end Literal

theorem Token.untied (hv : t.Valid) (hn : t.isName = false) (hdot : t ≠ .sign '.') :
    isTied t.text.getLast? = false := by
  cases t with
  | lexeme l => exact getLast?_other hv hn
  | sign c =>
      have hc : c ≠ '.' := fun e => hdot (e ▸ rfl)
      simp [Token.text, isTied, isWord_of_not_isClauseChar hv.1, hc]
  | literal quote body =>
      have hlast : (Token.literal quote body).text.getLast? = some quote := by
        simp [Token.text, List.getLast?_cons]
      rw [hlast]
      rcases isQuote_iff.mp hv.1 with rfl | rfl | rfl <;> rfl

/-- A word behind some tokens may be a keyword unless a dot stands right in front of it. -/
theorem WellSpaced.untied {pre : List Token} {w : List Char}
    (h : WellSpaced (pre ++ .word w :: ts)) (hdot : pre.getLast? ≠ some (.sign '.')) :
    isTied (written pre).reverse.head? = false := by
  rcases List.eq_nil_or_concat pre with rfl | ⟨init, last, rfl⟩
  · rfl
  · rw [List.concat_eq_append, List.getLast?_concat] at hdot
    rw [List.concat_eq_append, List.append_assoc] at h
    have hlast : WellSpaced (last :: .word w :: ts) := h.behind
    have hname : last.isName = false := by
      cases hn : last.isName with
      | false => rfl
      | true => exact absurd ⟨hn, rfl⟩ (List.isChain_cons_cons.mp hlast.chain).1
    have hv := hlast.valid last List.mem_cons_self
    have htext : (written (init.concat last)).reverse.head? = last.text.getLast? := by
      rw [List.head?_reverse, List.concat_eq_append, written_append, List.getLast?_append]
      simp [written, List.getLast?_eq_some_getLast (Token.text_ne_nil hv)]
    rw [htext]
    exact Token.untied hv hname fun e => hdot (e ▸ rfl)

/-- A text in which every quote and slash belongs to a literal or a comment. A line comment may be
the last of it. -/
structure TokenText where
  tokens : List Token
  last : Option (List Char)
  wellSpaced : WellSpaced tokens
  oneLine : ∀ body ∈ last, '\n' ∉ body

namespace TokenText

def ending (t : TokenText) : List Char :=
  match t.last with
  | none => []
  | some body => '/' :: '/' :: body

def source (t : TokenText) : String := String.ofList (written t.tokens ++ t.ending)

theorem closing (t : TokenText) : Closing t.ending := by
  have h := t.oneLine
  unfold ending
  cases hl : t.last with
  | none => exact closing_nil
  | some body => exact ending_comment (h body hl)

theorem sites_eq (t : TokenText) :
    sites t.source = sitesFrom 0 1 (pieces [] (written t.tokens ++ t.ending)) := by
  rw [sites, source, String.toList_ofList]

theorem byteSize_written_lt (pre mid : List Token) (quote : Char) (body : List Letter) :
    byteSize (written pre) < byteSize (written (pre ++ .literal quote body :: mid)) := by
  have := quote.utf8Size_pos
  rw [written_append, byteSize_append, written_cons, byteSize_append, Token.text, byteSize_cons]
  omega

/-- A literal is told by where it begins. -/
theorem eq_of_start {kind kind' : SiteKind} {pre pre' post post' : List Token}
    {quote quote' : Char} {body body' : List Letter} (hq : isQuote quote = true)
    (hq' : isQuote quote' = true)
    (h : pre ++ .literal quote body :: post = pre' ++ .literal quote' body' :: post')
    (hsite : siteOf 0 1 kind pre quote body = siteOf 0 1 kind' pre' quote' body') :
    pre = pre' := by
  have hstart : byteSize (written pre) = byteSize (written pre') := by
    have := congrArg Site.start hsite
    simp only [siteOf, siteBehind, byteSize_append, byteSize_cons, byteSize_nil, utf8Size_quote hq,
      utf8Size_quote hq'] at this
    omega
  rcases List.append_eq_append_iff.mp h with ⟨mid, rfl, hmid⟩ | ⟨mid, rfl, hmid⟩
  · cases mid with
    | nil => rw [List.append_nil]
    | cons x mid =>
        obtain ⟨rfl, -⟩ := List.cons.inj hmid
        exact absurd hstart (Nat.ne_of_lt (byteSize_written_lt pre mid quote body))
  · cases mid with
    | nil => rw [List.append_nil]
    | cons x mid =>
        obtain ⟨rfl, -⟩ := List.cons.inj hmid
        exact absurd hstart.symm (Nat.ne_of_lt (byteSize_written_lt pre' mid quote' body'))

theorem existsUnique_literal (t : TokenText) {site : Site} (h : site ∈ sites t.source) :
    ∃! pre, ∃ quote body post, t.tokens = pre ++ .literal quote body :: post ∧
      site = siteOf 0 1 site.kind pre quote body := by
  rw [sites_eq] at h
  obtain ⟨pre, quote, body, post, htokens, hsite⟩ :=
    exists_literal_of_mem t.wellSpaced t.closing [] 0 1 site h
  refine ⟨pre, ⟨quote, body, post, htokens, hsite⟩, ?_⟩
  rintro pre' ⟨quote', body', post', htokens', hsite'⟩
  have hq : isQuote quote = true :=
    (t.wellSpaced.valid (.literal quote body) (by simp [htokens])).1
  have hq' : isQuote quote' = true :=
    (t.wellSpaced.valid (.literal quote' body') (by simp [htokens'])).1
  exact eq_of_start hq' hq (htokens'.symm.trans htokens) (hsite'.symm.trans hsite)

theorem plain_of_tokens (t : TokenText) {quote : Char} {body : List Letter}
    (h : .literal quote body ∈ t.tokens) (hescape : '\\' ∉ content body)
    (hfeed : '\n' ∉ content body) : IsPlain quote (content body) := by
  obtain ⟨-, hletters, hchain⟩ := t.wellSpaced.valid _ h
  exact isPlain_content hletters hchain hescape hfeed

/-- What the scanner finds at a keyword that no dot stands in front of, it reports. -/
theorem siteOf_mem_sites (t : TokenText) {pre mid post : List Token} {quote : Char}
    {body : List Letter} {kind : SiteKind}
    (htokens : t.tokens = pre ++ .word importWord :: (mid ++ .literal quote body :: post))
    (hdot : pre.getLast? ≠ some (.sign '.')) (hleads : Leads kind (.word importWord :: mid))
    (honly : ∀ kind t pre, ¬ Leads kind (t :: (pre ++ .word importWord :: mid)))
    (hsite : ∀ prev, isTied prev = false →
      site? prev (importWord ++ (written (mid ++ .literal quote body :: post) ++ t.ending)) =
        some (kind, literalBehind (.word importWord :: mid) quote body
          (written post ++ t.ending))) :
    siteOf 0 1 kind (pre ++ .word importWord :: mid) quote body ∈ sites t.source := by
  have hspaced := t.wellSpaced
  rw [htokens] at hspaced
  have hword : (Lexeme.word importWord).Valid :=
    hspaced.valid (.word importWord) (List.mem_append_right pre List.mem_cons_self)
  rw [sites_eq, htokens]
  refine siteOf_mem hleads.no_literal honly t.closing (fun before start line hb => ?_) pre hspaced
    [] (by simpa using hspaced.untied hdot) 0 1
  have hfirst := sitesFrom_of_site? hword (hsite before.head? hb) start line
  rw [List.cons_append, written_cons, List.append_assoc]
  change _ ∈ sitesFrom start line (pieces before (importWord ++ _))
  rw [hfirst]
  exact List.mem_cons_self

/-- A text is scanned by its tokens. Every site is all the content of one literal. A literal without
escapes and line feeds is a site if the word `import` stands in front of it, no dot right in front of
that, and quotes around the literal that are no backticks; or if it is the first argument of a call
of `import`. -/
theorem sites_tokens (t : TokenText) :
    (∀ site ∈ sites t.source, ∃! pre, ∃ quote body post,
      t.tokens = pre ++ .literal quote body :: post ∧
        site = siteOf 0 1 site.kind pre quote body) ∧
    (∀ pre gap quote body post,
      t.tokens = pre ++ .word importWord :: (gap ++ .literal quote body :: post) →
      pre.getLast? ≠ some (.sign '.') → (∀ g ∈ gap, g.isSpacing = true) → quote ≠ '\x60' →
      '\\' ∉ content body → '\n' ∉ content body →
      siteOf 0 1 .imported (pre ++ .word importWord :: gap) quote body ∈ sites t.source) ∧
    (∀ pre near far quote body after closing post,
      t.tokens = pre ++ .word importWord :: (near ++ .sign '(' :: (far ++ .literal quote body ::
        (after ++ closing :: post))) →
      pre.getLast? ≠ some (.sign '.') → (∀ g ∈ near, g.isSpacing = true) →
      (∀ g ∈ far, g.isSpacing = true) → (∀ g ∈ after, g.isSpacing = true) → IsClosing closing →
      '\\' ∉ content body → '\n' ∉ content body →
      siteOf 0 1 .dynamic (pre ++ .word importWord :: (near ++ .sign '(' :: far)) quote body ∈
        sites t.source) := by
  refine ⟨fun site h => t.existsUnique_literal h, ?_, ?_⟩
  · intro pre gap quote body post htokens hdot hgap hquote hescape hfeed
    have hliteral : .literal quote body ∈ t.tokens := by simp [htokens]
    have hplain := t.plain_of_tokens hliteral hescape hfeed
    have hquotes : quote = '"' ∨ quote = '\'' := by
      rcases isQuote_iff.mp (t.wellSpaced.valid _ hliteral).1 with h | h | h
      · exact .inl h
      · exact .inr h
      · exact absurd h hquote
    have hspaced := t.wellSpaced
    rw [htokens] at hspaced
    exact t.siteOf_mem_sites htokens hdot (.bare hgap) (not_leads_bare hgap) fun prev hprev =>
      site?_bare hspaced.behind t.closing hgap hquotes hplain hprev
  · intro pre near far quote body after closing post htokens hdot hnear hfar hafter hclosing
      hescape hfeed
    have hliteral : .literal quote body ∈ t.tokens := by simp [htokens]
    have hplain := t.plain_of_tokens hliteral hescape hfeed
    have hspaced := t.wellSpaced
    rw [htokens] at hspaced
    have hassoc : near ++ .sign '(' :: (far ++ .literal quote body :: (after ++ closing :: post)) =
        (near ++ .sign '(' :: far) ++ .literal quote body :: (after ++ closing :: post) := by simp
    refine t.siteOf_mem_sites (by rw [htokens, hassoc]) hdot (.call hnear hfar)
      (not_leads_call hfar) fun prev hprev => ?_
    rw [← hassoc]
    exact site?_call hspaced.behind t.closing hnear hfar hafter hclosing hplain hprev

/-- A call within a call, behind a comment with a quote in it and a member of the same name. -/
def calls : TokenText where
  tokens := [.lexeme (.block " it's ".toList), .word ['f'], .sign '(', .word importWord,
    .lexeme (.blank ' '), .literal '"' [.plain 'x'], .sign ';', .word ['y'], .sign '.',
    .word importWord, .sign '(', .literal '\'' [.plain '/', .escaped '\'', .plain '/'], .sign ')',
    .sign ';', .word importWord, .sign '(', .literal '\x60' [.plain '$'], .lexeme (.mark ','),
    .lexeme (.blank ' '), .word ['z'], .sign ')']
  last := some " import 'w'".toList
  wellSpaced := ⟨by decide, by decide⟩
  oneLine := by decide

theorem sites_tokens_calls :
    calls.source =
      "/* it's */f(import \"x\";y.import('/\\'/');import(\x60$\x60, z)// import 'w'" ∧
    ⟨"x", .imported, 20, 21, 1⟩ ∈ sites calls.source ∧
    ⟨"$", .dynamic, 48, 49, 1⟩ ∈ sites calls.source ∧
    ∃! pre, ∃ quote body post, calls.tokens = pre ++ .literal quote body :: post ∧
      (⟨"x", .imported, 20, 21, 1⟩ : Site) = siteOf 0 1 .imported pre quote body := by
  obtain ⟨hliterals, hbare, hcall⟩ := sites_tokens calls
  have hx : ⟨"x", .imported, 20, 21, 1⟩ ∈ sites calls.source :=
    hbare (calls.tokens.take 3) [.lexeme (.blank ' ')] '"' [.plain 'x'] (calls.tokens.drop 6)
      (by decide) (by decide) (by decide) (by decide) (by decide) (by decide)
  have hdollar : ⟨"$", .dynamic, 48, 49, 1⟩ ∈ sites calls.source :=
    hcall (calls.tokens.take 14) [] [] '\x60' [.plain '$'] [] (.lexeme (.mark ','))
      (calls.tokens.drop 18) (by decide) (by decide) (by decide) (by decide) (by decide)
      (by decide) (by decide) (by decide)
  exact ⟨by decide, hx, hdollar, hliterals _ hx⟩

end TokenText

end ImportResolver.Source

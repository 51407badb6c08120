import ImportResolver.Proofs.Source.Quote
import ImportResolver.Proofs.Source.Stability
/- The sites of a text after other texts have been put in their spans. If these are plain, they are
the same ones, moved by what those in front of them have grown; if one is not, they are others. -/
namespace ImportResolver.Source

/-- How many bytes a text has more than the specifier of a site. -/
def Site.growth (site : Site) (text : String) : Int :=
  text.utf8ByteSize - site.raw.utf8ByteSize

/-- The sites on the right are those on the left with other texts in them, and stand `shift` bytes
further on, more by what every text before has grown. -/
inductive Relocated : Int → List (Site × String) → List Site → Prop
  | nil (shift : Int) : Relocated shift [] []
  | cons {shift : Int} {site moved : Site} {text : String} {pairs : List (Site × String)}
      {sites : List Site} :
      moved.raw = text → moved.kind = site.kind → moved.line = site.line →
      (moved.start : Int) = site.start + shift →
      (moved.stop : Int) = site.stop + (shift + site.growth text) →
      Relocated (shift + site.growth text) pairs sites →
      Relocated shift ((site, text) :: pairs) (moved :: sites)

theorem Relocated.map_raw {shift : Int} {pairs : List (Site × String)} {sites : List Site}
    (h : Relocated shift pairs sites) : sites.map (·.raw) = pairs.map (·.2) := by
  induction h with
  | nil => rfl
  | cons hraw _ _ _ _ _ ih => rw [List.map_cons, List.map_cons, hraw, ih]

theorem encode_injective {s t : String} (h : Text.Utf8.encode s = Text.Utf8.encode t) : s = t := by
  rw [← String.toByteArray_inj, ← String.utf8Encode_toList, ← String.utf8Encode_toList]
  exact congrArg List.toByteArray h

theorem lineFeeds_of_isPlain {quote : Char} {text : List Char} (h : IsPlain quote text) :
    lineFeeds text = 0 := List.count_eq_zero.mpr h.oneLine

theorem growth_site (kind : SiteKind) (raw : List Char) (start stop line : Nat) (text : String) :
    Site.growth ⟨String.ofList raw, kind, start, stop, line⟩ text =
      byteSize text.toList - byteSize raw := by
  rw [Site.growth, utf8ByteSize_eq, utf8ByteSize_eq, String.toList_ofList]

theorem quoted_respelled {ps : List Piece} (hp : ∀ p ∈ ps, p.Quoted) (texts : List String) :
    ∀ p ∈ respelled ps texts, p.Quoted := by
  induction ps generalizing texts with
  | nil => exact hp
  | cons p ps ih =>
      have hps := fun q hq => hp q (List.mem_cons_of_mem p hq)
      cases p with
      | other text =>
          intro q hq
          rcases List.mem_cons.mp hq with rfl | hq
          · trivial
          · exact ih hps texts q hq
      | site kind lead raw quote =>
          cases texts with
          | nil => exact hp
          | cons text texts =>
              intro q hq
              rcases List.mem_cons.mp hq with rfl | hq
              · exact hp (.site kind lead raw quote) List.mem_cons_self
              · exact ih hps texts q hq

theorem filterMap_quote?_respelled (ps : List Piece) (texts : List String) :
    (respelled ps texts).filterMap Piece.quote? = ps.filterMap Piece.quote? := by
  induction ps generalizing texts with
  | nil => rfl
  | cons p ps ih =>
      cases p with
      | other text => exact ih texts
      | site kind lead raw quote =>
          cases texts with
          | nil => rfl
          | cons text texts => exact congrArg (quote :: ·) (ih texts)

/-- Plain texts make pieces like the ones there are. -/
theorem like_respelled {ps : List Piece} {texts : List String}
    (h : List.Forall₂ (fun quote text => IsPlain quote text.toList) (ps.filterMap Piece.quote?)
      texts) :
    List.Forall₂ Piece.Like ps (respelled ps texts) := by
  induction ps generalizing texts with
  | nil => exact .nil
  | cons p ps ih =>
      cases p with
      | other text => exact .cons (.other text) (ih h)
      | site kind lead raw quote =>
          cases h with
          | cons hplain h => exact .cons (.site kind lead raw hplain) (ih h)

theorem plain_of_proper {ps : List Piece} {texts : List String}
    (hlength : (ps.filterMap Piece.quote?).length = texts.length)
    (hp : ∀ p ∈ respelled ps texts, p.Proper) :
    List.Forall₂ (fun quote text => IsPlain quote text.toList) (ps.filterMap Piece.quote?)
      texts := by
  induction ps generalizing texts with
  | nil =>
      cases texts with
      | nil => exact .nil
      | cons text texts => cases hlength
  | cons p ps ih =>
      cases p with
      | other text => exact ih hlength fun q hq => hp q (List.mem_cons_of_mem _ hq)
      | site kind lead raw quote =>
          cases texts with
          | nil => cases hlength
          | cons text texts =>
              have hfirst : (Piece.site kind lead text.toList quote).Proper :=
                hp _ List.mem_cons_self
              exact .cons hfirst.1.plain
                (ih (Nat.succ.inj hlength) fun q hq => hp q (List.mem_cons_of_mem _ hq))

theorem relocated_sitesFrom {ps : List Piece} (hp : ∀ p ∈ ps, p.Proper) {texts : List String}
    (hlike : List.Forall₂ Piece.Like ps (respelled ps texts)) {start start' : Nat} (line : Nat)
    (hlength : (sitesFrom start line ps).length = texts.length) {shift : Int}
    (hstart : (start' : Int) = start + shift) :
    Relocated shift ((sitesFrom start line ps).zip texts)
      (sitesFrom start' line (respelled ps texts)) := by
  induction ps generalizing texts start start' line shift with
  | nil =>
      cases texts with
      | nil => exact .nil shift
      | cons text texts => cases hlength
  | cons p ps ih =>
      have hps := fun q hq => hp q (List.mem_cons_of_mem p hq)
      cases p with
      | other text =>
          cases hlike with
          | cons _ hlike => exact ih hps hlike (line + lineFeeds text) hlength (by omega)
      | site kind lead raw quote =>
          rw [sitesFrom_site] at hlength ⊢
          cases texts with
          | nil => cases hlength
          | cons text texts =>
              cases hlike with
              | cons hsite hlike =>
                  cases hsite with
                  | site _ _ _ hplain =>
                      have hraw := (hp _ List.mem_cons_self).1.plain
                      have hline : lineFeeds text.toList = lineFeeds raw :=
                        (lineFeeds_of_isPlain hplain).trans (lineFeeds_of_isPlain hraw).symm
                      rw [respelled, sitesFrom_site, List.zip_cons_cons, hline]
                      refine .cons String.ofList_toList rfl rfl ?_ ?_
                        (ih hps hlike _ (Nat.succ.inj hlength) ?_)
                      · dsimp only
                        omega
                      · rw [growth_site]
                        dsimp only
                        omega
                      · rw [growth_site]
                        omega

/-- Where relocated sites begin does not depend on what the texts are. -/
theorem Relocated.map_start {ps : List Piece} {texts : List String} {start start' : Nat}
    {line : Nat} (line' : Nat) {shift : Int} {sites : List Site}
    (h : Relocated shift ((sitesFrom start line ps).zip texts) sites)
    (hlength : (sitesFrom start line ps).length = texts.length)
    (hstart : (start' : Int) = start + shift) :
    sites.map (·.start) = (sitesFrom start' line' (respelled ps texts)).map (·.start) := by
  induction ps generalizing texts start start' line line' shift sites with
  | nil =>
      cases texts with
      | nil =>
          cases h
          rfl
      | cons text texts => cases hlength
  | cons p ps ih =>
      cases p with
      | other text => exact ih _ h hlength (by omega)
      | site kind lead raw quote =>
          rw [sitesFrom_site] at h hlength
          cases texts with
          | nil => cases hlength
          | cons text texts =>
              cases h with
              | cons _ _ _ hfirst _ h =>
                  rw [growth_site] at h
                  have hrest := @ih texts _
                    (start' + byteSize lead + byteSize text.toList + quote.utf8Size) _
                    (line' + lineFeeds lead + lineFeeds text.toList) _ _ h
                    (Nat.succ.inj hlength) (by omega)
                  rw [respelled, sitesFrom_site, List.map_cons, List.map_cons, hrest]
                  refine congrArg (· :: _) ?_
                  dsimp only at hfirst ⊢
                  omega

/-- Texts in the places of the sites make a text. -/
theorem exists_spliced {source : String} {texts : List String}
    (h : (sites source).length = texts.length) :
    ∃ out, Text.Utf8.encode out =
      splicedBytes (Text.Utf8.encode source) 0 ((sites source).zip texts) :=
  ⟨String.ofList ((respelled (pieces [] source.toList) texts).flatMap Piece.text), by
    rw [encode_ofList, splicedBytes_sites h.symm]⟩

/-- The texts are plain between the quotes of the sites that they are for. -/
def PlainFor (source : String) (texts : List String) : Prop :=
  List.Forall₂ (fun site text => IsPlain (site.quote (Text.Utf8.encode source)) text.toList)
    (sites source) texts

instance (source : String) (texts : List String) : Decidable (PlainFor source texts) :=
  inferInstanceAs (Decidable (List.Forall₂ _ _ _))

theorem plainFor_iff {source : String} {texts : List String} :
    PlainFor source texts ↔
      List.Forall₂ (fun quote text => IsPlain quote text.toList)
        ((pieces [] source.toList).filterMap Piece.quote?) texts := by
  rw [← map_quote_sites, List.forall₂_map_left_iff]
  rfl

variable {before after : String} {texts : List String}

/-- A text with other texts in its sites is cut as if these were the specifiers exactly if they are
plain. -/
theorem pieces_spliced_iff (hlength : (sites before).length = texts.length)
    (hafter : Text.Utf8.encode after =
      splicedBytes (Text.Utf8.encode before) 0 ((sites before).zip texts)) :
    pieces [] after.toList = respelled (pieces [] before.toList) texts ↔
      PlainFor before texts := by
  rw [splicedBytes_sites hlength.symm, ← encode_ofList] at hafter
  obtain rfl := encode_injective hafter
  have hquotes : ((pieces [] before.toList).filterMap Piece.quote?).length = texts.length := by
    rw [← map_quote_sites, List.length_map, hlength]
  rw [String.toList_ofList, plainFor_iff]
  constructor
  · intro h
    exact plain_of_proper hquotes (h ▸ pieces_proper [] _)
  · intro h
    exact pieces_respelled (like_respelled h) (.refl [])

theorem relocated_of_plain (hplain : PlainFor before texts)
    (hafter : Text.Utf8.encode after =
      splicedBytes (Text.Utf8.encode before) 0 ((sites before).zip texts)) :
    Relocated 0 ((sites before).zip texts) (sites after) := by
  have hlength := hplain.length_eq
  have hsites : sites after = sitesFrom 0 1 (respelled (pieces [] before.toList) texts) := by
    rw [sites, (pieces_spliced_iff hlength hafter).mpr hplain]
  rw [hsites]
  exact relocated_sitesFrom (pieces_proper [] before.toList)
    (like_respelled (plainFor_iff.mp hplain)) 1 hlength (Int.add_zero 0).symm

/-- A text that is not plain is not the specifier of the site that it was put in. -/
theorem plain_of_relocated (hlength : (sites before).length = texts.length)
    (hafter : Text.Utf8.encode after =
      splicedBytes (Text.Utf8.encode before) 0 ((sites before).zip texts))
    (h : Relocated 0 ((sites before).zip texts) (sites after)) : PlainFor before texts := by
  have hproper := pieces_proper [] before.toList
  have hstart := h.map_start 1 hlength (Int.add_zero 0).symm
  have hquote := map_quote_sitesFrom
    (quoted_respelled (fun p hp => (hproper p hp).quoted) texts) [] 1
  have hbytes := hafter.trans (splicedBytes_sites hlength.symm)
  rw [List.nil_append, ← hbytes, filterMap_quote?_respelled] at hquote
  -- The quotes of the new sites are read off the new text, at the places of the old quotes.
  have hquotes : (sites after).map (Site.quote (Text.Utf8.encode after)) =
      (pieces [] before.toList).filterMap Piece.quote? := by
    have := congrArg (List.map fun start =>
      Char.ofNat ((Text.Utf8.encode after).getD (start - 1) 0).toNat) hstart
    rw [List.map_map, List.map_map] at this
    exact this.trans hquote
  have hraw : (sites after).map (·.raw) = texts := by
    rw [h.map_raw, List.map_snd_zip (Nat.le_of_eq hlength.symm)]
  rw [plainFor_iff, ← hquotes, ← hraw, List.forall₂_map_left_iff, List.forall₂_map_right_iff]
  exact List.forall₂_same.mpr (plain_sites after)

/-- Any plain texts can be put in the spans of the sites. Then these are the sites of the new text:
no others, of the same kinds, and on the same lines. -/
theorem sites_spliced (before : String) (texts : List String) (hplain : PlainFor before texts) :
    (∃ after, Text.Utf8.encode after =
        splicedBytes (Text.Utf8.encode before) 0 ((sites before).zip texts)) ∧
      ∀ after, Text.Utf8.encode after =
          splicedBytes (Text.Utf8.encode before) 0 ((sites before).zip texts) →
        Relocated 0 ((sites before).zip texts) (sites after) := by
  constructor
  · exact exists_spliced hplain.length_eq
  · intro after hafter
    exact relocated_of_plain hplain hafter

/-- Texts that look like comments, keywords and other literals. -/
theorem sites_spliced_lookalikes :
    PlainFor "import a from './é'; f(import(`c`))" ["/* from \"x\" `", "$'; import 'y'; //"] ∧
      Relocated 0
        ((sites "import a from './é'; f(import(`c`))").zip
          ["/* from \"x\" `", "$'; import 'y'; //"])
        (sites "import a from '/* from \"x\" `'; f(import(`$'; import 'y'; //`))") := by
  have hplain : PlainFor "import a from './é'; f(import(`c`))"
      ["/* from \"x\" `", "$'; import 'y'; //"] := by decide +kernel
  exact ⟨hplain, (sites_spliced _ _ hplain).2 _ (by decide +kernel)⟩

end ImportResolver.Source

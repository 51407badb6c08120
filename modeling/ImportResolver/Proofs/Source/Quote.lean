import ImportResolver.Proofs.Source.Splice
import Mathlib.Data.List.Forall2
/- The quotes of sites, read off the bytes of the text. -/
namespace ImportResolver.Source

/-- The quote in front of a site, which is a single byte. -/
def Site.quote (source : Bytes) (site : Site) : Char :=
  Char.ofNat (source.getD (site.start - 1) 0).toNat

theorem bytes_quote {quote : Char} (hq : isQuote quote = true) (r : List Char) :
    bytes (quote :: r) = UInt8.ofNat quote.toNat :: bytes r := by
  rcases isQuote_iff.mp hq with rfl | rfl | rfl <;> rfl

theorem utf8Size_quote {quote : Char} (hq : isQuote quote = true) : quote.utf8Size = 1 := by
  rcases isQuote_iff.mp hq with rfl | rfl | rfl <;> rfl

theorem Site.quote_eq {site : Site} {quote : Char} (hq : isQuote quote = true)
    {l : List Char} (r : List Char) (hstart : site.start = byteSize (l ++ [quote])) :
    site.quote (bytes (l ++ quote :: r)) = quote := by
  have hlast : site.start - 1 = (bytes l).length := by
    rw [hstart, byteSize_append, byteSize_cons, utf8Size_quote hq, length_bytes]
    rfl
  rw [Site.quote, hlast, bytes_append, bytes_quote hq, List.getD_eq_getElem?_getD,
    List.getElem?_append_right (Nat.le_refl _), Nat.sub_self, List.getElem?_cons_zero,
    Option.getD_some]
  rcases isQuote_iff.mp hq with rfl | rfl | rfl <;> rfl

def Piece.quote? : Piece → Option Char
  | .other _ => none
  | .site _ _ _ quote => some quote

/-- A site stands behind its quote, whatever its specifier is. -/
def Piece.Quoted : Piece → Prop
  | .other _ => True
  | .site _ lead _ quote => isQuote quote = true ∧ [quote] <:+ lead

theorem Piece.Proper.quoted {p : Piece} (h : p.Proper) : p.Quoted := by
  cases p with
  | other text => trivial
  | site kind lead raw quote => exact ⟨h.1.quote, h.1.lead⟩

theorem map_quote_sitesFrom {ps : List Piece} (hp : ∀ p ∈ ps, p.Quoted) (s : List Char)
    (line : Nat) :
    (sitesFrom (byteSize s) line ps).map (Site.quote (bytes (s ++ ps.flatMap Piece.text))) =
      ps.filterMap Piece.quote? := by
  induction ps generalizing s line with
  | nil => rfl
  | cons p ps ih =>
      have hps := fun q hq => hp q (List.mem_cons_of_mem p hq)
      cases p with
      | other text =>
          have h := ih hps (s ++ text) (line + lineFeeds text)
          rw [byteSize_append, List.append_assoc] at h
          exact h
      | site kind lead raw quote =>
          obtain ⟨hq, hlead⟩ : isQuote quote = true ∧ [quote] <:+ lead := hp _ List.mem_cons_self
          obtain ⟨front, rfl⟩ := hlead
          have h := ih hps (s ++ (front ++ [quote]) ++ raw ++ [quote])
            (line + lineFeeds (front ++ [quote]) + lineFeeds raw)
          have htext : s ++ (Piece.site kind (front ++ [quote]) raw quote :: ps).flatMap
              Piece.text = s ++ front ++ quote :: (raw ++ quote :: ps.flatMap Piece.text) := by
            simp [Piece.text]
          rw [htext, sitesFrom_site, List.map_cons, Site.quote_eq hq _ (by simp)]
          refine congrArg (quote :: ·) ?_
          simpa [Nat.add_assoc] using h

theorem plain_sitesFrom {ps : List Piece} (hp : ∀ p ∈ ps, p.Proper) (start line : Nat) :
    List.Forall₂ (fun quote site => IsPlain quote site.raw.toList) (ps.filterMap Piece.quote?)
      (sitesFrom start line ps) := by
  induction ps generalizing start line with
  | nil => exact .nil
  | cons p ps ih =>
      have hps := fun q hq => hp q (List.mem_cons_of_mem p hq)
      cases p with
      | other text => exact ih hps _ _
      | site kind lead raw quote =>
          refine .cons ?_ (ih hps _ _)
          rw [String.toList_ofList]
          exact (hp _ List.mem_cons_self).1.plain

theorem map_quote_sites (source : String) :
    (sites source).map (Site.quote (Text.Utf8.encode source)) =
      (pieces [] source.toList).filterMap Piece.quote? := by
  have h := map_quote_sitesFrom
    (fun p hp => (pieces_proper [] source.toList p hp).quoted) [] 1
  rwa [List.nil_append, flatMap_text_pieces, bytes_toList] at h

/-- The specifier of every site is plain between the site's quotes. -/
theorem plain_sites (source : String) :
    ∀ site ∈ sites source, IsPlain (site.quote (Text.Utf8.encode source)) site.raw.toList := by
  have h := plain_sitesFrom (pieces_proper [] source.toList) 0 1
  rw [← map_quote_sites, List.forall₂_map_left_iff] at h
  exact List.forall₂_same.mp h

end ImportResolver.Source

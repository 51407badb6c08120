import ImportResolver.Proofs.Source.LookBehind
import ImportResolver.Proofs.Source.Splice
/- Comments overwritten by blanks. The scanner looks back over blanks but not over comments, so a
slash behind a comment may begin a regular expression where it would not without the comment; all
else is read as before. -/
namespace ImportResolver.Source

theorem byteSize_blankFor (c : Char) : byteSize (blankFor c) = c.utf8Size := by
  have hspaces (n : Nat) : byteSize (List.replicate n ' ') = n := by
    induction n with
    | zero => rfl
    | succ n ih =>
        rw [List.replicate_succ, byteSize_cons, ih]
        exact Nat.add_comm 1 n
  unfold blankFor
  split
  · next h =>
      rw [h]
      rfl
  · exact hspaces c.utf8Size

theorem byteSize_blanks (text : List Char) : byteSize (blanks text) = byteSize text := by
  induction text with
  | nil => rfl
  | cons c text ih =>
      change byteSize (blankFor c ++ blanks text) = _
      rw [byteSize_append, byteSize_blankFor, ih, byteSize_cons]

theorem lineFeeds_blankFor (c : Char) : lineFeeds (blankFor c) = lineFeeds [c] := by
  unfold blankFor
  split
  · next h => rw [h]
  · next h => simp [lineFeeds, List.count_replicate, h]

theorem lineFeeds_blanks (text : List Char) : lineFeeds (blanks text) = lineFeeds text := by
  induction text with
  | nil => rfl
  | cons c text ih =>
      change lineFeeds (blankFor c ++ blanks text) = lineFeeds ([c] ++ text)
      rw [lineFeeds_append, lineFeeds_append, lineFeeds_blankFor, ih]

theorem sitesFrom_blanks (start line : Nat) (w : List Char) (ps : List Piece) :
    sitesFrom start line (w.map (fun c => .other [c]) ++ ps) =
      sitesFrom (start + byteSize w) (line + lineFeeds w) ps := by
  induction w generalizing start line with
  | nil => rfl
  | cons c w ih =>
      have hsize : byteSize (c :: w) = byteSize [c] + byteSize w := byteSize_append [c] w
      have hfeeds : lineFeeds (c :: w) = lineFeeds [c] + lineFeeds w := lineFeeds_append [c] w
      rw [List.map_cons, List.cons_append, sitesFrom, ih, hsize, hfeeds, Nat.add_assoc,
        Nat.add_assoc]

theorem sitesFrom_congr {ps qs : List Piece} (front : List Piece)
    (h : ∀ start line, sitesFrom start line ps = sitesFrom start line qs) (start line : Nat) :
    sitesFrom start line (front ++ ps) = sitesFrom start line (front ++ qs) := by
  induction front generalizing start line with
  | nil => exact h start line
  | cons p front ih =>
      cases p with
      | other text => exact ih _ _
      | site kind lead raw quote => exact congrArg (_ :: ·) (ih _ _)

/-- The pieces behind some others are those of the rest of the text. -/
theorem pieces_split {before s : List Char} {front back : List Piece}
    (h : pieces before s = front ++ back) :
    pieces ((front.flatMap Piece.text).reverse ++ before) (back.flatMap Piece.text) = back := by
  induction front generalizing before s with
  | nil =>
      have hs := flatMap_text_pieces before s
      rw [h] at hs
      rw [List.nil_append] at h hs
      rw [hs]
      exact h
  | cons p front ih =>
      cases s with
      | nil =>
          rw [pieces] at h
          cases h
      | cons c s =>
          rw [pieces_step] at h
          obtain ⟨hp, h⟩ := List.cons.inj h
          rw [hp] at h
          simpa using ih h

/-- A change that begins behind some pieces leaves these as they are. -/
theorem pieces_altered {before s t : List Char} {front back : List Piece}
    (h : pieces before s = front ++ back) (ht : Altered (back.flatMap Piece.text) t) :
    Altered s (front.flatMap Piece.text ++ t) ∧
      pieces before (front.flatMap Piece.text ++ t) =
        front ++ pieces ((front.flatMap Piece.text).reverse ++ before) t := by
  induction front generalizing before s with
  | nil =>
      have hs := flatMap_text_pieces before s
      rw [h] at hs
      rw [List.nil_append] at hs
      rw [hs] at ht
      exact ⟨ht, rfl⟩
  | cons p front ih =>
      cases s with
      | nil =>
          rw [pieces] at h
          cases h
      | cons c s =>
          have hlike : p.Like p := by
            refine .refl (pieces_proper before (c :: s) p ?_)
            rw [h]
            exact List.mem_cons_self
          rw [pieces_step] at h
          obtain ⟨hp, h⟩ := List.cons.inj h
          have hpiece : piece before c s = (p, (piece before c s).2) := by rw [← hp]
          rw [hp] at h
          obtain ⟨haltered, hrest⟩ := ih h
          obtain ⟨d, u, hu, hq⟩ := piece_respelled hpiece hlike haltered (.refl before)
          rw [List.flatMap_cons, List.append_assoc]
          refine ⟨.piece hpiece hlike haltered, ?_⟩
          rw [hu, pieces_cons hq, hrest]
          simp

/-- A text with a comment that the scanner skips. -/
structure Commented where
  source : String
  front : List Piece
  comment : List Char
  back : List Piece
  pieces_eq : pieces [] source.toList = front ++ .other comment :: back
  isComment : (comment? comment).isSome = true

namespace Commented

/-- What stands in front of the comment, last character first. -/
def before (t : Commented) : List Char := (t.front.flatMap Piece.text).reverse

def rest (t : Commented) : List Char := t.back.flatMap Piece.text

/-- The text with blanks for the comment. -/
def blanked (t : Commented) : String :=
  String.ofList (t.front.flatMap Piece.text ++ (blanks t.comment ++ t.rest))

theorem comment?_eq (t : Commented) :
    comment? (t.comment ++ t.rest) = some (t.comment, t.rest) := by
  have hsplit := pieces_split t.pieces_eq
  rw [List.flatMap_cons] at hsplit
  change pieces _ (t.comment ++ t.rest) = _ at hsplit
  obtain ⟨cut, hcut⟩ := Option.isSome_iff_exists.mp t.isComment
  obtain ⟨c, body, htext, hc, -⟩ := comment?_head hcut
  obtain ⟨body', hbody⟩ : ∃ body', t.comment ++ t.rest = '/' :: c :: body' := by
    rw [← comment?_append hcut, htext]
    exact ⟨_, rfl⟩
  obtain ⟨cut', hcut'⟩ : ∃ cut', comment? ('/' :: c :: body') = some cut' := by
    rcases hc with rfl | rfl
    · exact ⟨_, rfl⟩
    · exact ⟨_, rfl⟩
  have happend := comment?_append hcut'
  rw [hbody, pieces_cons (piece_of_comment hcut')] at hsplit
  have hfirst : cut'.1 = t.comment := Piece.other.inj (List.cons.inj hsplit).1
  rw [← hbody, hfirst] at happend
  rw [hbody, hcut', ← hfirst, ← List.append_cancel_left happend]

/-- A slash right behind the comment, blanks apart, begins a regular expression if and only if it
would do so behind what stands in front of the comment. -/
def KeepsSlash (t : Commented) : Prop :=
  opensRegex (t.rest.dropWhile isSpace) = true →
    regexAllowed (t.comment.reverse ++ t.before) = regexAllowed t.before

instance (t : Commented) : Decidable t.KeepsSlash := inferInstanceAs (Decidable (_ → _))

theorem pieces_back (t : Commented) : pieces (t.comment.reverse ++ t.before) t.rest = t.back := by
  have h : pieces [] t.source.toList = (t.front ++ [.other t.comment]) ++ t.back := by
    rw [t.pieces_eq, List.append_assoc]
    rfl
  simpa [Piece.text, before, rest] using pieces_split h

theorem pieces_blanked (t : Commented) :
    pieces [] t.blanked.toList =
      t.front ++ ((blanks t.comment).map (fun c => .other [c]) ++
        pieces ((blanks t.comment).reverse ++ t.before) t.rest) := by
  have haltered : Altered (t.comment ++ t.rest) (blanks t.comment ++ t.rest) :=
    .blanked t.comment?_eq (.refl t.rest)
  rw [blanked, String.toList_ofList, (pieces_altered t.pieces_eq haltered).2,
    pieces_blanks isSpace_of_mem_blanks, List.append_nil]
  rfl

/-- No word ends where a comment ends, unless a blank follows. -/
theorem untied_comment (t : Commented) {c : Char} (hc : t.rest.head? = some c)
    (hspace : isSpace c = false) : isTied (t.comment.reverse ++ t.before).head? = false := by
  have hfeed : c ≠ '\n' := by
    rintro rfl
    cases hspace
  have hlast := getLast?_of_comment? t.comment?_eq hc hfeed
  rw [List.head?_append, List.head?_reverse, hlast]
  rfl

theorem keepsSlash_iff (t : Commented) :
    pieces ((blanks t.comment).reverse ++ t.before) t.rest = t.back ↔ t.KeepsSlash := by
  have hblank : ∀ c ∈ (blanks t.comment).reverse, isSpace c = true := fun c hc =>
    isSpace_of_mem_blanks c (List.mem_reverse.mp hc)
  have hheads : ∀ c ∈ t.rest.head?, isSpace c = false →
      isTied (t.comment.reverse ++ t.before).head? = false ∧
        isTied ((blanks t.comment).reverse ++ t.before).head? = false := by
    intro c hc hspace
    refine ⟨t.untied_comment hc hspace, ?_⟩
    cases hw : (blanks t.comment).reverse with
    | nil => exact absurd (List.reverse_eq_nil_iff.mp hw) (blanks_ne_nil t.comment?_eq)
    | cons d w =>
        rw [hw] at hblank
        exact isTied_of_isSpace (hblank d List.mem_cons_self)
  have hiff := pieces_eq_iff hheads
  rwa [t.pieces_back, regexAllowed_blanks hblank, eq_comm] at hiff

/-- The text with blanks for a comment is cut as it was, but for the blanks and for what a slash
behind them makes of the rest. The rest is cut as it was, and the sites are the same, if the comment
keeps that slash what it is; else the rest is cut otherwise. Behind a comment that a slash ends, and
so behind every block comment, a slash begins a regular expression whatever stands in front. -/
theorem sites_blanked (t : Commented) :
    (∃ back, pieces [] t.blanked.toList =
        t.front ++ ((blanks t.comment).map (fun c => .other [c]) ++ back) ∧
      (back = t.back ↔ t.KeepsSlash)) ∧
    (t.KeepsSlash → sites t.blanked = sites t.source) ∧
    (t.comment.getLast? = some '/' → regexAllowed (t.comment.reverse ++ t.before) = true) := by
  refine ⟨⟨_, t.pieces_blanked, t.keepsSlash_iff⟩, fun h => ?_, fun h => ?_⟩
  · rw [sites, sites, t.pieces_blanked, t.keepsSlash_iff.mpr h, t.pieces_eq]
    refine sitesFrom_congr t.front (fun start line => ?_) 0 1
    rw [sitesFrom_blanks, byteSize_blanks, lineFeeds_blanks]
    rfl
  · obtain ⟨body, hbody⟩ := List.getLast?_eq_some_iff.mp h
    rw [hbody]
    simp [regexAllowed, isSpace, isWord]

/-- A division behind a comment. -/
def division : Commented where
  source := "a /* c */ / 2; import './x' // d"
  front := [.other ['a'], .other [' ']]
  comment := "/* c */".toList
  back := [.other [' '], .other "/ 2; import './x".toList, .other "' // d".toList]
  pieces_eq := by decide +kernel
  isComment := by decide

/-- The slash of the division is taken for the start of a regular expression, and the import behind
it is lost. -/
theorem sites_blanked_division :
    sites division.source = [] ∧ division.blanked = "a         / 2; import './x' // d" ∧
      sites division.blanked = [⟨"./x", .imported, 23, 26, 1⟩] ∧ ¬ division.KeepsSlash := by
  obtain ⟨-, hsites, -⟩ := sites_blanked division
  have hsource : sites division.source = [] := by decide +kernel
  have hblanked : sites division.blanked = [⟨"./x", .imported, 23, 26, 1⟩] := by decide +kernel
  refine ⟨hsource, by decide +kernel, hblanked, fun h => ?_⟩
  have := hsites h
  rw [hsource, hblanked] at this
  cases this

end Commented

end ImportResolver.Source

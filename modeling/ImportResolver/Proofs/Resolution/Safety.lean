import ImportResolver.Proofs.Resolution.Splicing
import ImportResolver.Proofs.Source.BytewiseReport
/- Resolving a source text by a walk over its bytes, with every access and every slice checked. None
of the checks ever fails, and the answer is that of the search in characters. -/
namespace ImportResolver

open Source
open Source.Bytewise (Bounds Checked Progress isBoundary sliceText)

namespace Draft

/-- A site is added after the text before it is cut out, where that is needed. -/
def addChecked (source : String) (draft : Draft) (s : ResolvedSite) : Checked Draft :=
  if s.resolution.isChanged then do
    let kept ← sliceText source draft.copied s.site.start
    return { code := draft.code ++ kept ++ s.resolution.specifier
             sites := s :: draft.sites
             copied := s.site.stop }
  else return { draft with sites := s :: draft.sites }

def finishChecked (source : String) (draft : Draft) : Checked ResolvedSource := do
  let kept ← sliceText source draft.copied source.utf8ByteSize
  return ⟨draft.code ++ kept, draft.sites.reverse⟩

theorem length_encode (source : String) :
    (Text.Utf8.encode source).length = source.utf8ByteSize := by
  rw [← bytes_toList, length_bytes, utf8ByteSize_eq]

/-- What is copied of a text ends with a character of it, and before the sites that are left. -/
structure Fits (draft : Draft) (source : String) (sites : List Site) : Prop where
  copied : Bounds (Text.Utf8.encode source) draft.copied source.utf8ByteSize
  sites : ∀ site ∈ sites, draft.copied ≤ site.start

variable {source : String} {draft : Draft} {s : ResolvedSite} {sites : List Site}

theorem fits_start (source : String) (sites : List Site) : Draft.Fits {} source sites := by
  have hend : isBoundary (Text.Utf8.encode source) source.utf8ByteSize = true := by
    simp [isBoundary, length_encode]
  exact ⟨⟨Nat.zero_le _, Nat.le_of_eq (length_encode source).symm, rfl, hend⟩,
    fun _ _ => Nat.zero_le _⟩

theorem finishChecked_eq (h : draft.Fits source sites) :
    draft.finishChecked source = .ok (draft.finish source) := by
  rw [finishChecked, sliceText, if_pos h.copied]
  rfl

theorem addChecked_eq (h : draft.Fits source (s.site :: sites))
    (hs : Bounds (Text.Utf8.encode source) s.site.start s.site.stop) :
    draft.addChecked source s = .ok (draft.add source s) := by
  have hkept : Bounds (Text.Utf8.encode source) draft.copied s.site.start :=
    ⟨h.sites s.site List.mem_cons_self, Nat.le_trans hs.le hs.length, h.copied.start, hs.start⟩
  rw [addChecked, add]
  split_ifs
  · rw [sliceText, if_pos hkept]
    rfl
  · rfl

theorem Fits.add (h : draft.Fits source (s.site :: sites))
    (hs : Bounds (Text.Utf8.encode source) s.site.start s.site.stop)
    (hbehind : ∀ site ∈ sites, s.site.stop < site.start) :
    (draft.add source s).Fits source sites := by
  rw [Draft.add]
  split_ifs
  · refine ⟨⟨?_, h.copied.length, hs.stop, h.copied.stop⟩, fun site hsite => ?_⟩
    · rw [← length_encode]
      exact hs.length
    · exact Nat.le_of_lt (hbehind site hsite)
  · exact ⟨h.copied, fun site hsite => h.sites site (List.mem_cons_of_mem _ hsite)⟩

end Draft

namespace Context

/-- What is still to be done with a source text of which these sites are left. -/
def visitChecked (ctx : Context) (fs : FileSystem) (source : String) (draft : Draft) :
    List Site → Checked (Except Failure ResolvedSource)
  | [] => (draft.finishChecked source).map .ok
  | site :: sites =>
    match ctx.resolveSite fs site with
    | .error failure => .ok (.error failure)
    | .ok s => do visitChecked ctx fs source (← draft.addChecked source s) sites

def resolveChecked (ctx : Context) (fs : FileSystem) (source : String) :
    Checked (Except Failure ResolvedSource) := do
  visitChecked ctx fs source {} (← Bytewise.scan source)

theorem site_of_resolveSite {ctx : Context} {fs : FileSystem} {site : Site} {s : ResolvedSite}
    (h : ctx.resolveSite fs site = .ok s) : s.site = site := by
  rw [resolveSite] at h
  cases hresolve : ctx.resolve fs site.raw with
  | error failure =>
      rw [hresolve] at h
      cases h
  | ok r =>
      rw [hresolve] at h
      cases h
      rfl

theorem visitChecked_eq (ctx : Context) (fs : FileSystem) {source : String} {sites : List Site}
    (hbounds : ∀ site ∈ sites, Bounds (Text.Utf8.encode source) site.start site.stop)
    (hapart : sites.Pairwise (·.stop < ·.start)) {draft : Draft} (h : draft.Fits source sites) :
    ctx.visitChecked fs source draft sites =
      .ok ((sites.foldlM (fun (draft : Draft) site =>
        return draft.add source (← ctx.resolveSite fs site)) draft).map (Draft.finish source)) := by
  induction sites generalizing draft with
  | nil =>
      rw [visitChecked, Draft.finishChecked_eq h]
      rfl
  | cons site sites ih =>
      obtain ⟨hsite, hsites⟩ := List.forall_mem_cons.mp hbounds
      obtain ⟨hbehind, hrest⟩ := List.pairwise_cons.mp hapart
      rw [visitChecked, List.foldlM_cons]
      cases hresolve : ctx.resolveSite fs site with
      | error failure => rfl
      | ok s =>
          obtain rfl : s.site = site := site_of_resolveSite hresolve
          have hadd := Draft.addChecked_eq h hsite
          dsimp only
          rw [hadd]
          exact ih hsites hrest (h.add hsite hbehind)

/-- However the text looks, the walk over its bytes ends without a failed check: it goes forward
with every step, finds the sites, one behind another and each between two characters, and resolves
them as the search in characters does. -/
theorem resolveSource_bytewise (ctx : Context) (fs : FileSystem) (source : String)
    (h : lineFeeds source.toList < 2 ^ 32 - 1) :
    Progress (Text.Utf8.encode source) ∧
      Bytewise.scan source = .ok (sites source) ∧
      (∀ site ∈ sites source, Bounds (Text.Utf8.encode source) site.start site.stop) ∧
      (sites source).Pairwise (·.stop < ·.start) ∧
      ctx.resolveChecked fs source = .ok (ctx.resolveSource fs source) := by
  have hscan : Bytewise.scan source = .ok (sites source) := Bytewise.scan_eq h
  have hbounds := Bytewise.bounds_sites source
  obtain ⟨-, hapart⟩ := Bytewise.pairwise_of_placed (placed_sites source)
  refine ⟨Bytewise.progress _, hscan, hbounds, hapart, ?_⟩
  rw [resolveChecked, hscan]
  refine (visitChecked_eq ctx fs hbounds hapart (Draft.fits_start source _)).trans ?_
  rw [resolveSource]
  rfl

/-- A text that breaks off in a string, behind an escaped character of three bytes. -/
def brokenOff : String := "import a from './a'; /* é */ '\\€ import b"

theorem resolveSource_bytewise_brokenOff :
    lineFeeds brokenOff.toList < 2 ^ 32 - 1 ∧
      Bytewise.scan brokenOff = .ok [⟨"./a", .imported, 15, 18, 1⟩] ∧
      (besideModules.resolveChecked twoModules brokenOff).map (·.map (·.code)) =
        .ok (.ok "import a from './a.js'; /* é */ '\\€ import b") := by
  have hfeeds : lineFeeds brokenOff.toList < 2 ^ 32 - 1 := by decide +kernel
  obtain ⟨-, hscan, -, -, hresolve⟩ :=
    resolveSource_bytewise besideModules twoModules brokenOff hfeeds
  refine ⟨hfeeds, ?_, ?_⟩
  · rw [hscan]
    decide +kernel
  · rw [hresolve]
    decide +kernel

end Context
end ImportResolver

import ImportResolver.Proofs.Resolution.Additions
import ImportResolver.Proofs.Source.Relocation
/- Specifiers are written between the quotes that are there, without escapes. When they stay within
these quotes, and what of a resolution decides it. -/
namespace ImportResolver

open Source

/-- What is written at the site is the text of a literal with the quotes there. -/
def ResolvedSite.IsContained (source : String) (s : ResolvedSite) : Prop :=
  IsPlain (s.site.quote (Text.Utf8.encode source)) s.resolution.specifier.toList

namespace Source

/-- A text is read back from between quotes exactly if it is plain. -/
theorem literal?_iff_isPlain {quote : Char} (hq : isQuote quote = true) (text : List Char) :
    (∀ rest, literal? (quote :: (text ++ quote :: rest)) = some ⟨[quote], text, quote, rest⟩) ↔
      IsPlain quote text := by
  constructor
  · intro h
    exact (literal?_eq_some_iff.mp (h [])).2.2.2
  · intro h rest
    exact literal?_eq_some_iff.mpr ⟨rfl, rfl, hq, h⟩

theorem isQuote_of_mem_sites {source : String} {site : Site} (h : site ∈ sites source) :
    isQuote (site.quote (Text.Utf8.encode source)) = true := by
  have hmem : site.quote (Text.Utf8.encode source) ∈
      (pieces [] source.toList).filterMap Piece.quote? := by
    rw [← map_quote_sites]
    exact List.mem_map_of_mem h
  obtain ⟨p, hp, hquote⟩ := List.mem_filterMap.mp hmem
  cases p with
  | other text => cases hquote
  | site kind lead raw quote =>
      obtain ⟨hproper, -⟩ := pieces_proper [] source.toList _ hp
      cases hquote
      exact hproper.quote

end Source

namespace Context

variable {ctx : Context} {fs : FileSystem} {source : String} {out : ResolvedSource}

theorem Resolves.of_mem {sites : List Site} {visited : List ResolvedSite}
    (h : Resolves ctx fs sites visited) {s : ResolvedSite} (hs : s ∈ visited) :
    s.site ∈ sites ∧ ctx.resolve fs s.site.raw = .ok s.resolution := by
  induction h with
  | nil => cases hs
  | cons hfirst _ ih =>
      cases hs with
      | head =>
          rw [hfirst.1]
          exact ⟨List.mem_cons_self, hfirst.2⟩
      | tail _ hs => exact ⟨List.mem_cons_of_mem _ (ih hs).1, (ih hs).2⟩

/-- A specifier that is left as written is contained. -/
theorem isContained_of_unchanged (h : Resolves ctx fs (sites source) out.sites)
    {s : ResolvedSite} (hs : s ∈ out.sites) (hchanged : s.resolution.isChanged = false) :
    s.IsContained source := by
  have hkept : s.resolution.specifier = s.site.raw := by
    rw [← h.written_eq_raw s hs]
    simpa [Resolution.isChanged] using hchanged
  rw [ResolvedSite.IsContained, hkept]
  exact plain_sites source s.site (h.of_mem hs).1

theorem plainFor_iff_contained (h : Resolves ctx fs (sites source) out.sites) :
    PlainFor source (out.sites.map (·.resolution.specifier)) ↔
      ∀ s ∈ out.sites, s.resolution.isChanged = true → s.IsContained source := by
  rw [PlainFor, ← h.map_site, List.forall₂_map_left_iff, List.forall₂_map_right_iff,
    List.forall₂_same]
  constructor
  · intro hall s hs _
    exact hall s hs
  · intro hall s hs
    cases hchanged : s.resolution.isChanged with
    | true => exact hall s hs hchanged
    | false => exact isContained_of_unchanged h hs hchanged

/-- What is kept is plain, so a changed specifier is contained if what is added is, unless the two
together begin a substitution. -/
theorem isContained_iff {s : ResolvedSite} (hs : s.site ∈ sites source)
    {kept added : List Char} (hadds : ctx.Adds fs s.site.raw kept added)
    (hspecifier : s.resolution.specifier.toList = kept ++ added) :
    s.IsContained source ↔
      IsPlain (s.site.quote (Text.Utf8.encode source)) added ∧
        ¬ (s.site.quote (Text.Utf8.encode source) = '\x60' ∧
          ['$'] <:+ kept ∧ ['\x7b'] <+: added) := by
  have hraw := plain_sites source s.site hs
  have hkept : IsPlain (s.site.quote (Text.Utf8.encode source)) kept := by
    obtain ⟨rest, hrest⟩ := hadds.kept_prefix
    rw [← hrest] at hraw
    exact (isPlain_append_iff.mp hraw).1
  rw [ResolvedSite.IsContained, hspecifier, isPlain_append_iff]
  exact and_iff_right hkept

/-- The new text is cut as the old one was, with the specifiers of the resolutions at the sites,
exactly if every changed specifier is contained. Whether one is depends on what is added to the
part that is kept of the old specifier. -/
theorem resolveSource_contained_iff (ctx : Context) (fs : FileSystem) (source : String)
    (out : ResolvedSource) (h : ctx.resolveSource fs source = .ok out) :
    ((∀ s ∈ out.sites, s.resolution.isChanged = true → s.IsContained source) ↔
      pieces [] out.code.toList =
        respelled (pieces [] source.toList) (out.sites.map (·.resolution.specifier))) ∧
    ((∀ s ∈ out.sites, s.resolution.isChanged = true → s.IsContained source) ↔
      Relocated 0 (out.sites.map fun s => (s.site, s.resolution.specifier)) (sites out.code)) ∧
    ∀ s ∈ out.sites, s.resolution.isChanged = true →
      ((∀ rest, literal? (s.site.quote (Text.Utf8.encode source) ::
          (s.resolution.specifier.toList ++ s.site.quote (Text.Utf8.encode source) :: rest)) =
        some ⟨[s.site.quote (Text.Utf8.encode source)], s.resolution.specifier.toList,
          s.site.quote (Text.Utf8.encode source), rest⟩) ↔ s.IsContained source) ∧
      ∃ kept added, ctx.Adds fs s.site.raw kept added ∧
        s.resolution.specifier.toList = kept ++ added ∧
        (s.IsContained source ↔
          IsPlain (s.site.quote (Text.Utf8.encode source)) added ∧
            ¬ (s.site.quote (Text.Utf8.encode source) = '\x60' ∧
              ['$'] <:+ kept ∧ ['\x7b'] <+: added)) := by
  obtain ⟨hresolves, hcode⟩ := resolves_of_resolveSource h
  have hlength : (sites source).length = (out.sites.map (·.resolution.specifier)).length := by
    rw [← hresolves.map_site, List.length_map, List.length_map]
  have hpairs : out.sites.map (fun s => (s.site, s.resolution.specifier)) =
      (sites source).zip (out.sites.map (·.resolution.specifier)) := by
    rw [← hresolves.map_site, List.zip_map']
  rw [hpairs] at hcode ⊢
  refine ⟨?_, ?_, ?_⟩
  · rw [← plainFor_iff_contained hresolves, pieces_spliced_iff hlength hcode]
  · rw [← plainFor_iff_contained hresolves]
    exact ⟨fun hplain => relocated_of_plain hplain hcode, plain_of_relocated hlength hcode⟩
  · intro s hs hchanged
    obtain ⟨hmem, hresolve⟩ := hresolves.of_mem hs
    obtain ⟨kept, added, hadds, hspecifier⟩ := adds_of_resolve hresolve hchanged
    exact ⟨literal?_iff_isPlain (isQuote_of_mem_sites hmem) _, kept, added, hadds, hspecifier,
      isContained_iff hmem hadds hspecifier⟩

/-- A package whose main file has an apostrophe in its name. -/
def apostropheModule : FileSystem :=
  ⟨⟨[(["node_modules"], .directory 0o755), (["p", "node_modules"], .directory 0o755),
    (["it's.js", "p", "node_modules"], .file [] 0o644),
    (["package.json", "p", "node_modules"],
      .file (Text.Utf8.encode "\x7b\"main\":\"it's.js\"\x7d") 0o644)]⟩, []⟩

def mainField : Context :=
  ⟨⟨"/main.js"⟩, { entry := [.manifestField "main" [.keep ".js"]] }, [], .ofNames []⟩

/-- The apostrophe ends the literal. -/
theorem resolveSource_contained_apostrophe :
    ∃ out, mainField.resolveSource apostropheModule "import 'p'" = .ok out ∧
      out.code = "import 'p/it's.js'" ∧
      (∃ s ∈ out.sites, s.resolution.isChanged = true ∧ ¬ s.IsContained "import 'p'") ∧
      ¬ Relocated 0 (out.sites.map fun s => (s.site, s.resolution.specifier))
        (sites out.code) := by
  have h : mainField.resolveSource apostropheModule "import 'p'" = .ok
      ⟨"import 'p/it's.js'",
        [⟨⟨"p", .imported, 8, 9, 1⟩, "p", .package "p" "", .replaced "p/it's.js"⟩]⟩ := by
    decide +kernel
  have hquote : ¬ IsPlain '\'' "p/it's.js".toList := by decide +kernel
  have hbroken : ¬ ResolvedSite.IsContained "import 'p'"
      ⟨⟨"p", .imported, 8, 9, 1⟩, "p", .package "p" "", .replaced "p/it's.js"⟩ := hquote
  obtain ⟨-, hsites, -⟩ := resolveSource_contained_iff _ _ _ _ h
  refine ⟨_, h, rfl, ⟨_, List.mem_singleton.mpr rfl, rfl, hbroken⟩, fun hmoved => ?_⟩
  exact hbroken (hsites.mpr hmoved _ (List.mem_singleton.mpr rfl) rfl)

end Context
end ImportResolver

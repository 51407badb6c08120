import ImportResolver.Proofs.Resolution.Outcome
import ImportResolver.Proofs.Source.Splice
import ImportResolver.Resolution.Source
/- Resolving a source text writes every specifier into the span of its site and copies the rest,
although only changed specifiers interrupt the copying. -/
namespace ImportResolver

open Source

namespace Context

variable {ctx : Context} {fs : FileSystem}

/-- What visiting some sites comes to, if none of them fails. -/
def Resolves (ctx : Context) (fs : FileSystem) : List Site → List ResolvedSite → Prop :=
  List.Forall₂ fun site s => s.site = site ∧ ctx.resolve fs site.raw = .ok s.resolution

theorem Resolves.resolveSite {site : Site} {s : ResolvedSite}
    (h : s.site = site ∧ ctx.resolve fs site.raw = .ok s.resolution) :
    ctx.resolveSite fs site = .ok s := by
  rw [Context.resolveSite, h.2, ← h.1]
  rfl

theorem exists_resolves {sites : List Site}
    (h : ∀ site ∈ sites, ∃ r, ctx.resolve fs site.raw = .ok r) :
    ∃ visited, Resolves ctx fs sites visited := by
  induction sites with
  | nil => exact ⟨[], .nil⟩
  | cons site sites ih =>
      obtain ⟨r, hr⟩ := h site List.mem_cons_self
      obtain ⟨visited, hv⟩ := ih fun s hs => h s (List.mem_cons_of_mem site hs)
      exact ⟨⟨site, r⟩ :: visited, .cons ⟨rfl, hr⟩ hv⟩

/-- The draft after the sites of a list, or the first failure among them. -/
theorem foldlM_of_resolves {source : String} {sites : List Site} {visited : List ResolvedSite}
    (h : Resolves ctx fs sites visited) (draft : Draft) :
    sites.foldlM (fun (draft : Draft) site => return draft.add source (← ctx.resolveSite fs site))
      draft = (.ok (visited.foldl (Draft.add source) draft) : Except Failure Draft) := by
  induction h generalizing draft with
  | nil => rfl
  | cons hs _ ih =>
      rw [List.foldlM_cons, Resolves.resolveSite hs]
      exact ih _

theorem foldlM_of_error {source : String} {before after : List Site} {site : Site} {f : Failure}
    {visited : List ResolvedSite} (h : Resolves ctx fs before visited)
    (hf : ctx.resolve fs site.raw = .error f) (draft : Draft) :
    (before ++ site :: after).foldlM
      (fun (draft : Draft) site => return draft.add source (← ctx.resolveSite fs site)) draft =
        (.error f : Except Failure Draft) := by
  induction h generalizing draft with
  | nil =>
      rw [List.nil_append, List.foldlM_cons, Context.resolveSite, hf]
      rfl
  | cons hs _ ih =>
      rw [List.cons_append, List.foldlM_cons, Resolves.resolveSite hs]
      exact ih _

theorem resolveSource_of_resolves {source : String} {visited : List ResolvedSite}
    (h : Resolves ctx fs (sites source) visited) :
    ctx.resolveSource fs source =
      .ok ((visited.foldl (Draft.add source) {}).finish source) := by
  rw [resolveSource, foldlM_of_resolves h]
  rfl

theorem resolveSource_of_error {source : String} {before after : List Site} {site : Site}
    {f : Failure} {visited : List ResolvedSite} (hs : sites source = before ++ site :: after)
    (h : Resolves ctx fs before visited) (hf : ctx.resolve fs site.raw = .error f) :
    ctx.resolveSource fs source = .error f := by
  rw [resolveSource, hs, foldlM_of_error h hf]
  rfl

end Context

namespace Draft

theorem finish_foldl_sites (source : String) (visited : List ResolvedSite) (draft : Draft) :
    ((visited.foldl (Draft.add source) draft).finish source).sites =
      draft.sites.reverse ++ visited := by
  induction visited generalizing draft with
  | nil => simp [finish]
  | cons v visited ih =>
      have hv : (draft.add source v).sites = v :: draft.sites := by
        unfold add
        split <;> rfl
      rw [List.foldl_cons, ih, hv, List.reverse_cons, List.append_assoc, List.singleton_append]

/-- The invariant of the visit: `s` is copied or replaced, `m` waits to be copied, and the pieces
are still to come. -/
theorem finish_foldl_code {source : String} (ps : List Piece) (visited : List ResolvedSite)
    (s m : List Char) (line : Nat) (draft : Draft)
    (hsource : source.toList = s ++ (m ++ ps.flatMap Piece.text))
    (hcopied : draft.copied = byteSize s)
    (hsites : visited.map (·.site) = sitesFrom (byteSize (s ++ m)) line ps)
    (hwritten : ∀ v ∈ visited, v.resolution.written = v.site.raw) :
    ((visited.foldl (Draft.add source) draft).finish source).code =
      draft.code ++ String.ofList
        (m ++ (respelled ps (visited.map (·.resolution.specifier))).flatMap Piece.text) := by
  induction ps generalizing visited s m line draft with
  | nil =>
      obtain rfl : visited = [] := by
        cases visited with
        | nil => rfl
        | cons v visited => cases hsites
      have hend : source.utf8ByteSize = byteSize (s ++ m) := by
        rw [utf8ByteSize_eq, hsource]
        simp
      simp only [List.foldl_nil, finish, hcopied, hend, slice_eq hsource]
      simp [respelled]
  | cons p ps ih =>
      cases p with
      | other text =>
          have h := ih visited s (m ++ text) (line + lineFeeds text) draft
            (by simpa [Piece.text] using hsource) hcopied
            (by simpa [sitesFrom, ← Nat.add_assoc] using hsites) hwritten
          rw [h]
          simp [respelled, Piece.text]
      | site kind lead raw quote =>
          rw [sitesFrom_site] at hsites
          cases visited with
          | nil => cases hsites
          | cons v visited =>
              rw [List.map_cons] at hsites
              obtain ⟨hv, hvs⟩ := List.cons.inj hsites
              have hrest : ∀ w ∈ visited, w.resolution.written = w.site.raw :=
                fun w hw => hwritten w (List.mem_cons_of_mem v hw)
              rw [List.foldl_cons]
              cases hchanged : v.resolution.isChanged with
              | true =>
                  have hslice : slice source draft.copied v.site.start =
                      String.ofList (m ++ lead) := by
                    rw [hcopied, hv]
                    have := @slice_eq source s (m ++ lead)
                      (raw ++ ([quote] ++ ps.flatMap Piece.text))
                      (by simpa [Piece.text] using hsource)
                    simpa [Nat.add_assoc] using this
                  -- The closing quote is the first of what waits behind a changed specifier.
                  have h := ih visited (s ++ m ++ lead ++ raw) [quote]
                    (line + lineFeeds lead + lineFeeds raw) (draft.add source v)
                    (by simpa [Piece.text] using hsource)
                    (by simp [Draft.add, hchanged, hv, Nat.add_assoc])
                    (by simpa [Nat.add_assoc] using hvs) hrest
                  rw [h]
                  simp [Draft.add, hchanged, hslice, respelled, Piece.text, String.append_assoc]
              | false =>
                  have hkept : v.resolution.specifier = String.ofList raw := by
                    have hraw : v.resolution.written = String.ofList raw := by
                      rw [hwritten v List.mem_cons_self, hv]
                    rw [← hraw]
                    simpa [Resolution.isChanged] using hchanged
                  have h := ih visited s (m ++ lead ++ raw ++ [quote])
                    (line + lineFeeds lead + lineFeeds raw) (draft.add source v)
                    (by simpa [Piece.text] using hsource)
                    (by simpa [Draft.add, hchanged] using hcopied)
                    (by simpa [Nat.add_assoc] using hvs) hrest
                  rw [h]
                  simp [Draft.add, hchanged, hkept, respelled, Piece.text]

/-- Copying only at changed sites is copying everything between the sites. -/
theorem encode_finish_foldl {source : String} {visited : List ResolvedSite}
    (hsites : visited.map (·.site) = Source.sites source)
    (hwritten : ∀ v ∈ visited, v.resolution.written = v.site.raw) :
    Text.Utf8.encode ((visited.foldl (Draft.add source) {}).finish source).code =
      splicedBytes (Text.Utf8.encode source) 0
        (visited.map fun v => (v.site, v.resolution.specifier)) := by
  have htext : source.toList = [] ++ ([] ++ (pieces [] source.toList).flatMap Piece.text) :=
    (flatMap_text_pieces [] source.toList).symm
  have hcode := finish_foldl_code (pieces [] source.toList) visited [] [] 1 {} htext rfl hsites
    hwritten
  have hlength : (visited.map (·.resolution.specifier)).length =
      (Source.sites source).length := by
    rw [← hsites, List.length_map, List.length_map]
  have hbytes := splicedBytes_sites hlength
  rw [← hsites, List.zip_map'] at hbytes
  rw [hbytes, hcode, ← bytes_toList]
  simp

end Draft

namespace Context

theorem Resolves.map_site {ctx : Context} {fs : FileSystem} {sites : List Site}
    {visited : List ResolvedSite} (h : Resolves ctx fs sites visited) :
    visited.map (·.site) = sites := by
  induction h with
  | nil => rfl
  | cons hs _ ih => rw [List.map_cons, hs.1, ih]

theorem Resolves.written_eq_raw {ctx : Context} {fs : FileSystem} {sites : List Site}
    {visited : List ResolvedSite} (h : Resolves ctx fs sites visited) :
    ∀ v ∈ visited, v.resolution.written = v.site.raw := by
  induction h with
  | nil =>
      intro v hv
      cases hv
  | cons hs _ ih =>
      intro v hv
      cases hv with
      | head => rw [resolve_written hs.2, hs.1]
      | tail _ hv => exact ih v hv

theorem exists_resolveSource {ctx : Context} {fs : FileSystem} {source : String}
    {visited : List ResolvedSite} (h : Resolves ctx fs (sites source) visited) :
    ∃ out, ctx.resolveSource fs source = .ok out ∧ out.sites = visited ∧
      Text.Utf8.encode out.code = splicedBytes (Text.Utf8.encode source) 0
        (visited.map fun s => (s.site, s.resolution.specifier)) := by
  have hsites := Draft.finish_foldl_sites source visited {}
  rw [List.reverse_nil, List.nil_append] at hsites
  exact ⟨_, resolveSource_of_resolves h, hsites,
    Draft.encode_finish_foldl h.map_site h.written_eq_raw⟩

/-- Either no site fails, or one is the first to fail. -/
theorem resolves_or_error (ctx : Context) (fs : FileSystem) (sites : List Site) :
    (∃ visited, Resolves ctx fs sites visited) ∨
      ∃ before site after visited failure, sites = before ++ site :: after ∧
        Resolves ctx fs before visited ∧ ctx.resolve fs site.raw = .error failure := by
  induction sites with
  | nil => exact .inl ⟨[], .nil⟩
  | cons site sites ih =>
      cases hsite : ctx.resolve fs site.raw with
      | error failure => exact .inr ⟨[], site, sites, [], failure, rfl, .nil, hsite⟩
      | ok r =>
          have hfirst : (⟨site, r⟩ : ResolvedSite).site = site ∧
              ctx.resolve fs site.raw = .ok r := ⟨rfl, hsite⟩
          rcases ih with ⟨visited, h⟩ | ⟨before, failing, after, visited, failure, rfl, h, hf⟩
          · exact .inl ⟨_, .cons hfirst h⟩
          · exact .inr ⟨site :: before, failing, after, _, failure, rfl, .cons hfirst h, hf⟩

/-- Where there is a new text, no site has failed. -/
theorem resolves_of_resolveSource {ctx : Context} {fs : FileSystem} {source : String}
    {out : ResolvedSource} (h : ctx.resolveSource fs source = .ok out) :
    Resolves ctx fs (sites source) out.sites ∧
      Text.Utf8.encode out.code = splicedBytes (Text.Utf8.encode source) 0
        (out.sites.map fun s => (s.site, s.resolution.specifier)) := by
  rcases resolves_or_error ctx fs (sites source) with ⟨visited, hvisited⟩ |
    ⟨before, site, after, visited, failure, hs, hbefore, hsite⟩
  · obtain ⟨out', hout, rfl, hcode⟩ := exists_resolveSource hvisited
    rw [h] at hout
    cases hout
    exact ⟨hvisited, hcode⟩
  · rw [resolveSource_of_error hs hbefore hsite] at h
    cases h

/-- Resolving a source text fails with the first failure among its sites. If there is none, every
site is resolved as it would be alone, and the new text is the old one with the specifiers of the
resolutions in the spans of the sites. -/
theorem resolveSource_splices (ctx : Context) (fs : FileSystem) (source : String) :
    Placed (Text.Utf8.encode source) 0 (sites source) ∧
      ((∀ site ∈ sites source, ∃ r, ctx.resolve fs site.raw = .ok r) →
        ∃ out, ctx.resolveSource fs source = .ok out ∧
          Resolves ctx fs (sites source) out.sites ∧
          Text.Utf8.encode out.code = splicedBytes (Text.Utf8.encode source) 0
            (out.sites.map fun s => (s.site, s.resolution.specifier))) ∧
      ∀ before site after failure, sites source = before ++ site :: after →
        (∀ s ∈ before, ∃ r, ctx.resolve fs s.raw = .ok r) →
        ctx.resolve fs site.raw = .error failure →
        ctx.resolveSource fs source = .error failure := by
  refine ⟨placed_sites source, ?_, ?_⟩
  · intro hall
    obtain ⟨visited, hvisited⟩ := exists_resolves hall
    obtain ⟨out, hout, rfl, hcode⟩ := exists_resolveSource hvisited
    exact ⟨out, hout, hvisited, hcode⟩
  · intro before site after failure hsource hbefore hsite
    obtain ⟨visited, hvisited⟩ := exists_resolves hbefore
    exact resolveSource_of_error hsource hvisited hsite

/-- The modules `a.js` and `b.tsx` at the root. -/
def twoModules : FileSystem := ⟨⟨[(["a.js"], .file [] 0o644), (["b.tsx"], .file [] 0o644)]⟩, []⟩

/-- A file beside them, with rules that lengthen `./a` and shorten `./b.tsx`. -/
def besideModules : Context :=
  ⟨⟨"/main.js"⟩, { extensions := [⟨[".tsx"], some ".js"⟩, .keep ".js"] }, [], .ofNames ["fs"]⟩

def mixedSource : String :=
  "import a from './a'; import 'fs';\nexport * from \"./b.tsx\"; import('./a.js')"

theorem resolveSource_splices_mixed :
    (∀ site ∈ sites mixedSource, ∃ r, besideModules.resolve twoModules site.raw = .ok r) ∧
      (∃ out, besideModules.resolveSource twoModules mixedSource = .ok out ∧
        Text.Utf8.encode out.code = splicedBytes (Text.Utf8.encode mixedSource) 0
          (out.sites.map fun s => (s.site, s.resolution.specifier)) ∧
        out.code =
          "import a from './a.js'; import 'fs';\nexport * from \"./b.js\"; import('./a.js')") ∧
      besideModules.resolveSource twoModules "import './a'; import './c'; import './d'" =
        .error (.pathUnresolved "./c" ⟨"/./c"⟩) := by
  have hall : ∀ site ∈ sites mixedSource,
      ∃ r, besideModules.resolve twoModules site.raw = .ok r := by
    have hok : (sites mixedSource).all
        (fun site => (besideModules.resolve twoModules site.raw).isOk) = true := by
      decide +kernel
    intro site hsite
    have := List.all_eq_true.mp hok site hsite
    cases h : besideModules.resolve twoModules site.raw with
    | error f => simp [h, Except.isOk, Except.toBool] at this
    | ok r => exact ⟨r, rfl⟩
  have hcode : (besideModules.resolveSource twoModules mixedSource).map (·.code) =
      .ok "import a from './a.js'; import 'fs';\nexport * from \"./b.js\"; import('./a.js')" := by
    decide +kernel
  obtain ⟨-, hok, -⟩ := resolveSource_splices besideModules twoModules mixedSource
  obtain ⟨out, hout, -, hbytes⟩ := hok hall
  refine ⟨hall, ⟨out, hout, hbytes, ?_⟩, ?_⟩
  · rw [hout] at hcode
    exact Except.ok.inj hcode
  · obtain ⟨-, -, herror⟩ := resolveSource_splices besideModules twoModules
      "import './a'; import './c'; import './d'"
    refine herror [⟨"./a", .imported, 8, 11, 1⟩] ⟨"./c", .imported, 22, 25, 1⟩
      [⟨"./d", .imported, 36, 39, 1⟩] _ (by decide +kernel) ?_ (by decide +kernel)
    intro s hs
    obtain rfl := List.mem_singleton.mp hs
    exact ⟨⟨"./a", .file, .replaced "./a.js"⟩, by decide +kernel⟩

end Context
end ImportResolver

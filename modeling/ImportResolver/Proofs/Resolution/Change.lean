import ImportResolver.Proofs.Resolution.Containment
/- A source text counts as changed exactly if it has become another text. Changes at several sites
never make up for each other, although the texts written there may hold quotes. -/
namespace ImportResolver

namespace Source

/-- What stands behind the first delimiter ends with what stands behind any other. -/
theorem suffix_of_append_cons {α : Type} {delimiter : α} {s t u v : List α} (hs : delimiter ∉ s)
    (h : s ++ delimiter :: t = u ++ delimiter :: v) : v <:+ t := by
  rcases List.append_eq_append_iff.mp h with ⟨between, -, hrest⟩ | ⟨between, hend, hrest⟩
  · cases between with
    | nil =>
        obtain rfl := (List.cons.inj hrest).2
        exact List.suffix_rfl
    | cons c between =>
        rw [(List.cons.inj hrest).2]
        exact (List.suffix_cons delimiter v).trans (List.suffix_append between _)
  · cases between with
    | nil =>
        obtain rfl := (List.cons.inj hrest).2
        exact List.suffix_rfl
    | cons c between =>
        obtain rfl := (List.cons.inj hrest).1
        exact absurd (hend ▸ List.mem_append_right u List.mem_cons_self) hs

/-- A text without the delimiter is empty if a delimiter ends what it ends. -/
theorem eq_nil_of_delimited {α : Type} {delimiter : α} {s t u v : List α} (hs : [delimiter] <:+ s)
    (h : u ++ s = v ++ t) (ht : delimiter ∉ t) : t = [] := by
  cases t with
  | nil => rfl
  | cons c t =>
      have hwhole : [delimiter] <:+ v ++ c :: t := h ▸ hs.trans (List.suffix_append u s)
      have hlast : [delimiter] <:+ c :: t :=
        List.suffix_of_suffix_length_le hwhole (List.suffix_append v _) (Nat.succ_pos t.length)
      exact absurd (hlast.subset List.mem_cons_self) ht

/-- The invariant from the last piece to the first: if the text from here on still stands at the end
of what it was, nothing in it has been written anew. A shift by a site in front would have to carry
an opening quote into the specifier of the next one. -/
theorem respelled_eq_self_of_suffix {ps : List Piece} (hp : ∀ p ∈ ps, p.Proper)
    {texts : List String}
    (h : (respelled ps texts).flatMap Piece.text <:+ ps.flatMap Piece.text) :
    respelled ps texts = ps := by
  induction ps generalizing texts with
  | nil => rfl
  | cons p ps ih =>
      have hps := fun q hq => hp q (List.mem_cons_of_mem p hq)
      cases p with
      | other text =>
          have hlength := h.length_le
          rw [respelled, List.flatMap_cons, List.flatMap_cons] at h hlength
          have hrest : (respelled ps texts).flatMap Piece.text <:+ ps.flatMap Piece.text := by
            refine List.suffix_of_suffix_length_le ((List.suffix_append _ _).trans h)
              (List.suffix_append _ _) ?_
            rw [List.length_append, List.length_append] at hlength
            omega
          rw [respelled, ih hps hrest]
      | site kind lead raw quote =>
          cases texts with
          | nil => rfl
          | cons text texts =>
              obtain ⟨⟨-, hraw, hlead⟩, -⟩ := hp _ List.mem_cons_self
              obtain ⟨front, h⟩ := h
              simp only [respelled, List.flatMap_cons, Piece.text, List.append_assoc,
                List.singleton_append] at h
              rw [← List.append_assoc] at h
              -- How far the site has moved is how long `moved` is.
              obtain ⟨moved, hmoved⟩ : lead <+: front ++ lead :=
                List.prefix_of_prefix_length_le (List.prefix_append lead _)
                  (h ▸ List.prefix_append (front ++ lead) _)
                  (by rw [List.length_append]; exact Nat.le_add_left _ _)
              rw [← hmoved, List.append_assoc, ← List.append_assoc moved] at h
              have hrest := (List.append_cancel_left h).symm
              have hps' := ih hps (suffix_of_append_cons hraw.unquoted hrest)
              rw [hps'] at hrest
              have hspecifier : raw = moved ++ text.toList := List.append_cancel_right hrest
              have hunquoted : quote ∉ moved := by
                intro hquote
                exact hraw.unquoted (hspecifier ▸ List.mem_append_left _ hquote)
              rw [eq_nil_of_delimited hlead hmoved.symm hunquoted, List.nil_append] at hspecifier
              rw [respelled, hps', ← hspecifier]

theorem respelled_eq_self_iff {ps : List Piece} {texts : List String} (start line : Nat)
    (hlength : (sitesFrom start line ps).length = texts.length) :
    respelled ps texts = ps ↔ texts = (sitesFrom start line ps).map (·.raw) := by
  induction ps generalizing texts start line with
  | nil =>
      cases texts with
      | nil => exact iff_of_true rfl rfl
      | cons text texts => cases hlength
  | cons p ps ih =>
      cases p with
      | other text =>
          rw [respelled, List.cons_inj_right]
          exact ih _ _ hlength
      | site kind lead raw quote =>
          rw [sitesFrom_site] at hlength ⊢
          cases texts with
          | nil => cases hlength
          | cons text texts =>
              rw [respelled, List.map_cons, List.cons.injEq, List.cons.injEq,
                ih _ _ (Nat.succ.inj hlength)]
              refine and_congr_left fun _ => ?_
              constructor
              · intro h
                exact String.toList_inj.mp
                  ((Piece.site.inj h).2.2.1.trans String.toList_ofList.symm)
              · rintro rfl
                rw [String.toList_ofList]

/-- Texts in the spans of the sites leave the whole as it is only if each is the specifier of its
site. -/
theorem spliced_eq_iff {before after : String} {texts : List String}
    (hlength : (sites before).length = texts.length)
    (hafter : Text.Utf8.encode after =
      splicedBytes (Text.Utf8.encode before) 0 ((sites before).zip texts)) :
    after = before ↔ texts = (sites before).map (·.raw) := by
  rw [splicedBytes_sites hlength.symm, ← encode_ofList] at hafter
  obtain rfl := encode_injective hafter
  rw [sites, ← respelled_eq_self_iff 0 1 hlength]
  constructor
  · intro h
    have htext : (respelled (pieces [] before.toList) texts).flatMap Piece.text =
        (pieces [] before.toList).flatMap Piece.text := by
      rw [flatMap_text_pieces]
      exact String.toList_ofList.symm.trans (congrArg String.toList h)
    exact respelled_eq_self_of_suffix (pieces_proper [] before.toList) (htext ▸ List.suffix_rfl)
  · intro h
    rw [h, flatMap_text_pieces, String.ofList_toList]

end Source

namespace Context

open Source

/-- Whether a text counts as changed is whether some specifier differs from the written one. -/
theorem Resolves.isChanged_iff {ctx : Context} {fs : FileSystem} {sites : List Site}
    {out : ResolvedSource} (h : Resolves ctx fs sites out.sites) :
    out.isChanged = true ↔ ∃ s ∈ out.sites, s.resolution.specifier ≠ s.site.raw := by
  rw [ResolvedSource.isChanged, decide_eq_true_iff, ResolvedSource.changed, List.countP_pos_iff]
  refine exists_congr fun s => and_congr_right fun hs => ?_
  rw [Resolution.isChanged, decide_eq_true_iff, h.written_eq_raw s hs]

theorem changed_iff_code_ne {ctx : Context} {fs : FileSystem} {source : String}
    {out : ResolvedSource} (h : ctx.resolveSource fs source = .ok out) :
    out.isChanged = true ↔ out.code ≠ source := by
  obtain ⟨hresolves, hcode⟩ := resolves_of_resolveSource h
  have hlength : (sites source).length =
      (out.sites.map (·.resolution.specifier)).length := by
    rw [← hresolves.map_site, List.length_map, List.length_map]
  have hpairs : out.sites.map (fun s => (s.site, s.resolution.specifier)) =
      (sites source).zip (out.sites.map (·.resolution.specifier)) := by
    rw [← hresolves.map_site, List.zip_map']
  rw [hpairs] at hcode
  have hsame : out.code = source ↔ ∀ s ∈ out.sites, s.resolution.specifier = s.site.raw := by
    rw [spliced_eq_iff hlength hcode, ← hresolves.map_site, List.map_map, List.map_inj_left]
    rfl
  rw [hresolves.isChanged_iff, Ne, hsame, not_forall₂]
  simp only [exists_prop, Ne]

/-- Whatever texts stand in the spans of the sites, the whole is the same text only if all of them
are the specifiers that stood there. So a resolved text counts as changed exactly if it is another
one. -/
theorem isChanged_iff_code_ne (source : String) :
    (∀ texts after, (sites source).length = texts.length →
      Text.Utf8.encode after =
        splicedBytes (Text.Utf8.encode source) 0 ((sites source).zip texts) →
      (after = source ↔ texts = (sites source).map (·.raw))) ∧
    ∀ (ctx : Context) (fs : FileSystem) (out : ResolvedSource),
      ctx.resolveSource fs source = .ok out →
      (out.isChanged = true ↔ out.code ≠ source) ∧
        (out.isChanged = true ↔ ∃ s ∈ out.sites, s.resolution.specifier ≠ s.site.raw) := by
  constructor
  · intro texts after hlength hafter
    exact spliced_eq_iff hlength hafter
  · intro ctx fs out h
    exact ⟨changed_iff_code_ne h, (resolves_of_resolveSource h).1.isChanged_iff⟩

/-- Two sites, the first of which takes up the text of both; specifiers that close their literals;
and one that is right already. -/
theorem isChanged_iff_code_ne_quotes :
    ["x'; import 'x", ""] ≠ (sites "import 'x'; import 'x'").map (·.raw) ∧
      "import 'x'; import 'x'; import ''" ≠ "import 'x'; import 'x'" ∧
      (∃ out, mainField.resolveSource apostropheModule "import 'p'; import \"p\"" = .ok out ∧
        out.isChanged = true ∧ out.code ≠ "import 'p'; import \"p\"") ∧
      ∃ out, besideModules.resolveSource twoModules "import './a.js'" = .ok out ∧
        out.isChanged = false ∧ out.code = "import './a.js'" := by
  have hkept : besideModules.resolveSource twoModules "import './a.js'" = .ok
      ⟨"import './a.js'",
        [⟨⟨"./a.js", .imported, 8, 14, 1⟩, "./a.js", .file, .unchanged .alreadyCorrect⟩]⟩ := by
    decide +kernel
  have hquotes : mainField.resolveSource apostropheModule "import 'p'; import \"p\"" = .ok
      ⟨"import 'p/it's.js'; import \"p/it's.js\"",
        [⟨⟨"p", .imported, 8, 9, 1⟩, "p", .package "p" "", .replaced "p/it's.js"⟩,
          ⟨⟨"p", .imported, 20, 21, 1⟩, "p", .package "p" "", .replaced "p/it's.js"⟩]⟩ := by
    decide +kernel
  have htexts : ["x'; import 'x", ""] ≠ (sites "import 'x'; import 'x'").map (·.raw) := by
    decide +kernel
  refine ⟨htexts, ?_, ⟨_, hquotes, rfl, ?_⟩, _, hkept, rfl, ?_⟩
  · intro hsame
    exact htexts (((isChanged_iff_code_ne _).1 _ _ (by decide +kernel) (by decide +kernel)).mp
      hsame)
  · exact ((isChanged_iff_code_ne _).2 _ _ _ hquotes).1.mp rfl
  · by_contra hother
    exact absurd (((isChanged_iff_code_ne _).2 _ _ _ hkept).1.mpr hother) (by decide)

end Context
end ImportResolver

import ImportResolver.Proofs.CommandLine.Resolving
import ImportResolver.Proofs.Resolution.Splicing
import ImportResolver.Proofs.Text.Mending
/- What a run leaves of the bytes of a file. A file is read as text, which mends what forms no
character; besides that, only changed specifiers are replaced. -/
namespace ImportResolver.CommandLine

open FileSystem Text.Utf8

/-- The bytes of a file after its text was resolved. -/
structure Respelled (old : Bytes) (source : ResolvedSource) (new : Bytes) : Prop where
  sites : source.sites.map (·.site) = Source.sites (decodeLossy old)
  placed : Source.Placed (encode (decodeLossy old)) 0 (source.sites.map (·.site))
  unchanged : source.isChanged = false → new = old
  changed : source.isChanged = true → new = Source.splicedBytes (encode (decodeLossy old)) 0
    ((source.sites.filter (·.resolution.isChanged)).map fun s =>
      (s.site, s.resolution.specifier))

/-- A file is prepared from its text, read with what forms no character mended. -/
theorem resolveSource_of_prepare {fs : FileSystem} {options : Options} {globals : List Path}
    {builtins : Builtins} {p : Path} {old : Bytes} {mode : Nat} {source : ResolvedSource}
    (hnode : fs.node p = .ok (.file old mode))
    (h : (prepare fs options globals builtins p).result = .ok source) :
    (Context.mk p options globals builtins).resolveSource fs (decodeLossy old) = .ok source := by
  rw [prepare] at h
  cases hread : fs.read p with
  | error fault =>
      rw [readLossy, hread] at h
      cases h
  | ok bytes =>
      obtain ⟨n, hn, hreadable⟩ := node_of_read hread
      obtain rfl : .file old mode = n := Except.ok.inj (hnode.symm.trans hn)
      obtain rfl : old = bytes := Except.ok.inj ((read_file hnode hreadable).symm.trans hread)
      rw [readLossy, hread] at h
      exact h

theorem respelled_of_resolveSource {ctx : Context} {fs : FileSystem} {old new : Bytes}
    {source : ResolvedSource} (h : ctx.resolveSource fs (decodeLossy old) = .ok source)
    (hkept : source.isChanged = false → new = old)
    (hnew : source.isChanged = true → new = encode source.code) : Respelled old source new := by
  obtain ⟨hresolves, hcode⟩ := Context.resolves_of_resolveSource h
  have hsites := hresolves.map_site
  have hplaced : Source.Placed (encode (decodeLossy old)) 0 (source.sites.map (·.site)) := by
    rw [hsites]
    exact Source.placed_sites _
  refine ⟨hsites, hplaced, hkept, fun hchanged => ?_⟩
  rw [hnew hchanged, hcode]
  refine (Source.splicedBytes_filter _ _ hplaced fun s hs hunchanged => ?_).symm
  have hspecifier : s.resolution.specifier = s.resolution.written := by
    simpa [Resolution.isChanged] using hunchanged
  rw [hspecifier, hresolves.written_eq_raw s hs]

/-- A file whose text does not change is what it was. -/
theorem Resolving.node_of_unchanged {r : Resolving} {files : List Path} {after : FileSystem}
    (h : Progress r.before (files.map r.prepared) r.before after) {p : Path}
    (hp : Source.IsFilePath r.before p) (hsame : ∀ source, ¬ (r.prepared p).BecomesText source)
    {n : Node} (hold : r.before.node p = .ok n) : after.node p = .ok n := by
  obtain ⟨loc, n', rfl, hholds, -⟩ := hp
  obtain ⟨l, hl, -⟩ := locate_of_node hold
  have hcheck := checkPath_of_locate hl
  obtain rfl : n' = n := Except.ok.inj ((hholds.node_path hcheck).symm.trans hold)
  have hnode : after.tree.get? loc = some n' := by
    rw [h.other loc, hholds.node]
    rintro q hq source hsource hpath
    obtain ⟨path, -, rfl⟩ := List.mem_map.mp hq
    obtain rfl : path = Location.path loc := hpath
    exact hsame source hsource
  exact (h.alike.holds hholds hnode hholds.solid).node_path hcheck

/-- What a run that writes without a problem leaves in a file whose text it resolved. -/
theorem Resolving.respelled {r : Resolving} {files : List Path}
    (hfiles : Source.files r.before r.roots = .ok files) (hwrite : r.request.write = true)
    (hproblem : r.ending.problem = none) {p : Path} (hp : p ∈ files) {source : ResolvedSource}
    (hsource : (r.prepared p).result = .ok source) {old : Bytes} {mode : Nat}
    (hold : r.before.node p = .ok (.file old mode)) :
    ∃ new, r.ending.fileSystem.node p = .ok (.file new mode) ∧ Respelled old source new := by
  obtain ⟨files', hfiles', hsorted, hpaths⟩ := r.files_ok
  obtain rfl : files = files' := Except.ok.inj (hfiles.symm.trans hfiles')
  have hprogress := progress_of_problem hfiles (pending hsorted hpaths) hwrite hproblem
  have hresolve := resolveSource_of_prepare hold hsource
  cases hchanged : source.isChanged with
  | true =>
      obtain ⟨old', mode', hold', hnew⟩ := hprogress.committed.changed _
        (List.mem_map_of_mem hp) source ⟨hsource, hchanged⟩
      cases hold.symm.trans hold'
      refine ⟨_, hnew, respelled_of_resolveSource hresolve (fun h => ?_) fun _ => rfl⟩
      rw [hchanged] at h
      cases h
  | false =>
      have hsame : ∀ other, ¬ (r.prepared p).BecomesText other := by
        rintro other ⟨hother, hbecomes⟩
        cases hsource.symm.trans hother
        rw [hchanged] at hbecomes
        cases hbecomes
      refine ⟨old, node_of_unchanged hprogress (hpaths p hp) hsame hold,
        respelled_of_resolveSource hresolve (fun _ => rfl) fun h => ?_⟩
      rw [hchanged] at h
      cases h

/-- A run that writes without a problem leaves a file's bytes, but for changed specifiers and for
parts that form no character. Where there are no such parts, it replaces specifiers alone. -/
theorem Resolving.keeps_characters (r : Resolving) {files : List Path}
    (hfiles : Source.files r.before r.roots = .ok files) (hwrite : r.request.write = true)
    (hproblem : r.ending.problem = none) {p : Path} (hp : p ∈ files) {source : ResolvedSource}
    (hsource : (r.prepared p).result = .ok source) {old : Bytes} {mode : Nat}
    (hold : r.before.node p = .ok (.file old mode)) :
    ∃ new, r.ending.fileSystem.node p = .ok (.file new mode) ∧ Respelled old source new ∧
      Mended old (encode (decodeLossy old)) ∧
      ∀ text, old = encode text → encode (decodeLossy old) = old := by
  obtain ⟨new, hnew, hrespelled⟩ := respelled hfiles hwrite hproblem hp hsource hold
  refine ⟨new, hnew, hrespelled, mended_decodeLossy old, ?_⟩
  rintro text rfl
  rw [decodeLossy_encode]

def latin : Path := ⟨"/w/latin.js"⟩

def latinBytes : Bytes := encode "import './a'; // " ++ [0xFF]

def latinSite : Source.Site := ⟨"./a", .imported, 8, 11, 1⟩

theorem latin_resolved : ((Resolving.inFolder true).prepared latin).result =
    .ok ⟨"import './a.js'; // \uFFFD", [⟨latinSite, ⟨"./a", .file, .replaced "./a.js"⟩⟩]⟩ := by
  decide +kernel

theorem keeps_characters_latin :
    (Resolving.inFolder true).ending.fileSystem.node latin =
      .ok (.file (encode "import './a.js'; // \uFFFD") 0o644) := by
  obtain ⟨files, h, hsorted, hpaths⟩ := (Resolving.inFolder true).files_ok
  obtain rfl : folderFiles = files := Except.ok.inj ((files_folder true).symm.trans h)
  obtain ⟨hproblem, -⟩ := Resolving.commits h (Resolving.pending hsorted hpaths) rfl (.inl rfl)
    fun p hp _ _ => exists_temporary p hp
  have hlatin : latin ∈ folderFiles := by decide +kernel
  have hold : folder.node latin = .ok (.file latinBytes 0o644) := by decide +kernel
  obtain ⟨new, hnew, hrespelled, -, -⟩ := (Resolving.inFolder true).keeps_characters h rfl hproblem
    hlatin latin_resolved hold
  rw [hnew, hrespelled.changed (by decide +kernel)]
  decide +kernel

/-- The last byte forms no character. It is behind the only specifier, and it does not stay. -/
theorem not_only_specifiers_latin :
    (run folderHost folder {} ["rewrite", "--write", "latin.js"]).exit = 0 ∧
      Source.sites (decodeLossy latinBytes) = [latinSite] ∧
      ∃ new, folder.node latin = .ok (.file latinBytes 0o644) ∧
        (run folderHost folder {} ["rewrite", "--write", "latin.js"]).fileSystem.node latin =
          .ok (.file new 0o644) ∧
        ∀ text, new ≠ Source.splicedBytes latinBytes 0 [(latinSite, text)] := by
  have hrun : (run folderHost folder {} ["rewrite", "--write", "latin.js"]).exit = 0 ∧
      (run folderHost folder {} ["rewrite", "--write", "latin.js"]).fileSystem.node latin =
        .ok (.file (encode "import './a.js'; // \uFFFD") 0o644) := by
    decide +kernel
  refine ⟨hrun.1, by decide +kernel, _, by decide +kernel, hrun.2, fun text hnew => ?_⟩
  have hlast : (0xFF : UInt8) ∈ Source.splicedBytes latinBytes 0 [(latinSite, text)] :=
    List.mem_append_right _ (by decide +kernel)
  rw [← hnew] at hlast
  revert hlast
  decide +kernel

end ImportResolver.CommandLine

import ImportResolver.Proofs.Resolution.Repetition
import ImportResolver.Proofs.Resolution.Replacement
/- The two spellings of a file, with its extension and without. Without it, the first candidate with
which there is a file decides; with it, the first one that ends the path. -/
namespace ImportResolver

namespace Text

theorem endsWith_iff_suffix {s tail : String} :
    endsWith s tail = true ↔ tail.toList <:+ s.toList := by
  rw [endsWith_iff]
  constructor
  · rintro ⟨rest, rfl⟩
    exact ⟨rest.toList, String.toList_append.symm⟩
  · rintro ⟨rest, hrest⟩
    exact ⟨String.ofList rest, by simp [← String.toList_inj, hrest]⟩

/-- Of two texts that end a third one, one ends the other. -/
theorem endsWith_or_endsWith {text s t : String} (hs : endsWith text s = true)
    (ht : endsWith text t = true) : endsWith s t = true ∨ endsWith t s = true := by
  rw [endsWith_iff_suffix] at hs ht ⊢
  rw [endsWith_iff_suffix]
  exact List.suffix_or_suffix_of_suffix ht hs

end Text

namespace Extension

/-- An extension that is accepted ends no other one. -/
def Rules.SuffixFree (rules : Rules) : Prop :=
  ∀ c ∈ rules.candidates, ∀ e ∈ rules.candidates,
    Text.endsWith c.source e.source = true → e.source = c.source

instance (rules : Rules) : Decidable rules.SuffixFree :=
  inferInstanceAs (Decidable (∀ c ∈ rules.candidates, ∀ e ∈ rules.candidates,
    Text.endsWith c.source e.source = true → e.source = c.source))

variable {fs : FileSystem} {base : Path} {rules : Rules} {mode : Mode} {c e : Candidate}

/-- The first candidate that ends a path. -/
def Ends (path : Path) (rules : Rules) (e : Candidate) : Prop :=
  IsFirst (fun d : Candidate => ∃ stem, path.text = stem ++ d.source) rules.candidates e

/-- If a candidate ends a path, there is a first one that does. -/
theorem exists_ends {path : Path} (hc : c ∈ rules.candidates)
    (h : ∃ stem, path.text = stem ++ c.source) : ∃ e, Ends path rules e := by
  obtain ⟨e, he⟩ : ∃ e, (rules.candidates.find? fun d => Text.endsWith path.text d.source) =
      some e := by
    rw [← Option.isSome_iff_exists, List.find?_isSome]
    exact ⟨c, hc, Text.endsWith_iff.mpr h⟩
  exact ⟨e, find?_endsWith_eq_some_iff.mp he⟩

/-- Where no extension ends another one, the first candidate with which there is a file is also the
first that ends the path of the file. -/
theorem Rules.SuffixFree.eq_of_completes (h : rules.SuffixFree)
    (hc : Completes fs base rules mode c)
    (he : Ends (candidatePath base (junction fs base) c) rules e) : e = c := by
  have hsource : e.source = c.source := by
    rcases Text.endsWith_or_endsWith (Text.endsWith_iff.mpr ⟨_, rfl⟩)
        (Text.endsWith_iff.mpr he.1) with hends | hends
    · exact h c hc.first.mem e he.mem hends
    · exact (h e he.mem c hc.first.mem hends).symm
  -- Both are the first with this extension, as what they are the first with depends on it alone.
  have hfirst : IsFirst (fun d : Candidate => d.source = c.source) rules.candidates c :=
    hc.first.of_imp rfl fun d hd => by
      rw [hd]
      exact hc.first.1
  have hfirst' : IsFirst (fun d : Candidate => d.source = c.source) rules.candidates e :=
    he.of_imp hsource fun d hd => ⟨_, by rw [hd]; rfl⟩
  exact hfirst'.unique hfirst

end Extension

namespace Context

open Extension Specifier

variable {ctx : Context} {fs : FileSystem} {text : String} {c e : Candidate}

/-- A specifier with an extension behind it, or the way to an index in front of the extension if it
leads to a directory. -/
def lengthened (ctx : Context) (fs : FileSystem) (text extension : String) : String :=
  text ++ (junction fs (ctx.file.directory.join text) ++ extension)

theorem join_lengthened (hne : text ≠ "") :
    ctx.file.directory.join (ctx.lengthened fs text c.source) =
      candidatePath (ctx.file.directory.join text)
        (junction fs (ctx.file.directory.join text)) c := by
  rw [lengthened, Path.join_append _ hne, Path.append, candidatePath, String.append_assoc]

theorem resolve_of_completes (hkind : classify ctx.builtins text = .file)
    (hc : Completes fs (ctx.file.directory.join text) ctx.options.extensions .expand c) :
    ctx.resolve fs text =
      .ok ⟨text, .file, .replaced (ctx.lengthened fs text c.emitted)⟩ := by
  rw [resolve_of_file hkind, finding_eq_append_iff_completes.mpr ⟨c, hc, rfl⟩]
  rfl

/-- A file that is spelled out is written by the first candidate that ends its path. -/
theorem resolve_of_ends (hkind : classify ctx.builtins text = .file)
    (hfile : fs.hasFile (ctx.file.directory.join text) = true)
    (he : Ends (ctx.file.directory.join text) ctx.options.extensions e) :
    ∃ r, ctx.resolve fs text = .ok r ∧
      ∀ stem, text = stem ++ e.source → r.specifier = stem ++ e.emitted := by
  have htakes : takesBase fs (ctx.file.directory.join text) .expand = true :=
    takesBase_iff.mpr ⟨rfl, hfile⟩
  have hfinding : finding fs (ctx.file.directory.join text) ctx.options.extensions .expand =
      if e.source = e.emitted then .asWritten else .replace e.source e.emitted := by
    rw [finding, if_pos htakes, expanded, find?_endsWith_eq_some_iff.mpr he]
  by_cases hkept : e.source = e.emitted
  · rw [if_pos hkept] at hfinding
    refine ⟨⟨text, .file, .unchanged .alreadyCorrect⟩, ?_, ?_⟩
    · rw [resolve_of_file hkind, hfinding]
      rfl
    · rintro stem rfl
      exact congrArg (stem ++ ·) hkept
  · rw [if_neg hkept] at hfinding
    refine ⟨_, resolve_of_replace hkind hfinding, ?_⟩
    rintro stem rfl
    rw [Finding.applied?_replace_stem]
    rfl

/-- A file that a search has found is where the specifier leads that names it, and this has the look
of a file specifier as well. -/
theorem lengthened_names_file (ht : fs.tree.WellFormed) (hlook : isFile text.toList = true)
    (hc : Completes fs (ctx.file.directory.join text) ctx.options.extensions .expand c) :
    fs.hasFile (ctx.file.directory.join (ctx.lengthened fs text c.source)) = true ∧
      isFile (ctx.lengthened fs text c.source).toList = true := by
  have hne := ne_empty_of_isFile hlook
  have hfile : fs.hasFile (ctx.file.directory.join (ctx.lengthened fs text c.source)) = true := by
    rw [join_lengthened hne]
    exact hc.first.1
  refine ⟨hfile, isFile_appended ht ctx.file.directory hlook ?_⟩
  rwa [← Path.join_append _ hne]

/-- The two spellings of a file. Without the extension, the first candidate with which there is a
file is written. With it, the first that ends the path is; the two agree if it is the same one, as it
always is where no extension ends another one. A name that is built in stays as it is. -/
theorem resolve_spellings (ht : fs.tree.WellFormed) (hkind : classify ctx.builtins text = .file)
    (hc : Completes fs (ctx.file.directory.join text) ctx.options.extensions .expand c) :
    ctx.resolve fs text = .ok ⟨text, .file, .replaced (ctx.lengthened fs text c.emitted)⟩ ∧
    (ctx.builtins.isBuiltin (ctx.lengthened fs text c.source) = false →
      ∃ e r, Ends (ctx.file.directory.join (ctx.lengthened fs text c.source))
          ctx.options.extensions e ∧
        ctx.resolve fs (ctx.lengthened fs text c.source) = .ok r ∧
        (∀ stem, ctx.lengthened fs text c.source = stem ++ e.source →
          r.specifier = stem ++ e.emitted) ∧
        (e = c → r.specifier = ctx.lengthened fs text c.emitted) ∧
        (ctx.options.extensions.SuffixFree → e = c)) ∧
    (ctx.builtins.isBuiltin (ctx.lengthened fs text c.source) = true →
      ∃ r, ctx.resolve fs (ctx.lengthened fs text c.source) = .ok r ∧
        r.specifier = ctx.lengthened fs text c.source) ∧
    (ctx.builtins = .embedded →
      ctx.builtins.isBuiltin (ctx.lengthened fs text c.source) = false) := by
  have hlook := isFile_of_classify hkind
  have hne := ne_empty_of_isFile hlook
  obtain ⟨hfile, hexplicit⟩ := lengthened_names_file ht hlook hc
  refine ⟨resolve_of_completes hkind hc, fun hbuiltin => ?_, fun hbuiltin => ?_,
    fun hembedded => ?_⟩
  · obtain ⟨e, he⟩ : ∃ e, Ends (ctx.file.directory.join (ctx.lengthened fs text c.source))
        ctx.options.extensions e :=
      exists_ends hc.first.mem ⟨_, by rw [join_lengthened hne, candidatePath]⟩
    obtain ⟨r, hr, hspecifier⟩ := resolve_of_ends (classify_eq_file hexplicit hbuiltin) hfile he
    refine ⟨e, r, he, hr, hspecifier, ?_, fun hfree => ?_⟩
    · rintro rfl
      rw [lengthened, ← String.append_assoc] at hspecifier ⊢
      exact hspecifier _ rfl
    · rw [join_lengthened hne] at he
      exact hfree.eq_of_completes hc he
  · exact ⟨_, resolve_of_builtin (classify_eq_builtin (ne_empty_of_isFile hexplicit) hbuiltin), rfl⟩
  · rw [hembedded]
    exact isBuiltin_embedded_of_isFile hexplicit

/-- Types of a module, and a directory with an index. -/
def typed : FileSystem :=
  ⟨⟨[(["a.d.ts"], .file [] 0o644), (["lib"], .directory 0o755),
    (["index.ts", "lib"], .file [] 0o644), (["main.ts"], .file [] 0o644)]⟩, []⟩

/-- Rules the first of which ends what the second accepts. -/
def overlapping : Context :=
  ⟨⟨"/main.ts"⟩, { extensions := [⟨[".ts"], some ".js"⟩, .keep ".d.ts"] }, [], .ofNames []⟩

def distinct : Context :=
  ⟨⟨"/main.ts"⟩, { extensions := [⟨[".ts"], some ".js"⟩, .keep ".mjs"] }, [], .ofNames []⟩

theorem completes_overlapping :
    Completes typed (overlapping.file.directory.join "./a") overlapping.options.extensions .expand
      ⟨".d.ts", ".d.ts"⟩ :=
  ⟨by decide +kernel, by decide +kernel, [⟨".ts", ".js"⟩], [], rfl, by decide +kernel⟩

theorem completes_distinct :
    Completes typed (distinct.file.directory.join "./lib") distinct.options.extensions .expand
      ⟨".ts", ".js"⟩ :=
  ⟨by decide +kernel, by decide +kernel, [], [⟨".mjs", ".mjs"⟩], rfl, by simp⟩

theorem ends_overlapping :
    Ends (overlapping.file.directory.join "./a.d.ts") overlapping.options.extensions
      ⟨".ts", ".js"⟩ :=
  ⟨⟨"/./a.d", by decide +kernel⟩, [], [⟨".d.ts", ".d.ts"⟩], rfl, by simp⟩

theorem resolve_spellings_typed :
    (distinct.resolve typed "./lib" = .ok ⟨"./lib", .file, .replaced "./lib/index.js"⟩ ∧
      ∃ r, distinct.resolve typed "./lib/index.ts" = .ok r ∧ r.specifier = "./lib/index.js") ∧
    overlapping.resolve typed "./a" = .ok ⟨"./a", .file, .replaced "./a.d.ts"⟩ ∧
      ∃ r, overlapping.resolve typed "./a.d.ts" = .ok r ∧ r.specifier = "./a.d.js" := by
  have ht : typed.tree.Sound := by decide +kernel
  have hlib : distinct.lengthened typed "./lib" ".ts" = "./lib/index.ts" := by decide +kernel
  have hlib' : distinct.lengthened typed "./lib" ".js" = "./lib/index.js" := by decide +kernel
  have ha : overlapping.lengthened typed "./a" ".d.ts" = "./a.d.ts" := by decide +kernel
  constructor
  · obtain ⟨hshort, hlong, -⟩ :=
      resolve_spellings ht.toWellFormed (by decide +kernel) completes_distinct
    obtain ⟨e, r, -, hr, -, hagree, hfree⟩ := hlong (by decide +kernel)
    rw [hlib] at hr
    rw [hlib'] at hshort hagree
    exact ⟨hshort, r, hr, hagree (hfree (by decide +kernel))⟩
  · obtain ⟨hshort, hlong, -⟩ :=
      resolve_spellings ht.toWellFormed (by decide +kernel) completes_overlapping
    obtain ⟨e, r, he, hr, hspecifier, -, -⟩ := hlong (by decide +kernel)
    rw [ha] at hshort he hr hspecifier
    obtain rfl := he.unique ends_overlapping
    exact ⟨hshort, r, hr, hspecifier "./a.d" rfl⟩

/-- One of the files is a module of the runtime. -/
def provided : Context := { distinct with builtins := .ofNames ["./lib/index.ts"] }

/-- The first extension that ends the path need not be the first with which there is a file, and a
name that is built in is written for no file. -/
theorem resolve_spellings_not_always :
    (Completes typed (overlapping.file.directory.join "./a") overlapping.options.extensions
        .expand ⟨".d.ts", ".d.ts"⟩ ∧
      overlapping.resolve typed "./a" =
        .ok ⟨"./a", .file, .replaced (overlapping.lengthened typed "./a" ".d.ts")⟩ ∧
      overlapping.resolve typed (overlapping.lengthened typed "./a" ".d.ts") =
        .ok ⟨"./a.d.ts", .file, .replaced "./a.d.js"⟩ ∧
      "./a.d.js" ≠ overlapping.lengthened typed "./a" ".d.ts") ∧
    Completes typed (provided.file.directory.join "./lib") provided.options.extensions .expand
        ⟨".ts", ".js"⟩ ∧
      provided.resolve typed "./lib" =
        .ok ⟨"./lib", .file, .replaced (provided.lengthened typed "./lib" ".js")⟩ ∧
      provided.resolve typed (provided.lengthened typed "./lib" ".ts") =
        .ok ⟨"./lib/index.ts", .builtin, .unchanged .builtin⟩ ∧
      "./lib/index.ts" ≠ provided.lengthened typed "./lib" ".js" :=
  ⟨⟨completes_overlapping, by decide +kernel, by decide +kernel, by decide +kernel⟩,
    completes_distinct, by decide +kernel, by decide +kernel, by decide +kernel⟩

end Context
end ImportResolver

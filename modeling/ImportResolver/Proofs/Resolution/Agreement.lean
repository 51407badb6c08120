import ImportResolver.Proofs.FileSystem.Walk
import ImportResolver.Proofs.Package.Location
import ImportResolver.Proofs.Path.Ascent
import ImportResolver.Proofs.Resolution.Outcome
import ImportResolver.Resolution.Source
import Mathlib.Data.List.Find
/- File systems that hold the same at some paths. Resolving reads absolute paths only, if the importing
file and the global directories are given by absolute paths; file systems that agree on these give the
same answers. -/
namespace ImportResolver.FileSystem

/-- Both have the same node at a path, or the same fault. -/
def AgreeAt (fs fs' : FileSystem) (p : Path) : Prop := fs.node p = fs'.node p

/-- They agree at every path that does not start from the working directory. -/
def AgreeFromRoot (fs fs' : FileSystem) : Prop :=
  ∀ p : Path, p.isAbsolute = true → AgreeAt fs fs' p

variable {fs fs' : FileSystem} {p : Path}

theorem AgreeAt.isDirectory (h : AgreeAt fs fs' p) : fs.isDirectory p = fs'.isDirectory p := by
  rw [FileSystem.isDirectory, FileSystem.isDirectory, node?, node?, h]

theorem AgreeAt.isFile (h : AgreeAt fs fs' p) : fs.isFile p = fs'.isFile p := by
  rw [FileSystem.isFile, FileSystem.isFile, node?, node?, h]

theorem AgreeAt.hasFile (h : AgreeAt fs fs' p) : fs.hasFile p = fs'.hasFile p := by
  rw [FileSystem.hasFile, FileSystem.hasFile, node?, node?, h]

theorem AgreeAt.readText (h : AgreeAt fs fs' p) : fs.readText p = fs'.readText p := by
  rw [FileSystem.readText, FileSystem.readText, read, read, h]

/-- The working directory is only where relative paths start from: the targets of links are not
among these. -/
theorem agreeFromRoot_cwd (tree : Tree) (cwd cwd' : Location) :
    AgreeFromRoot ⟨tree, cwd⟩ ⟨tree, cwd'⟩ := by
  intro p hp
  have hstart (cwd : Location) : start ⟨tree, cwd⟩ p.text = [] := if_pos hp
  rw [AgreeAt, node, node, locate, locate, hstart, hstart]

end ImportResolver.FileSystem

namespace ImportResolver

open FileSystem

variable {fs fs' : FileSystem}

namespace Extension

variable {base : Path}

theorem junction_congr (h : AgreeFromRoot fs fs') (hbase : base.isAbsolute = true) :
    junction fs base = junction fs' base := by
  rw [junction, junction, (h base hbase).isDirectory]

theorem candidatePath_isAbsolute (hbase : base.isAbsolute = true) (between : String)
    (c : Candidate) : (candidatePath base between c).isAbsolute = true := by
  rw [candidatePath, String.append_assoc]
  exact Path.append_isAbsolute hbase (between ++ c.source)

theorem firstPresent?_congr (h : AgreeFromRoot fs fs') (hbase : base.isAbsolute = true)
    (between : String) (candidates : List Candidate) :
    firstPresent? fs base between candidates = firstPresent? fs' base between candidates := by
  refine congrArg (candidates.find? ·) (funext fun c => ?_)
  exact (h _ (candidatePath_isAbsolute hbase between c)).hasFile

theorem probeSteps_congr (h : AgreeFromRoot fs fs') (hbase : base.isAbsolute = true)
    (between : String) (candidates : List Candidate) :
    probeSteps fs base between candidates = probeSteps fs' base between candidates := by
  induction candidates with
  | nil => rfl
  | cons c cs ih =>
      rw [probeSteps, probeSteps, ih, (h _ (candidatePath_isAbsolute hbase between c)).hasFile]

theorem search_congr (h : AgreeFromRoot fs fs') (hbase : base.isAbsolute = true) (rules : Rules)
    (mode : Mode) : search fs base rules mode = search fs' base rules mode := by
  have htakes : takesBase fs base mode = takesBase fs' base mode := by
    rw [takesBase, takesBase, (h base hbase).hasFile]
  rw [search, search, finding, finding, findingSteps, findingSteps, htakes,
    (h base hbase).hasFile, (h base hbase).isDirectory, junction_congr h hbase,
    firstPresent?_congr h hbase, probeSteps_congr h hbase]

end Extension

namespace Package

variable {name : String} {file dir : Path} {globals : List Path}

theorem stores_isAbsolute (hfile : file.isAbsolute = true)
    (hglobals : ∀ g ∈ globals, g.isAbsolute = true) :
    ∀ store ∈ stores file globals, store.isAbsolute = true := by
  intro store hstore
  rcases List.mem_append.mp hstore with hnear | hfar
  · obtain ⟨above, habove, rfl⟩ := List.mem_map.mp hnear
    have hdir := Path.directory_isAbsolute hfile
    exact Path.join_isAbsolute (Path.ancestors_isAbsolute hdir above habove) "node_modules"
  · exact hglobals store hfar

theorem misses_congr {places : List Path} (h : ∀ p ∈ places, AgreeAt fs fs' p)
    (step : Step.Name) : misses fs step places = misses fs' step places := by
  refine congrArg (List.map _) ?_
  induction places with
  | nil => rfl
  | cons p ps ih =>
      rw [List.takeWhile_cons, List.takeWhile_cons, (h p List.mem_cons_self).isDirectory,
        ih fun q hq => h q (List.mem_cons_of_mem p hq)]

theorem locate_congr (h : AgreeFromRoot fs fs') (hfile : file.isAbsolute = true)
    (hglobals : ∀ g ∈ globals, g.isAbsolute = true) :
    locate fs name file globals = locate fs' name file globals := by
  have hplace (store : Path) (hstore : store ∈ stores file globals) :
      AgreeAt fs fs' (store.join name) :=
    h _ (Path.join_isAbsolute (stores_isAbsolute hfile hglobals store hstore) name)
  have hnear : ∀ p ∈ nearby name file, AgreeAt fs fs' p := by
    intro p hp
    obtain ⟨above, habove, rfl⟩ := List.mem_map.mp hp
    exact hplace _ (List.mem_append_left globals (List.mem_map_of_mem habove))
  have hfar : ∀ p ∈ global name globals, AgreeAt fs fs' p := by
    intro p hp
    obtain ⟨g, hg, rfl⟩ := List.mem_map.mp hp
    exact hplace g (List.mem_append_right _ hg)
  have hfirst : (nearby name file).find? fs.isDirectory =
      (nearby name file).find? fs'.isDirectory :=
    List.find?_congr fun p hp => (hnear p hp).isDirectory
  have hsecond : (global name globals).find? fs.isDirectory =
      (global name globals).find? fs'.isDirectory :=
    List.find?_congr fun p hp => (hfar p hp).isDirectory
  simp only [locate, misses_congr hnear, misses_congr hfar, hfirst, hsecond]

theorem locate_isAbsolute (hfile : file.isAbsolute = true)
    (hglobals : ∀ g ∈ globals, g.isAbsolute = true)
    (h : (locate fs name file globals).result = .ok dir) : dir.isAbsolute = true := by
  obtain ⟨before, store, after, hsplit, rfl, -, -⟩ := locate_eq_ok_iff.mp h
  have hstore : store ∈ stores file globals := by
    rw [hsplit]
    exact List.mem_append_right before List.mem_cons_self
  exact Path.join_isAbsolute (stores_isAbsolute hfile hglobals store hstore) name

theorem load_congr (h : AgreeFromRoot fs fs') (hdir : dir.isAbsolute = true) :
    Manifest.load fs dir = Manifest.load fs' dir := by
  have hpath := h _ (Path.join_isAbsolute hdir Manifest.fileName)
  simp only [Manifest.load, hpath.readText]

theorem loadOptional_congr (h : AgreeFromRoot fs fs') (hdir : dir.isAbsolute = true) :
    Manifest.loadOptional fs dir = Manifest.loadOptional fs' dir := by
  have hpath := h _ (Path.join_isAbsolute hdir Manifest.fileName)
  rw [Manifest.loadOptional, Manifest.loadOptional, hpath.isFile, load_congr h hdir]

theorem entryAt_congr (h : AgreeFromRoot fs fs') (hdir : dir.isAbsolute = true)
    (specifier : String) (rules : Extension.Rules) (path : String) :
    entryAt fs specifier dir rules path = entryAt fs' specifier dir rules path := by
  simp only [entryAt, Extension.search_congr h (Path.join_isAbsolute hdir _)]

theorem firstEntry_congr (h : AgreeFromRoot fs fs') (hdir : dir.isAbsolute = true)
    (specifier : String) (manifest : Option Manifest) (ds : List Descriptor) :
    firstEntry fs specifier dir manifest ds = firstEntry fs' specifier dir manifest ds := by
  induction ds generalizing manifest with
  | nil => rfl
  | cons d ds ih =>
      have hd : describedPath fs dir manifest d = describedPath fs' dir manifest d := by
        cases d with
        | literalPath path rules => rfl
        | manifestField field rules => simp only [describedPath, load_congr h hdir]
      simp only [firstEntry, hd, entryAt_congr h hdir, ih]

theorem entry_congr (h : AgreeFromRoot fs fs') (hdir : dir.isAbsolute = true)
    (specifier : String) (ds : List Descriptor) (ignoreExports : Bool) :
    entry fs specifier dir ds ignoreExports = entry fs' specifier dir ds ignoreExports := by
  simp only [entry, loadOptional_congr h hdir, firstEntry_congr h hdir]

end Package

namespace Context

variable {ctx : Context} {text : String}

/-- The importing file and the global directories do not depend on where work is done. -/
structure IsAbsolute (ctx : Context) : Prop where
  file : ctx.file.isAbsolute = true
  globals : ∀ g ∈ ctx.globals, g.isAbsolute = true

theorem resolveFile_congr (h : AgreeFromRoot fs fs') (hctx : ctx.IsAbsolute) :
    ctx.resolveFile fs text = ctx.resolveFile fs' text := by
  have hbase := Path.join_isAbsolute (Path.directory_isAbsolute hctx.file) text
  simp only [resolveFile, Extension.search_congr h hbase]

theorem exportsManifest?_congr (h : AgreeFromRoot fs fs') {dir : Path}
    (hdir : dir.isAbsolute = true) :
    ctx.exportsManifest? fs dir = ctx.exportsManifest? fs' dir := by
  rw [exportsManifest?, exportsManifest?, Package.loadOptional_congr h hdir]

theorem resolveSubmodule_congr (h : AgreeFromRoot fs fs') (hctx : ctx.IsAbsolute)
    (name subPath : String) :
    ctx.resolveSubmodule fs text name subPath = ctx.resolveSubmodule fs' text name subPath := by
  unfold resolveSubmodule
  rw [Package.locate_congr h hctx.file hctx.globals]
  refine Trail.bind_congr fun dir hdir => ?_
  have hdir := Package.locate_isAbsolute hctx.file hctx.globals hdir
  simp only [exportsManifest?_congr h hdir,
    Extension.search_congr h (Path.append_isAbsolute hdir subPath)]

theorem resolvePackage_congr (h : AgreeFromRoot fs fs') (hctx : ctx.IsAbsolute) (name : String) :
    ctx.resolvePackage fs text name = ctx.resolvePackage fs' text name := by
  unfold resolvePackage
  rw [Package.locate_congr h hctx.file hctx.globals]
  refine Trail.bind_congr fun dir hdir => ?_
  have hdir := Package.locate_isAbsolute hctx.file hctx.globals hdir
  simp only [Package.entry_congr h hdir]

/-- Not only the results are the same, but the steps too. -/
theorem explain_congr (h : AgreeFromRoot fs fs') (hctx : ctx.IsAbsolute) (text : String) :
    ctx.explain fs text = ctx.explain fs' text := by
  have houtcome (kind : Specifier.Kind) :
      ctx.outcome fs text kind = ctx.outcome fs' text kind := by
    cases kind with
    | url => rfl
    | builtin => rfl
    | unrecognized => rfl
    | file => exact resolveFile_congr h hctx
    | package name subPath =>
        simp only [outcome, resolvePackage_congr h hctx, resolveSubmodule_congr h hctx]
  simp only [explain, houtcome]

theorem resolve_congr (h : AgreeFromRoot fs fs') (hctx : ctx.IsAbsolute) (text : String) :
    ctx.resolve fs text = ctx.resolve fs' text := by
  rw [resolve, resolve, explain_congr h hctx]

theorem resolveSource_congr (h : AgreeFromRoot fs fs') (hctx : ctx.IsAbsolute)
    (source : String) : ctx.resolveSource fs source = ctx.resolveSource fs' source := by
  have hsite : ctx.resolveSite fs = ctx.resolveSite fs' := by
    funext site
    rw [resolveSite, resolveSite, resolve_congr h hctx]
  rw [resolveSource, resolveSource, hsite]

/-- What a specifier and a source text are resolved to does not depend on the working directory. -/
theorem resolve_from_any_directory (ctx : Context) (tree : Tree) (cwd cwd' : Location)
    (hfile : ctx.file.isAbsolute = true) (hglobals : ∀ g ∈ ctx.globals, g.isAbsolute = true) :
    (∀ text, ctx.resolve ⟨tree, cwd⟩ text = ctx.resolve ⟨tree, cwd'⟩ text) ∧
      ∀ source, ctx.resolveSource ⟨tree, cwd⟩ source = ctx.resolveSource ⟨tree, cwd'⟩ source := by
  have hagree := agreeFromRoot_cwd tree cwd cwd'
  have hctx : ctx.IsAbsolute := ⟨hfile, hglobals⟩
  constructor
  · intro text
    exact resolve_congr hagree hctx text
  · intro source
    exact resolveSource_congr hagree hctx source

/-- Two projects with a package each, of the same name. -/
def twoProjects : Tree :=
  ⟨[(["a"], .directory 0o755), (["node_modules", "a"], .directory 0o755),
    (["dep", "node_modules", "a"], .directory 0o755),
    (["fp.js", "dep", "node_modules", "a"], .file [] 0o644),
    (["b"], .directory 0o755), (["node_modules", "b"], .directory 0o755),
    (["dep", "node_modules", "b"], .directory 0o755),
    (["fp.mjs", "dep", "node_modules", "b"], .file [] 0o644)]⟩

def inFirstProject : Context :=
  ⟨⟨"/a/main.js"⟩, { submoduleExtensions := [.keep ".mjs", .keep ".js"] }, [⟨"/lib"⟩], .ofNames []⟩

/-- Work done in one project does not find the package of the other. -/
theorem resolve_from_any_directory_projects :
    inFirstProject.resolve ⟨twoProjects, ["b"]⟩ "dep/fp" =
        .ok ⟨"dep/fp", .package "dep" "/fp", .replaced "dep/fp.js"⟩ ∧
      (inFirstProject.resolveSource ⟨twoProjects, ["b"]⟩ "import 'dep/fp'").map (·.code) =
        .ok "import 'dep/fp.js'" := by
  have hhere : inFirstProject.resolve ⟨twoProjects, ["a"]⟩ "dep/fp" =
      .ok ⟨"dep/fp", .package "dep" "/fp", .replaced "dep/fp.js"⟩ := by decide +kernel
  have hcode : (inFirstProject.resolveSource ⟨twoProjects, ["a"]⟩ "import 'dep/fp'").map
      (·.code) = .ok "import 'dep/fp.js'" := by decide +kernel
  obtain ⟨hresolve, hsource⟩ := resolve_from_any_directory inFirstProject twoProjects ["b"] ["a"]
    (by decide) (by decide)
  constructor
  · rw [hresolve]
    exact hhere
  · rw [hsource]
    exact hcode

-- A relative importing file does depend on it.
example :
    let ctx := { inFirstProject with file := ⟨"main.js"⟩ }
    ctx.resolve ⟨twoProjects, ["a"]⟩ "dep/fp" ≠ ctx.resolve ⟨twoProjects, ["b"]⟩ "dep/fp" := by
  decide +kernel

end Context
end ImportResolver

import ImportResolver.Proofs.CommandLine.Commit
import ImportResolver.Proofs.Source.Collection
import ImportResolver.Proofs.Specifier.Query
/- A command line that resolves files commits exactly what was prepared, or nothing. -/
namespace ImportResolver.CommandLine

open FileSystem

/-- A root that is there is the path of a location. -/
theorem exists_of_absolute {fs : FileSystem} (ht : fs.tree.Sound) {directory p : Path}
    (h : (fs.node? (absolute fs directory p)).isSome = true) :
    ∃ loc n, absolute fs directory p = Location.path loc ∧ fs.tree.Holds loc n ∧
      checkPath (absolute fs directory p) = .ok () := by
  cases hn : fs.node (absolute fs directory p) with
  | error fault =>
      rw [node?, hn] at h
      cases h
  | ok n =>
      obtain ⟨loc, hloc, -⟩ := locate_of_node hn
      have hcheck := checkPath_of_locate hloc
      cases hj : fs.locate (directory.join p.text) true with
      | error fault =>
          -- Then the path is left as it is, but it leads somewhere.
          have hsame : absolute fs directory p = directory.join p.text := by
            rw [absolute, canonical, hj]
            rfl
          rw [hsame, hj] at hloc
          cases hloc
      | ok top =>
          obtain ⟨m, hm⟩ := holds_of_locate ht hj
          refine ⟨top, m, ?_, hm, hcheck⟩
          rw [absolute, canonical, hj]
          rfl

theorem resolveSource_empty (ctx : Context) (fs : FileSystem) :
    ctx.resolveSource fs "" = .ok ⟨"", []⟩ := by
  have hnone : Source.sites "" = [] := by simp [Source.sites, Source.pieces, Source.sitesFrom]
  rw [Context.resolveSource, hnone]
  rfl

/-- A file whose text changes can be replaced. -/
theorem exists_replaceable {fs : FileSystem} {options : Options} {globals : List Path}
    {builtins : Builtins} {p : Path} {source : ResolvedSource} (hp : Source.IsFilePath fs p)
    (h : (prepare fs options globals builtins p).BecomesText source) :
    ∃ loc old mode, Replaceable fs p loc old mode := by
  obtain ⟨loc, n, rfl, hholds, hfile⟩ := hp
  obtain ⟨hresult, hchanged⟩ := h
  rw [prepare] at hresult
  cases hread : fs.read (Location.path loc) with
  | error fault =>
      rw [readLossy, hread] at hresult
      cases hresult
  | ok bytes =>
      obtain ⟨m, hm, hreadable⟩ := node_of_read hread
      obtain ⟨l, hl, -⟩ := locate_of_node hm
      have hcheck := checkPath_of_locate hl
      obtain rfl : n = m := Except.ok.inj ((hholds.node_path hcheck).symm.trans hm)
      cases n with
      | file old mode => exact ⟨loc, old, mode, rfl, hholds, hcheck, hreadable⟩
      | tool name =>
          -- A program reads as an empty text, which has no sites.
          have hempty : fs.readLossy (Location.path loc) = .ok "" := by
            have hnothing : fs.read (Location.path loc) = .ok [] := by
              rw [FileSystem.read, hm]
              change (if (!(Node.tool name).isReadable) = true then _ else _ : Except Fault Bytes) = _
              rw [hreadable]
              rfl
            rw [readLossy, hnothing]
            change Except.ok (Text.Utf8.decodeLossy []) = _
            rw [Text.Utf8.decodeLossy, Text.Utf8.decode]
            rfl
          simp only [hempty, resolveSource_empty] at hresult
          cases hresult
          cases hchanged
      | directory mode => cases hfile
      | link target => cases hfile
      | device kind mode => cases hfile
      | pipe number mode => cases hfile

theorem arePlaces_of_exist {fs : FileSystem} (ht : fs.tree.Sound) {directory : Path}
    {roots : List Path} (h : ∀ p ∈ roots, (fs.node? (absolute fs directory p)).isSome = true) :
    Source.ArePlaces fs (roots.map (absolute fs directory)) := by
  intro root hroot
  obtain ⟨p, hp, rfl⟩ := List.mem_map.mp hroot
  exact exists_of_absolute ht (h p hp)

theorem arePlaces_of_files {fs : FileSystem} (ht : fs.tree.Sound) {directory : Path}
    {roots files : List Path}
    (h : Source.files fs (roots.map (absolute fs directory)) = .ok files) :
    Source.ArePlaces fs (roots.map (absolute fs directory)) :=
  arePlaces_of_exist ht fun _ hp => Source.exists_of_files h _ (List.mem_map_of_mem hp)

/-- The files that roots stand for come in order, and each is there under its own path. -/
theorem found_files {fs : FileSystem} (ht : fs.tree.Sound) {directory : Path} {roots files : List Path}
    (h : Source.files fs (roots.map (absolute fs directory)) = .ok files) :
    files.Pairwise (·.key < ·.key) ∧ ∀ p ∈ files, Source.IsFilePath fs p := by
  obtain ⟨ps, hps, hfound⟩ := Source.files_ok ht (arePlaces_of_files ht h)
  obtain rfl := Except.ok.inj (h.symm.trans hps)
  exact hfound

/-- Before anything is written, all files are what they were prepared from. -/
theorem pending_prepare {fs : FileSystem} {options : Options} {globals : List Path}
    {builtins : Builtins} {files : List Path} (hsorted : files.Pairwise (·.key < ·.key))
    (hfiles : ∀ p ∈ files, Source.IsFilePath fs p) :
    Pending fs (files.map (prepare fs options globals builtins)) fs := by
  refine ⟨Alike.refl fs, fun q hq source hsource => ?_, ?_, fun _ _ _ _ => rfl⟩
  · obtain ⟨p, hp, rfl⟩ := List.mem_map.mp hq
    exact exists_replaceable (hfiles p hp) hsource
  · refine List.pairwise_map.mpr (hsorted.imp fun hlt => ?_)
    rintro hsame
    exact absurd (congrArg Path.key hsame) hlt.ne

/-- Finding out the built-in modules changes no file, unless a program does that is asked for them. -/
theorem builtinsFor_snd {host : Host} {ask : Bool} (fs : FileSystem) (env : Environment)
    (h : ask = false ∨ Builtins.OnlyAnswers host.launch) : (builtinsFor host fs env ask).2 = fs := by
  rw [builtinsFor]
  cases ask with
  | false => rfl
  | true =>
      rcases h with hnot | hanswers
      · cases hnot
      · exact Builtins.query_snd hanswers fs env runtimeProgram

/-- A command line that resolves files, with what it finds before it comes to them: it knows the
built-in modules, its options load, and every root is there. -/
structure Resolving where
  host : Host
  fileSystem : FileSystem
  env : Environment
  args : List String
  invocation : Invocation
  request : ResolveRequest
  builtins : Builtins
  /-- As the program that was asked for built-in modules left it. -/
  before : FileSystem
  options : Options
  optionsFile : Option Path
  parsed : parse env args = .ok invocation
  asked : invocation.command = .resolve request
  answered : builtinsFor host fileSystem env request.runtimeBuiltins = (.ok builtins, before)
  sound : before.tree.Sound
  loaded : optionsFor before (invocation.directory.getD (Location.path fileSystem.cwd))
    request.options = .ok (options, optionsFile)
  rootsExist : ∀ root ∈ request.roots, (before.node? (absolute before
    (invocation.directory.getD (Location.path fileSystem.cwd)) root)).isSome = true

namespace Resolving

def directory (r : Resolving) : Path :=
  r.invocation.directory.getD (Location.path r.fileSystem.cwd)

def roots (r : Resolving) : List Path := r.request.roots.map (absolute r.before r.directory)

/-- A file as it is prepared before anything is written. -/
def prepared (r : Resolving) (p : Path) : Prepared :=
  prepare r.before
    { r.options with
      ignoreUnresolved := r.options.ignoreUnresolved || r.request.ignoreUnresolved }
    r.env.globalDirectories r.builtins p

def ending (r : Resolving) : Ending := run r.host r.fileSystem r.env r.args

variable (r : Resolving)

theorem before_eq (h : r.request.runtimeBuiltins = false ∨ Builtins.OnlyAnswers r.host.launch) :
    r.before = r.fileSystem :=
  (congrArg Prod.snd r.answered).symm.trans (builtinsFor_snd r.fileSystem r.env h)

theorem files_ok : ∃ files, Source.files r.before r.roots = .ok files ∧
    files.Pairwise (·.key < ·.key) ∧ ∀ p ∈ files, Source.IsFilePath r.before p :=
  Source.files_ok r.sound (arePlaces_of_exist r.sound r.rootsExist)

theorem ending_eq :
    r.ending = resolve r.host r.before r.env r.invocation.json r.directory r.builtins r.request := by
  rw [ending, run, r.parsed]
  simp only [r.asked, withBuiltins, r.answered]
  rfl

theorem loaded_eq : optionsFor r.before r.directory r.request.options =
    .ok (r.options, r.optionsFile) := r.loaded

variable {r}

theorem prepared_eq {files : List Path} (h : Source.files r.before r.roots = .ok files) :
    r.request.prepared r.before r.env r.directory r.builtins r.options =
      .ok (files.map r.prepared) := by
  rw [ResolveRequest.prepared]
  change (Source.files r.before r.roots >>= _) = _
  rw [h]
  rfl

/-- The failure that stops a run which is to commit these files, if there is one. -/
def failure? (r : Resolving) (files : List Path) : Option (Failure × Path) :=
  if r.request.keepGoing then none else firstFailure? (files.map r.prepared)

theorem ending_of_failure {files : List Path} (h : Source.files r.before r.roots = .ok files)
    {f : Failure} {path : Path} (hf : r.failure? files = some (f, path)) :
    r.ending = stopped r.before (.failure f (some path)) := by
  rw [failure?] at hf
  have hreport : r.request.report r.host r.before r.env r.directory r.builtins =
      (.error (.failure f (some path)), r.before) := by
    rw [ResolveRequest.report, r.loaded_eq]
    simp only [prepared_eq h, hf]
  rw [ending_eq, resolve, hreport]

theorem ending_of_commit {files : List Path} (h : Source.files r.before r.roots = .ok files)
    (hgoes : r.failure? files = none) {reports : List FileReport} {after : FileSystem}
    (hcommit : commit r.host r.request.write r.before (files.map r.prepared) = (.ok reports, after)) :
    r.ending.fileSystem = after ∧ r.ending.problem = none := by
  rw [failure?] at hgoes
  have hreport : r.request.report r.host r.before r.env r.directory r.builtins =
      (.ok ⟨r.optionsFile, r.request.write, reports⟩, after) := by
    rw [ResolveRequest.report, r.loaded_eq]
    simp only [prepared_eq h, hgoes, hcommit]
    rfl
  rw [ending_eq, resolve, hreport]
  exact ⟨rfl, rfl⟩

theorem ending_of_fault {files : List Path} (h : Source.files r.before r.roots = .ok files)
    (hgoes : r.failure? files = none) {fault : Fault} {after : FileSystem}
    (hcommit : commit r.host r.request.write r.before (files.map r.prepared) = (.error fault, after)) :
    r.ending = stopped after (.system fault) := by
  rw [failure?] at hgoes
  have hreport : r.request.report r.host r.before r.env r.directory r.builtins =
      (.error (.system fault), after) := by
    rw [ResolveRequest.report, r.loaded_eq]
    simp only [prepared_eq h, hgoes, hcommit]
    rfl
  rw [ending_eq, resolve, hreport]

/-- Without failures that stop it, a run comes to its commit. -/
theorem goes_on {files : List Path} (h : r.request.keepGoing = true ∨
      ∀ p ∈ files, ∃ source, (r.prepared p).result = .ok source) :
    r.failure? files = none := by
  rw [failure?]
  split_ifs with hkeep
  · rfl
  · have hall := h.resolve_left hkeep
    cases hf : firstFailure? (files.map r.prepared) with
    | none => rfl
    | some failure =>
        obtain ⟨f, path⟩ := failure
        obtain ⟨earlier, q, later, hsplit, -, hq, -⟩ := firstFailure?_eq_some hf
        obtain ⟨p, hp, rfl⟩ := List.mem_map.mp (hsplit ▸ List.mem_append_right earlier
          (List.mem_cons_self : q ∈ q :: later))
        obtain ⟨source, hsource⟩ := hall p hp
        rw [hq] at hsource
        cases hsource

/-- Where some file fails and that stops the run, it ends with the first one that does. -/
theorem stops {files : List Path} (h : Source.files r.before r.roots = .ok files)
    (hsorted : files.Pairwise (·.key < ·.key)) (hkeep : r.request.keepGoing = false)
    (hfails : ∃ p ∈ files, ∃ f, (r.prepared p).result = .error f) :
    ∃ p ∈ files, ∃ f, (r.prepared p).result = .error f ∧
      (∀ q ∈ files, q.key < p.key → ∃ source, (r.prepared q).result = .ok source) ∧
      r.ending = stopped r.before (.failure f (some p)) := by
  cases hf : firstFailure? (files.map r.prepared) with
  | none =>
      obtain ⟨p, hp, f, herror⟩ := hfails
      obtain ⟨source, hsource⟩ := firstFailure?_eq_none hf _ (List.mem_map_of_mem hp)
      rw [herror] at hsource
      cases hsource
  | some failure =>
      obtain ⟨f, path⟩ := failure
      obtain ⟨earlier, q, later, hsplit, hpath, hq, hearlier⟩ := firstFailure?_eq_some hf
      obtain ⟨before, rest, rfl, rfl, hrest⟩ := List.map_eq_append_iff.mp hsplit
      obtain ⟨p, after, rfl, rfl, rfl⟩ := List.map_eq_cons_iff.mp hrest
      obtain rfl : p = path := hpath
      have hstop : r.failure? (before ++ p :: after) = some (f, p) := by
        rw [failure?, hkeep, if_neg (by simp), hf]
      refine ⟨p, by simp, f, hq, fun q hqmem hlt => ?_, ending_of_failure h hstop⟩
      -- What has a smaller key comes earlier.
      rcases List.mem_append.mp hqmem with hqmem | hqmem
      · exact hearlier _ (List.mem_map_of_mem hqmem)
      · have hp := List.pairwise_cons.mp (List.pairwise_append.mp hsorted).2.1
        rcases List.mem_cons.mp hqmem with rfl | hqmem
        · exact absurd hlt (lt_irrefl _)
        · exact absurd (hlt.trans (hp.1 q hqmem)) (lt_irrefl _)

theorem pending {files : List Path} (hsorted : files.Pairwise (·.key < ·.key))
    (hfiles : ∀ p ∈ files, Source.IsFilePath r.before p) :
    Pending r.before (files.map r.prepared) r.before := pending_prepare hsorted hfiles

theorem commits {files : List Path} (h : Source.files r.before r.roots = .ok files)
    (hpending : Pending r.before (files.map r.prepared) r.before) (hwrite : r.request.write = true)
    (hgoes : r.request.keepGoing = true ∨ ∀ p ∈ files, ∃ source,
      (r.prepared p).result = .ok source)
    (hfree : ∀ p ∈ files, ∀ source, (r.prepared p).BecomesText source →
      ∃ tmp, r.before.temporaryLocation p (r.host.draws p) = .ok tmp) :
    r.ending.problem = none ∧
      Progress r.before (files.map r.prepared) r.before r.ending.fileSystem := by
  have hready : ∀ p ∈ files.map r.prepared, ∀ source, p.BecomesText source →
      ∃ tmp, r.before.temporaryLocation p.path (r.host.draws p.path) = .ok tmp := by
    intro q hq source hsource
    obtain ⟨p, hp, rfl⟩ := List.mem_map.mp hq
    exact hfree p hp source hsource
  obtain ⟨reports, after, hcommit⟩ := commit_ok hpending hready
  have hprogress := commit_progress hpending hcommit
  rw [← hwrite] at hcommit
  obtain ⟨hfileSystem, hproblem⟩ := ending_of_commit h (goes_on hgoes) hcommit
  exact ⟨hproblem, hfileSystem ▸ hprogress⟩

/-- A run without a problem has come to its commit, and no write has failed. -/
theorem progress_of_problem {files : List Path} (h : Source.files r.before r.roots = .ok files)
    (hpending : Pending r.before (files.map r.prepared) r.before) (hwrite : r.request.write = true)
    (hproblem : r.ending.problem = none) :
    Progress r.before (files.map r.prepared) r.before r.ending.fileSystem := by
  cases hgoes : r.failure? files with
  | some failure =>
      obtain ⟨f, path⟩ := failure
      rw [ending_of_failure h hgoes] at hproblem
      cases hproblem
  | none =>
      cases hcommit : commit r.host r.request.write r.before (files.map r.prepared) with
      | mk answer after =>
          cases answer with
          | error fault =>
              rw [ending_of_fault h hgoes hcommit] at hproblem
              cases hproblem
          | ok reports =>
              rw [(ending_of_commit h hgoes hcommit).1]
              rw [hwrite] at hcommit
              exact commit_progress hpending hcommit

theorem keeps (h : ∃ files, Source.files r.before r.roots = .ok files)
    (hwrite : r.request.write = false) : r.ending.fileSystem = r.before := by
  obtain ⟨files, h⟩ := h
  cases hgoes : r.failure? files with
  | none =>
      exact (ending_of_commit h hgoes (commit_reported r.host r.before (.inl hwrite))).1
  | some failure =>
      obtain ⟨f, path⟩ := failure
      rw [ending_of_failure h hgoes]
      rfl

variable (r)

/-- A run commits exactly what was prepared, or nothing, whatever programs answer and names are drawn.
Writing is refused only where no file can be made beside the one to be written. -/
theorem commits_or_keeps :
    (r.request.runtimeBuiltins = false ∨ Builtins.OnlyAnswers r.host.launch →
      r.before = r.fileSystem) ∧
    ∃ files, Source.files r.before r.roots = .ok files ∧ files.Pairwise (·.key < ·.key) ∧
      (r.request.write = false → r.ending.fileSystem = r.before) ∧
      (r.request.keepGoing = false → (∃ p ∈ files, ∃ f, (r.prepared p).result = .error f) →
        r.ending.fileSystem = r.before ∧ r.ending.exit = 1 ∧
        ∃ p ∈ files, ∃ f, (r.prepared p).result = .error f ∧
          (∀ q ∈ files, q.key < p.key → ∃ source, (r.prepared q).result = .ok source) ∧
          r.ending.problem = some (.failure f (some p))) ∧
      (r.request.write = true →
        (r.request.keepGoing = true ∨ ∀ p ∈ files, ∃ source, (r.prepared p).result = .ok source) →
        (∀ p ∈ files, ∀ source, (r.prepared p).BecomesText source →
          ∃ tmp, r.before.temporaryLocation p (r.host.draws p) = .ok tmp) →
        r.ending.problem = none ∧
          Committed r.before (files.map r.prepared) r.ending.fileSystem) := by
  obtain ⟨files, h, hsorted, hfiles⟩ := r.files_ok
  refine ⟨r.before_eq, files, h, hsorted, keeps ⟨files, h⟩, fun hkeep hfails => ?_,
    fun hwrite hgoes hfree => ?_⟩
  · obtain ⟨p, hp, f, hf, hfirst, hending⟩ := stops h hsorted hkeep hfails
    rw [hending]
    exact ⟨rfl, rfl, p, hp, f, hf, hfirst, rfl⟩
  · obtain ⟨hproblem, hprogress⟩ := commits h (pending hsorted hfiles) hwrite hgoes hfree
    exact ⟨hproblem, hprogress.committed⟩

end Resolving

/-- A program that knows the embedded modules, and prints their names when it is asked for them. -/
def answering : Launch := fun fs _ _ arguments =>
  if arguments = ["-p", Builtins.question] then
    .ok ⟨.code 0, Text.Utf8.encode (joinLines Builtins.embedded.names), fs.tree⟩
  else .ok ⟨.code 9, [], fs.tree⟩

theorem onlyAnswers_answering : Builtins.OnlyAnswers answering := by
  intro fs known p finished h
  cases h
  rfl

/-- A module, two files that refer to it without its extension, one of them with a byte that forms
no character, and a file that refers to nothing. Elsewhere there is a program. -/
def folder : FileSystem where
  tree := ⟨[(["w"], .directory 0o755),
    (["resolvext.json", "w"], .file (Text.Utf8.encode "\x7b\"extensions\":[\".js\"]\x7d") 0o644),
    (["a.js", "w"], .file [] 0o644),
    (["broken.js", "w"], .file (Text.Utf8.encode "import './gone'") 0o644),
    (["latin.js", "w"], .file (Text.Utf8.encode "import './a'; // " ++ [0xFF]) 0o644),
    (["main.js", "w"], .file (Text.Utf8.encode "import './a'") 0o640),
    (["bin"], .directory 0o755),
    (["node", "bin"], .file [0x7F, 0x45, 0x4C, 0x46] 0o755)]⟩
  cwd := ["w"]

def folderHost : Host where
  launch := answering
  draws := fun _ => ["x8Zk1q"]

def folderEnv : Environment := { programPath := some "/sbin:/bin" }

theorem builtinsFor_folder (ask : Bool) :
    builtinsFor folderHost folder folderEnv ask = (.ok Builtins.embedded, folder) := by
  cases ask with
  | false => rfl
  | true =>
      have hprogram : Builtins.programPath? folder folderEnv runtimeProgram =
          some ⟨"/bin/node"⟩ := by
        decide +kernel
      have hanswer : Builtins.ofFinished ⟨"/bin/node"⟩ ⟨.code 0,
          Text.Utf8.encode (joinLines Builtins.embedded.names), folder.tree⟩ = .ok .embedded :=
        Builtins.ofFinished_printed ⟨"fs", by decide, by decide⟩ (by decide) _ _
      rw [builtinsFor, if_pos rfl, Builtins.query, hprogram]
      simp only [folderHost, answering, if_true, hanswer]
      rfl

/-- The folder's own options. -/
def folderOptions : Options := { extensions := [.keep ".js"], submoduleExtensions := [.keep ".js"] }

theorem optionsFor_folder : optionsFor folder (Location.path folder.cwd) none =
    .ok (folderOptions, some ⟨"/w/resolvext.json"⟩) := by
  decide +kernel

def folderRequest (keepGoing : Bool) : ResolveRequest where
  roots := [⟨"."⟩]
  options := none
  write := true
  check := false
  ignoreUnresolved := false
  keepGoing := keepGoing
  runtimeBuiltins := true

def Resolving.inFolder (keepGoing : Bool) : Resolving where
  host := folderHost
  fileSystem := folder
  env := folderEnv
  args := ["rewrite", "--write", "--runtime-builtins", "."] ++
    if keepGoing then ["--keep-going"] else []
  invocation := ⟨false, none, .resolve (folderRequest keepGoing)⟩
  request := folderRequest keepGoing
  builtins := Builtins.embedded
  before := folder
  options := folderOptions
  optionsFile := some ⟨"/w/resolvext.json"⟩
  parsed := by cases keepGoing <;> decide +kernel
  asked := rfl
  answered := builtinsFor_folder true
  sound := by decide +kernel
  loaded := optionsFor_folder
  rootsExist := by cases keepGoing <;> decide +kernel

def folderFiles : List Path := [⟨"/w/a.js"⟩, ⟨"/w/broken.js"⟩, ⟨"/w/latin.js"⟩, ⟨"/w/main.js"⟩]

theorem files_folder (keepGoing : Bool) :
    Source.files folder (Resolving.inFolder keepGoing).roots = .ok folderFiles := by
  cases keepGoing <;> decide +kernel

theorem exists_temporary : ∀ p ∈ folderFiles, ∃ tmp,
    folder.temporaryLocation p (folderHost.draws p) = .ok tmp := by
  have hok : ∀ p ∈ folderFiles,
      (folder.temporaryLocation p (folderHost.draws p)).isOk = true := by
    decide +kernel
  intro p hp
  have hp := hok p hp
  cases ht : folder.temporaryLocation p (folderHost.draws p) with
  | error fault =>
      rw [ht] at hp
      cases hp
  | ok tmp => exact ⟨tmp, rfl⟩

theorem commits_or_keeps_folder :
    (Resolving.inFolder true).ending.problem = none ∧
      (Resolving.inFolder true).ending.fileSystem.node ⟨"/w/main.js"⟩ =
        .ok (.file (Text.Utf8.encode "import './a.js'") 0o640) ∧
      (Resolving.inFolder false).ending.fileSystem = (Resolving.inFolder false).fileSystem ∧
      (Resolving.inFolder false).ending.exit = 1 := by
  have hmain : ((Resolving.inFolder true).prepared ⟨"/w/main.js"⟩).BecomesText
      ⟨"import './a.js'", [⟨⟨"./a", .imported, 8, 11, 1⟩, ⟨"./a", .file, .replaced "./a.js"⟩⟩]⟩ := by
    exact ⟨by decide +kernel, by decide +kernel⟩
  have hbroken : ((Resolving.inFolder false).prepared ⟨"/w/broken.js"⟩).result =
      .error (.pathUnresolved "./gone" ⟨"/w/./gone"⟩) := by
    decide +kernel
  obtain ⟨-, files, h, -, -, -, hcommits⟩ := (Resolving.inFolder true).commits_or_keeps
  obtain rfl : folderFiles = files := Except.ok.inj ((files_folder true).symm.trans h)
  obtain ⟨hproblem, hcommitted⟩ := hcommits rfl (.inl rfl) fun p hp _ _ => exists_temporary p hp
  obtain ⟨old, mode, hold, hnew⟩ := hcommitted.changed _
    (List.mem_map_of_mem (List.mem_of_getElem? (i := 3) rfl)) _ hmain
  obtain ⟨hbefore, files, h, -, -, hstops, -⟩ := (Resolving.inFolder false).commits_or_keeps
  obtain rfl : folderFiles = files := Except.ok.inj ((files_folder false).symm.trans h)
  obtain ⟨hkept, hexit, -⟩ := hstops rfl ⟨_, List.mem_of_getElem? (i := 1) rfl, _, hbroken⟩
  have hmode : folder.node ⟨"/w/main.js"⟩ = .ok (.file (Text.Utf8.encode "import './a'") 0o640) := by
    decide +kernel
  cases hold.symm.trans hmode
  exact ⟨hproblem, hnew, hkept.trans (hbefore (.inr onlyAnswers_answering)), hexit⟩

end ImportResolver.CommandLine

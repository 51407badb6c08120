import ImportResolver.Proofs.CommandLine.Resolving
/- What the report of a run says: an entry for each file, in order, as the file was prepared, and a
summary that tells how many files there are, how many change, by how much, and how many fail. -/
namespace ImportResolver.CommandLine

open FileSystem

/-- The directory that a command works in. -/
def Invocation.directoryIn (i : Invocation) (fs : FileSystem) : Path :=
  i.directory.getD (Location.path fs.cwd)

theorem run_resolve {host : Host} {fs : FileSystem} {env : Environment} {args : List String}
    {i : Invocation} {r : ResolveRequest} (hparse : parse env args = .ok i)
    (hask : i.command = .resolve r) :
    run host fs env args = withBuiltins host fs env r.runtimeBuiltins fun fs' builtins =>
      resolve host fs' env i.json (i.directoryIn fs) builtins r := by
  rw [run, hparse]
  simp only [hask]
  rfl

namespace FileReport

end FileReport

/-- The options that a request comes to. -/
def ResolveRequest.effective (r : ResolveRequest) (options : Options) : Options :=
  { options with ignoreUnresolved := options.ignoreUnresolved || r.ignoreUnresolved }

theorem ResolveRequest.prepared_eq (r : ResolveRequest) (fs : FileSystem) (env : Environment)
    (directory : Path) (builtins : Builtins) (options : Options) :
    r.prepared fs env directory builtins options =
      (Source.files fs (r.roots.map (absolute fs directory))).map fun files =>
        files.map (prepare fs (r.effective options) env.globalDirectories builtins) := by
  rw [prepared]
  cases Source.files fs (r.roots.map (absolute fs directory)) <;> rfl

/-- Where a report comes from. -/
structure Reports (host : Host) (fs : FileSystem) (env : Environment) (directory : Path)
    (builtins : Builtins) (r : ResolveRequest) (options : Options) (files : List Path)
    (report : Report) (after : FileSystem) : Prop where
  loaded : optionsFor fs directory r.options = .ok (options, report.optionsFile)
  found : Source.files fs (r.roots.map (absolute fs directory)) = .ok files
  goes : (if r.keepGoing then none else firstFailure? (files.map
    (prepare fs (r.effective options) env.globalDirectories builtins))) = none
  committed : commit host r.write fs (files.map
    (prepare fs (r.effective options) env.globalDirectories builtins)) = (.ok report.files, after)
  write : report.write = r.write

/-- The same request for other roots. -/
def ResolveRequest.withRoots (r : ResolveRequest) (roots : List Path) : ResolveRequest :=
  { r with roots := roots }

section

variable {host : Host} {fs : FileSystem} {env : Environment} {directory : Path}
  {builtins : Builtins} {r : ResolveRequest} {report : Report} {after : FileSystem}

theorem exists_reports (h : r.report host fs env directory builtins = (.ok report, after)) :
    ∃ options files, Reports host fs env directory builtins r options files report after := by
  rw [ResolveRequest.report] at h
  cases hoptions : optionsFor fs directory r.options with
  | error f =>
      rw [hoptions] at h
      cases h
  | ok loaded =>
      obtain ⟨options, file⟩ := loaded
      simp only [hoptions, ResolveRequest.prepared_eq] at h
      cases hfiles : Source.files fs (r.roots.map (absolute fs directory)) with
      | error fault =>
          rw [hfiles] at h
          cases h
      | ok files =>
          simp only [hfiles, Except.map] at h
          split at h
          · cases h
          · next hgoes =>
            cases hcommit : commit host r.write fs (files.map
                (prepare fs (r.effective options) env.globalDirectories builtins)) with
            | mk answer next =>
                rw [hcommit] at h
                cases answer with
                | error fault => cases h
                | ok reports =>
                    cases h
                    exact ⟨options, files, hoptions, hfiles, hgoes, hcommit, rfl⟩

theorem Reports.report_eq {options : Options} {files : List Path}
    (h : Reports host fs env directory builtins r options files report after) :
    r.report host fs env directory builtins = (.ok report, after) := by
  rw [ResolveRequest.report, h.loaded]
  simp only [ResolveRequest.prepared_eq, h.found, Except.map, h.goes, h.committed]
  rw [← h.write]
  rfl

/-- Where nothing is written and no failure stops the run, a report has an entry for every file. -/
theorem report_of_files (hkeep : r.keepGoing = true) (hwrite : r.write = false) {options : Options}
    {file : Option Path} (hoptions : optionsFor fs directory r.options = .ok (options, file))
    {roots files : List Path}
    (hfiles : Source.files fs (roots.map (absolute fs directory)) = .ok files) :
    (r.withRoots roots).report host fs env directory builtins =
      (.ok ⟨file, false, files.map fun p =>
        (prepare fs (r.effective options) env.globalDirectories builtins p).reported⟩,
        fs) := by
  have hreports : Reports host fs env directory builtins (r.withRoots roots) options files
      ⟨file, false, (files.map (prepare fs (r.effective options) env.globalDirectories
        builtins)).map Prepared.reported⟩ fs := by
    refine ⟨hoptions, hfiles, ?_, commit_reported host fs (.inl hwrite), hwrite.symm⟩
    change (if r.keepGoing then none else _) = none
    rw [hkeep, if_pos rfl]
  rw [hreports.report_eq, List.map_map]
  rfl

end

def folderReport (files : List FileReport) : Report := ⟨some ⟨"/w/resolvext.json"⟩, false, files⟩

def someFilesRequest (roots : List Path) : ResolveRequest where
  roots := roots
  options := none
  write := false
  check := false
  ignoreUnresolved := false
  keepGoing := true
  runtimeBuiltins := true

def mainEntry : FileReport where
  path := ⟨"/w/main.js"⟩
  sites := [⟨⟨"./a", .imported, 8, 11, 1⟩, ⟨"./a", .file, .replaced "./a.js"⟩⟩]

def brokenEntry : FileReport where
  path := ⟨"/w/broken.js"⟩
  failure := some (.pathUnresolved "./gone" ⟨"/w/./gone"⟩)

/-- A file of the folder as it is prepared for a run without settings. -/
def preparedInFolder (p : Path) : Prepared :=
  prepare folder folderOptions folderEnv.globalDirectories Builtins.embedded p

theorem reported_main :
    (preparedInFolder ⟨"/w/main.js"⟩).reported = mainEntry := by
  decide +kernel

theorem reported_broken :
    (preparedInFolder ⟨"/w/broken.js"⟩).reported = brokenEntry := by
  decide +kernel

theorem report_someFiles {roots files : List Path}
    (hfiles : Source.files folder (roots.map (absolute folder ⟨"/w"⟩)) = .ok files) :
    (someFilesRequest roots).report folderHost folder folderEnv ⟨"/w"⟩ Builtins.embedded =
      (.ok (folderReport (files.map fun p => (preparedInFolder p).reported)), folder) := by
  have hreport := @report_of_files folderHost folder folderEnv ⟨"/w"⟩ Builtins.embedded
    (someFilesRequest roots) rfl rfl _ _ optionsFor_folder _ _ hfiles
  have heffective : (someFilesRequest roots).effective folderOptions = folderOptions := rfl
  rw [heffective] at hreport
  exact hreport

end ImportResolver.CommandLine

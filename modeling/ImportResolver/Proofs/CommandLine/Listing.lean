import ImportResolver.Proofs.CommandLine.Reporting
import ImportResolver.Proofs.Source.Roots
/- How the paths of a command line are listed makes no difference to its run, and a run on the paths
of two command lines reports what their runs do. -/
namespace ImportResolver.CommandLine

open FileSystem

def Invocation.withRequest (i : Invocation) (r : ResolveRequest) : Invocation :=
  { i with command := .resolve r }

section

variable {host : Host} {fs before : FileSystem} {env : Environment} {directory : Path}
  {builtins : Builtins} {r : ResolveRequest}

theorem resolve_congr {roots : List Path} (json : Bool)
    (h : Source.files before (roots.map (absolute before directory)) =
      Source.files before (r.roots.map (absolute before directory))) :
    resolve host before env json directory builtins (r.withRoots roots) =
      resolve host before env json directory builtins r := by
  have hprepared (options : Options) :
      (r.withRoots roots).prepared before env directory builtins options =
        r.prepared before env directory builtins options := by
    rw [ResolveRequest.prepared_eq, ResolveRequest.prepared_eq]
    exact congrArg _ h
  rw [resolve, resolve, ResolveRequest.report, ResolveRequest.report]
  simp only [hprepared]
  rfl

/-- The entries of two reports in one, in the order of their paths and none twice. -/
structure Merged (first second both : Report) : Prop where
  options : first.optionsFile = both.optionsFile ∧ second.optionsFile = both.optionsFile
  ordered : both.files.Pairwise (·.path.key < ·.path.key)
  entries : ∀ e, e ∈ both.files ↔ e ∈ first.files ∨ e ∈ second.files

/-- That a request comes to a report, if it is to go on after failures and to write nothing. -/
theorem exists_report_iff (hkeep : r.keepGoing = true) (hwrite : r.write = false)
    (roots : List Path) :
    (∃ report, ((r.withRoots roots).report host before env directory builtins).1 = .ok report) ↔
      (∃ loaded, optionsFor before directory r.options = .ok loaded) ∧
        ∃ files, Source.files before (roots.map (absolute before directory)) = .ok files := by
  constructor
  · rintro ⟨report, h⟩
    obtain ⟨options, files, hreports⟩ := exists_reports (Prod.ext h rfl)
    exact ⟨⟨_, hreports.loaded⟩, files, hreports.found⟩
  · rintro ⟨⟨⟨options, file⟩, hoptions⟩, files, hfiles⟩
    rw [report_of_files hkeep hwrite hoptions hfiles]
    exact ⟨_, rfl⟩

variable {roots others : List Path}

theorem exists_files_append_iff (ht : before.tree.Sound) :
    (∃ files, Source.files before ((roots ++ others).map (absolute before directory)) =
        .ok files) ↔
      (∃ files, Source.files before (roots.map (absolute before directory)) = .ok files) ∧
        ∃ files, Source.files before (others.map (absolute before directory)) = .ok files := by
  have hplaces {roots : List Path} :
      (∃ files, Source.files before (roots.map (absolute before directory)) = .ok files) ↔
        Source.ArePlaces before (roots.map (absolute before directory)) := by
    constructor
    · rintro ⟨files, h⟩
      exact arePlaces_of_files ht h
    · intro h
      obtain ⟨files, hfiles, -⟩ := Source.files_ok ht h
      exact ⟨files, hfiles⟩
  rw [hplaces, hplaces, hplaces, List.map_append]
  exact List.forall_mem_append

theorem merged_of_reports (ht : before.tree.Sound) (hkeep : r.keepGoing = true)
    (hwrite : r.write = false) {first second both : Report}
    (hfirst : ((r.withRoots roots).report host before env directory builtins).1 = .ok first)
    (hsecond : ((r.withRoots others).report host before env directory builtins).1 = .ok second)
    (hboth : ((r.withRoots (roots ++ others)).report host before env directory builtins).1 = .ok both) :
    Merged first second both := by
  obtain ⟨⟨⟨options, file⟩, hoptions⟩, files, hfiles⟩ :=
    (exists_report_iff hkeep hwrite roots).mp ⟨first, hfirst⟩
  obtain ⟨-, files', hfiles'⟩ := (exists_report_iff hkeep hwrite others).mp ⟨second, hsecond⟩
  obtain ⟨-, all, hall⟩ := (exists_report_iff hkeep hwrite (roots ++ others)).mp ⟨both, hboth⟩
  rw [report_of_files hkeep hwrite hoptions hfiles] at hfirst
  rw [report_of_files hkeep hwrite hoptions hfiles'] at hsecond
  rw [report_of_files hkeep hwrite hoptions hall] at hboth
  cases hfirst
  cases hsecond
  cases hboth
  have hmem (p : Path) : p ∈ all ↔ p ∈ files ∨ p ∈ files' := by
    rw [Source.mem_files_iff ht (arePlaces_of_files ht hall) hall,
      Source.mem_files_iff ht (arePlaces_of_files ht hfiles) hfiles,
      Source.mem_files_iff ht (arePlaces_of_files ht hfiles') hfiles']
    simp only [List.map_append, List.mem_append, or_and_right, exists_or]
  have hpath (p : Path) : (prepare before (r.effective options) env.globalDirectories builtins
      p).reported.path = p := by
    rw [Prepared.reported]
    cases (prepare before (r.effective options) env.globalDirectories builtins p).result <;> rfl
  refine ⟨⟨rfl, rfl⟩, List.pairwise_map.mpr ?_, fun e => ?_⟩
  · simp only [hpath]
    exact (found_files ht hall).1
  · simp only [List.mem_map, hmem, or_and_right, exists_or]

/-- A run that writes nothing and shows a report. -/
structure Shows (host : Host) (before : FileSystem) (env : Environment) (json : Bool)
    (directory : Path) (builtins : Builtins) (r : ResolveRequest) (ending : Ending)
    (report : Report) : Prop where
  reported : r.report host before env directory builtins = (.ok report, before)
  ending : ending =
    { exit := if report.isFailing r.check then 1 else 0
      output := printed json report.toJson (report.lines directory)
      fileSystem := before }

theorem shows_iff {args : List String} {i : Invocation} {r : ResolveRequest}
    (hparse : parse env args = .ok i) (hask : i.command = .resolve r)
    (hanswer : builtinsFor host fs env r.runtimeBuiltins = (.ok builtins, before)) (report : Report) :
    Shows host before env i.json (i.directoryIn fs) builtins r (run host fs env args) report ↔
      r.report host before env (i.directoryIn fs) builtins = (.ok report, before) := by
  refine ⟨Shows.reported, fun h => ⟨h, ?_⟩⟩
  rw [run_resolve hparse hask, withBuiltins, hanswer]
  simp only [resolve, h]

theorem reported_iff (hkeep : r.keepGoing = true) (hwrite : r.write = false) (roots : List Path)
    (report : Report) :
    (r.withRoots roots).report host before env directory builtins = (.ok report, before) ↔
      ((r.withRoots roots).report host before env directory builtins).1 = .ok report := by
  refine ⟨congrArg Prod.fst, fun h => Prod.ext h ?_⟩
  obtain ⟨⟨⟨options, file⟩, hoptions⟩, files, hfiles⟩ :=
    (exists_report_iff hkeep hwrite roots).mp ⟨report, h⟩
  rw [report_of_files hkeep hwrite hoptions hfiles]

end

/-- Neither the order nor the repetition of paths that are there matters to a run. A run that writes
nothing and goes on after failures shows a report for the paths of two command lines together if it
does for each of them, and its entries are theirs, in order and none twice. -/
theorem paths_in_any_listing {host : Host} {fs before : FileSystem} {env : Environment}
    {args : List String} {i : Invocation} {r : ResolveRequest} {answer : Except Failure Builtins}
    (hparse : parse env args = .ok i) (hask : i.command = .resolve r)
    (hanswer : builtinsFor host fs env r.runtimeBuiltins = (answer, before)) (ht : before.tree.Sound) :
    (∀ args' roots, parse env args' = .ok (i.withRequest (r.withRoots roots)) →
      (∀ root, root ∈ roots ↔ root ∈ r.roots) →
      (∀ root ∈ r.roots,
        (before.node? (absolute before (i.directoryIn fs) root)).isSome = true) →
      run host fs env args' = run host fs env args) ∧
    (r.keepGoing = true → r.write = false → ∀ builtins, answer = .ok builtins →
      ∀ others args₂ args₁₂, parse env args₂ = .ok (i.withRequest (r.withRoots others)) →
      parse env args₁₂ = .ok (i.withRequest (r.withRoots (r.roots ++ others))) →
      let Shows := Shows host before env i.json (i.directoryIn fs) builtins
      ((∃ both, Shows (r.withRoots (r.roots ++ others)) (run host fs env args₁₂) both) ↔
        (∃ first, Shows r (run host fs env args) first) ∧
          ∃ second, Shows (r.withRoots others) (run host fs env args₂) second) ∧
      ∀ first second both, Shows r (run host fs env args) first →
        Shows (r.withRoots others) (run host fs env args₂) second →
        Shows (r.withRoots (r.roots ++ others)) (run host fs env args₁₂) both →
        Merged first second both) := by
  constructor
  · intro args' roots hparse' hsame hexist
    have hanswer' : builtinsFor host fs env (r.withRoots roots).runtimeBuiltins = (answer, before) :=
      hanswer
    rw [run_resolve hparse hask, run_resolve hparse' rfl, withBuiltins, withBuiltins, hanswer,
      hanswer']
    cases answer with
    | error f => rfl
    | ok builtins =>
        refine resolve_congr i.json (Source.files_congr ht (arePlaces_of_exist ht hexist) ?_)
        intro root
        simp only [List.mem_map, hsame]
  · intro hkeep hwrite builtins hok others args₂ args₁₂ hparse₂ hparse₁₂
    subst hok
    have hfirst (report : Report) := (shows_iff hparse hask hanswer report).trans
      (@reported_iff host before env _ builtins r hkeep hwrite r.roots report)
    have hsecond (report : Report) := (shows_iff hparse₂ rfl hanswer report).trans
      (reported_iff hkeep hwrite others report)
    have hboth (report : Report) := (shows_iff hparse₁₂ rfl hanswer report).trans
      (reported_iff hkeep hwrite (r.roots ++ others) report)
    simp only [Invocation.withRequest, Invocation.directoryIn] at hfirst hsecond hboth ⊢
    simp only [hfirst, hsecond, hboth, exists_report_iff hkeep hwrite]
    refine ⟨?_, fun first second both h₁ h₂ h₁₂ => merged_of_reports ht hkeep hwrite h₁ h₂ h₁₂⟩
    rw [exists_files_append_iff ht]
    tauto

/-- Two files that are listed in another order and one of them twice, and the reports on each. -/
theorem paths_in_any_listing_folder :
    run folderHost folder folderEnv
        ["rewrite", "main.js", "--keep-going", "--runtime-builtins", "--", "broken.js", "main.js"] =
        run folderHost folder folderEnv
          ["rewrite", "--keep-going", "--runtime-builtins", "broken.js", "main.js"] ∧
      Merged (folderReport [brokenEntry]) (folderReport [mainEntry])
        (folderReport [brokenEntry, mainEntry]) := by
  have hparse : parse folderEnv
      ["rewrite", "--keep-going", "--runtime-builtins", "broken.js", "main.js"] =
        .ok ⟨false, none, .resolve (someFilesRequest [⟨"broken.js"⟩, ⟨"main.js"⟩])⟩ := by
    decide +kernel
  have hbroken : parse folderEnv ["rewrite", "--keep-going", "--runtime-builtins", "broken.js"] =
      .ok ⟨false, none, .resolve (someFilesRequest [⟨"broken.js"⟩])⟩ := by
    decide +kernel
  have hanswer := builtinsFor_folder true
  have hshows (args : List String) (roots files : List Path)
      (hparse : parse folderEnv args = .ok ⟨false, none, .resolve (someFilesRequest roots)⟩)
      (hfiles : Source.files folder (roots.map (absolute folder ⟨"/w"⟩)) = .ok files) :
      Shows folderHost folder folderEnv false ⟨"/w"⟩ Builtins.embedded (someFilesRequest roots)
        (run folderHost folder folderEnv args)
        (folderReport (files.map fun p => (preparedInFolder p).reported)) :=
    (shows_iff hparse rfl hanswer _).mpr (report_someFiles hfiles)
  have hsound : folder.tree.Sound := by decide +kernel
  constructor
  · refine (paths_in_any_listing hparse rfl hanswer hsound).1 _
      [⟨"main.js"⟩, ⟨"broken.js"⟩, ⟨"main.js"⟩] (by decide +kernel) ?_ (by decide +kernel)
    simp [someFilesRequest]
  · rw [← reported_main, ← reported_broken]
    refine ((paths_in_any_listing hbroken rfl hanswer hsound).2 rfl rfl Builtins.embedded rfl
      [⟨"main.js"⟩] ["rewrite", "--keep-going", "--runtime-builtins", "main.js"]
      ["rewrite", "--keep-going", "--runtime-builtins", "broken.js", "main.js"]
      (by decide +kernel) hparse).2 _ _ _ ?_ ?_ ?_
    · exact hshows _ _ [⟨"/w/broken.js"⟩] hbroken (by decide +kernel)
    · exact hshows _ _ [⟨"/w/main.js"⟩] (by decide +kernel) (by decide +kernel)
    · exact hshows _ _ [⟨"/w/broken.js"⟩, ⟨"/w/main.js"⟩] hparse (by decide +kernel)

end ImportResolver.CommandLine

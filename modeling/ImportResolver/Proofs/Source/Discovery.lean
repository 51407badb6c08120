import ImportResolver.Proofs.FileSystem.Walk
import ImportResolver.Proofs.Source.Roots
/- Which files are found. A walk goes from a root through directories, past those that are hidden or
hold packages, and never through a link. The files found are those in its way that have one of the
extensions, and the roots that are files themselves. Directories are taken to be readable. -/
namespace ImportResolver.Source

open FileSystem

/-- The directories that a walk comes to, by their paths from the root and by their locations. The
root itself may bear any name. -/
inductive Visits (fs : FileSystem) (root : Path) (top : Location) : Path → Location → Prop
  | root : Visits fs root top root top
  | child {d : Path} {loc : Location} {name : String} {mode : Nat} : Visits fs root top d loc →
      fs.tree.get? (name :: loc) = some (.directory mode) →
      name ≠ "node_modules" → name.toList.head? ≠ some '.' →
      Visits fs root top (d.join name) (name :: loc)

/-- The files that a root stands for. -/
inductive Lists (fs : FileSystem) (root : Path) : Path → Prop
  | itself : fs.isFile root = true → Lists fs root root
  | below {top loc : Location} {d : Path} {name e : String} {mode : Nat} {n : Node} :
      fs.locate root true = .ok top → fs.tree.get? top = some (.directory mode) →
      Visits fs root top d loc → fs.tree.get? (name :: loc) = some n → n.isFile = true →
      (d.join name).extension? = some e → e ∈ fileExtensions → Lists fs root (d.join name)

variable {fs : FileSystem} {root p q d : Path} {top loc : Location} {ps found : List Path}

theorem isSkipped_eq_false_iff {name : String} :
    isSkipped name = false ↔ name ≠ "node_modules" ∧ name.toList.head? ≠ some '.' := by
  simp [isSkipped]

theorem isSourceFile_iff : isSourceFile p = true ↔ ∃ e, p.extension? = some e ∧ e ∈ fileExtensions := by
  simp [isSourceFile, Option.any_eq_true]

/-- A walk comes to a directory if it passes over none of those in between. -/
theorem visits_iff (ht : fs.tree.Sound) (htop : (fs.tree.get? top).any Node.isDirectory = true) :
    Visits fs root top d loc ↔ ∃ names, loc = names ++ top ∧ d = names.reverse.foldl Path.join root ∧
      (∀ name ∈ names, isSkipped name = false) ∧ (fs.tree.get? loc).any Node.isDirectory = true := by
  constructor
  · -- Along the walk: each directory adds its name to those in between.
    intro h
    induction h with
    | root => exact ⟨[], rfl, rfl, List.forall_mem_nil _, htop⟩
    | @child d loc name mode _ hdir hpackages hhidden ih =>
        obtain ⟨names, rfl, rfl, hnames, -⟩ := ih
        have hname : isSkipped name = false := isSkipped_eq_false_iff.mpr ⟨hpackages, hhidden⟩
        refine ⟨name :: names, rfl, ?_, List.forall_mem_cons.mpr ⟨hname, hnames⟩, by rw [hdir]; rfl⟩
        simp
  · rintro ⟨names, rfl, rfl, hnames, hdir⟩
    induction names with
    | nil => exact .root
    | cons name names ih =>
        obtain ⟨hname, hnames⟩ := List.forall_mem_cons.mp hnames
        obtain ⟨mode, hmode⟩ := eq_directory hdir
        obtain ⟨hpackages, hhidden⟩ := isSkipped_eq_false_iff.mp hname
        have hpath : (name :: names).reverse.foldl Path.join root =
            (names.reverse.foldl Path.join root).join name := by simp
        rw [hpath]
        exact .child (ih hnames (ht.isDirectory_tail hdir)) hmode hpackages hhidden

theorem sourceBelow?_cons (names : List String) (name : String) (n : Node) :
    sourceBelow? root top (name :: (names ++ top), n) =
      if n.isFile && isSourceFile ((names.reverse.foldl Path.join root).join name) &&
          !names.reverse.any isSkipped then
        some ((names.reverse.foldl Path.join root).join name)
      else none := by
  have hbelow : namesBelow? top (name :: (names ++ top)) = some (names.reverse ++ [name]) := by
    have hdrop : Text.dropTail? top (name :: (names ++ top)) = some (name :: names) :=
      Text.dropTail?_eq_some_iff.mpr rfl
    rw [namesBelow?, hdrop, Option.map_some, List.reverse_cons]
  simp [sourceBelow?, hbelow]

/-- An entry that is found stands below the root. -/
theorem exists_of_sourceBelow? {n : Node} (h : sourceBelow? root top (loc, n) = some p) :
    ∃ name names, loc = name :: (names ++ top) := by
  rw [sourceBelow?] at h
  obtain ⟨names, hnames, h⟩ := Option.bind_eq_some_iff.mp h
  obtain ⟨below, hbelow, rfl⟩ := Option.map_eq_some_iff.mp hnames
  have hloc : below ++ top = loc := Text.dropTail?_eq_some_iff.mp hbelow
  cases below with
  | nil => simp at h
  | cons name names => exact ⟨name, names, hloc.symm⟩

/-- The entries below a directory that are found are the files in the way of the walk. -/
theorem mem_sources_iff (ht : fs.tree.Sound)
    (htop : (fs.tree.get? top).any Node.isDirectory = true) :
    p ∈ fs.tree.entries.filterMap (sourceBelow? root top) ↔
      ∃ d loc name n, Visits fs root top d loc ∧ fs.tree.get? (name :: loc) = some n ∧
        n.isFile = true ∧ isSourceFile p = true ∧ p = d.join name := by
  rw [List.mem_filterMap]
  constructor
  · rintro ⟨⟨loc, n⟩, hmem, hsource⟩
    obtain ⟨name, names, rfl⟩ := exists_of_sourceBelow? hsource
    have hnode := ht.get?_of_mem hmem (by simp)
    rw [sourceBelow?_cons] at hsource
    obtain ⟨hfound, hpath⟩ := Option.ite_none_right_eq_some.mp hsource
    obtain rfl := Option.some.inj hpath
    simp only [Bool.and_eq_true, Bool.not_eq_true', List.any_eq_false, List.mem_reverse,
      Bool.not_eq_true] at hfound
    obtain ⟨⟨hfile, hextension⟩, hnames⟩ := hfound
    have hvisits : Visits fs root top (names.reverse.foldl Path.join root) (names ++ top) :=
      (visits_iff ht htop).mpr ⟨names, rfl, rfl, hnames, ht.isDirectory_parent hnode⟩
    exact ⟨_, _, name, n, hvisits, hnode, hfile, hextension, rfl⟩
  · rintro ⟨d, loc, name, n, hvisits, hnode, hfile, hextension, rfl⟩
    obtain ⟨names, rfl, rfl, hnames, -⟩ := (visits_iff ht htop).mp hvisits
    refine ⟨_, Tree.mem_of_get? hnode (by simp), ?_⟩
    rw [sourceBelow?_cons]
    refine if_pos ?_
    simp only [Bool.and_eq_true, Bool.not_eq_true', List.any_eq_false, List.mem_reverse,
      Bool.not_eq_true]
    exact ⟨⟨hfile, hextension⟩, hnames⟩

theorem filesOf_eq {n : Node} (hloc : fs.locate root true = .ok top)
    (hn : fs.tree.get? top = some n) :
    filesOf fs root = .ok (if n.isDirectory then fs.tree.entries.filterMap (sourceBelow? root top)
      else if n.isFile then [root] else []) := by
  simp only [filesOf, hloc, bind, Except.bind, hn]
  cases n <;> rfl

theorem lists_of_directory (hloc : fs.locate root true = .ok top)
    (htop : (fs.tree.get? top).any Node.isDirectory = true) : Lists fs root p ↔
      ∃ d loc name n, Visits fs root top d loc ∧ fs.tree.get? (name :: loc) = some n ∧
        n.isFile = true ∧ isSourceFile p = true ∧ p = d.join name := by
  obtain ⟨mode, hmode⟩ := eq_directory htop
  constructor
  · intro hlists
    cases hlists with
    | itself hfile =>
        rw [isFile, node?_eq_some_iff.mpr ⟨top, hloc, hmode⟩] at hfile
        cases hfile
    | below hloc' _ hvisits hnode hfile he hmem =>
        obtain rfl := Except.ok.inj (hloc.symm.trans hloc')
        exact ⟨_, _, _, _, hvisits, hnode, hfile, isSourceFile_iff.mpr ⟨_, he, hmem⟩, rfl⟩
  · rintro ⟨d, loc, name, n, hvisits, hnode, hfile, hsource, rfl⟩
    obtain ⟨e, he, hmem⟩ := isSourceFile_iff.mp hsource
    exact .below hloc hmode hvisits hnode hfile he hmem

theorem lists_of_other (hloc : fs.locate root true = .ok top)
    (htop : (fs.tree.get? top).any Node.isDirectory = false) :
    Lists fs root p ↔ p = root ∧ fs.isFile root = true := by
  constructor
  · intro hlists
    cases hlists with
    | itself hfile => exact ⟨rfl, hfile⟩
    | below hloc' hmode _ _ _ _ _ =>
        obtain rfl := Except.ok.inj (hloc.symm.trans hloc')
        rw [hmode] at htop
        cases htop
  · rintro ⟨rfl, hfile⟩
    exact .itself hfile

/-- A root that is there stands for the files that its walk lists. -/
theorem filesOf_lists (ht : fs.tree.Sound) (h : (fs.node? root).isSome = true) :
    ∃ found, filesOf fs root = .ok found ∧ ∀ p, p ∈ found ↔ Lists fs root p := by
  obtain ⟨n, hroot⟩ := Option.isSome_iff_exists.mp h
  obtain ⟨top, hloc, hn⟩ := node?_eq_some_iff.mp hroot
  have htop : (fs.tree.get? top).any Node.isDirectory = n.isDirectory := by rw [hn]; rfl
  refine ⟨_, filesOf_eq hloc hn, fun p => ?_⟩
  cases hdir : n.isDirectory with
  | true =>
      rw [hdir] at htop
      rw [if_pos rfl, mem_sources_iff ht htop, lists_of_directory hloc htop]
  | false =>
      rw [hdir] at htop
      have hfile : fs.isFile root = n.isFile := by rw [isFile, hroot]; rfl
      rw [if_neg Bool.false_ne_true, lists_of_other hloc htop, hfile]
      cases n.isFile <;> simp

/-- Files are found exactly if every root is there. -/
theorem exists_files_iff {roots : List Path} :
    (∃ ps, files fs roots = .ok ps) ↔ ∀ root ∈ roots, (fs.node? root).isSome = true := by
  constructor
  · rintro ⟨ps, h⟩
    exact exists_of_files h
  · intro h
    obtain ⟨found, hfound⟩ : ∃ found, roots.mapM (filesOf fs) = .ok found := by
      induction roots with
      | nil => exact ⟨[], rfl⟩
      | cons root roots ih =>
          obtain ⟨hroot, hroots⟩ := List.forall_mem_cons.mp h
          obtain ⟨n, hn⟩ := Option.isSome_iff_exists.mp hroot
          obtain ⟨top, hloc, hget⟩ := node?_eq_some_iff.mp hn
          obtain ⟨rest, hrest⟩ := ih hroots
          rw [List.mapM_cons, filesOf_eq hloc hget, hrest]
          exact ⟨_, rfl⟩
    rw [files, hfound]
    exact ⟨_, rfl⟩

/-- Exactly the files that some root stands for are found, in order, and of those whose paths have the
same components, one. Only a root that is not there is an error. -/
theorem files_exact (ht : fs.tree.Sound) (roots : List Path) :
    ((∃ fault, files fs roots = .error fault) ↔ ∃ root ∈ roots, fs.node? root = none) ∧
    ∀ ps, files fs roots = .ok ps →
      ps.Pairwise (·.key < ·.key) ∧
      (∀ p ∈ ps, ∃ root ∈ roots, Lists fs root p) ∧
      ∀ root ∈ roots, ∀ p, Lists fs root p → ∃ q ∈ ps, q.components = p.components := by
  refine ⟨?_, fun ps hps => ?_⟩
  · have hfails : (∃ fault, files fs roots = .error fault) ↔ ¬ ∃ ps, files fs roots = .ok ps := by
      cases files fs roots with
      | error fault => simp
      | ok ps => simp
    rw [hfails, exists_files_iff]
    simp
  · have hroots := exists_of_files hps
    obtain ⟨found, hfound, rfl⟩ := found_of_files hps
    refine ⟨pairwise_foldl_insertPath _ List.Pairwise.nil, fun p hp => ?_, fun root hroot p hp => ?_⟩
    · have hflat := (mem_foldl_insertPath hp).resolve_right List.not_mem_nil
      obtain ⟨root, hroot, qs, hqs, hp⟩ := (mem_flatten_iff hfound).mp hflat
      obtain ⟨listed, hlisted, hlists⟩ := filesOf_lists ht (hroots root hroot)
      obtain rfl := Except.ok.inj (hqs.symm.trans hlisted)
      exact ⟨root, hroot, (hlists p).mp hp⟩
    · obtain ⟨listed, hlisted, hlists⟩ := filesOf_lists ht (hroots root hroot)
      have hflat := (mem_flatten_iff hfound).mpr ⟨root, hroot, listed, hlisted, (hlists p).mpr hp⟩
      obtain ⟨q, hq, hkey⟩ := exists_key_foldl_insertPath hflat []
      exact ⟨q, hq, List.map_injective_iff.mpr Path.Component.key_injective hkey⟩

/-- A directory with files, hidden ones, links and packages. -/
def crowded : FileSystem :=
  ⟨⟨[(["s"], .directory 0o755), (["a.js", "s"], .file [] 0o644), (["b.txt", "s"], .file [] 0o644),
    ([".c.js", "s"], .file [] 0o644), (["l.js", "s"], .link "a.js"), (["m", "s"], .link "../s"),
    ([".d", "s"], .directory 0o755), (["e.ts", ".d", "s"], .file [] 0o644),
    (["node_modules", "s"], .directory 0o755), (["f.js", "node_modules", "s"], .file [] 0o644),
    (["g", "s"], .directory 0o755), (["h.tsx", "g", "s"], .file [] 0o644)]⟩, []⟩

/-- A directory, a file in it that is no source file, a hidden directory in it, and a link. -/
def crowdedRoots : List Path := [⟨"s"⟩, ⟨"s/b.txt"⟩, ⟨"s//.d"⟩, ⟨"s/l.js"⟩, ⟨"s/./a.js"⟩]

/-- The hidden directory is searched as it is a root, the link is found as it is one, and the packages
are not. -/
theorem files_exact_crowded :
    files crowded crowdedRoots = .ok [⟨"s/.c.js"⟩, ⟨"s//.d/e.ts"⟩, ⟨"s/a.js"⟩, ⟨"s/b.txt"⟩,
      ⟨"s/g/h.tsx"⟩, ⟨"s/l.js"⟩] ∧
    (∃ root ∈ crowdedRoots, Lists crowded root ⟨"s//.d/e.ts"⟩) ∧
    (¬ ∃ root ∈ crowdedRoots, Lists crowded root ⟨"s/node_modules/f.js"⟩) ∧
    ∃ fault, files crowded (⟨"t"⟩ :: crowdedRoots) = .error fault := by
  have hfound : files crowded crowdedRoots = .ok [⟨"s/.c.js"⟩, ⟨"s//.d/e.ts"⟩, ⟨"s/a.js"⟩,
      ⟨"s/b.txt"⟩, ⟨"s/g/h.tsx"⟩, ⟨"s/l.js"⟩] := by decide +kernel
  have hsound : crowded.tree.Sound := by decide +kernel
  obtain ⟨-, hexact⟩ := files_exact hsound crowdedRoots
  obtain ⟨-, hlisted, hall⟩ := hexact _ hfound
  obtain ⟨hfails, -⟩ := files_exact hsound (⟨"t"⟩ :: crowdedRoots)
  refine ⟨hfound, hlisted _ (by simp), ?_,
    hfails.mpr ⟨⟨"t"⟩, List.mem_cons_self, by decide +kernel⟩⟩
  rintro ⟨root, hroot, hlists⟩
  have hnone : ∀ q ∈ [Path.mk "s/.c.js", ⟨"s//.d/e.ts"⟩, ⟨"s/a.js"⟩, ⟨"s/b.txt"⟩, ⟨"s/g/h.tsx"⟩,
      ⟨"s/l.js"⟩], q.components ≠ (Path.mk "s/node_modules/f.js").components := by decide +kernel
  obtain ⟨q, hq, hsame⟩ := hall root hroot _ hlists
  exact hnone q hq hsame

end ImportResolver.Source

import ImportResolver.Package.Entry
import ImportResolver.Proofs.Extension.Search
/- The entry of a package without its steps: the first descriptor decides that leads to a file. A
manifest that is read for one descriptor and kept for those behind it makes no difference to them, so
each can be asked by itself. -/
namespace ImportResolver

section

variable {α β ε : Type} {f : α → Except ε (Option β)}

theorem findSomeM?_cons (f : α → Except ε (Option β)) (x : α) (xs : List α) :
    (x :: xs).findSomeM? f = (f x).bind fun
      | some b => .ok (some b)
      | none => xs.findSomeM? f := by
  rw [List.findSomeM?_cons]
  rfl

/-- What stands behind is asked only if nothing in front answers or fails. -/
theorem findSomeM?_append (f : α → Except ε (Option β)) (xs ys : List α) :
    (xs ++ ys).findSomeM? f = (xs.findSomeM? f).bind fun
      | some b => .ok (some b)
      | none => ys.findSomeM? f := by
  induction xs with
  | nil => rfl
  | cons x xs ih =>
      rw [List.cons_append, findSomeM?_cons, findSomeM?_cons, ih]
      cases f x with
      | error e => rfl
      | ok found =>
          cases found with
          | some b => rfl
          | none => rfl

/-- A search fails at the first item that fails, if none in front of it answers. -/
theorem findSomeM?_eq_error_iff {xs : List α} {e : ε} : xs.findSomeM? f = .error e ↔
    ∃ before x after, xs = before ++ x :: after ∧ before.findSomeM? f = .ok none ∧
      f x = .error e := by
  constructor
  · intro h
    induction xs with
    | nil => cases h
    | cons x xs ih =>
        rw [findSomeM?_cons] at h
        cases hx : f x with
        | error e' =>
            rw [hx] at h
            cases h
            exact ⟨[], x, xs, rfl, rfl, hx⟩
        | ok found =>
            rw [hx] at h
            cases found with
            | some b => cases h
            | none =>
                obtain ⟨before, y, after, rfl, hbefore, hy⟩ := ih h
                refine ⟨x :: before, y, after, rfl, ?_, hy⟩
                rw [findSomeM?_cons, hx]
                exact hbefore
  · rintro ⟨before, x, after, rfl, hbefore, hx⟩
    rw [findSomeM?_append, hbefore]
    change List.findSomeM? f (x :: after) = _
    rw [findSomeM?_cons, hx]
    rfl

end

namespace Package

open Extension

/-- The path that a descriptor stands for in a package directory. -/
def Describes (fs : FileSystem) (dir : Path) (path : String) : Descriptor → Prop
  | .literalPath p _ => p = path
  | .manifestField field _ => ∃ m, Manifest.load fs dir = .ok m ∧ m.field? field = some path

/-- What an entry puts behind the name of its package. -/
inductive IsEntry (fs : FileSystem) (dir : Path) (d : Descriptor) : List Char → Prop
  | whole {path : String} : Describes fs dir path d →
      IsEntry fs dir d ('/' :: withoutDots path.toList)
  | suffix {path suffix : String} : Describes fs dir path d →
      Extension.IsSuffix fs (dir.join (String.ofList (withoutDots path.toList))) d.rules suffix →
      IsEntry fs dir d ('/' :: withoutDots path.toList ++ suffix.toList)

/-- The path that a descriptor gives, if it gives any. -/
def Descriptor.path? (fs : FileSystem) (dir : Path) : Descriptor → Option String
  | .literalPath path _ => some path
  | .manifestField field _ => (Manifest.load fs dir).toOption.bind (·.field? field)

/-- Where a path leads to a file below the package directory. -/
def below? (fs : FileSystem) (dir : Path) (rules : Rules) (path : String) : Option String :=
  let relative := String.ofList (withoutDots path.toList)
  if relative = "" then none
  else (finding fs (dir.join relative) rules .complete).added?.map (relative ++ ·)

/-- Where a descriptor leads to a file below the package directory. -/
def Descriptor.below? (fs : FileSystem) (dir : Path) (d : Descriptor) : Option String :=
  (d.path? fs dir).bind (Package.below? fs dir d.rules)

/-- The same, or what is wrong with the manifest if it is needed: only a descriptor that names a
field needs it. -/
def Descriptor.leads (fs : FileSystem) (dir : Path) : Descriptor → Except Failure (Option String)
  | .literalPath path rules => .ok (Package.below? fs dir rules path)
  | .manifestField field rules =>
    (Manifest.load fs dir).map fun m => (m.field? field).bind (Package.below? fs dir rules)

/-- Whether a package is left to the runtime, because its manifest has an export map. -/
def isLeft (fs : FileSystem) (dir : Path) (ignoreExports : Bool) : Except Failure Bool :=
  if ignoreExports then
    (Manifest.loadOptional fs dir).map fun manifest => manifest.any Manifest.hasExports
  else .ok false

variable {fs : FileSystem} {dir : Path} {d : Descriptor} {ds : List Descriptor}
  {manifest : Option Manifest} {specifier : String}

theorem describes_iff {path : String} : Describes fs dir path d ↔ d.path? fs dir = some path := by
  cases d with
  | literalPath p rules => simp [Describes, Descriptor.path?]
  | manifestField field rules =>
      cases hm : Manifest.load fs dir <;> simp [Describes, Descriptor.path?, hm, Except.toOption]

theorem entryAt_result (specifier : String) (rules : Rules) (path : String) :
    (entryAt fs specifier dir rules path).result =
      .ok ((below? fs dir rules path).map (specifier ++ "/" ++ ·)) := by
  unfold entryAt below?
  dsimp only
  split
  · rfl
  · rw [Trail.bind_result]
    simp only [search, Except.bind]
    cases finding fs (dir.join (String.ofList (withoutDots path.toList))) rules .complete <;>
      simp [Finding.added?, String.append_assoc] <;> rfl

/-- A manifest at hand is that of the package. -/
def Loaded (fs : FileSystem) (dir : Path) (manifest : Option Manifest) : Prop :=
  ∀ m ∈ manifest, Manifest.load fs dir = .ok m

theorem describedPath_result (manifest : Option Manifest) (field : String) (rules : Rules) :
    (describedPath fs dir manifest (.manifestField field rules)).result =
      (manifest.elim (Manifest.load fs dir) .ok).map fun m => (some m, m.field? field) := by
  cases manifest with
  | some m =>
      simp only [describedPath, Trail.bind_result, Trail.pure_result, Except.bind, Option.elim]
      cases hfield : m.field? field with
      | none => simp [hfield, Except.map]; rfl
      | some path => simp [hfield, Except.map]
  | none =>
      simp only [describedPath, Trail.bind_result, Trail.ofExcept_result, Option.elim]
      cases Manifest.load fs dir with
      | error f => rfl
      | ok m =>
          simp only [Except.bind, Trail.record_result, Trail.pure_result]
          cases hfield : m.field? field with
          | none => simp [hfield, Except.map]; rfl
          | some path => simp [hfield, Except.map]

/-- Why the manifest of a package directory cannot be used. -/
inductive ManifestFailure (dir : Path) : Failure → Prop
  | unreadable (fault : Fault) :
      ManifestFailure dir (.manifestUnreadable (dir.join Manifest.fileName) fault)
  | malformed (flaw : Option Json.Flaw) :
      ManifestFailure dir (.manifestMalformed (dir.join Manifest.fileName) flaw)

theorem load_error {f : Failure} (h : Manifest.load fs dir = .error f) : ManifestFailure dir f := by
  unfold Manifest.load at h
  dsimp only at h
  split at h
  · cases h
    exact .unreadable _
  · split at h
    · cases h
      exact .malformed _
    · cases h

theorem loadOptional_eq_error_iff {f : Failure} : Manifest.loadOptional fs dir = .error f ↔
    fs.isFile (dir.join Manifest.fileName) = true ∧ Manifest.load fs dir = .error f := by
  unfold Manifest.loadOptional
  split
  · next hfile => cases Manifest.load fs dir <;> simp [hfile, Except.map]
  · next hfile => simp [hfile]

theorem loadOptional_error {f : Failure} (h : Manifest.loadOptional fs dir = .error f) :
    ManifestFailure dir f :=
  load_error (loadOptional_eq_error_iff.mp h).2

theorem firstEntry_cons (specifier : String) (manifest : Option Manifest) (d : Descriptor)
    (ds : List Descriptor) :
    (firstEntry fs specifier dir manifest (d :: ds)).result =
      (describedPath fs dir manifest d).result.bind fun found =>
        match found.2.bind (below? fs dir d.rules) with
        | some path => .ok (some (specifier ++ "/" ++ path))
        | none => (firstEntry fs specifier dir found.1 ds).result := by
  rw [firstEntry, Trail.bind_result]
  refine congrArg (Except.bind _) (funext fun found => ?_)
  obtain ⟨after, path⟩ := found
  cases path with
  | none => rfl
  | some path =>
      simp only [Trail.bind_result, entryAt_result, Except.bind, Option.bind_some]
      cases below? fs dir d.rules path <;> rfl

theorem leads_ok {found : Option String} (h : d.leads fs dir = .ok found) :
    found = d.below? fs dir := by
  cases d with
  | literalPath path rules =>
      cases h
      rfl
  | manifestField field rules =>
      obtain ⟨m, hload, rfl⟩ := exists_of_map_eq_ok h
      simp [Descriptor.below?, Descriptor.path?, Descriptor.rules, hload, Except.toOption]

theorem leads_eq_error_iff {f : Failure} : d.leads fs dir = .error f ↔
    (∃ field rules, d = .manifestField field rules) ∧ Manifest.load fs dir = .error f := by
  cases d with
  | literalPath path rules => simp [Descriptor.leads]
  | manifestField field rules =>
      cases hm : Manifest.load fs dir <;> simp [Descriptor.leads, hm, Except.map]

theorem findSomeM?_leads {found : Option String}
    (h : ds.findSomeM? (Descriptor.leads fs dir) = .ok found) :
    found = ds.findSome? (·.below? fs dir) := by
  induction ds with
  | nil =>
      cases h
      rfl
  | cons d ds ih =>
      rw [findSomeM?_cons] at h
      obtain ⟨first, hd, hrest⟩ := exists_of_bind_eq_ok h
      rw [List.findSome?_cons, ← leads_ok hd]
      cases first with
      | some below =>
          cases hrest
          rfl
      | none => exact ih hrest

theorem Loaded.elim_eq (hm : Loaded fs dir manifest) :
    manifest.elim (Manifest.load fs dir) .ok = Manifest.load fs dir := by
  cases manifest with
  | none => rfl
  | some m => exact (hm m rfl).symm

/-- The first descriptor that leads anywhere decides, whether the manifest is at hand or not. -/
theorem firstEntry_result (hm : Loaded fs dir manifest) :
    (firstEntry fs specifier dir manifest ds).result =
      (ds.findSomeM? (Descriptor.leads fs dir)).map (·.map (specifier ++ "/" ++ ·)) := by
  -- A descriptor may read the manifest for all that come after it.
  induction ds generalizing manifest with
  | nil => rfl
  | cons d ds ih =>
      rw [firstEntry_cons, findSomeM?_cons]
      cases d with
      | literalPath path rules =>
          simp only [describedPath, Trail.pure_result, Descriptor.leads, Except.bind,
            Option.bind_some, Descriptor.rules]
          cases below? fs dir rules path with
          | some below => rfl
          | none => exact ih hm
      | manifestField field rules =>
          rw [describedPath_result, hm.elim_eq]
          simp only [Descriptor.leads]
          cases hload : Manifest.load fs dir with
          | error f => rfl
          | ok m =>
              have hafter : Loaded fs dir (some m) := fun n hn => Option.some.inj hn ▸ hload
              simp only [Except.map, Except.bind, Descriptor.rules]
              cases (m.field? field).bind (below? fs dir rules) with
              | some below => rfl
              | none => exact ih hafter

theorem loadOptional_loaded (h : Manifest.loadOptional fs dir = .ok manifest) :
    Loaded fs dir manifest := by
  intro m hm
  unfold Manifest.loadOptional at h
  split at h
  · obtain ⟨n, hload, hn⟩ := exists_of_map_eq_ok h
    cases hn.trans hm
    exact hload
  · cases h
    cases hm

theorem entry_result (specifier : String) (ds : List Descriptor) (ignoreExports : Bool) :
    (entry fs specifier dir ds ignoreExports).result =
      (if ignoreExports then Manifest.loadOptional fs dir else .ok none).bind fun manifest =>
        if manifest.any Manifest.hasExports then .ok none
        else (firstEntry fs specifier dir manifest ds).result := by
  cases ignoreExports with
  | false => rfl
  | true =>
      simp only [entry, if_true, Trail.bind_result, Trail.ofExcept_result]
      refine congrArg (Except.bind _) (funext fun manifest => ?_)
      split
      · rfl
      · rfl

/-- An entry depends on whether the package is left to the runtime, and on where each descriptor leads
by itself. -/
theorem entry_eq (specifier : String) (ds : List Descriptor) (ignoreExports : Bool) :
    (entry fs specifier dir ds ignoreExports).result =
      (isLeft fs dir ignoreExports).bind fun left =>
        if left then .ok none
        else (ds.findSomeM? (Descriptor.leads fs dir)).map (·.map (specifier ++ "/" ++ ·)) := by
  rw [entry_result, isLeft]
  cases ignoreExports with
  | false =>
      have hm : Loaded fs dir none := fun m hm => by cases hm
      exact firstEntry_result hm
  | true =>
      simp only [if_true]
      cases hm : Manifest.loadOptional fs dir with
      | error f => rfl
      | ok manifest =>
          simp only [Except.map, Except.bind, firstEntry_result (loadOptional_loaded hm)]

/-- Only the manifest can keep a package from having an entry or none. -/
theorem entry_error {f : Failure} {ignoreExports : Bool}
    (h : (entry fs specifier dir ds ignoreExports).result = .error f) : ManifestFailure dir f := by
  rw [entry_eq] at h
  rcases eq_error_of_bind h with hleft | ⟨left, -, hrest⟩
  · unfold isLeft at hleft
    split at hleft
    · exact loadOptional_error (eq_error_of_map hleft)
    · cases hleft
  · split at hrest
    · cases hrest
    · obtain ⟨before, d, after, -, -, hd⟩ :=
        findSomeM?_eq_error_iff.mp (eq_error_of_map hrest)
      exact load_error (leads_eq_error_iff.mp hd).2

/-- An entry is a slash behind the specifier and the path below the package directory. -/
theorem entry_some {emitted : String} {ignoreExports : Bool}
    (h : (entry fs specifier dir ds ignoreExports).result = .ok (some emitted)) :
    ∃ below, ds.findSome? (·.below? fs dir) = some below ∧
      emitted = specifier ++ "/" ++ below := by
  rw [entry_eq] at h
  obtain ⟨left, -, hentry⟩ := exists_of_bind_eq_ok h
  split at hentry
  · cases hentry
  · obtain ⟨found, hfound, hemitted⟩ := exists_of_map_eq_ok hentry
    obtain ⟨below, rfl, rfl⟩ := Option.map_eq_some_iff.mp hemitted
    exact ⟨below, (findSomeM?_leads hfound).symm, rfl⟩

/-- What follows the name is what a descriptor and its rules give. -/
theorem isEntry_of_below? {below : String} (h : d.below? fs dir = some below) :
    IsEntry fs dir d ('/' :: below.toList) := by
  obtain ⟨path, hpath, hbelow⟩ := Option.bind_eq_some_iff.mp h
  have hd := describes_iff.mpr hpath
  unfold below? at hbelow
  dsimp only at hbelow
  split_ifs at hbelow
  obtain ⟨suffix, hsuffix, rfl⟩ := Option.map_eq_some_iff.mp hbelow
  rw [String.toList_append, String.toList_ofList]
  cases hfound : finding fs (dir.join (String.ofList (withoutDots path.toList))) d.rules
      .complete with
  | nothing => simp [hfound, Finding.added?] at hsuffix
  | asWritten =>
      cases (congrArg Finding.added? hfound).symm.trans hsuffix
      simpa using IsEntry.whole hd
  | append added =>
      cases (congrArg Finding.added? hfound).symm.trans hsuffix
      exact .suffix hd (finding_append hfound)
  | replace source destination => exact absurd hfound (finding_complete_ne_replace _ _)

end Package
end ImportResolver

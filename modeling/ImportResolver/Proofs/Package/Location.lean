import ImportResolver.Package.Location
import ImportResolver.Proofs.FileSystem.Walk
import ImportResolver.Proofs.Path.Ascent
import Mathlib.Data.Nat.Find
/- Where a package is found, as a search through the directories that may hold it. The nearest one wins:
directories are asked from the importing file upward, then the global ones; the first that has the
package decides, and those behind it are not asked. -/
namespace ImportResolver.Package

/-- The directories in which packages are looked for from a file, in order. -/
def stores (file : Path) (globals : List Path) : List Path :=
  (Path.ancestors file.directory).map (·.join "node_modules") ++ globals

variable {fs : FileSystem} {file dir : Path} {globals : List Path} {name s : String}

/-- A package is in the first of these directories that has a directory of its name. -/
theorem locate_eq_ok_iff : (locate fs name file globals).result = .ok dir ↔
    ∃ before store after, stores file globals = before ++ store :: after ∧
      dir = store.join name ∧ fs.isDirectory (store.join name) = true ∧
      ∀ other ∈ before, fs.isDirectory (other.join name) = false := by
  have hplaces : nearby name file ++ global name globals =
      (stores file globals).map (·.join name) := by
    simp [nearby, global, stores, Function.comp_def]
  have hfind : (locate fs name file globals).result = .ok dir ↔
      ((stores file globals).map (·.join name)).find? fs.isDirectory = some dir := by
    rw [← hplaces, List.find?_append, locate]
    cases (nearby name file).find? fs.isDirectory with
    | some near => simp
    | none => cases (global name globals).find? fs.isDirectory <;> simp
  rw [hfind, List.find?_map, Option.map_eq_some_iff]
  constructor
  · rintro ⟨store, hstore, rfl⟩
    obtain ⟨hdir, before, after, hsplit, hbefore⟩ := List.find?_eq_some_iff_append.mp hstore
    exact ⟨before, store, after, hsplit, rfl, hdir, fun other h => by simpa using hbefore other h⟩
  · rintro ⟨before, store, after, hsplit, rfl, hdir, hbefore⟩
    refine ⟨store, List.find?_eq_some_iff_append.mpr ⟨hdir, before, after, hsplit, ?_⟩, rfl⟩
    exact fun other h => by simpa using hbefore other h

/-- A directory in a package is found as a package of a longer name: directories that do not have
the package do not have this one either. -/
theorem locate_append (hname : name ≠ "") (h : (locate fs name file globals).result = .ok dir)
    (hbelow : fs.isDirectory (dir.append ("/" ++ s)) = true) :
    (locate fs (name ++ ("/" ++ s)) file globals).result = .ok (dir.append ("/" ++ s)) := by
  obtain ⟨before, store, after, hsplit, rfl, -, hbefore⟩ := locate_eq_ok_iff.mp h
  have hjoin (p : Path) : p.join (name ++ ("/" ++ s)) = (p.join name).append ("/" ++ s) :=
    p.join_append hname ("/" ++ s)
  refine locate_eq_ok_iff.mpr ⟨before, store, after, hsplit, (hjoin store).symm, ?_, ?_⟩
  · rw [hjoin]
    exact hbelow
  · intro other hother
    rw [hjoin, Bool.eq_false_iff]
    intro hdir
    obtain ⟨loc, hloc, -⟩ := FileSystem.isDirectory_iff.mp hdir
    have habove := FileSystem.isDirectory_of_below (other.join_text_ne_empty hname) hloc
    rw [hbefore other hother] at habove
    cases habove

theorem locate_error {f : Failure} (h : (locate fs name file globals).result = .error f) :
    f = .packageNotFound name file := by
  unfold locate at h
  dsimp only at h
  split at h
  · cases h
  · split at h
    · cases h
    · cases h
      rfl

theorem locate_text_ne_empty (hname : name ≠ "")
    (h : (locate fs name file globals).result = .ok dir) : dir.text ≠ "" := by
  obtain ⟨before, store, after, -, rfl, -⟩ := locate_eq_ok_iff.mp h
  exact store.join_text_ne_empty hname

theorem locate_endsWith (hname : name ≠ "") (h : (locate fs name file globals).result = .ok dir)
    (hslash : Text.endsWith dir.text "/" = true) : Text.endsWith name "/" = true := by
  obtain ⟨before, store, after, -, rfl, -⟩ := locate_eq_ok_iff.mp h
  exact store.endsWith_of_join hname hslash

open ImportResolver.Path (above?)

/-- Where a package is installed for the files below a directory. -/
def installedIn (name : String) (dir : Path) : Path := (dir.join "node_modules").join name

/-- No directory above a file has the package, up to one that is so many steps further up. -/
def LacksBelow (fs : FileSystem) (name : String) (file : Path) (n : Nat) : Prop :=
  ∀ m < n, ∀ dir, above? m file.directory = some dir →
    fs.isDirectory (installedIn name dir) = false

/-- No directory above a file has the package. -/
def Lacks (fs : FileSystem) (name : String) (file : Path) : Prop :=
  ∀ n, LacksBelow fs name file n

/-- What looking for a package comes to. -/
inductive Locates (fs : FileSystem) (name : String) (file : Path) (globals : List Path) :
    Except Failure Path → Prop
  | near (n : Nat) (dir : Path) : above? n file.directory = some dir →
      fs.isDirectory (installedIn name dir) = true → LacksBelow fs name file n →
      Locates fs name file globals (.ok (installedIn name dir))
  | far (before : List Path) (dir : Path) (after : List Path) : Lacks fs name file →
      globals = before ++ dir :: after → fs.isDirectory (dir.join name) = true →
      (∀ other ∈ before, fs.isDirectory (other.join name) = false) →
      Locates fs name file globals (.ok (dir.join name))
  | nowhere : Lacks fs name file → (∀ dir ∈ globals, fs.isDirectory (dir.join name) = false) →
      Locates fs name file globals (.error (.packageNotFound name file))

/-- The same places are directories in both file systems, up to the first that is one in the first
file system. -/
structure AgreeToWinner (fs fs' : FileSystem) (name : String) (file : Path) (globals : List Path) :
    Prop where
  near : ∀ n dir, above? n file.directory = some dir → LacksBelow fs name file n →
    fs.isDirectory (installedIn name dir) = fs'.isDirectory (installedIn name dir)
  far : Lacks fs name file → ∀ before dir after, globals = before ++ dir :: after →
    (∀ other ∈ before, fs.isDirectory (other.join name) = false) →
    fs.isDirectory (dir.join name) = fs'.isDirectory (dir.join name)

variable {fs' : FileSystem}

theorem getElem?_nearby (name : String) (file : Path) (n : Nat) :
    (nearby name file)[n]? = (above? n file.directory).map (installedIn name) := by
  rw [nearby, List.getElem?_map, Path.getElem?_ancestors]
  rfl

theorem lacksBelow_iff {n : Nat} : LacksBelow fs name file n ↔
    ∀ place ∈ (nearby name file).take n, fs.isDirectory place = false := by
  constructor
  · intro h place hplace
    obtain ⟨m, hm⟩ := List.mem_iff_getElem?.mp hplace
    rw [List.getElem?_take] at hm
    split_ifs at hm with hlt
    rw [getElem?_nearby] at hm
    obtain ⟨dir, hdir, rfl⟩ := Option.map_eq_some_iff.mp hm
    exact h m hlt dir hdir
  · intro h m hm dir hdir
    refine h _ (List.mem_iff_getElem?.mpr ⟨m, ?_⟩)
    rw [List.getElem?_take_of_lt hm, getElem?_nearby, hdir]
    rfl

theorem lacks_iff : Lacks fs name file ↔
    ∀ place ∈ nearby name file, fs.isDirectory place = false := by
  constructor
  · intro h place hplace
    refine lacksBelow_iff.mp (h (nearby name file).length) place ?_
    rwa [List.take_length]
  · exact fun h n => lacksBelow_iff.mpr fun place hplace => h place (List.mem_of_mem_take hplace)

/-- Looking for a package comes to one thing at most. -/
theorem Locates.result_eq {r : Except Failure Path} (h : Locates fs name file globals r) :
    (locate fs name file globals).result = r := by
  have hnone (hlacks : Lacks fs name file) : (nearby name file).find? fs.isDirectory = none :=
    List.find?_eq_none.mpr fun place hplace => by simpa using lacks_iff.mp hlacks place hplace
  cases h with
  | near n dir hdir hthere hlacks =>
      have hn : (nearby name file)[n]? = some (installedIn name dir) := by
        rw [getElem?_nearby, hdir]
        rfl
      obtain ⟨hlt, hget⟩ := List.getElem?_eq_some_iff.mp hn
      have hsplit : nearby name file = (nearby name file).take n ++
          installedIn name dir :: (nearby name file).drop (n + 1) := by
        rw [← hget, List.getElem_cons_drop, List.take_append_drop]
      have hfind : (nearby name file).find? fs.isDirectory = some (installedIn name dir) := by
        refine List.find?_eq_some_iff_append.mpr ⟨hthere, _, _, hsplit, fun place hplace => ?_⟩
        simpa using lacksBelow_iff.mp hlacks place hplace
      simp only [locate, hfind]
  | far before dir after hlacks hglobals hthere hbefore =>
      have hfind : (global name globals).find? fs.isDirectory = some (dir.join name) := by
        refine List.find?_eq_some_iff_append.mpr ⟨hthere, before.map (·.join name),
          after.map (·.join name), by simp [global, hglobals], fun place hplace => ?_⟩
        obtain ⟨other, hother, rfl⟩ := List.mem_map.mp hplace
        simpa using hbefore other hother
      simp only [locate, hnone hlacks, hfind]
  | nowhere hlacks hglobals =>
      have hfind : (global name globals).find? fs.isDirectory = none := by
        refine List.find?_eq_none.mpr fun place hplace => ?_
        obtain ⟨dir, hdir, rfl⟩ := List.mem_map.mp hplace
        simpa using hglobals dir hdir
      simp only [locate, hnone hlacks, hfind]

/-- It comes to one thing at least: to the first directory on the way up that has the package, to the
first global one, or to none. -/
theorem exists_locates (fs : FileSystem) (name : String) (file : Path) (globals : List Path) :
    ∃ r, Locates fs name file globals r := by
  classical
  by_cases hnear : ∃ n dir, above? n file.directory = some dir ∧
      fs.isDirectory (installedIn name dir) = true
  · obtain ⟨dir, hdir, hthere⟩ := Nat.find_spec hnear
    refine ⟨_, .near (Nat.find hnear) dir hdir hthere fun m hm lower hlower => ?_⟩
    rw [← Bool.not_eq_true]
    exact fun h => Nat.find_min hnear hm ⟨lower, hlower, h⟩
  · have hlacks : Lacks fs name file := fun n m _ dir hdir => by
      rw [← Bool.not_eq_true]
      exact fun h => hnear ⟨m, dir, hdir, h⟩
    cases hfind : globals.find? fun dir => fs.isDirectory (dir.join name) with
    | some dir =>
        obtain ⟨hthere, before, after, hglobals, hbefore⟩ := List.find?_eq_some_iff_append.mp hfind
        exact ⟨_, .far before dir after hlacks hglobals hthere fun other hother => by
          simpa using hbefore other hother⟩
    | none =>
        exact ⟨_, .nowhere hlacks fun dir hdir => by
          simpa using List.find?_eq_none.mp hfind dir hdir⟩

theorem locate_iff_locates {r : Except Failure Path} :
    (locate fs name file globals).result = r ↔ Locates fs name file globals r := by
  constructor
  · rintro rfl
    obtain ⟨r, hr⟩ := exists_locates fs name file globals
    rwa [hr.result_eq]
  · exact Locates.result_eq

/-- What comes behind the first item that is wanted makes no difference. -/
theorem find?_congr_first {α : Type} {p q : α → Bool} {xs : List α}
    (h : ∀ before x after, xs = before ++ x :: after → (∀ y ∈ before, p y = false) → p x = q x) :
    xs.find? p = xs.find? q ∧ (xs.takeWhile fun x => !p x) = xs.takeWhile fun x => !q x := by
  induction xs with
  | nil => exact ⟨rfl, rfl⟩
  | cons x xs ih =>
      have hx := h [] x xs rfl fun y hy => absurd hy List.not_mem_nil
      cases hp : p x with
      | true =>
          rw [hp] at hx
          simp [hp, ← hx]
      | false =>
          rw [hp] at hx
          obtain ⟨hfind, htake⟩ := ih fun before y after hxs hbefore =>
            h (x :: before) y after (by rw [hxs]; rfl) (List.forall_mem_cons.mpr ⟨hp, hbefore⟩)
          simp [hp, ← hx, hfind, htake]

/-- Places behind the winner are not looked at, not even for the steps that are recorded. -/
theorem AgreeToWinner.locate_eq (h : AgreeToWinner fs fs' name file globals) :
    locate fs' name file globals = locate fs name file globals := by
  have hsame : ∀ before place after, nearby name file = before ++ place :: after →
      (∀ other ∈ before, fs.isDirectory other = false) →
      fs.isDirectory place = fs'.isDirectory place := by
    intro before place after hsplit hbefore
    have hplace : (nearby name file)[before.length]? = some place := by simp [hsplit]
    rw [getElem?_nearby] at hplace
    obtain ⟨dir, hdir, rfl⟩ := Option.map_eq_some_iff.mp hplace
    refine h.near before.length dir hdir (lacksBelow_iff.mpr ?_)
    simpa [hsplit] using hbefore
  obtain ⟨hnear, hnearMisses⟩ := find?_congr_first hsame
  cases hfind : (nearby name file).find? fs.isDirectory with
  | some dir => simp only [locate, misses, ← hnear, ← hnearMisses, hfind]
  | none =>
      have hlacks : Lacks fs name file :=
        lacks_iff.mpr fun place hplace => by simpa using List.find?_eq_none.mp hfind place hplace
      have hsame : ∀ before place after, global name globals = before ++ place :: after →
          (∀ other ∈ before, fs.isDirectory other = false) →
          fs.isDirectory place = fs'.isDirectory place := by
        intro before place after hsplit hbefore
        obtain ⟨front, rest, rfl, rfl, hrest⟩ := List.map_eq_append_iff.mp hsplit
        obtain ⟨dir, rest, rfl, rfl, -⟩ := List.map_eq_cons_iff.mp hrest
        exact h.far hlacks front dir rest rfl fun other hother =>
          hbefore _ (List.mem_map_of_mem hother)
      obtain ⟨hfar, hfarMisses⟩ := find?_congr_first hsame
      simp only [locate, misses, ← hnear, ← hnearMisses, hfind, ← hfar, ← hfarMisses]

/-- The nearest installation wins. The way up from a file ends, at the root or at the empty path, after
as many steps as the path has names. What is found is in the first directory on this way that has the
package; if none has it, in the first global directory that has it; and if none of these has it
either, the package is not found. Other places make no difference, not even to the steps. -/
theorem locate_nearest (fs : FileSystem) (name : String) (file : Path) (globals : List Path) :
    (∀ n, above? n file.directory = none ↔ file.directory.components.length <
      n + if file.directory.isAbsolute then 1 else 0) ∧
    (∀ r, (locate fs name file globals).result = r ↔ Locates fs name file globals r) ∧
    ∀ fs', AgreeToWinner fs fs' name file globals →
      locate fs' name file globals = locate fs name file globals :=
  ⟨Path.above?_eq_none_iff file.directory, fun _ => locate_iff_locates, fun _ h => h.locate_eq⟩

/-- A package beside two nested projects. -/
def nested : FileSystem :=
  ⟨⟨[(["node_modules"], .directory 0o755), (["p", "node_modules"], .directory 0o755),
    (["a"], .directory 0o755), (["node_modules", "a"], .directory 0o755),
    (["p", "node_modules", "a"], .directory 0o755), (["b", "a"], .directory 0o755)]⟩, []⟩

/-- The same, without the outer package, and with a file where the inner directory could have it. -/
def nestedAlone : FileSystem :=
  ⟨⟨[(["a"], .directory 0o755), (["node_modules", "a"], .directory 0o755),
    (["p", "node_modules", "a"], .directory 0o755), (["b", "a"], .directory 0o755),
    (["node_modules", "b", "a"], .directory 0o755),
    (["p", "node_modules", "b", "a"], .file [] 0o644)]⟩, []⟩

theorem agreeToWinner_nested : AgreeToWinner nested nestedAlone "p" ⟨"/a/b/m.js"⟩ [⟨"/g"⟩] := by
  have hfile : (Path.mk "/a/b/m.js").directory = ⟨"/a/b"⟩ := by decide +kernel
  have hwinner : nested.isDirectory (installedIn "p" ⟨"/a"⟩) = true := by decide +kernel
  have hup : above? 1 ⟨"/a/b"⟩ = some ⟨"/a"⟩ := by decide +kernel
  refine ⟨fun n dir hdir hlacks => ?_, fun hlacks => ?_⟩
  · rw [hfile] at hdir
    match n with
    | 0 =>
        cases hdir
        decide +kernel
    | 1 =>
        cases hup.symm.trans hdir
        decide +kernel
    | n + 2 =>
        have := hlacks 1 (by omega) ⟨"/a"⟩ (by rw [hfile]; exact hup)
        cases hwinner.symm.trans this
  · have := hlacks 2 1 (by omega) ⟨"/a"⟩ (by rw [hfile]; exact hup)
    cases hwinner.symm.trans this

/-- The inner package is found, whether the outer one is there or not. -/
theorem locate_nearest_nested :
    AgreeToWinner nested nestedAlone "p" ⟨"/a/b/m.js"⟩ [⟨"/g"⟩] ∧
      Locates nested "p" ⟨"/a/b/m.js"⟩ [⟨"/g"⟩] (.ok ⟨"/a/node_modules/p"⟩) ∧
      (locate nestedAlone "p" ⟨"/a/b/m.js"⟩ [⟨"/g"⟩]).result = .ok ⟨"/a/node_modules/p"⟩ := by
  obtain ⟨-, hlocates, hagree⟩ := locate_nearest nested "p" ⟨"/a/b/m.js"⟩ [⟨"/g"⟩]
  have hresult : (locate nested "p" ⟨"/a/b/m.js"⟩ [⟨"/g"⟩]).result =
      .ok ⟨"/a/node_modules/p"⟩ := by decide +kernel
  refine ⟨agreeToWinner_nested, (hlocates _).mp hresult, ?_⟩
  rw [hagree nestedAlone agreeToWinner_nested, hresult]

end ImportResolver.Package

import ImportResolver.FileSystem.Replacement
import ImportResolver.Proofs.FileSystem.Location
/- File systems that differ only in what their files hold. Paths mean the same in both, and writing
a file anew leads from one to another. -/
namespace ImportResolver.FileSystem

/-- The same node, but for the content of a file. -/
inductive Node.Alike : Node → Node → Prop
  | refl (n : Node) : Alike n n
  | file (old new : Bytes) (mode : Nat) : Alike (.file old mode) (.file new mode)

structure Alike (fs fs' : FileSystem) : Prop where
  cwd : fs'.cwd = fs.cwd
  node : ∀ loc, Option.Rel Node.Alike (fs.tree.get? loc) (fs'.tree.get? loc)

namespace Alike

variable {fs fs' : FileSystem}

theorem refl (fs : FileSystem) : Alike fs fs := by
  refine ⟨rfl, fun loc => ?_⟩
  cases fs.tree.get? loc with
  | none => exact .none
  | some n => exact .some (.refl n)

theorem none_or_some (h : Alike fs fs') (loc : Location) :
    (fs.tree.get? loc = none ∧ fs'.tree.get? loc = none) ∨
      ∃ n n', fs.tree.get? loc = some n ∧ fs'.tree.get? loc = some n' ∧ Node.Alike n n' := by
  have hn := h.node loc
  generalize fs.tree.get? loc = n, fs'.tree.get? loc = n' at hn
  cases hn with
  | none => exact .inl ⟨rfl, rfl⟩
  | some hn => exact .inr ⟨_, _, rfl, rfl, hn⟩

theorem isDirectory (h : Alike fs fs') (loc : Location) :
    (fs'.tree.get? loc).any Node.isDirectory = (fs.tree.get? loc).any Node.isDirectory := by
  rcases h.none_or_some loc with ⟨hn, hn'⟩ | ⟨n, n', hn, hn', hnode⟩
  · rw [hn, hn']
  · rw [hn, hn']
    cases hnode <;> rfl

theorem isNone (h : Alike fs fs') (loc : Location) :
    (fs'.tree.get? loc).isNone = (fs.tree.get? loc).isNone := by
  rcases h.none_or_some loc with ⟨hn, hn'⟩ | ⟨n, n', hn, hn', -⟩
  · rw [hn, hn']
  · rw [hn, hn']
    rfl

theorem walkWith (h : Alike fs fs') (follow : Bool)
    (enter : Location → List String → Except Fault Location) (loc : Location)
    (names : List String) :
    fs'.tree.walkWith follow enter loc names = fs.tree.walkWith follow enter loc names := by
  induction names generalizing loc with
  | nil => rfl
  | cons name rest ih =>
      rw [Tree.walkWith, Tree.walkWith, h.isDirectory]
      simp only [ih]
      rcases h.none_or_some (name :: loc) with ⟨hn, hn'⟩ | ⟨n, n', hn, hn', hnode⟩
      · rw [hn, hn']
      · rw [hn, hn']
        cases hnode <;> rfl

theorem walk (h : Alike fs fs') (follow : Bool) (links : Nat) (loc : Location)
    (names : List String) :
    fs'.tree.walk follow links loc names = fs.tree.walk follow links loc names := by
  induction links generalizing loc names with
  | zero => exact h.walkWith follow _ loc names
  | succ links ih =>
      have henter : fs'.tree.walk follow links = fs.tree.walk follow links := by
        funext loc names
        exact ih loc names
      rw [Tree.walk, Tree.walk, henter]
      exact h.walkWith follow _ loc names

theorem place (h : Alike fs fs') (p : Path) : fs'.place p = fs.place p := by
  have hstart : fs'.start p.text = fs.start p.text := by rw [start, start, h.cwd]
  simp only [FileSystem.place, hstart, h.walk, h.isDirectory]

/-- The same names are free. -/
theorem temporaryLocation (h : Alike fs fs') (p : Path) (draws : List String) :
    fs'.temporaryLocation p draws = fs.temporaryLocation p draws := by
  induction draws with
  | nil => rfl
  | cons drawn draws ih =>
      simp only [FileSystem.temporaryLocation, h.place, h.isNone, ih]

theorem holds (h : Alike fs fs') {loc : Location} {n n' : Node} (hold : fs.tree.Holds loc n)
    (hnew : fs'.tree.get? loc = some n') (hsolid : ∀ target, n' ≠ .link target) :
    fs'.tree.Holds loc n' :=
  ⟨hnew, hsolid, fun s hs => (h.isDirectory s).trans (hold.above s hs), hold.proper⟩

end Alike

theorem Tree.Holds.ne_nil {t : Tree} {loc : Location} {bytes : Bytes} {mode : Nat}
    (h : t.Holds loc (.file bytes mode)) : ∃ name parent, loc = name :: parent := by
  cases loc with
  | nil => cases h.node
  | cons name parent => exact ⟨name, parent, rfl⟩

/-- A node beside the way changes nothing. -/
theorem Tree.Holds.insert {t : Tree} {loc free : Location} {n m : Node} (h : t.Holds loc n)
    (hfree : t.get? free = none) : (t.insert free m).Holds loc n := by
  have hsame {s : Location} {k : Node} (hs : t.get? s = some k) :
      (t.insert free m).get? s = some k := by
    rw [get?_insert_of_ne, hs]
    rintro rfl
    rw [hfree] at hs
    cases hs
  refine ⟨hsame h.node, h.solid, fun s hs => ?_, h.proper⟩
  obtain ⟨mode, hd⟩ := eq_directory (h.above s hs)
  rw [hsame hd]
  rfl

variable {fs : FileSystem} {draws : List String} {loc tmp : Location} {old bytes : Bytes} {mode : Nat}

theorem Tree.Holds.modeAt {n : Node} (h : fs.tree.Holds loc n)
    (hcheck : checkPath (Location.path loc) = .ok ()) :
    fs.modeAt (Location.path loc) = n.mode := by
  rw [FileSystem.modeAt, node?, h.node_path hcheck]
  rfl

/-- A node that is moved onto a file takes its place. -/
theorem move_eq {p : Path} {parent : Location} {name : String} {n there : Node}
    (hplace : fs.place p = .ok ⟨parent, name, false⟩)
    (hthere : fs.tree.get? (name :: parent) = some there) (hfile : there.isDirectory = false)
    (hn : fs.tree.get? tmp = some n) :
    fs.move tmp p = .ok ((fs.discard tmp).set (name :: parent) n) := by
  have hnot : (fs.tree.get? (name :: parent)).any Node.isDirectory = false := by
    rw [hthere]
    exact hfile
  simp only [move, hplace, bind, Except.bind, Place.location, hnot, Bool.false_eq_true, if_false,
    hn]
  rfl

theorem atomicWrite_error {p : Path} {fault : Fault}
    (h : fs.temporaryLocation p draws = .error fault) :
    fs.atomicWrite draws p bytes = (.error fault, fs) := by
  simp only [atomicWrite, atomicWriteWith, granted, h]

/-- Where nothing is refused, the file beside is full and has its mode before it is moved. -/
theorem Replacement.steps_granted (fs : FileSystem) (loc : Location) (p : Path) (bytes : Bytes) :
    Replacement.steps {} loc p bytes fs = Replacement.install none loc p
      ((fs.set loc (.file bytes privateMode)).set loc
        (.file bytes ((fs.set loc (.file bytes privateMode)).modeAt p))) := by
  simp only [steps, fill, flush, permit, granted, Effect.andThen, ite_self]

theorem set_set (fs : FileSystem) (loc : Location) (m n : Node) :
    (fs.set loc m).set loc n = fs.set loc n := by
  rw [set, set, Tree.insert_insert]
  rfl

theorem discard_set (hfree : fs.tree.get? tmp = none) (m : Node) : (fs.set tmp m).discard tmp = fs := by
  rw [discard, set, Tree.remove_insert_of_get?_eq_none m hfree]

/-- Where a new file can be made beside it, a file is replaced. -/
theorem atomicWrite_eq (h : fs.tree.Holds loc (.file old mode))
    (hcheck : checkPath (Location.path loc) = .ok ())
    (htmp : fs.temporaryLocation (Location.path loc) draws = .ok tmp) :
    fs.atomicWrite draws (Location.path loc) bytes = (.ok (), fs.set loc (.file bytes mode)) := by
  obtain ⟨name, parent, rfl⟩ := h.ne_nil
  have hfree := get?_temporaryLocation htmp
  have hne : tmp ≠ [] := by
    rintro rfl
    cases hfree
  have hbeside (m : Node) : (fs.set tmp m).tree.Holds (name :: parent) (.file old mode) :=
    h.insert hfree
  have hmode (m : Node) : (fs.set tmp m).modeAt (Location.path (name :: parent)) = mode :=
    (hbeside m).modeAt hcheck
  have hmove := move_eq ((hbeside (.file bytes mode)).place hcheck)
    (hbeside (.file bytes mode)).node rfl (Tree.get?_insert_self fs.tree (.file bytes mode) hne)
  rw [discard_set hfree] at hmove
  simp only [atomicWrite, atomicWriteWith, granted, htmp, Replacement.steps_granted,
    Replacement.install, set_set, hmode, hmove]

/-- All is as it was, but for the file at one location, which holds other bytes. -/
structure Rewritten (fs : FileSystem) (loc : Location) (bytes : Bytes) (mode : Nat)
    (fs' : FileSystem) : Prop where
  cwd : fs'.cwd = fs.cwd
  same : fs'.tree.get? loc = some (.file bytes mode)
  other : ∀ l, l ≠ loc → fs'.tree.get? l = fs.tree.get? l

theorem Rewritten.alike {fs fs₁ fs₂ : FileSystem} (h : Rewritten fs₁ loc bytes mode fs₂)
    (halike : Alike fs fs₁) (hold : fs.tree.get? loc = some (.file old mode)) : Alike fs fs₂ := by
  refine ⟨h.cwd.trans halike.cwd, fun l => ?_⟩
  by_cases hl : l = loc
  · subst hl
    rw [hold, h.same]
    exact .some (.file old bytes mode)
  · rw [h.other l hl]
    exact halike.node l

/-- A path names a file by its location, and the file can be read. -/
structure Replaceable (fs : FileSystem) (p : Path) (loc : Location) (old : Bytes) (mode : Nat) :
    Prop where
  path : p = Location.path loc
  holds : fs.tree.Holds loc (.file old mode)
  checked : checkPath p = .ok ()
  readable : (Node.file old mode).isReadable = true

theorem Replaceable.alike {fs fs' : FileSystem} {p : Path} (h : Replaceable fs p loc old mode)
    (halike : Alike fs fs') (hsame : fs'.tree.get? loc = fs.tree.get? loc) :
    Replaceable fs' p loc old mode :=
  ⟨h.path, halike.holds h.holds (hsame.trans h.holds.node) nofun, h.checked, h.readable⟩

theorem Replaceable.node {p : Path} (h : Replaceable fs p loc old mode) :
    fs.node p = .ok (.file old mode) := by
  rw [h.path]
  exact h.holds.node_path (h.path ▸ h.checked)

theorem Replaceable.atomicWrite {p : Path} (h : Replaceable fs p loc old mode)
    (htmp : fs.temporaryLocation p draws = .ok tmp) :
    fs.atomicWrite draws p bytes = (.ok (), fs.set loc (.file bytes mode)) := by
  obtain ⟨rfl, hholds, hcheck, -⟩ := h
  exact atomicWrite_eq hholds hcheck htmp

theorem Replaceable.writeIfChanged {p : Path} (h : Replaceable fs p loc old mode)
    (draws : List String) (bytes : Bytes) :
    fs.writeIfChanged draws p bytes = if old = bytes then (.ok false, fs)
      else ((fs.atomicWrite draws p bytes).1.map fun _ => true,
        (fs.atomicWrite draws p bytes).2) := by
  simp only [FileSystem.writeIfChanged, writeIfChangedWith, granted, read_file h.node h.readable]
  rfl

/-- It can be written to where another file can be made beside it. -/
theorem Replaceable.writeIfChanged_ok {p : Path} (h : Replaceable fs p loc old mode)
    (htmp : fs.temporaryLocation p draws = .ok tmp) (bytes : Bytes) :
    ∃ written fs', fs.writeIfChanged draws p bytes = (.ok written, fs') := by
  rw [h.writeIfChanged, h.atomicWrite htmp]
  split_ifs with hsame
  · exact ⟨false, fs, rfl⟩
  · exact ⟨true, _, rfl⟩

/-- Then it holds what is written to it. -/
theorem Replaceable.rewritten {fs' : FileSystem} {p : Path} {written : Bool}
    (h : Replaceable fs p loc old mode)
    (hwrite : fs.writeIfChanged draws p bytes = (.ok written, fs')) :
    Rewritten fs loc bytes mode fs' := by
  rw [h.writeIfChanged] at hwrite
  by_cases hsame : old = bytes
  · subst hsame
    rw [if_pos rfl] at hwrite
    cases hwrite
    exact ⟨rfl, h.holds.node, fun _ _ => rfl⟩
  · rw [if_neg hsame] at hwrite
    cases htmp : fs.temporaryLocation p draws with
    | error fault =>
        rw [atomicWrite_error htmp] at hwrite
        cases hwrite
    | ok tmp =>
        rw [h.atomicWrite htmp] at hwrite
        cases hwrite
        obtain ⟨name, parent, rfl⟩ := h.holds.ne_nil
        exact ⟨rfl, Tree.get?_insert_self _ _ (by simp), fun l hl => Tree.get?_insert_of_ne _ _ hl⟩

end ImportResolver.FileSystem

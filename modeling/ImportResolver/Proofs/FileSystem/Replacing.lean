import ImportResolver.Proofs.FileSystem.Rewrite
import ImportResolver.Proofs.FileSystem.Walk
/- Writing a file is all or nothing, whichever of the operations that it takes the system refuses. If
it goes well, the place that the path names holds the file, and nothing else has changed; if it fails,
nothing has. -/
namespace ImportResolver.FileSystem

/-- No walk goes on from the location: it holds nothing, or neither a directory nor a link. -/
def Tree.EndsAt (t : Tree) (loc : Location) : Prop :=
  ∀ n, t.get? loc = some n → n.isDirectory = false ∧ ∀ target, n ≠ .link target

section

variable {t t' : Tree} {loc top out : Location} {names : List String}

theorem Tree.EndsAt.ne_of_isDirectory (h : t.EndsAt loc)
    (hdir : (t.get? top).any Node.isDirectory = true) : top ≠ loc := by
  rintro rfl
  obtain ⟨mode, hmode⟩ := eq_directory hdir
  cases (h _ hmode).1

theorem Tree.EndsAt.eq_of_walkWith (h : t.EndsAt loc)
    {enter : Location → List String → Except Fault Location}
    (hwalk : t.walkWith true enter loc names = .ok out) : out = loc := by
  cases names with
  | nil => exact (Except.ok.inj hwalk).symm
  | cons name rest =>
      rw [Tree.walkWith] at hwalk
      by_cases hdir : (t.get? loc).any Node.isDirectory = true
      · exact absurd rfl (h.ne_of_isDirectory hdir)
      · rw [if_pos (by simp [hdir])] at hwalk
        cases hwalk

/-- A walk that ends elsewhere does not look at a location from which none goes on. -/
theorem Tree.EndsAt.walkWith (hends : t.EndsAt loc) (hsame : ∀ l, l ≠ loc → t'.get? l = t.get? l)
    (hout : out ≠ loc) {enter enter' : Location → List String → Except Fault Location}
    (henter : ∀ l rest, enter l rest = .ok out → enter' l rest = .ok out)
    (h : t.walkWith true enter top names = .ok out) :
    t'.walkWith true enter' top names = .ok out := by
  induction names generalizing top with
  | nil => exact h
  | cons name rest ih =>
      rw [Tree.walkWith] at h ⊢
      by_cases hdir : (t.get? top).any Node.isDirectory = true
      · have htop := hsame top (hends.ne_of_isDirectory hdir)
        rw [if_neg (by simp [hdir])] at h
        rw [if_neg (by simp [htop, hdir])]
        simp only [Bool.not_true, Bool.and_false, Bool.false_eq_true, if_false] at h ⊢
        split_ifs at h ⊢ with hdot hup hsize
        · exact ih h
        · exact ih h
        · cases hn : t.get? (name :: top) with
          | none =>
              rw [hn] at h
              cases h
          | some n =>
              rw [hn] at h
              by_cases hloc : name :: top = loc
              · -- The walk would have to end here.
                obtain ⟨-, hsolid⟩ := hends n (hloc ▸ hn)
                have hstep : t.walkWith true enter loc rest = .ok out := by
                  rw [← hloc]
                  cases n <;> first | exact h | exact absurd rfl (hsolid _)
                exact absurd (hends.eq_of_walkWith hstep) hout
              · rw [hsame _ hloc, hn]
                cases n with
                | link target => exact henter _ _ h
                | file bytes mode => exact ih h
                | directory mode => exact ih h
                | device kind mode => exact ih h
                | pipe number mode => exact ih h
                | tool program => exact ih h
      · rw [if_pos (by simp [hdir])] at h
        cases h

theorem Tree.EndsAt.walk (hends : t.EndsAt loc) (hsame : ∀ l, l ≠ loc → t'.get? l = t.get? l)
    (hout : out ≠ loc) {links : Nat} (h : t.walk true links top names = .ok out) :
    t'.walk true links top names = .ok out := by
  induction links generalizing top names with
  | zero =>
      refine hends.walkWith hsame hout (fun _ _ hfail => ?_) h
      cases hfail
  | succ links ih => exact hends.walkWith hsame hout (fun _ _ => ih) h

end

/-- All is as it was, but for one location. -/
structure SameBut (loc : Location) (fs fs' : FileSystem) : Prop where
  cwd : fs'.cwd = fs.cwd
  same : ∀ l, l ≠ loc → fs'.tree.get? l = fs.tree.get? l

/-- The names in a path, the last one first. A slash at the end is none. -/
def namesBack (p : Path) : List String :=
  if Text.endsWith p.text "/" then (names p.text).reverse.tail else (names p.text).reverse

/-- How a place is found: a walk leads to its directory, and the last name is left over. -/
structure LeadsTo (fs : FileSystem) (p : Path) (place : Place) (before : List String) : Prop where
  checked : checkPath p = .ok ()
  left : namesBack p = place.name :: before
  walk : fs.tree.walk true maxLinks (fs.start p.text) before.reverse = .ok place.parent
  directory : (fs.tree.get? place.parent).any Node.isDirectory = true
  proper : place.name ≠ "." ∧ place.name ≠ ".." ∧ place.name.utf8ByteSize ≤ maxName
  slash : place.asDirectory = Text.endsWith p.text "/"

variable {fs fs' : FileSystem} {p : Path} {loc tmp : Location} {there : Place} {bytes : Bytes}
  {n : Node}

theorem SameBut.symm (h : SameBut loc fs fs') : SameBut loc fs' fs :=
  ⟨h.cwd.symm, fun l hl => (h.same l hl).symm⟩

theorem SameBut.trans {fs'' : FileSystem} (h : SameBut loc fs fs') (h' : SameBut loc fs' fs'') :
    SameBut loc fs fs'' :=
  ⟨h'.cwd.trans h.cwd, fun l hl => (h'.same l hl).trans (h.same l hl)⟩

theorem SameBut.start (h : SameBut loc fs fs') (path : String) : fs'.start path = fs.start path := by
  rw [FileSystem.start, FileSystem.start, h.cwd]

theorem place_eq (fs : FileSystem) (p : Path) : fs.place p = (do
    checkPath p
    match namesBack p with
    | [] => .error .busy
    | name :: before =>
      let parent ← fs.tree.walk true maxLinks (fs.start p.text) before.reverse
      if !(fs.tree.get? parent).any Node.isDirectory then .error .notADirectory
      else if name = "." || name = ".." then .error .busy
      else if maxName < name.utf8ByteSize then .error .nameTooLong
      else .ok ⟨parent, name, Text.endsWith p.text "/"⟩) := by
  unfold FileSystem.place namesBack
  cases Text.endsWith p.text "/" <;> rfl

theorem exists_of_place (h : fs.place p = .ok there) : ∃ before, LeadsTo fs p there before := by
  rw [place_eq] at h
  simp only [bind, Except.bind] at h
  cases hcheck : checkPath p with
  | error fault =>
      rw [hcheck] at h
      cases h
  | ok u =>
      rw [hcheck] at h
      cases hleft : namesBack p with
      | nil =>
          rw [hleft] at h
          cases h
      | cons name before =>
          rw [hleft] at h
          dsimp only at h
          cases hwalk : fs.tree.walk true maxLinks (fs.start p.text) before.reverse with
          | error fault =>
              rw [hwalk] at h
              cases h
          | ok parent =>
              rw [hwalk] at h
              dsimp only at h
              split_ifs at h with hdir hdots hsize
              obtain ⟨hdot, hup⟩ : name ≠ "." ∧ name ≠ ".." := by simpa using hdots
              cases h
              exact ⟨before, hcheck, hleft, hwalk, by simpa using hdir,
                ⟨hdot, hup, Nat.not_lt.mp hsize⟩, rfl⟩

theorem LeadsTo.place {before : List String} (h : LeadsTo fs p there before) :
    fs.place p = .ok there := by
  obtain ⟨hdot, hup, hsize⟩ := h.proper
  rw [place_eq]
  simp only [h.checked, h.left, h.walk, bind, Except.bind, ← h.slash]
  rw [if_neg (by simp [h.directory]), if_neg (by simp [hdot, hup]), if_neg (Nat.not_lt.mpr hsize)]

theorem SameBut.place (h : SameBut loc fs fs') (hends : fs.tree.EndsAt loc)
    (hplace : fs.place p = .ok there) : fs'.place p = .ok there := by
  obtain ⟨before, hleads⟩ := exists_of_place hplace
  have hne := hends.ne_of_isDirectory hleads.directory
  have hthere : LeadsTo fs' p there before := { hleads with
    walk := by
      rw [h.start]
      exact hends.walk h.same hne hleads.walk
    directory := by
      rw [h.same _ hne]
      exact hleads.directory }
  exact hthere.place

theorem SameBut.locate (h : SameBut loc fs fs') (hends : fs.tree.EndsAt loc) {out : Location}
    (hout : out ≠ loc) (hlocate : fs.locate p true = .ok out) : fs'.locate p true = .ok out := by
  obtain ⟨hcheck, hwalk⟩ := locate_eq_ok_iff.mp hlocate
  rw [← h.start] at hwalk
  exact locate_eq_ok_iff.mpr ⟨hcheck, hends.walk h.same hout hwalk⟩

theorem LeadsTo.names {before : List String} (h : LeadsTo fs p there before)
    (hslash : there.asDirectory = false) : names p.text = before.reverse ++ [there.name] := by
  have hleft := h.left
  rw [namesBack, ← h.slash, hslash, if_neg Bool.false_ne_true] at hleft
  rw [← List.reverse_reverse (FileSystem.names p.text), hleft, List.reverse_cons]

namespace Effect

variable {α β : Type} {failed done done' : FileSystem → Prop} {x : Effect α}

/-- What holds of the file system that an operation leaves, if it fails and if it goes well. -/
def Meets (failed done : FileSystem → Prop) (x : Effect α) : Prop :=
  (∀ fault, x.1 = .error fault → failed x.2) ∧ ∀ a, x.1 = .ok a → done x.2

theorem Meets.andThen {f : FileSystem → Effect β} (hx : x.Meets failed done)
    (hf : ∀ fs, done fs → (f fs).Meets failed done') : (x.andThen f).Meets failed done' := by
  obtain ⟨answer, fs⟩ := x
  cases answer with
  | error fault => exact ⟨fun _ _ => hx.1 fault rfl, nofun⟩
  | ok a => exact hf fs (hx.2 a rfl)

end Effect

namespace Replacement

variable {refused : Refusals}

end Replacement

end ImportResolver.FileSystem

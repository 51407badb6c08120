import ImportResolver.Options.File
import ImportResolver.Proofs.FileSystem.LinkFree
/- The nearest options file. The search takes one component after another away from a path, so it comes
past the places that the path itself passes. If the path goes straight down, these are the directory
and those above it, as far up as the path starts. -/
namespace ImportResolver.Options

open FileSystem ImportResolver.Path

def isIn (t : Tree) (loc : Location) : Bool := (t.get? (fileName :: loc)).any Node.isFile

/-- The directory, or else the nearest one above it, that has an options file. -/
def nearest? (t : Tree) (loc : Location) : Option Location := loc.tails.find? (isIn t)

/-- The places that are passed along components, the last one first. -/
def passed (start : Location) (cs : List Component) : List Location :=
  (cs.inits.map fun front => front.foldl next start).reverse

/-- What is found is the options file of that directory; without one, nothing is found. -/
def Leads (fs : FileSystem) (found : Option Path) : Option Location → Prop
  | none => found = none
  | some loc => ∃ file, found = some file ∧ fs.locate file true = .ok (fileName :: loc)

theorem passed_concat (start : Location) (cs : List Component) (c : Component) :
    passed start (cs ++ [c]) = next (cs.foldl next start) c :: passed start cs := by
  simp [passed, List.inits_append]

theorem exists_passed (start : Location) (cs : List Component) :
    ∃ earlier, passed start cs = cs.foldl next start :: earlier := by
  rcases List.eq_nil_or_concat' cs with rfl | ⟨cs, c, rfl⟩
  · exact ⟨[], rfl⟩
  · exact ⟨_, by rw [passed_concat, List.foldl_concat]⟩

theorem properName_fileName : ProperName fileName := by decide

theorem find?_eq (fs : FileSystem) (dir : Path) :
    find? fs dir =
      if fs.isFile (dir.join fileName) then some (dir.join fileName)
      else dir.parent?.bind (find? fs) := by
  rw [find?, ancestors, List.map_cons, List.find?_cons]
  split
  · next h => rw [if_pos h]
  · next h =>
      rw [if_neg (by simp [h])]
      split
      · next hparent => rw [hparent]; rfl
      · next hparent => rw [hparent]; rfl

/-- The options file that is found is that of the last place with one. -/
theorem leads_find? {fs : FileSystem} {dir : Path} (hfree : fs.tree.LinkFree)
    (h : fs.Enters dir fileName.utf8ByteSize) :
    Leads fs (find? fs dir)
      ((passed (fs.start dir.text) dir.components).find? (isIn fs.tree)) := by
  -- Along the parents of the path, as the search goes.
  induction dir using ancestors.induct with
  | case1 dir ih =>
      have hfile : fs.isFile (dir.join fileName) = isIn fs.tree (fs.destination dir) :=
        h.isFile_join hfree properName_fileName
      rw [find?_eq, hfile]
      cases hin : isIn fs.tree (fs.destination dir) with
      | true =>
          obtain ⟨earlier, hpassed⟩ : ∃ earlier,
              passed (fs.start dir.text) dir.components = fs.destination dir :: earlier :=
            exists_passed _ _
          rw [hpassed, List.find?_cons_of_pos hin, if_pos rfl]
          refine ⟨_, rfl, ?_⟩
          rw [h.locate_join hfree properName_fileName, if_pos (Option.isSome_of_any hin)]
      | false =>
          rw [if_neg Bool.false_ne_true]
          rw [destination] at hin
          cases hparent : dir.parent? with
          | none =>
              have hnowhere : (passed (fs.start dir.text) dir.components).find? (isIn fs.tree) =
                  none := by
                rcases parent?_eq_none_iff.mp hparent with h | h
                · rw [h] at hin ⊢
                  exact List.find?_cons_of_neg (by simpa using hin)
                · rw [h] at hin ⊢
                  exact List.find?_eq_none.mpr (by simpa [passed, next] using hin)
              rw [hnowhere]
              rfl
          | some q =>
              obtain ⟨c, hc, -⟩ := components_parent? hparent
              have hlead := ih q hparent (h.parent? hfree hparent)
              rw [start_parent? hparent] at hlead
              rw [hc, List.foldl_concat] at hin
              rw [hc, passed_concat, List.find?_cons_of_neg (by simp [hin])]
              exact hlead

theorem Leads.iff_eq {fs : FileSystem} {found : Option Path} {there other : Option Location}
    (h : Leads fs found there) : Leads fs found other ↔ there = other := by
  refine ⟨fun h' => ?_, fun e => e ▸ h⟩
  cases there with
  | none =>
      cases other with
      | none => rfl
      | some loc =>
          obtain ⟨file, hfile, -⟩ := h'
          cases h.symm.trans hfile
  | some loc =>
      obtain ⟨file, rfl, hloc⟩ := h
      cases other with
      | none => cases h'
      | some loc' =>
          obtain ⟨file', hfile, hloc'⟩ := h'
          cases hfile
          have heq := Except.ok.inj (hloc.symm.trans hloc')
          rw [(List.cons.inj heq).2]

theorem suffix_foldl_next (start : Location) {cs : List Component} (hup : .up ∉ cs) :
    start <:+ cs.foldl next start := by
  induction cs generalizing start with
  | nil => exact List.suffix_refl start
  | cons c cs ih =>
      obtain ⟨hc, hcs⟩ := List.ne_and_not_mem_of_not_mem_cons hup
      cases c with
      | up => exact absurd rfl hc
      | name n => exact (List.suffix_cons n start).trans (ih (n :: start) hcs)
      | root => exact ih start hcs
      | here => exact ih start hcs

/-- Straight down, the places are those above, up to the start. -/
theorem find?_passed_iff (P : Location → Bool) (start : Location) {cs : List Component}
    (hup : .up ∉ cs) :
    (passed start cs).find? P = (cs.foldl next start).tails.find? P ↔
      ∀ loc, (cs.foldl next start).tails.find? P = some loc → start <:+ loc := by
  induction cs using List.reverseRecOn with
  | nil =>
      change [start].find? P = start.tails.find? P ↔ ∀ loc, start.tails.find? P = some loc → _
      cases hf : start.tails.find? P with
      | none =>
          have hstart := List.find?_eq_none.mp hf start (by simp)
          simp [hstart]
      | some loc =>
          have hloc : loc <:+ start := (List.mem_tails _ _).mp (List.mem_of_find?_eq_some hf)
          constructor
          · intro h loc' hloc'
            obtain rfl := List.mem_singleton.mp (List.mem_of_find?_eq_some h)
            cases hloc'
            exact List.suffix_refl loc
          · intro h
            obtain rfl := hloc.eq_of_length_le (h loc rfl).length_le
            exact List.find?_cons_of_pos (List.find?_some hf)
  | append_singleton cs c ih =>
      have hcs : .up ∉ cs := fun h => hup (List.mem_append_left _ h)
      obtain ⟨earlier, hearlier⟩ := exists_passed start cs
      have hagain : (cs.foldl next start :: passed start cs).find? P =
          (passed start cs).find? P := by
        rw [hearlier]
        cases h : P (cs.foldl next start) <;> simp [h]
      rw [passed_concat, List.foldl_concat]
      cases c with
      | up => exact absurd (List.mem_append_right cs List.mem_cons_self) hup
      | root =>
          rw [next, hagain]
          exact ih hcs
      | here =>
          rw [next, hagain]
          exact ih hcs
      | name n =>
          rw [next, List.tails_cons]
          cases h : P (n :: cs.foldl next start) with
          | true =>
              rw [List.find?_cons_of_pos h, List.find?_cons_of_pos h]
              refine iff_of_true rfl fun loc hloc => ?_
              cases hloc
              exact (suffix_foldl_next start hcs).trans (List.suffix_cons n _)
          | false =>
              rw [List.find?_cons_of_neg (by simp [h]), List.find?_cons_of_neg (by simp [h])]
              exact ih hcs

/-- In a tree without links, a path that leads to a directory and leaves room for the name of a file
in it. -/
structure Denotes (fs : FileSystem) (dir : Path) (loc : Location) : Prop where
  linkFree : fs.tree.LinkFree
  locate : fs.locate dir true = .ok loc
  isDirectory : (fs.tree.get? loc).any Node.isDirectory = true
  size : dir.text.utf8ByteSize + 1 + fileName.utf8ByteSize ≤ maxPath

theorem length_ancestors (dir : Path) :
    dir.ancestors.length + (if dir.isAbsolute then 1 else 0) = dir.components.length + 1 := by
  have hend : ∀ n, dir.ancestors.length ≤ n ↔
      dir.components.length < n + if dir.isAbsolute then 1 else 0 := fun n => by
    rw [← List.getElem?_eq_none_iff, getElem?_ancestors, above?_eq_none_iff]
  have h := hend dir.ancestors.length
  have h' := hend (dir.ancestors.length - 1)
  have hpos : 0 < dir.ancestors.length := by
    rw [ancestors]
    exact Nat.succ_pos _
  omega

/-- The search takes one step for each component of the path. It finds the options file of the last
place on the way with one, so it finds the nearest one exactly if that is the same. For a path that
goes straight down it is the same unless the nearest one is above the place where the path starts; for
an absolute path it cannot be there. -/
theorem find?_last_passed {fs : FileSystem} {dir : Path} {loc : Location}
    (h : Denotes fs dir loc) :
    dir.ancestors.length + (if dir.isAbsolute then 1 else 0) = dir.components.length + 1 ∧
    Leads fs (find? fs dir)
      ((passed (fs.start dir.text) dir.components).find? (isIn fs.tree)) ∧
    (Leads fs (find? fs dir) (nearest? fs.tree loc) ↔
      (passed (fs.start dir.text) dir.components).find? (isIn fs.tree) = nearest? fs.tree loc) ∧
    (.up ∉ dir.components →
      (Leads fs (find? fs dir) (nearest? fs.tree loc) ↔
        ∀ found, nearest? fs.tree loc = some found → fs.start dir.text <:+ found)) := by
  obtain ⟨henters, rfl⟩ := enters_of_locate h.linkFree h.locate h.isDirectory h.size
  have hleads := leads_find? h.linkFree henters
  exact ⟨length_ancestors dir, hleads, hleads.iff_eq,
    fun hup => hleads.iff_eq.trans (find?_passed_iff _ _ hup)⟩

/-- Options files stand in a directory of the working directory, and at the root. -/
def beside : FileSystem where
  tree := ⟨[(["w"], .directory 0o755), (["a", "w"], .directory 0o755),
    (["resolvext.json", "a", "w"], .file [] 0o644), (["resolvext.json"], .file [] 0o644)]⟩
  cwd := ["w"]

theorem linkFree_beside : beside.tree.LinkFree := by
  intro loc target h
  have hloc : loc ≠ [] := by
    rintro rfl
    cases h
  have hmem := Tree.mem_of_get? h hloc
  simp [beside] at hmem

/-- From the working directory the search ends too early, and by a detour it finds a file that is not
above. -/
theorem find?_last_passed_beside :
    nearest? beside.tree ["w"] = some [] ∧
    (Denotes beside ⟨"."⟩ ["w"] ∧ ¬ Leads beside (find? beside ⟨"."⟩) (some [])) ∧
    Denotes beside ⟨"a/.."⟩ ["w"] ∧ Leads beside (find? beside ⟨"a/.."⟩) (some ["a", "w"]) ∧
      ¬ Leads beside (find? beside ⟨"a/.."⟩) (some []) := by
  have hhere : Denotes beside ⟨"."⟩ ["w"] :=
    ⟨linkFree_beside, by decide +kernel, by decide +kernel, by decide +kernel⟩
  have hdetour : Denotes beside ⟨"a/.."⟩ ["w"] :=
    ⟨linkFree_beside, by decide +kernel, by decide +kernel, by decide +kernel⟩
  have hnearest : nearest? beside.tree ["w"] = some [] := by decide +kernel
  obtain ⟨-, -, -, hstraight⟩ := find?_last_passed hhere
  obtain ⟨-, hleads, hright, -⟩ := find?_last_passed hdetour
  have hpassed : (passed (beside.start "a/..") (Path.mk "a/..").components).find?
      (isIn beside.tree) = some ["a", "w"] := by decide +kernel
  rw [hpassed] at hleads hright
  rw [hnearest] at hstraight hright
  refine ⟨hnearest, ⟨hhere, ?_⟩, hdetour, hleads, ?_⟩
  · rw [hstraight (by decide +kernel)]
    exact fun h => absurd (h [] rfl) (by decide +kernel)
  · rw [hright]
    decide

end ImportResolver.Options

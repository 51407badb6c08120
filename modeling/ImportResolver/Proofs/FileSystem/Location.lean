import ImportResolver.FileSystem.Change
import Mathlib.Data.List.Infix
import Mathlib.Data.List.Nodup
/- Trees as an operating system keeps them. In such a tree the path that spells out a location leads
to it, whatever links there are, and what a path leads to is no link. -/
namespace ImportResolver

namespace Text

theorem runs_of_not_mem {sep : Char} {r : List Char} (h : sep ∉ r) : runs sep r = [r] := by
  induction r with
  | nil => rfl
  | cons c r ih =>
      obtain ⟨hc, hr⟩ := List.ne_and_not_mem_of_not_mem_cons h
      rw [runs, if_neg (Ne.symm hc), ih hr]

theorem runs_append (sep : Char) (r s : List Char) :
    runs sep (r ++ sep :: s) = runs sep r ++ runs sep s := by
  induction r with
  | nil => simp [runs]
  | cons c r ih =>
      rw [List.cons_append, runs, runs, ih]
      split
      · rfl
      · cases h : runs sep r with
        | nil => exact absurd h (runs_ne_nil sep r)
        | cons q rs => rfl

/-- Joining runs and cutting them again gives them back. -/
theorem runs_joinRuns {sep : Char} {rs : List (List Char)} (hne : rs ≠ [])
    (h : ∀ r ∈ rs, sep ∉ r) : runs sep (joinRuns sep rs) = rs := by
  induction rs with
  | nil => exact absurd rfl hne
  | cons r rs ih =>
      have hr := h r List.mem_cons_self
      cases rs with
      | nil => exact runs_of_not_mem hr
      | cons r' rs =>
          rw [joinRuns_cons r (by simp), runs_append, runs_of_not_mem hr, List.singleton_append,
            ih (by simp) fun q hq => h q (List.mem_cons_of_mem r hq)]

theorem getLast?_joinRuns {sep : Char} {rs : List (List Char)} {r : List Char} (hr : r ≠ []) :
    (joinRuns sep (rs ++ [r])).getLast? = some (r.getLast hr) := by
  cases rs with
  | nil => exact List.getLast?_eq_some_getLast hr
  | cons q rs =>
      rw [joinRuns_append (by simp) (by simp), List.getLast?_append, List.getLast?_cons]
      simp [joinRuns, List.getLast?_eq_some_getLast hr]

end Text

namespace FileSystem

/-- A name that a node can bear. -/
structure ProperName (name : String) : Prop where
  nonempty : name.toList ≠ []
  noSlash : '/' ∉ name.toList
  noNul : '\x00' ∉ name.toList
  ne_dot : name ≠ "."
  ne_up : name ≠ ".."
  size : name.utf8ByteSize ≤ maxName

instance (name : String) : Decidable (ProperName name) :=
  decidable_of_iff (name.toList ≠ [] ∧ '/' ∉ name.toList ∧ '\x00' ∉ name.toList ∧ name ≠ "." ∧
      name ≠ ".." ∧ name.utf8ByteSize ≤ maxName)
    ⟨fun ⟨h₁, h₂, h₃, h₄, h₅, h₆⟩ => ⟨h₁, h₂, h₃, h₄, h₅, h₆⟩,
      fun ⟨h₁, h₂, h₃, h₄, h₅, h₆⟩ => ⟨h₁, h₂, h₃, h₄, h₅, h₆⟩⟩

theorem eq_directory {found : Option Node} (h : found.any Node.isDirectory = true) :
    ∃ mode, found = some (.directory mode) := by
  cases found with
  | none => cases h
  | some n =>
      cases n with
      | directory mode => exact ⟨mode, rfl⟩
      | file bytes mode => cases h
      | link target => cases h
      | device kind mode => cases h
      | pipe number mode => cases h
      | tool name => cases h

/-- Every node stands once, in a directory, and under a name that it can bear. -/
structure Tree.Sound (t : Tree) : Prop extends Tree.WellFormed t where
  proper : ∀ e ∈ t.entries, ∀ name ∈ e.1, ProperName name

instance (t : Tree) : Decidable t.Sound :=
  decidable_of_iff ((t.entries.map (·.1)).Nodup ∧
      (∀ e ∈ t.entries, (t.get? e.1.tail).any Node.isDirectory = true) ∧
      ∀ e ∈ t.entries, ∀ name ∈ e.1, ProperName name) <| by
    constructor
    · rintro ⟨hnodup, hparent, hproper⟩
      refine ⟨⟨hnodup, fun name loc n h => ?_⟩, hproper⟩
      obtain ⟨mode, hd⟩ := eq_directory (hparent _ h)
      exact ⟨_, hd, rfl⟩
    · intro h
      refine ⟨h.nodup, fun e he => ?_, h.proper⟩
      obtain ⟨loc, n⟩ := e
      cases loc with
      | nil => rfl
      | cons name loc =>
          obtain ⟨d, hd, hdir⟩ := h.parent name loc n he
          rw [List.tail_cons, hd]
          exact hdir

theorem Tree.mem_of_get? {t : Tree} {loc : Location} {n : Node} (h : t.get? loc = some n)
    (hloc : loc ≠ []) : (loc, n) ∈ t.entries := by
  rw [get?, if_neg hloc] at h
  obtain ⟨e, he, rfl⟩ := Option.map_eq_some_iff.mp h
  obtain rfl : e.1 = loc := by simpa using List.find?_some he
  exact List.mem_of_find?_eq_some he

theorem Tree.WellFormed.get?_of_mem {t : Tree} (h : t.WellFormed) {loc : Location} {n : Node}
    (hmem : (loc, n) ∈ t.entries) (hloc : loc ≠ []) : t.get? loc = some n := by
  rw [get?, if_neg hloc]
  cases hf : t.entries.find? (·.1 = loc) with
  | none =>
      have := List.find?_eq_none.mp hf _ hmem
      simp at this
  | some e =>
      have he : e.1 = loc := by simpa using List.find?_some hf
      have heq : e = (loc, n) :=
        List.inj_on_of_nodup_map h.nodup (List.mem_of_find?_eq_some hf) hmem he
      rw [heq]
      rfl

section

variable {t : Tree} {loc : Location} {name : String} {n : Node}

theorem Tree.WellFormed.isDirectory_parent (ht : t.WellFormed)
    (h : t.get? (name :: loc) = some n) : (t.get? loc).any Node.isDirectory = true := by
  obtain ⟨d, hd, hdir⟩ := ht.parent name loc n (mem_of_get? h (by simp))
  rw [hd]
  exact hdir

theorem Tree.WellFormed.isDirectory_tail (ht : t.WellFormed)
    (h : (t.get? loc).any Node.isDirectory = true) :
    (t.get? loc.tail).any Node.isDirectory = true := by
  cases loc with
  | nil => rfl
  | cons name loc =>
      obtain ⟨mode, hd⟩ := eq_directory h
      exact ht.isDirectory_parent hd

theorem Tree.WellFormed.isDirectory_above (ht : t.WellFormed)
    (h : t.get? (name :: loc) = some n) :
    ∀ s, s <:+ loc → (t.get? s).any Node.isDirectory = true := by
  induction loc generalizing name n with
  | nil =>
      intro s hs
      rw [List.suffix_nil.mp hs]
      rfl
  | cons name' loc ih =>
      have hdir := ht.isDirectory_parent h
      intro s hs
      rcases List.suffix_cons_iff.mp hs with rfl | hs
      · exact hdir
      · cases hd : t.get? (name' :: loc) with
        | none =>
            rw [hd] at hdir
            cases hdir
        | some d => exact ih hd s hs

theorem Tree.Sound.properName (ht : t.Sound) (h : t.get? loc = some n) :
    ∀ name ∈ loc, ProperName name := by
  cases loc with
  | nil => exact fun name hname => absurd hname List.not_mem_nil
  | cons name' loc => exact ht.proper _ (mem_of_get? h (by simp))

end

/-- The location holds a node that is no link, and every name on the way can be walked. -/
structure Tree.Holds (t : Tree) (loc : Location) (n : Node) : Prop where
  node : t.get? loc = some n
  solid : ∀ target, n ≠ .link target
  above : ∀ s, s <:+ loc.tail → (t.get? s).any Node.isDirectory = true
  proper : ∀ name ∈ loc, ProperName name

theorem Tree.Sound.holds {t : Tree} (ht : t.Sound) {loc : Location} {n : Node}
    (h : t.get? loc = some n) (hn : ∀ target, n ≠ .link target) : t.Holds loc n := by
  refine ⟨h, hn, ?_, ht.properName h⟩
  cases loc with
  | nil =>
      intro s hs
      rw [List.suffix_nil.mp hs]
      rfl
  | cons name loc => exact ht.isDirectory_above h

variable {t : Tree} {follow : Bool} {enter : Location → List String → Except Fault Location}

theorem Tree.walkWith_step {loc : Location} {name : String} {n : Node} (rest : List String)
    (hdir : (t.get? loc).any Node.isDirectory = true) (hname : ProperName name)
    (hn : t.get? (name :: loc) = some n) (hsolid : ∀ target, n ≠ .link target) :
    t.walkWith follow enter loc (name :: rest) = t.walkWith follow enter (name :: loc) rest := by
  rw [walkWith, if_neg (by simp [hdir]), if_neg hname.ne_dot, if_neg hname.ne_up,
    if_neg (Nat.not_lt.mpr hname.size), hn]
  cases n with
  | link target => exact absurd rfl (hsolid target)
  | file bytes mode => rfl
  | directory mode => rfl
  | device kind mode => rfl
  | pipe number mode => rfl
  | tool name => rfl

/-- From a directory, the names that lead down to a node are walked one after another. -/
theorem Tree.walkWith_down {names : List String} {top : Location} {n : Node}
    (hproper : ∀ name ∈ names, ProperName name) (hn : t.get? (names.reverse ++ top) = some n)
    (hsolid : ∀ target, n ≠ .link target)
    (habove : ∀ s, top <:+ s → s <:+ (names.reverse ++ top).tail →
      (t.get? s).any Node.isDirectory = true) :
    t.walkWith follow enter top names = .ok (names.reverse ++ top) := by
  induction names generalizing top with
  | nil => rfl
  | cons name names ih =>
      have hrev : (name :: names).reverse ++ top = names.reverse ++ name :: top := by simp
      rw [hrev] at hn habove ⊢
      have htop : top <:+ (names.reverse ++ name :: top).tail := by
        cases hr : names.reverse with
        | nil => exact List.suffix_refl top
        | cons a as => exact ⟨as ++ [name], by simp⟩
      -- The next node is the last one, or a directory on the way.
      obtain ⟨m, hm, hmsolid⟩ : ∃ m, t.get? (name :: top) = some m ∧ ∀ target, m ≠ .link target := by
        cases hr : names.reverse with
        | nil =>
            rw [hr] at hn
            exact ⟨n, hn, hsolid⟩
        | cons a as =>
            have hdir := habove (name :: top) (List.suffix_cons name top)
              (by rw [hr]; exact ⟨as, by simp⟩)
            obtain ⟨mode, hm⟩ := eq_directory hdir
            exact ⟨.directory mode, hm, fun target e => by cases e⟩
      rw [walkWith_step names (habove top (List.suffix_refl top) htop)
        (hproper name List.mem_cons_self) hm hmsolid]
      exact ih (fun x hx => hproper x (List.mem_cons_of_mem name hx)) hn
        fun s hs hs' => habove s ((List.suffix_cons name top).trans hs) hs'

theorem Tree.walk_eq (t : Tree) (follow : Bool) (links : Nat) :
    ∃ enter, t.walk follow links = t.walkWith follow enter := by
  cases links with
  | zero => exact ⟨_, rfl⟩
  | succ links => exact ⟨_, rfl⟩

/-- The way down from the root. -/
theorem Tree.Holds.walk {loc : Location} {n : Node} (h : t.Holds loc n) (links : Nat) :
    t.walk follow links [] loc.reverse = .ok loc := by
  obtain ⟨enter, he⟩ := t.walk_eq follow links
  have hdown := @walkWith_down t follow enter loc.reverse [] n
  rw [List.reverse_reverse, List.append_nil] at hdown
  rw [he, hdown (fun name hname => h.proper name (List.mem_reverse.mp hname)) h.node h.solid
    fun s _ hs => h.above s hs]

theorem toList_path (loc : Location) :
    (Location.path loc).text.toList = '/' :: Text.joinRuns '/' (loc.reverse.map String.toList) := by
  simp [Location.path]

theorem isAbsolute_path (loc : Location) : isAbsolute (Location.path loc).text = true := by
  rw [isAbsolute, toList_path]
  rfl

theorem noSlash_of_proper {loc : Location} (h : ∀ name ∈ loc, ProperName name) :
    ∀ r ∈ loc.reverse.map String.toList, '/' ∉ r := by
  intro r hr
  obtain ⟨name, hname, rfl⟩ := List.mem_map.mp hr
  exact (h name (List.mem_reverse.mp hname)).noSlash

/-- The names in the path of a location. -/
theorem names_path {loc : Location} (hloc : loc ≠ []) (h : ∀ name ∈ loc, ProperName name) :
    names (Location.path loc).text = loc.reverse := by
  have hne : loc.reverse.map String.toList ≠ [] := by simpa using hloc
  have hruns : Text.runs '/' (Location.path loc).text.toList =
      [] :: loc.reverse.map String.toList := by
    rw [toList_path, Text.runs, if_pos rfl, Text.runs_joinRuns hne (noSlash_of_proper h)]
  have hnonempty : ∀ r ∈ loc.reverse.map String.toList, decide (r ≠ []) = true := by
    intro r hr
    obtain ⟨name, hname, rfl⟩ := List.mem_map.mp hr
    simpa using (h name (List.mem_reverse.mp hname)).nonempty
  have hlast : ([] :: loc.reverse.map String.toList).getLast? ≠ some [] := by
    intro e
    rw [List.getLast?_cons, List.getLast?_eq_some_getLast hne, Option.getD_some] at e
    have := hnonempty _ (List.getLast_mem hne)
    rw [Option.some.inj e] at this
    cases this
  have hback : (loc.reverse.map String.toList).map String.ofList = loc.reverse := by
    simp [Function.comp_def]
  rw [names, hruns, if_neg hlast, List.append_nil, List.filter_cons_of_neg (by simp),
    List.filter_eq_self.mpr hnonempty, hback]

theorem names_root : names (Location.path []).text = ["."] := by decide

theorem names_ne_nil (path : String) : names path ≠ [] := by
  intro h
  obtain ⟨hfilter, hlast⟩ := List.append_eq_nil_iff.mp h
  have hruns := Text.runs_ne_nil '/' path.toList
  have hall := List.filter_eq_nil_iff.mp (List.map_eq_nil_iff.mp hfilter)
  have hempty : (Text.runs '/' path.toList).getLast hruns = [] := by
    simpa using hall _ (List.getLast_mem hruns)
  rw [List.getLast?_eq_some_getLast hruns, hempty, if_pos rfl] at hlast
  cases hlast

variable {fs : FileSystem} {loc : Location} {n : Node}

theorem start_path (fs : FileSystem) (loc : Location) :
    fs.start (Location.path loc).text = [] := by
  rw [start, isAbsolute_path, if_pos rfl]

/-- The path of a location leads to it. -/
theorem Tree.Holds.locate (h : fs.tree.Holds loc n)
    (hcheck : checkPath (Location.path loc) = .ok ()) :
    fs.locate (Location.path loc) follow = .ok loc := by
  rw [FileSystem.locate, hcheck, start_path]
  change fs.tree.walk follow maxLinks [] _ = _
  by_cases hloc : loc = []
  · subst hloc
    rw [names_root]
    obtain ⟨enter, he⟩ := fs.tree.walk_eq follow maxLinks
    rw [he]
    rfl
  · rw [names_path hloc h.proper]
    exact h.walk maxLinks

theorem Tree.Holds.node_path (h : fs.tree.Holds loc n)
    (hcheck : checkPath (Location.path loc) = .ok ()) : fs.node (Location.path loc) = .ok n := by
  rw [FileSystem.node, h.locate hcheck]
  simp only [bind, Except.bind, h.node]

theorem endsWith_path {name : String} (h : ProperName name) :
    Text.endsWith (Location.path (name :: loc)).text "/" = false := by
  rw [Bool.eq_false_iff, ne_eq, Text.endsWith_iff]
  rintro ⟨rest, he⟩
  have hlast := congrArg (List.getLast? ∘ String.toList) he
  simp only [Function.comp_apply, toList_path, String.toList_append, List.reverse_cons,
    List.map_append, List.map_cons, List.map_nil] at hlast
  rw [List.getLast?_cons, Text.getLast?_joinRuns h.nonempty, Option.getD_some] at hlast
  have hslash : name.toList.getLast h.nonempty = '/' := by simpa using hlast
  exact h.noSlash (hslash ▸ List.getLast_mem h.nonempty)

/-- The place of a location is in its directory. -/
theorem Tree.Holds.place {name : String} (h : fs.tree.Holds (name :: loc) n)
    (hcheck : checkPath (Location.path (name :: loc)) = .ok ()) :
    fs.place (Location.path (name :: loc)) = .ok ⟨loc, name, false⟩ := by
  have hname := h.proper name List.mem_cons_self
  have hdir := h.above loc (List.suffix_refl loc)
  obtain ⟨mode, hd⟩ := eq_directory hdir
  have hparent : fs.tree.Holds loc (.directory mode) := by
    refine ⟨hd, fun target e => ?_, fun s hs => ?_, fun x hx => ?_⟩
    · cases e
    · exact h.above s (hs.trans (List.tail_suffix loc))
    · exact h.proper x (List.mem_cons_of_mem name hx)
  rw [FileSystem.place, hcheck, names_path (by simp) h.proper, List.reverse_reverse,
    endsWith_path hname, start_path]
  change (do
    let parent ← fs.tree.walk true maxLinks [] loc.reverse
    _ : Except Fault Place) = _
  rw [hparent.walk maxLinks]
  change (if _ then _ else _) = _
  rw [if_neg (by simp [hdir]), if_neg (by simp [hname.ne_dot, hname.ne_up]),
    if_neg (Nat.not_lt.mpr hname.size)]

theorem Tree.Sound.holds_directory {t : Tree} (ht : t.Sound) {loc : Location}
    (h : (t.get? loc).any Node.isDirectory = true) : ∃ n, t.Holds loc n := by
  obtain ⟨mode, hd⟩ := eq_directory h
  exact ⟨_, ht.holds hd fun target e => by cases e⟩

/-- Each step of a walk ends at a node that is there and is no link. -/
theorem Tree.Sound.holds_of_walkWith {t : Tree} (ht : t.Sound)
    {enter : Location → List String → Except Fault Location}
    (henter : ∀ loc names out, names ≠ [] → enter loc names = .ok out → ∃ n, t.Holds out n)
    {loc out : Location} {names : List String} (hstart : names ≠ [] ∨ ∃ n, t.Holds loc n)
    (h : t.walkWith true enter loc names = .ok out) : ∃ n, t.Holds out n := by
  induction names generalizing loc with
  | nil =>
      cases h
      exact hstart.resolve_left (absurd rfl)
  | cons name rest ih =>
      have hother {n : Node} (hn : t.get? (name :: loc) = some n) (hsolid : ∀ target, n ≠ .link target)
          (h : t.walkWith true enter (name :: loc) rest = .ok out) : ∃ n, t.Holds out n :=
        ih (.inr ⟨n, ht.holds hn hsolid⟩) h
      rw [walkWith] at h
      by_cases hdir : (t.get? loc).any Node.isDirectory = true
      · rw [if_neg (by simp [hdir])] at h
        by_cases hdot : name = "."
        · rw [if_pos hdot] at h
          exact ih (.inr (ht.holds_directory hdir)) h
        · rw [if_neg hdot] at h
          by_cases hup : name = ".."
          · rw [if_pos hup] at h
            exact ih (.inr (ht.holds_directory (ht.isDirectory_tail hdir))) h
          · rw [if_neg hup] at h
            by_cases hsize : maxName < name.utf8ByteSize
            · rw [if_pos hsize] at h
              cases h
            · rw [if_neg hsize] at h
              cases hn : t.get? (name :: loc) with
              | none =>
                  rw [hn] at h
                  cases h
              | some n =>
                  rw [hn] at h
                  cases n with
                  | link target =>
                      refine henter _ (names target ++ rest) out ?_ (by simpa using h)
                      exact List.append_ne_nil_of_left_ne_nil (names_ne_nil target) rest
                  | file bytes mode => exact hother hn (fun _ e => by cases e) h
                  | directory mode => exact hother hn (fun _ e => by cases e) h
                  | device kind mode => exact hother hn (fun _ e => by cases e) h
                  | pipe number mode => exact hother hn (fun _ e => by cases e) h
                  | tool program => exact hother hn (fun _ e => by cases e) h
      · rw [if_pos (by simp [hdir])] at h
        cases h

theorem Tree.Sound.holds_of_walk {t : Tree} (ht : t.Sound) {links : Nat} {loc out : Location}
    {names : List String} (hnames : names ≠ []) (h : t.walk true links loc names = .ok out) :
    ∃ n, t.Holds out n := by
  induction links generalizing loc names out with
  | zero => exact ht.holds_of_walkWith (fun _ _ _ _ h => by cases h) (.inl hnames) h
  | succ links ih =>
      exact ht.holds_of_walkWith (fun _ _ _ hne h => ih hne h) (.inl hnames) h

theorem holds_of_locate (ht : fs.tree.Sound) {p : Path} (h : fs.locate p true = .ok loc) :
    ∃ n, fs.tree.Holds loc n := by
  rw [locate] at h
  cases hc : checkPath p with
  | error fault =>
      rw [hc] at h
      cases h
  | ok u =>
      rw [hc] at h
      exact ht.holds_of_walk (names_ne_nil p.text) h

theorem checkPath_of_locate {p : Path} (h : fs.locate p follow = .ok loc) :
    checkPath p = .ok () := by
  rw [locate] at h
  cases hc : checkPath p with
  | error fault =>
      rw [hc] at h
      cases h
  | ok u => rfl

theorem locate_of_node {p : Path} (h : fs.node p = .ok n) :
    ∃ loc, fs.locate p true = .ok loc ∧ fs.tree.get? loc = some n := by
  rw [node] at h
  cases hl : fs.locate p true with
  | error fault =>
      rw [hl] at h
      cases h
  | ok loc =>
      refine ⟨loc, rfl, ?_⟩
      cases hn : fs.tree.get? loc with
      | none =>
          simp only [bind, Except.bind, hl, hn] at h
          cases h
      | some m =>
          simp only [bind, Except.bind, hl, hn] at h
          cases h
          rfl

theorem read_file {p : Path} {bytes : Bytes} {mode : Nat}
    (hnode : fs.node p = .ok (.file bytes mode))
    (hreadable : (Node.file bytes mode).isReadable = true) : fs.read p = .ok bytes := by
  rw [read, hnode]
  change (if (!(Node.file bytes mode).isReadable) = true then _ else _ : Except Fault Bytes) = _
  rw [hreadable]
  rfl

theorem node_of_read {p : Path} {bytes : Bytes} (h : fs.read p = .ok bytes) :
    ∃ n, fs.node p = .ok n ∧ n.isReadable = true := by
  rw [read] at h
  cases hn : fs.node p with
  | error fault =>
      rw [hn] at h
      cases h
  | ok n =>
      refine ⟨n, rfl, ?_⟩
      by_contra hr
      rw [hn] at h
      change (if (!n.isReadable) = true then throw Fault.permissionDenied else _ :
        Except Fault Bytes) = _ at h
      rw [if_pos (by simp [hr])] at h
      cases h

end FileSystem
end ImportResolver

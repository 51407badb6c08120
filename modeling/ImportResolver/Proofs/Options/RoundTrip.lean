import ImportResolver.Options.Reading
import ImportResolver.Proofs.Json.Printing
import ImportResolver.Resolution.Writing
import Mathlib.Data.List.Nodup
/- Options that are written and read again. What is left out for want of a value reads as no value,
and each form of a rule reads as that form, so nothing is lost or changed. -/
namespace ImportResolver

open Json Extension Package

namespace Json

/-- Every value is written as a legible one, and reads as itself. -/
structure Faithful {α : Type} (write : α → Json) (read : Json → Option α) : Prop where
  legible : ∀ x, Legible (write x)
  read_write : ∀ x, read (write x) = some x

namespace Faithful

variable {α : Type} {write : α → Json} {read : Json → Option α}

theorem text : Faithful ofString text? := ⟨fun s => .string s, fun _ => rfl⟩

theorem bool : Faithful .bool asBool? := ⟨fun b => .bool b, fun _ => rfl⟩

theorem mapM_write (h : Faithful write read) (xs : List α) :
    (xs.map write).mapM read = some xs := by
  induction xs with
  | nil => rfl
  | cons x xs ih =>
      rw [List.map_cons, List.mapM_cons, h.read_write, ih]
      rfl

theorem legible_array (h : Faithful write read) (xs : List α) :
    Legible (.array (xs.map write)) := by
  refine .array fun v hv => ?_
  obtain ⟨x, -, rfl⟩ := List.mem_map.mp hv
  exact h.legible x

theorem list (h : Faithful write read) :
    Faithful (fun xs => .array (xs.map write)) (asList? read) :=
  ⟨h.legible_array, h.mapM_write⟩

theorem legible_of_mem (h : Faithful write read) (x : Option α) :
    ∀ v ∈ x.map write, Legible v := by
  intro v hv
  obtain ⟨a, -, rfl⟩ := Option.map_eq_some_iff.mp hv
  exact h.legible a

theorem orElse?_some (h : Faithful write read) (missing a : α) :
    orElse? missing read (some (write a)) = some a :=
  h.read_write a

/-- An optional value that is no `null` when it is written can be left out. -/
theorem orElse?_map (h : Faithful write read) (hnull : ∀ x, write x ≠ .null) (x : Option α) :
    orElse? none (asOption? read) (x.map write) = some x := by
  cases x with
  | none => rfl
  | some a =>
      have hread : asOption? read (write a) = (read (write a)).map some := by
        cases hv : write a with
        | null => exact absurd hv (hnull a)
        | _ => rfl
      rw [Option.map_some, orElse?, hread, h.read_write, Option.map_some]

end Faithful

/-- The members of a record, in the order of its fields. A field without a value has none. -/
def present (fields : List (String × Option Json)) : List (String × Json) :=
  fields.flatMap fun f => Json.optional f.1 f.2

theorem mem_optional_iff {name : String} {value : Option Json} {m : String × Json} :
    m ∈ Json.optional name value ↔ m.1 = name ∧ value = some m.2 := by
  obtain ⟨key, v⟩ := m
  cases value with
  | none => simp [Json.optional]
  | some w => simp [Json.optional, eq_comm]

theorem mem_present_iff {fields : List (String × Option Json)} {m : String × Json} :
    m ∈ present fields ↔ (m.1, some m.2) ∈ fields := by
  constructor
  · intro h
    obtain ⟨⟨name, value⟩, hf, hm⟩ := List.mem_flatMap.mp h
    obtain ⟨rfl, rfl⟩ := mem_optional_iff.mp hm
    exact hf
  · intro h
    exact List.mem_flatMap.mpr ⟨_, h, mem_optional_iff.mpr ⟨rfl, rfl⟩⟩

theorem legible_record {fields : List (String × Option Json)}
    (h : ∀ f ∈ fields, ∀ v ∈ f.2, Legible v) : Legible (ofMembers (present fields)) := by
  refine .object (fun m hm => ?_) fun m hm => ?_
  · obtain ⟨⟨name, v⟩, -, rfl⟩ := List.mem_map.mp hm
    exact ⟨name, rfl⟩
  · obtain ⟨⟨name, v⟩, hv, rfl⟩ := List.mem_map.mp hm
    exact h _ (mem_present_iff.mp hv) v rfl

/-- Under each name stands what its field holds, since no other field has that name. -/
theorem filter_present {fields : List (String × Option Json)} (hnames : (fields.map (·.1)).Nodup)
    {f : String × Option Json} (hf : f ∈ fields) :
    (present fields).filter (·.1 = f.1) = Json.optional f.1 f.2 := by
  obtain ⟨before, after, rfl⟩ := List.append_of_mem hf
  rw [List.map_append, List.map_cons, List.nodup_middle, ← List.map_append] at hnames
  have hother : ∀ g ∈ before ++ after, g.1 ≠ f.1 := fun g hg hname =>
    (List.nodup_cons.mp hnames).1 (hname ▸ List.mem_map_of_mem hg)
  have hnone : ∀ others ⊆ before ++ after, (present others).filter (·.1 = f.1) = [] := by
    refine fun others hsub => List.filter_eq_nil_iff.mpr fun m hm hname => ?_
    exact hother _ (hsub (mem_present_iff.mp hm)) (of_decide_eq_true hname)
  have hself : (Json.optional f.1 f.2).filter (·.1 = f.1) = Json.optional f.1 f.2 :=
    List.filter_eq_self.mpr fun m hm => decide_eq_true (mem_optional_iff.mp hm).1
  rw [present, List.flatMap_append, List.flatMap_cons, List.filter_append, List.filter_append,
    ← present, ← present, hnone before (List.subset_append_left _ _),
    hnone after (List.subset_append_right _ _), hself, List.nil_append, List.append_nil]

theorem once?_present {fields : List (String × Option Json)} (hnames : (fields.map (·.1)).Nodup)
    {f : String × Option Json} (hf : f ∈ fields) :
    once? f.1 ((present fields).map fun m => (some m.1, m.2)) = some f.2 := by
  have hfilter : ((present fields).map fun m => (some m.1, m.2)).filter (·.1 = some f.1) =
      (Json.optional f.1 f.2).map fun m => (some m.1, m.2) := by
    rw [List.filter_map, ← filter_present hnames hf]
    simp [Function.comp_def]
  rw [once?, hfilter]
  cases f.2 <;> rfl

/-- A record is read field by field. -/
theorem fields?_record {fields : List (String × Option Json)} {names : List String}
    (h : fields.map (·.1) = names) (hnames : names.Nodup) :
    fields? names (ofMembers (present fields)) = some (fields.map (·.2)) := by
  subst h
  have hread : ∀ fs ⊆ fields, (fs.map (·.1)).mapM
      (fun name => once? name ((present fields).map fun m => (some m.1, m.2))) =
        some (fs.map (·.2)) := by
    intro fs hfs
    induction fs with
    | nil => rfl
    | cons f fs ih =>
        obtain ⟨hf, hfs⟩ := List.cons_subset.mp hfs
        rw [List.map_cons, List.mapM_cons, once?_present hnames hf, ih hfs]
        rfl
  rw [ofMembers, fields?, if_pos (by simp), hread fields (List.Subset.refl _)]

end Json

theorem Extension.RawPart.faithful : Faithful RawPart.toJson RawPart.ofJson? := by
  constructor
  · intro part
    cases part with
    | one e => exact .string e
    | many es => exact Faithful.text.legible_array es
    | null => exact .null
  · intro part
    cases part with
    | one e => rfl
    | many es => exact congrArg (Option.map RawPart.many) (Faithful.text.mapM_write es)
    | null => rfl

theorem Extension.RawRule.faithful : Faithful RawRule.toJson RawRule.ofJson? := by
  constructor
  · intro rule
    cases rule with
    | bare e => exact .string e
    | parts ps => exact RawPart.faithful.legible_array ps
  · intro rule
    cases rule with
    | bare e => rfl
    | parts ps => exact congrArg (Option.map RawRule.parts) (RawPart.faithful.mapM_write ps)

theorem Extension.rawRules_faithful : Faithful rawRulesToJson rulesOfJson? := RawRule.faithful.list

namespace Package

def RawDescriptor.fields (d : RawDescriptor) : List (String × Option Json) :=
  [("kind", some (ofString d.kind)), ("field", d.field.map ofString),
   ("path", d.path.map ofString), ("extensions", some (rawRulesToJson d.extensions))]

theorem RawDescriptor.toJson_eq (d : RawDescriptor) : d.toJson = ofMembers (present d.fields) := by
  simp [toJson, fields, present, Json.optional]

theorem RawDescriptor.faithful : Faithful RawDescriptor.toJson RawDescriptor.ofJson? := by
  constructor
  · intro d
    rw [d.toJson_eq]
    refine legible_record ?_
    simp only [fields, List.forall_mem_cons]
    exact ⟨Faithful.text.legible_of_mem (some d.kind), Faithful.text.legible_of_mem d.field,
      Faithful.text.legible_of_mem d.path,
      rawRules_faithful.legible_of_mem (some d.extensions), nofun⟩
  · intro d
    rw [ofJson?, d.toJson_eq, fields?_record]
    · simp [fields, Faithful.text.read_write, Faithful.text.orElse?_map nofun,
        rawRules_faithful.orElse?_some]
    · rfl
    · decide

theorem descriptors_faithful :
    Faithful (fun ds => .array (ds.map RawDescriptor.toJson)) descriptorsOfJson? :=
  RawDescriptor.faithful.list

end Package

def RawSubmodule.fields (s : RawSubmodule) : List (String × Option Json) :=
  [("extensions", s.extensions.map rawRulesToJson),
   ("ignoreExports", s.ignoreExports.map .bool)]

theorem RawSubmodule.toJson_eq (s : RawSubmodule) : s.toJson = ofMembers (present s.fields) := by
  simp [toJson, fields, present, Json.optional]

theorem RawSubmodule.faithful : Faithful RawSubmodule.toJson RawSubmodule.ofJson? := by
  constructor
  · intro s
    rw [s.toJson_eq]
    refine legible_record ?_
    simp only [fields, List.forall_mem_cons]
    exact ⟨rawRules_faithful.legible_of_mem s.extensions,
      Faithful.bool.legible_of_mem s.ignoreExports, nofun⟩
  · intro s
    rw [ofJson?, s.toJson_eq, fields?_record]
    · simp [fields, rawRules_faithful.orElse?_map nofun, Faithful.bool.orElse?_map nofun]
    · rfl
    · decide

def RawModule.fields (m : RawModule) : List (String × Option Json) :=
  [("entry", some (.array (m.entry.map RawDescriptor.toJson))),
   ("ignoreExports", m.ignoreExports.map .bool)]

theorem RawModule.toJson_eq (m : RawModule) : m.toJson = ofMembers (present m.fields) := by
  simp [toJson, fields, present, Json.optional]

theorem RawModule.faithful : Faithful RawModule.toJson RawModule.ofJson? := by
  constructor
  · intro m
    rw [m.toJson_eq]
    refine legible_record ?_
    simp only [fields, List.forall_mem_cons]
    exact ⟨descriptors_faithful.legible_of_mem (some m.entry),
      Faithful.bool.legible_of_mem m.ignoreExports, nofun⟩
  · intro m
    rw [ofJson?, m.toJson_eq, fields?_record]
    · simp [fields, descriptors_faithful.orElse?_some, Faithful.bool.orElse?_map nofun]
    · rfl
    · decide

namespace RawOptions

def fields (raw : RawOptions) : List (String × Option Json) :=
  [("extensions", some (rawRulesToJson raw.extensions)),
   ("extensionsSubmodule", raw.extensionsSubmodule.map rawRulesToJson),
   ("submodule", some raw.submodule.toJson), ("module", some raw.module.toJson),
   ("ignoreUnresolved", some (.bool raw.ignoreUnresolved)),
   ("ignoreExports", some (.bool raw.ignoreExports))]

theorem toJson_eq (raw : RawOptions) : raw.toJson = ofMembers (present raw.fields) := by
  simp [toJson, fields, present, Json.optional]

theorem faithful : Faithful toJson ofJson? := by
  constructor
  · intro raw
    rw [raw.toJson_eq]
    refine legible_record ?_
    simp only [fields, List.forall_mem_cons]
    exact ⟨rawRules_faithful.legible_of_mem (some raw.extensions),
      rawRules_faithful.legible_of_mem raw.extensionsSubmodule,
      RawSubmodule.faithful.legible_of_mem (some raw.submodule),
      RawModule.faithful.legible_of_mem (some raw.module),
      Faithful.bool.legible_of_mem (some raw.ignoreUnresolved),
      Faithful.bool.legible_of_mem (some raw.ignoreExports), nofun⟩
  · intro raw
    rw [ofJson?, raw.toJson_eq, fields?_record]
    · simp [fields, rawRules_faithful.orElse?_some, rawRules_faithful.orElse?_map nofun,
        RawSubmodule.faithful.orElse?_some, RawModule.faithful.orElse?_some,
        Faithful.bool.orElse?_some]
    · rfl
    · decide

/-- Options that are written as JSON, in one line or over several, are read as they were. So they
come to the same, or to the same fault. -/
theorem parse?_written (raw : RawOptions) :
    parse? raw.toJson.render = some raw ∧ parse? raw.toJson.pretty = some raw ∧
    (parse? raw.toJson.render).map normalize = some raw.normalize ∧
    (parse? raw.toJson.pretty).map normalize = some raw.normalize := by
  have hrender : parse? raw.toJson.render = some raw := by
    rw [parse?, parse?_render (faithful.legible raw), Option.bind_some, faithful.read_write]
  have hpretty : parse? raw.toJson.pretty = some raw := by
    rw [parse?, parse?_pretty (faithful.legible raw), Option.bind_some, faithful.read_write]
  exact ⟨hrender, hpretty, congrArg (Option.map normalize) hrender,
    congrArg (Option.map normalize) hpretty⟩

end RawOptions
end ImportResolver

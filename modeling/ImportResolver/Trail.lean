import ImportResolver.Failure
/- The steps of a resolution, recorded on the way to its result. -/
namespace ImportResolver

inductive Step.Name where
  | classifySpecifier
  | resolveRelative
  | fileExists
  | resolveDirectory
  | probeExtension
  | searchNodeModules
  | searchGlobalDirs
  | findPackageDir
  | readManifest
  | checkExports
  | resolveEntry
  | finalSpecifier
  deriving DecidableEq

def Step.Name.text : Step.Name → String
  | .classifySpecifier => "classify_specifier"
  | .resolveRelative => "resolve_relative"
  | .fileExists => "file_exists"
  | .resolveDirectory => "resolve_directory"
  | .probeExtension => "probe_extension"
  | .searchNodeModules => "search_node_modules"
  | .searchGlobalDirs => "search_global_dirs"
  | .findPackageDir => "find_package_dir"
  | .readManifest => "read_manifest"
  | .checkExports => "check_exports"
  | .resolveEntry => "resolve_entry"
  | .finalSpecifier => "final_specifier"

structure Step where
  name : Step.Name
  ok : Bool
  detail : String
  path : Option Path := none
  key : Option String := none
  notes : List String := []
  deriving DecidableEq

/-- A result with the steps that led to it. -/
structure Trail (α : Type) where
  steps : List Step
  result : Except Failure α

namespace Trail

variable {α β : Type}

def pure (a : α) : Trail α := ⟨[], .ok a⟩

/-- A failure ends the trail. -/
def bind (x : Trail α) (f : α → Trail β) : Trail β :=
  match x.result with
  | .ok a =>
    let y := f a
    ⟨x.steps ++ y.steps, y.result⟩
  | .error e => ⟨x.steps, .error e⟩

instance : Monad Trail where
  pure := pure
  bind := bind

def record (step : Step) : Trail Unit := ⟨[step], .ok ()⟩

def ofExcept (x : Except Failure α) : Trail α := ⟨[], x⟩

@[simp] theorem pure_steps (a : α) : (Pure.pure a : Trail α).steps = [] := rfl

@[simp] theorem pure_result (a : α) : (Pure.pure a : Trail α).result = .ok a := rfl

@[simp] theorem record_steps (s : Step) : (record s).steps = [s] := rfl

@[simp] theorem record_result (s : Step) : (record s).result = .ok () := rfl

@[simp] theorem ofExcept_steps (x : Except Failure α) : (ofExcept x).steps = [] := rfl

@[simp] theorem ofExcept_result (x : Except Failure α) : (ofExcept x).result = x := rfl

theorem bind_of_ok {x : Trail α} {a : α} (f : α → Trail β) (h : x.result = .ok a) :
    x >>= f = ⟨x.steps ++ (f a).steps, (f a).result⟩ := by
  change x.bind f = _
  simp [bind, h]

theorem bind_of_error {x : Trail α} {e : Failure} (f : α → Trail β) (h : x.result = .error e) :
    x >>= f = ⟨x.steps, .error e⟩ := by
  change x.bind f = _
  simp [bind, h]

@[simp] theorem bind_result (x : Trail α) (f : α → Trail β) :
    (x >>= f).result = x.result.bind fun a => (f a).result := by
  change (x.bind f).result = _
  cases h : x.result <;> simp [bind, h, Except.bind]

/-- What comes after a trail matters only for what the trail comes to. -/
theorem bind_congr {x : Trail α} {f g : α → Trail β} (h : ∀ a, x.result = .ok a → f a = g a) :
    x >>= f = x >>= g := by
  cases hx : x.result with
  | error e => rw [bind_of_error f hx, bind_of_error g hx]
  | ok a => rw [bind_of_ok f hx, bind_of_ok g hx, h a hx]

theorem mem_bind_steps {x : Trail α} {f : α → Trail β} {s : Step} :
    s ∈ (x >>= f).steps ↔ s ∈ x.steps ∨ ∃ a, x.result = .ok a ∧ s ∈ (f a).steps := by
  cases hx : x.result with
  | error e => simp [bind_of_error f hx]
  | ok a => simp [bind_of_ok f hx]

end Trail

variable {α β : Type} {x : Except Failure α} {b : β}

theorem exists_of_map_eq_ok {f : α → β} (h : x.map f = .ok b) : ∃ a, x = .ok a ∧ f a = b := by
  cases x with
  | error e => cases h
  | ok a => exact ⟨a, rfl, Except.ok.inj h⟩

theorem exists_of_bind_eq_ok {f : α → Except Failure β} (h : x.bind f = .ok b) :
    ∃ a, x = .ok a ∧ f a = .ok b := by
  cases x with
  | error e => cases h
  | ok a => exact ⟨a, rfl, h⟩

theorem eq_error_of_map {f : α → β} {e : Failure} (h : x.map f = .error e) : x = .error e := by
  cases x with
  | error e' => exact congrArg Except.error (Except.error.inj h)
  | ok a => cases h

theorem eq_error_of_bind {f : α → Except Failure β} {e : Failure} (h : x.bind f = .error e) :
    x = .error e ∨ ∃ a, x = .ok a ∧ f a = .error e := by
  cases x with
  | error e' => exact .inl (congrArg Except.error (Except.error.inj h))
  | ok a => exact .inr ⟨a, rfl, h⟩

end ImportResolver

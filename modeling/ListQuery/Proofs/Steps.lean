import Mathlib.Data.List.Forall2
/-!
Runs of steps that may fail. A run over a list succeeds exactly when every step does, and then its
results stand beside the inputs.
-/
namespace ListQuery

variable {ε α β : Type}

theorem bind_eq_ok_iff {x : Except ε α} {f : α → Except ε β} {b : β} :
    (x >>= f) = .ok b ↔ ∃ a, x = .ok a ∧ f a = .ok b := by
  cases x with
  | error fault => exact ⟨nofun, fun ⟨_, h, _⟩ => nomatch h⟩
  | ok a =>
    constructor
    · intro h
      exact ⟨a, rfl, h⟩
    · rintro ⟨_, same, h⟩
      cases same
      exact h

theorem bind_eq_error_iff {x : Except ε α} {f : α → Except ε β} {fault : ε} :
    (x >>= f) = .error fault ↔ x = .error fault ∨ ∃ a, x = .ok a ∧ f a = .error fault := by
  cases x with
  | error first =>
    constructor
    · intro h
      cases h
      exact .inl rfl
    · rintro (h | ⟨_, same, _⟩)
      · cases h
        rfl
      · cases same
  | ok a =>
    constructor
    · intro h
      exact .inr ⟨a, rfl, h⟩
    · rintro (same | ⟨_, same, h⟩)
      · cases same
      · cases same
        exact h

theorem map_eq_ok_iff {x : Except ε α} {f : α → β} {b : β} :
    x.map f = .ok b ↔ ∃ a, x = .ok a ∧ f a = b := by
  cases x with
  | error fault => exact ⟨nofun, fun ⟨_, h, _⟩ => nomatch h⟩
  | ok a =>
    constructor
    · intro h
      exact ⟨a, rfl, Except.ok.inj h⟩
    · rintro ⟨_, same, rfl⟩
      cases same
      rfl

theorem exists_map_eq_ok_iff {x : Except ε α} {f : α → β} :
    (∃ b, x.map f = .ok b) ↔ ∃ a, x = .ok a := by
  constructor
  · rintro ⟨b, h⟩
    obtain ⟨a, ha, _⟩ := map_eq_ok_iff.mp h
    exact ⟨a, ha⟩
  · rintro ⟨a, rfl⟩
    exact ⟨f a, rfl⟩

theorem mapError_eq_ok_iff {δ : Type} {x : Except ε α} {f : ε → δ} {a : α} :
    x.mapError f = .ok a ↔ x = .ok a := by
  cases x with
  | error fault => exact ⟨nofun, nofun⟩
  | ok given => exact ⟨fun h => congrArg _ (Except.ok.inj h), fun h => congrArg _ (Except.ok.inj h)⟩

theorem mapM_eq_ok_iff {f : α → Except ε β} {inputs : List α} {results : List β} :
    inputs.mapM f = .ok results ↔ List.Forall₂ (fun a b => f a = .ok b) inputs results := by
  induction inputs generalizing results with
  | nil =>
    rw [List.mapM_nil, List.forall₂_nil_left_iff]
    constructor
    · intro h
      exact (Except.ok.inj h).symm
    · rintro rfl
      rfl
  | cons a rest ih =>
    rw [List.mapM_cons, bind_eq_ok_iff, List.forall₂_cons_left_iff]
    constructor
    · rintro ⟨b, hb, h⟩
      obtain ⟨more, hmore, h⟩ := bind_eq_ok_iff.mp h
      exact ⟨b, more, hb, ih.mp hmore, (Except.ok.inj h).symm⟩
    · rintro ⟨b, more, hb, hmore, rfl⟩
      exact ⟨b, hb, bind_eq_ok_iff.mpr ⟨more, ih.mpr hmore, rfl⟩⟩

theorem exists_mapM_eq_ok_iff {f : α → Except ε β} {inputs : List α} :
    (∃ results, inputs.mapM f = .ok results) ↔ ∀ a ∈ inputs, ∃ b, f a = .ok b := by
  induction inputs with
  | nil => exact ⟨fun _ _ h => (List.not_mem_nil h).elim, fun _ => ⟨[], rfl⟩⟩
  | cons a rest ih =>
    rw [List.forall_mem_cons, ← ih]
    constructor
    · rintro ⟨results, h⟩
      obtain ⟨b, more, hb, hmore, _⟩ := List.forall₂_cons_left_iff.mp (mapM_eq_ok_iff.mp h)
      exact ⟨⟨b, hb⟩, more, mapM_eq_ok_iff.mpr hmore⟩
    · rintro ⟨⟨b, hb⟩, more, hmore⟩
      exact ⟨b :: more, mapM_eq_ok_iff.mpr (.cons hb (mapM_eq_ok_iff.mp hmore))⟩

/-- A run fails with the fault of one of its steps. -/
theorem exists_mem_of_mapM_eq_error {f : α → Except ε β} {inputs : List α} {fault : ε}
    (run : inputs.mapM f = .error fault) : ∃ a ∈ inputs, f a = .error fault := by
  induction inputs with
  | nil => cases run
  | cons a rest ih =>
    rw [List.mapM_cons] at run
    rcases bind_eq_error_iff.mp run with first | ⟨b, _, run⟩
    · exact ⟨a, List.mem_cons_self, first⟩
    · rcases bind_eq_error_iff.mp run with later | ⟨more, _, run⟩
      · obtain ⟨a, member, failed⟩ := ih later
        exact ⟨a, List.mem_cons_of_mem _ member, failed⟩
      · cases run

theorem mem_of_mapM {f : α → Except ε β} {inputs : List α} {results : List β}
    (run : inputs.mapM f = .ok results) {a : α} (member : a ∈ inputs) {b : β} (h : f a = .ok b) :
    b ∈ results := by
  have pairs := mapM_eq_ok_iff.mp run
  clear run
  induction pairs with
  | nil => cases member
  | cons hab _ ih =>
    rcases List.mem_cons.mp member with rfl | later
    · rw [h] at hab
      cases hab
      exact List.mem_cons_self
    · exact List.mem_cons_of_mem _ (ih later)

/-- A run that goes on begins with the results that were there. -/
theorem prefix_of_mapM {f : α → Except ε β} {inputs more : List α} {results all : List β}
    (begins : inputs <+: more) (run : inputs.mapM f = .ok results)
    (longer : more.mapM f = .ok all) : results <+: all := by
  obtain ⟨later, rfl⟩ := begins
  rw [List.mapM_append] at longer
  obtain ⟨front, again, longer⟩ := bind_eq_ok_iff.mp longer
  obtain ⟨back, _, same⟩ := bind_eq_ok_iff.mp longer
  rw [run] at again
  cases again
  cases same
  exact List.prefix_append results back

/-- What the step for every input keeps, a run over these inputs keeps. -/
theorem foldlM_keeps_of_mem {f : β → α → Except ε β} {P : β → Prop} {inputs : List α}
    (step : ∀ a ∈ inputs, ∀ b next, P b → f b a = .ok next → P next) {start result : β}
    (holds : P start) (run : inputs.foldlM f start = .ok result) : P result := by
  induction inputs generalizing start with
  | nil =>
    cases run
    exact holds
  | cons a rest ih =>
    rw [List.foldlM_cons] at run
    rw [List.forall_mem_cons] at step
    obtain ⟨next, first, later⟩ := bind_eq_ok_iff.mp run
    exact ih step.2 (step.1 start next holds first) later

/-- What every step keeps, a run keeps. -/
theorem foldlM_keeps {f : β → α → Except ε β} {P : β → Prop}
    (step : ∀ b a next, P b → f b a = .ok next → P next) {inputs : List α} {start result : β}
    (holds : P start) (run : inputs.foldlM f start = .ok result) : P result :=
  foldlM_keeps_of_mem (fun a _ b next => step b a next) holds run

/-- Where the success of a step does not depend on what came before, a run succeeds exactly when
every step does. -/
theorem exists_foldlM_eq_ok_iff {f : β → α → Except ε β} {P : α → Prop}
    (step : ∀ b a, (∃ next, f b a = .ok next) ↔ P a) {inputs : List α} {start : β} :
    (∃ result, inputs.foldlM f start = .ok result) ↔ ∀ a ∈ inputs, P a := by
  induction inputs generalizing start with
  | nil => exact ⟨fun _ _ h => (List.not_mem_nil h).elim, fun _ => ⟨start, rfl⟩⟩
  | cons a rest ih =>
    rw [List.foldlM_cons, List.forall_mem_cons]
    constructor
    · rintro ⟨result, run⟩
      obtain ⟨next, first, later⟩ := bind_eq_ok_iff.mp run
      exact ⟨(step start a).mp ⟨next, first⟩, ih.mp ⟨result, later⟩⟩
    · rintro ⟨first, later⟩
      obtain ⟨next, done⟩ := (step start a).mpr first
      obtain ⟨result, run⟩ := ih.mpr later
      exact ⟨result, bind_eq_ok_iff.mpr ⟨next, done, run⟩⟩

/-- What a step ensures of its result, given its input, a run ensures of all its results. -/
theorem forall_mem_of_mapM {f : α → Except ε β} {P : β → Prop} {inputs : List α}
    {results : List β} (run : inputs.mapM f = .ok results)
    (step : ∀ a ∈ inputs, ∀ b, f a = .ok b → P b) : ∀ b ∈ results, P b := by
  have pairs := mapM_eq_ok_iff.mp run
  clear run
  induction pairs with
  | nil =>
    intro b member
    cases member
  | cons hab _ ih =>
    rw [List.forall_mem_cons] at step ⊢
    exact ⟨step.1 _ hab, ih step.2⟩

/-- Where the result of each step is known, so are those of a run. -/
theorem eq_map_of_mapM {f : α → Except ε β} {g : α → β} {inputs : List α} {results : List β}
    (run : inputs.mapM f = .ok results) (step : ∀ a b, f a = .ok b → b = g a) :
    results = inputs.map g := by
  have pairs := mapM_eq_ok_iff.mp run
  clear run
  induction pairs with
  | nil => rfl
  | cons hab _ ih => rw [List.map_cons, step _ _ hab, ih]

/-- What is gathered from the results of a run is what is gathered from its inputs. -/
theorem flatMap_of_mapM {γ : Type} {f : α → Except ε β} {g : β → List γ} {h : α → List γ}
    {inputs : List α} {results : List β} (run : inputs.mapM f = .ok results)
    (step : ∀ a b, f a = .ok b → g b = h a) : results.flatMap g = inputs.flatMap h := by
  have pairs := mapM_eq_ok_iff.mp run
  clear run
  induction pairs with
  | nil => rfl
  | cons hab _ ih => rw [List.flatMap_cons, List.flatMap_cons, step _ _ hab, ih]

section
variable {f : α → Except ε β} {P : α → Prop} {Q : β → Prop} {inputs : List α} {results : List β}
  (run : inputs.mapM f = .ok results) (step : ∀ a ∈ inputs, ∀ b, f a = .ok b → (Q b ↔ P a))
include run step

theorem forall_mem_iff_of_mapM : (∀ b ∈ results, Q b) ↔ ∀ a ∈ inputs, P a := by
  have pairs := mapM_eq_ok_iff.mp run
  clear run
  induction pairs with
  | nil => simp
  | cons hab _ ih =>
    rw [List.forall_mem_cons] at step
    rw [List.forall_mem_cons, List.forall_mem_cons]
    exact and_congr (step.1 _ hab) (ih step.2)

theorem exists_mem_iff_of_mapM : (∃ b ∈ results, Q b) ↔ ∃ a ∈ inputs, P a := by
  have pairs := mapM_eq_ok_iff.mp run
  clear run
  induction pairs with
  | nil => simp
  | cons hab _ ih =>
    rw [List.forall_mem_cons] at step
    simp only [List.mem_cons, exists_eq_or_imp]
    exact or_congr (step.1 _ hab) (ih step.2)

end

end ListQuery

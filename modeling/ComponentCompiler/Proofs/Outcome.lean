import Mathlib.Data.List.Forall2

namespace ComponentCompiler

/-!
# Taking outcomes apart

An outcome of several steps is a result exactly when each step has one, and it is the
failure of the first step that has none.
-/

variable {ε ε' α β : Type}

/-- Two steps have a result when both do. -/
theorem bind_eq_ok_iff {first : Except ε α} {next : α → Except ε β} {result : β} :
    (first >>= next) = .ok result ↔ ∃ value, first = .ok value ∧ next value = .ok result := by
  cases first with
  | error failure =>
      constructor
      · intro impossible
        cases impossible
      · rintro ⟨_, impossible, _⟩
        cases impossible
  | ok value =>
      constructor
      · exact fun found => ⟨value, rfl, found⟩
      · rintro ⟨other, same, found⟩
        cases same
        exact found

/-- Two steps fail when the first does, or else when the second does. -/
theorem bind_eq_error_iff {first : Except ε α} {next : α → Except ε β} {failure : ε} :
    (first >>= next) = .error failure ↔
      first = .error failure ∨ ∃ value, first = .ok value ∧ next value = .error failure := by
  cases first with
  | error early =>
      constructor
      · exact fun failed => .inl (congrArg Except.error (Except.error.inj failed))
      · rintro (failed | ⟨_, impossible, _⟩)
        · cases failed
          rfl
        · cases impossible
  | ok value =>
      constructor
      · exact fun failed => .inr ⟨value, rfl, failed⟩
      · rintro (impossible | ⟨other, same, failed⟩)
        · cases impossible
        · cases same
          exact failed

theorem error_of_mapError_eq_error {convert : ε → ε'} {outcome : Except ε α} {failure : ε'}
    (failed : outcome.mapError convert = .error failure) :
    ∃ fault, outcome = .error fault ∧ failure = convert fault := by
  cases outcome with
  | error fault => exact ⟨fault, rfl, (Except.error.inj failed).symm⟩
  | ok value => cases failed

theorem ok_of_mapError_eq_ok {convert : ε → ε'} {outcome : Except ε α} {result : α}
    (succeeded : outcome.mapError convert = .ok result) : outcome = .ok result := by
  cases outcome with
  | error failure => cases succeeded
  | ok value => exact congrArg Except.ok (Except.ok.inj succeeded)

theorem eq_ok_of_toOption_eq_some {outcome : Except ε α} {result : α}
    (found : outcome.toOption = some result) : outcome = .ok result := by
  cases outcome with
  | error failure => cases found
  | ok value => exact congrArg Except.ok (Option.some.inj found)

theorem map_eq_ok_iff {change : α → β} {outcome : Except ε α} {result : β} :
    outcome.map change = .ok result ↔ ∃ value, outcome = .ok value ∧ change value = result := by
  cases outcome with
  | error failure =>
      constructor
      · intro impossible
        cases impossible
      · rintro ⟨_, impossible, _⟩
        cases impossible
  | ok value =>
      constructor
      · exact fun found => ⟨value, rfl, Except.ok.inj found⟩
      · rintro ⟨other, same, rfl⟩
        cases same
        rfl

theorem error_of_map_eq_error {change : α → β} {outcome : Except ε α} {failure : ε}
    (failed : outcome.map change = .error failure) : outcome = .error failure := by
  cases outcome with
  | error early => exact congrArg Except.error (Except.error.inj failed)
  | ok value => cases failed

theorem mapM_eq_ok_iff {step : α → Except ε β} {items : List α} {results : List β} :
    items.mapM step = .ok results ↔
      List.Forall₂ (fun item result => step item = .ok result) items results := by
  induction items generalizing results with
  | nil =>
      rw [List.mapM_nil, List.forall₂_nil_left_iff]
      constructor
      · exact fun same => (Except.ok.inj same).symm
      · rintro rfl
        rfl
  | cons item rest inductionHypothesis =>
      rw [List.mapM_cons, List.forall₂_cons_left_iff, bind_eq_ok_iff]
      constructor
      · rintro ⟨result, here, onward⟩
        rcases bind_eq_ok_iff.mp onward with ⟨others, later, last⟩
        exact ⟨result, others, here, inductionHypothesis.mp later, (Except.ok.inj last).symm⟩
      · rintro ⟨result, others, here, later, rfl⟩
        exact ⟨result, here, bind_eq_ok_iff.mpr ⟨others, inductionHypothesis.mpr later, rfl⟩⟩

/-- What is listed on the right has a partner on the left. -/
theorem exists_related_of_mem {related : α → β → Prop} {items : List α} {results : List β}
    (aligned : List.Forall₂ related items results) {result : β} (member : result ∈ results) :
    ∃ item ∈ items, related item result := by
  induction aligned with
  | nil => cases member
  | cons here _ inductionHypothesis =>
      rcases List.mem_cons.mp member with rfl | later
      · exact ⟨_, List.mem_cons_self, here⟩
      · rcases inductionHypothesis later with ⟨item, listed, partner⟩
        exact ⟨item, List.mem_cons_of_mem _ listed, partner⟩

theorem exists_mapM_eq_ok_iff {step : α → Except ε β} {items : List α} :
    (∃ results, items.mapM step = .ok results) ↔ ∀ item ∈ items, ∃ result, step item = .ok result := by
  induction items with
  | nil => exact ⟨fun _ item member => absurd member List.not_mem_nil, fun _ => ⟨[], rfl⟩⟩
  | cons item rest inductionHypothesis =>
      rw [List.forall_mem_cons, ← inductionHypothesis]
      simp only [mapM_eq_ok_iff, List.forall₂_cons_left_iff]
      constructor
      · rintro ⟨_, result, others, here, later, _⟩
        exact ⟨⟨result, here⟩, others, later⟩
      · rintro ⟨⟨result, here⟩, others, later⟩
        exact ⟨result :: others, result, others, here, later, rfl⟩

end ComponentCompiler

import ComponentCompiler.Traced

namespace ComponentCompiler
namespace Traced

/-!
# Taking traced computations apart

A computation in two steps succeeds when both steps do, and its notes are those
of the first step followed by those of the second.  Its failure is that of the
first step, or else that of the second.  These two facts open every sequence of
steps without unfolding how steps are put together.
-/

variable {σ ε α β : Type}

/-- The failure of a computation, when it has one. -/
def failure? (computation : Traced σ ε α) : Option ε :=
  match computation.outcome with
  | .ok _ => none
  | .error failure => some failure

theorem pure_eq_ok {value result : α} {notes : List σ}
    (run : (pure value : Traced σ ε α) = ⟨notes, .ok result⟩) : notes = [] ∧ value = result := by
  rw [pure_eq, Traced.mk.injEq, Except.ok.injEq] at run
  exact ⟨run.1.symm, run.2⟩

theorem bind_eq_ok {first : Traced σ ε α} {next : α → Traced σ ε β} {notes : List σ} {result : β}
    (run : (first >>= next) = ⟨notes, .ok result⟩) :
    ∃ firstNotes value nextNotes, first = ⟨firstNotes, .ok value⟩ ∧
      next value = ⟨nextNotes, .ok result⟩ ∧ notes = firstNotes ++ nextNotes := by
  rcases first with ⟨firstNotes, outcome⟩
  cases outcome with
  | error failure =>
      rw [bind_error, Traced.mk.injEq] at run
      cases run.2
  | ok value =>
      rw [bind_ok, Traced.mk.injEq] at run
      refine ⟨firstNotes, value, (next value).notes, rfl, ?_, run.1.symm⟩
      rw [← run.2]

theorem outcome_bind (first : Traced σ ε α) (next : α → Traced σ ε β) :
    (first >>= next).outcome = first.outcome >>= fun value => (next value).outcome := by
  rcases first with ⟨firstNotes, outcome⟩
  cases outcome <;> rfl

/-- Notes do not change what comes out. -/
theorem outcome_noteAll_bind (entries : List σ) (next : Unit → Traced σ ε β) :
    (noteAll entries >>= next).outcome = (next ()).outcome := rfl

theorem outcome_bind_eq_ok {first : Traced σ ε α} {next : α → Traced σ ε β} {result : β} :
    (first >>= next).outcome = .ok result ↔
      ∃ value, first.outcome = .ok value ∧ (next value).outcome = .ok result := by
  rcases first with ⟨firstNotes, outcome⟩
  cases outcome with
  | error failure => simp only [bind_error, reduceCtorEq, false_and, exists_false]
  | ok value => simp only [bind_ok, Except.ok.injEq, exists_eq_left']

theorem failure?_eq_none_iff {computation : Traced σ ε α} :
    computation.failure? = none ↔ ∃ result, computation.outcome = .ok result := by
  unfold failure?
  cases computation.outcome with
  | ok result => simp only [Except.ok.injEq, exists_eq']
  | error failure => simp only [reduceCtorEq, exists_false]

theorem failure?_eq_some_iff {computation : Traced σ ε α} {failure : ε} :
    computation.failure? = some failure ↔ computation.outcome = .error failure := by
  unfold failure?
  cases computation.outcome with
  | ok result => simp only [reduceCtorEq]
  | error other => simp only [Option.some.injEq, Except.error.injEq]

/-- Two steps fail as the first does, or else as the second does.  The second
may fail differently for different results of the first, so its failure is asked
for the results that the first can have. -/
theorem failure?_bind {first : Traced σ ε α} {next : α → Traced σ ε β} {second : Option ε}
    (same : ∀ value, first.outcome = .ok value → (next value).failure? = second) :
    (first >>= next).failure? = first.failure?.or second := by
  rcases first with ⟨firstNotes, outcome⟩
  cases outcome with
  | error failure => rfl
  | ok value =>
      have later : (next value).failure? = second := same value rfl
      rw [bind_ok]
      exact later

/-- A computation fails exactly as expected, and otherwise its result has a
property. -/
structure Meets (computation : Traced σ ε α) (expected : Option ε) (good : α → Prop) : Prop where
  failure : computation.failure? = expected
  success : ∀ result, computation.outcome = .ok result → good result

theorem Meets.ofResult {computation : Traced σ ε α} {good : α → Prop} {result : α}
    (found : computation.outcome = .ok result) (holds : good result) :
    computation.Meets none good where
  failure := failure?_eq_none_iff.mpr ⟨result, found⟩
  success _ same := Except.ok.inj (found.symm.trans same) ▸ holds

theorem noteAll_meets (entries : List σ) :
    (noteAll entries : Traced σ ε Unit).Meets none fun _ => True :=
  Meets.ofResult rfl trivial

theorem Meets.bind {first : Traced σ ε α} {next : α → Traced σ ε β} {early late : Option ε}
    {middle : α → Prop} {good : β → Prop} (here : first.Meets early middle)
    (onward : ∀ value, middle value → (next value).Meets late good) :
    (first >>= next).Meets (early.or late) good where
  failure := by
    rw [← here.failure]
    exact failure?_bind fun value found => (onward value (here.success value found)).failure
  success result found := by
    rcases outcome_bind_eq_ok.mp found with ⟨value, firstFound, nextFound⟩
    exact (onward value (here.success value firstFound)).success result nextFound

/-- A step that cannot fail leaves the expectation to the next one. -/
theorem Meets.andThen {first : Traced σ ε α} {next : α → Traced σ ε β} {late : Option ε}
    {middle : α → Prop} {good : β → Prop} (here : first.Meets none middle)
    (onward : ∀ value, middle value → (next value).Meets late good) :
    (first >>= next).Meets late good :=
  here.bind onward

/-- A last step that cannot fail leaves the expectation as it is. -/
theorem Meets.finish {first : Traced σ ε α} {next : α → Traced σ ε β} {expected : Option ε}
    {middle : α → Prop} {good : β → Prop} (here : first.Meets expected middle)
    (last : ∀ value, middle value → (next value).Meets none good) :
    (first >>= next).Meets expected good := by
  have both := here.bind last
  rw [Option.or_none] at both
  exact both

theorem Meets.map {first : Traced σ ε α} {change : α → β} {expected : Option ε}
    {middle : α → Prop} {good : β → Prop} (here : first.Meets expected middle)
    (holds : ∀ value, middle value → good (change value)) :
    (first >>= fun value => pure (change value)).Meets expected good :=
  here.finish fun value known => Meets.ofResult rfl (holds value known)

/-- What a computation meets does not depend on its notes. -/
theorem Meets.of_outcome_eq {first second : Traced σ ε α} {expected : Option ε} {good : α → Prop}
    (here : first.Meets expected good) (same : second.outcome = first.outcome) :
    second.Meets expected good where
  failure := by
    rw [← here.failure, failure?, failure?, same]
  success result found := here.success result (same.symm.trans found)

/-! ## Failures and results of computations -/

/-- Whatever a computation fails over is allowed. -/
def FailsWithin (computation : Traced σ ε α) (allowed : ε → Prop) : Prop :=
  ∀ failure, computation.outcome = .error failure → allowed failure

theorem FailsWithin.of_outcome_eq_ok {computation : Traced σ ε α} {allowed : ε → Prop} {result : α}
    (found : computation.outcome = .ok result) : computation.FailsWithin allowed := by
  intro failure failed
  cases found.symm.trans failed

theorem FailsWithin.bind {first : Traced σ ε α} {next : α → Traced σ ε β} {allowed : ε → Prop}
    (here : first.FailsWithin allowed) (onward : ∀ value, (next value).FailsWithin allowed) :
    (first >>= next).FailsWithin allowed := by
  intro failure failed
  rw [outcome_bind] at failed
  cases found : first.outcome with
  | error early =>
      rw [found] at failed
      exact Except.error.inj failed ▸ here early found
  | ok value =>
      rw [found] at failed
      exact onward value failure failed

/-- Whatever a computation results in has a property. -/
structure Yields (computation : Traced σ ε α) (good : α → Prop) : Prop where
  success : ∀ result, computation.outcome = .ok result → good result

theorem yields_pure {value : α} {good : α → Prop} (holds : good value) :
    (pure value : Traced σ ε α).Yields good where
  success _ found := Except.ok.inj found ▸ holds

theorem Yields.bind {first : Traced σ ε α} {next : α → Traced σ ε β} {middle : α → Prop}
    {good : β → Prop} (here : first.Yields middle)
    (onward : ∀ value, middle value → (next value).Yields good) :
    (first >>= next).Yields good where
  success result found := by
    rcases outcome_bind_eq_ok.mp found with ⟨value, firstFound, nextFound⟩
    exact (onward value (here.success value firstFound)).success result nextFound

/-- A step whose result does not matter. -/
theorem yields_after {first : Traced σ ε α} {next : α → Traced σ ε β} {good : β → Prop}
    (onward : ∀ value, (next value).Yields good) : (first >>= next).Yields good := by
  have anything : first.Yields fun _ => True := ⟨fun _ _ => trivial⟩
  exact anything.bind fun value _ => onward value

end Traced
end ComponentCompiler

namespace ComponentCompiler

/-!
# Computations that leave a trace

Building, styling and loading can stop with a failure, and what they noted on
the way is still wanted then.  Such a computation is the list of its notes
together with its outcome.  The notes of a part are found unchanged in the
notes of the whole, which is why no state is threaded through.
-/

/-- The notes of a computation, in order, and its outcome. -/
structure Traced (σ ε α : Type) where
  notes : List σ
  outcome : Except ε α

namespace Traced

variable {σ ε α β : Type}

/-- Run the second computation on the result of the first. -/
def andThen (first : Traced σ ε α) (next : α → Traced σ ε β) : Traced σ ε β :=
  match first.outcome with
  | .error failure => ⟨first.notes, .error failure⟩
  | .ok result =>
    let second := next result
    ⟨first.notes ++ second.notes, second.outcome⟩

instance : Monad (Traced σ ε) where
  pure result := ⟨[], .ok result⟩
  bind := andThen

/-- Leave one note. -/
def note (entry : σ) : Traced σ ε Unit :=
  ⟨[entry], .ok ()⟩

/-- Leave some notes. -/
def noteAll (entries : List σ) : Traced σ ε Unit :=
  ⟨entries, .ok ()⟩

/-- Stop with a failure. -/
def fail (failure : ε) : Traced σ ε α :=
  ⟨[], .error failure⟩

/-- Continue with a result or stop with its failure. -/
def ofExcept (outcome : Except ε α) : Traced σ ε α :=
  ⟨[], outcome⟩

/-- The same notes with another wording. -/
def mapNotes {τ : Type} (convert : σ → τ) (computation : Traced σ ε α) : Traced τ ε α :=
  ⟨computation.notes.map convert, computation.outcome⟩

@[simp] theorem pure_eq (result : α) :
    (pure result : Traced σ ε α) = ⟨[], .ok result⟩ := rfl

@[simp] theorem bind_ok (notes : List σ) (result : α) (next : α → Traced σ ε β) :
    ((⟨notes, .ok result⟩ : Traced σ ε α) >>= next)
      = ⟨notes ++ (next result).notes, (next result).outcome⟩ := rfl

@[simp] theorem bind_error (notes : List σ) (failure : ε) (next : α → Traced σ ε β) :
    ((⟨notes, .error failure⟩ : Traced σ ε α) >>= next) = ⟨notes, .error failure⟩ := rfl

instance : LawfulMonad (Traced σ ε) := LawfulMonad.mk' _
  (fun computation => by
    obtain ⟨notes, outcome⟩ := computation
    cases outcome <;> simp [Functor.map, andThen])
  (fun result next => by
    simp [bind, andThen, pure])
  (fun computation first second => by
    obtain ⟨notes, outcome⟩ := computation
    cases outcome with
    | error failure => rfl
    | ok result =>
        simp only [bind, andThen]
        cases step : (first result).outcome <;> simp [List.append_assoc])

end Traced
end ComponentCompiler

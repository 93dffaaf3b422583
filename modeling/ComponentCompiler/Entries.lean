namespace ComponentCompiler

/-!
# Ordered entries

Documents, attribute lists, style maps and registries are all maps whose order
is visible in the output.  They are lists of pairs.  Writing under a key that is
present replaces the value and keeps the place of the first writing; writing
under a new key appends.
-/

/-- A map that keeps the order in which its keys were first written. -/
abbrev Entries (κ α : Type) := List (κ × α)

namespace Entries

variable {κ α : Type} [DecidableEq κ]

/-- The value under a key. -/
def lookUp? : Entries κ α → κ → Option α
  | [], _ => none
  | (known, value) :: rest, key => if known = key then some value else lookUp? rest key

/-- Whether a key is present. -/
def has (entries : Entries κ α) (key : κ) : Bool :=
  (lookUp? entries key).isSome

/-- Write a value under a key. -/
def put : Entries κ α → κ → α → Entries κ α
  | [], key, value => [(key, value)]
  | (known, old) :: rest, key, value =>
    if known = key then (known, value) :: rest else (known, old) :: put rest key value

/-- Write all entries of the second map, in order, into the first. -/
def update (entries additions : Entries κ α) : Entries κ α :=
  additions.foldl (fun written addition => put written addition.1 addition.2) entries

/-- The keys in order. -/
def keys (entries : Entries κ α) : List κ :=
  entries.map Prod.fst

/-- A key is present exactly when it is one of the keys. -/
theorem has_eq_true_iff (entries : Entries κ α) (key : κ) :
    has entries key = true ↔ key ∈ keys entries := by
  induction entries with
  | nil => simp [has, lookUp?, keys]
  | cons entry rest inductionHypothesis =>
      obtain ⟨known, value⟩ := entry
      simp only [has, keys] at inductionHypothesis
      by_cases same : known = key
      · simp [has, lookUp?, keys, same]
      · have reversed : ¬ key = known := fun equal => same equal.symm
        simp [has, lookUp?, keys, same, reversed, inductionHypothesis]

@[simp] theorem lookUp?_put_self (entries : Entries κ α) (key : κ) (value : α) :
    lookUp? (put entries key value) key = some value := by
  induction entries with
  | nil => simp [put, lookUp?]
  | cons entry rest inductionHypothesis =>
      obtain ⟨known, old⟩ := entry
      by_cases same : known = key
      · simp [put, lookUp?, same]
      · simp [put, lookUp?, same, inductionHypothesis]

theorem lookUp?_put_of_ne (entries : Entries κ α) {key other : κ} (value : α)
    (different : key ≠ other) :
    lookUp? (put entries key value) other = lookUp? entries other := by
  induction entries with
  | nil => simp [put, lookUp?, different]
  | cons entry rest inductionHypothesis =>
      obtain ⟨known, old⟩ := entry
      by_cases same : known = key
      · subst same
        simp [put, lookUp?, different]
      · simp [put, lookUp?, same, inductionHypothesis]

/-- Writing keeps the keys that are there and appends a new one at the end. -/
theorem keys_put (entries : Entries κ α) (key : κ) (value : α) :
    keys (put entries key value)
      = if key ∈ keys entries then keys entries else keys entries ++ [key] := by
  induction entries with
  | nil => simp [put, keys]
  | cons entry rest inductionHypothesis =>
      obtain ⟨known, old⟩ := entry
      by_cases same : known = key
      · simp [put, keys, same]
      · have reversed : ¬ key = known := fun equal => same equal.symm
        by_cases member : key ∈ keys rest
        · simp only [keys] at member inductionHypothesis
          simp [put, keys, same, reversed, member, inductionHypothesis]
        · simp only [keys] at member inductionHypothesis
          simp [put, keys, same, reversed, member, inductionHypothesis]

end Entries
end ComponentCompiler

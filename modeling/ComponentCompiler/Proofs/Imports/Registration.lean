import ComponentCompiler.Imports.Group
import ComponentCompiler.Proofs.Entries
import Mathlib.Data.List.Nodup

namespace ComponentCompiler

/-!
# Registering imports one after another

A registry that is filled by registrations has each identifier at the place of
its first registration, and under it the dependency of the last one.
-/

namespace Imports

theorem mem_distinct_iff {texts : List String} {text : String} :
    text ∈ distinct texts ↔ text ∈ texts := by
  induction texts with
  | nil => rfl
  | cons first rest inductionHypothesis =>
      rw [distinct, List.mem_cons, List.mem_cons, List.mem_filter, inductionHypothesis]
      by_cases same : text = first
      · simp only [same, true_or]
      · simp only [same, decide_not, decide_false, Bool.not_false, and_true, false_or]

theorem distinct_nodup (texts : List String) : (distinct texts).Nodup := by
  induction texts with
  | nil => exact List.nodup_nil
  | cons first rest inductionHypothesis =>
      refine List.nodup_cons.mpr ⟨fun again => ?_, inductionHypothesis.filter _⟩
      exact of_decide_eq_true (List.mem_filter.mp again).2 rfl

end Imports

namespace Entries

open Imports

variable {α : Type}

/-- New keys are appended in the order in which they first come. -/
theorem keys_update (entries additions : Entries String α) :
    keys (update entries additions) =
      keys entries ++ (distinct (additions.map Prod.fst)).filter (· ∉ keys entries) := by
  induction additions generalizing entries with
  | nil => exact (List.append_nil _).symm
  | cons addition rest inductionHypothesis =>
      have onward : update entries (addition :: rest) =
          update (put entries addition.1 addition.2) rest := rfl
      rw [onward, inductionHypothesis, keys_put, List.map_cons, distinct, List.filter_cons,
        List.filter_filter]
      by_cases known : addition.1 ∈ keys entries
      · rw [if_pos known, if_neg (by simp only [known, not_true_eq_false, decide_false,
          Bool.false_eq_true, not_false_eq_true])]
        refine congrArg (keys entries ++ ·) (List.filter_congr fun key _ => ?_)
        by_cases present : key ∈ keys entries
        · simp only [present, not_true_eq_false, decide_false, Bool.false_and]
        · have other : key ≠ addition.1 := fun same => present (same ▸ known)
          simp only [present, other, ne_eq, not_false_eq_true, decide_true, Bool.and_self]
      · rw [if_neg known, if_pos (decide_eq_true known), List.append_assoc, List.singleton_append]
        refine congrArg (fun later => keys entries ++ addition.1 :: later)
          (List.filter_congr fun key _ => ?_)
        simp only [List.mem_append, List.mem_singleton, not_or, Bool.decide_and]

theorem keys_update_nil (additions : Entries String α) :
    keys (update [] additions) = distinct (additions.map Prod.fst) := by
  rw [keys_update]
  exact List.filter_eq_self.mpr fun _ _ => rfl

end Entries
end ComponentCompiler

import ComponentCompiler.Styling.ClassName
import Mathlib.Data.List.Nodup
import Mathlib.Data.List.Perm.Subperm

namespace ComponentCompiler
namespace Styling

/-!
# Every class belongs to one node

A class that is given away is none of those that are taken.  The search for a
free number stops after as many numbers as there are classes; were all of these
taken, there would be more classes than there are.
-/

theorem numbered_injective (base : String) : Function.Injective (numbered base) := by
  intro first second same
  unfold numbered at same
  have characters := congrArg String.toList same
  simp only [String.toList_append, Nat.toString_eq_ofList_toDigits, String.toList_ofList]
    at characters
  have digits := List.append_cancel_left characters
  -- a number is read back from its digits
  have numbers := congrArg (fun read => Nat.ofDigitChars 10 read 0) digits
  simp only [Nat.ofDigitChars_toDigits (by decide : 1 < 10) (Nat.le_refl 10)] at numbers
  exact numbers

/-- When even the name that is found is taken, so are all that were tried. -/
theorem taken_of_firstFree_taken {owners : ClassOwners} {base : String} {count number : Nat}
    (taken : firstFree owners base count number ∈ Entries.keys owners) {offset : Nat}
    (tried : offset ≤ count) : numbered base (number + offset) ∈ Entries.keys owners := by
  induction count generalizing number offset with
  | zero =>
      rw [Nat.le_zero.mp tried]
      exact taken
  | succ count inductionHypothesis =>
      rw [firstFree] at taken
      split at taken
      · rename_i present
        cases offset with
        | zero => exact (Entries.has_eq_true_iff owners _).mp present
        | succ offset =>
            have later := inductionHypothesis taken (Nat.le_of_succ_le_succ tried)
            rw [Nat.add_assoc, Nat.add_comm 1 offset] at later
            exact later
      · rename_i absent
        exact absurd ((Entries.has_eq_true_iff owners _).mpr taken) absent

theorem freeClass_not_mem (owners : ClassOwners) (node : String) :
    freeClass owners node ∉ Entries.keys owners := by
  intro taken
  unfold freeClass at taken
  simp only at taken
  split at taken
  · -- one more numbered name than there are classes would be taken
    have candidates : ((List.range (owners.length + 1)).map fun offset =>
        numbered (Naming.dashCase node) (2 + offset)).Nodup := by
      refine List.Nodup.map (fun first second same => ?_) List.nodup_range
      exact Nat.add_left_cancel (numbered_injective _ same)
    have allTaken : ((List.range (owners.length + 1)).map fun offset =>
        numbered (Naming.dashCase node) (2 + offset)) ⊆ Entries.keys owners := by
      intro name member
      rcases List.mem_map.mp member with ⟨offset, inRange, rfl⟩
      exact taken_of_firstFree_taken taken (Nat.le_of_lt_succ (List.mem_range.mp inRange))
    have tooMany := (candidates.subperm allTaken).length_le
    rw [List.length_map, List.length_range, Entries.keys, List.length_map] at tooMany
    exact absurd tooMany (Nat.not_succ_le_self owners.length)
  · rename_i absent
    exact absurd ((Entries.has_eq_true_iff owners _).mpr taken) absent

/-- Giving a class to a node takes this class and no other. -/
theorem mem_keys_withClass {owners : ClassOwners} {node name : String} :
    name ∈ Entries.keys (withClass owners node) ↔
      name ∈ Entries.keys owners ∨ name = freeClass owners node := by
  rw [withClass, Entries.keys_put, if_neg (freeClass_not_mem owners node), List.mem_append,
    List.mem_singleton]

/-- The classes that nodes of these names are given one after another. -/
def givenClasses : ClassOwners → List String → List String
  | _, [] => []
  | owners, node :: rest => freeClass owners node :: givenClasses (withClass owners node) rest

theorem not_mem_keys_of_given {owners : ClassOwners} {nodes : List String} {name : String}
    (given : name ∈ givenClasses owners nodes) : name ∉ Entries.keys owners := by
  induction nodes generalizing owners with
  | nil => cases given
  | cons node rest inductionHypothesis =>
      rcases List.mem_cons.mp given with rfl | later
      · exact freeClass_not_mem owners node
      · exact fun taken => inductionHypothesis later (mem_keys_withClass.mpr (Or.inl taken))

/-- No class is given twice. -/
theorem givenClasses_nodup (owners : ClassOwners) (nodes : List String) :
    (givenClasses owners nodes).Nodup := by
  induction nodes generalizing owners with
  | nil => exact List.nodup_nil
  | cons node rest inductionHypothesis =>
      refine List.nodup_cons.mpr ⟨fun again => ?_, inductionHypothesis _⟩
      exact not_mem_keys_of_given again (mem_keys_withClass.mpr (Or.inr rfl))

/-- A class is given to some node while others are taken. -/
theorem exists_freeClass_of_given {owners : ClassOwners} {nodes : List String} {name : String}
    (given : name ∈ givenClasses owners nodes) :
    ∃ taken, ∃ node ∈ nodes, name = freeClass taken node := by
  induction nodes generalizing owners with
  | nil => cases given
  | cons node rest inductionHypothesis =>
      rcases List.mem_cons.mp given with rfl | later
      · exact ⟨owners, node, List.mem_cons_self, rfl⟩
      · rcases inductionHypothesis later with ⟨taken, other, listed, same⟩
        exact ⟨taken, other, List.mem_cons_of_mem _ listed, same⟩

end Styling
end ComponentCompiler

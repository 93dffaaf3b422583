import ComponentCompiler.Proofs.Entries
import ComponentCompiler.Proofs.Styling.ClassName

namespace ComponentCompiler
namespace Styling

/-!
# Classes given one after another

The classes of a pass are given to its nodes in turn.  A node gets its name in dash
case, or that name with the least number that makes it a new class; numbered names
may themselves be the names of later nodes.  The log warns of every number, and names
the node that was given the class without one.

What is taken at any moment are the classes given so far with their nodes.  The facts
about one node hold for whatever is taken, and the facts about a sequence are read
off at each of its members.
-/

/-- A class that was given to a node, with what the log says about it. -/
structure Allocation where
  node : String
  className : String
  notes : List Log.Entry
deriving DecidableEq, Repr

/-- What is taken by the class. -/
def Allocation.taken (given : Allocation) : String × String :=
  (given.className, given.node)

/-- Give classes to nodes of these names, one after another. -/
def allocations (component pass : String) : ClassOwners → List String → List Allocation
  | _, [] => []
  | owners, node :: rest =>
    ⟨node, freeClass owners node, classNotes owners component pass node⟩ ::
      allocations component pass (withClass owners node) rest

/-- The class that a name calls for when some are used: the name itself, or else the
name with the least number from two on that is not used. -/
def IsNextClass (used : List String) (base className : String) : Prop :=
  if base ∈ used then
    ∃ number, 2 ≤ number ∧ className = numbered base number ∧ className ∉ used ∧
      ∀ smaller, 2 ≤ smaller → smaller < number → numbered base smaller ∈ used
  else className = base

/-- The warning that the class of a node is taken by another one. -/
def takenEntry (component pass base node owner className : String) : Log.Entry :=
  ⟨.warning, "uidl_compiler.plugins.style_utils", some component, some pass,
    "Class " ++ base ++ " of node " ++ node ++ " is taken by node " ++ owner ++ ", using " ++
      className⟩

/-! ## One node -/

theorem numbered_ne (base : String) (number : Nat) : numbered base number ≠ base := by
  intro same
  have lengths := congrArg String.length same
  simp only [numbered, String.length_append] at lengths
  have dash : "-".length = 1 := by decide
  omega

/-- The search ends at a number behind taken ones. -/
theorem exists_number_of_firstFree (owners : ClassOwners) (base : String) (count first : Nat) :
    ∃ number, first ≤ number ∧ firstFree owners base count first = numbered base number ∧
      ∀ smaller, first ≤ smaller → smaller < number →
        numbered base smaller ∈ Entries.keys owners := by
  induction count generalizing first with
  | zero =>
      refine ⟨first, Nat.le_refl first, rfl, ?_⟩
      intro smaller above below
      omega
  | succ count inductionHypothesis =>
      rw [firstFree]
      split
      · rename_i present
        rcases inductionHypothesis (first + 1) with ⟨number, above, found, taken⟩
        refine ⟨number, by omega, found, ?_⟩
        intro smaller notBelow below
        by_cases atFirst : smaller = first
        · rw [atFirst]
          exact (Entries.has_eq_true_iff owners _).mp present
        · exact taken smaller (by omega) below
      · refine ⟨first, Nat.le_refl first, rfl, ?_⟩
        intro smaller above below
        omega

theorem freeClass_isNextClass (owners : ClassOwners) (node : String) :
    IsNextClass (Entries.keys owners) (Naming.dashCase node) (freeClass owners node) := by
  have fresh := freeClass_not_mem owners node
  unfold IsNextClass
  unfold freeClass at fresh ⊢
  simp only [Entries.has_eq_true_iff] at fresh ⊢
  split
  · rename_i present
    rw [if_pos present] at fresh
    rcases exists_number_of_firstFree owners (Naming.dashCase node) owners.length 2 with
      ⟨number, above, found, taken⟩
    exact ⟨number, above, found, fresh, taken⟩
  · rfl

/-- A class is given with a number exactly when the name is used. -/
theorem IsNextClass.ne_iff {used : List String} {base className : String}
    (next : IsNextClass used base className) : className ≠ base ↔ base ∈ used := by
  unfold IsNextClass at next
  split at next
  · rename_i present
    rcases next with ⟨number, _, rfl, _⟩
    exact ⟨fun _ => present, fun _ => numbered_ne base number⟩
  · rename_i absent
    exact ⟨fun different => absurd next different, fun present => absurd present absent⟩

/-- What the log says about a node depends on who has its name as a class. -/
theorem classNotes_eq (owners : ClassOwners) (component pass node : String) :
    classNotes owners component pass node =
      ((Entries.lookUp? owners (Naming.dashCase node)).map fun owner =>
        takenEntry component pass (Naming.dashCase node) node owner
          (freeClass owners node)).toList := by
  unfold classNotes
  simp only
  cases Entries.lookUp? owners (Naming.dashCase node) <;> rfl

theorem withClass_eq (owners : ClassOwners) (node : String) :
    withClass owners node = owners ++ [(freeClass owners node, node)] :=
  Entries.put_of_not_mem (freeClass_not_mem owners node)

/-! ## One node after another -/

section Sequence

variable {component pass : String}

theorem map_node_allocations (owners : ClassOwners) (nodes : List String) :
    (allocations component pass owners nodes).map Allocation.node = nodes := by
  induction nodes generalizing owners with
  | nil => rfl
  | cons node rest inductionHypothesis =>
      rw [allocations, List.map_cons, inductionHypothesis]

theorem map_className_allocations (owners : ClassOwners) (nodes : List String) :
    (allocations component pass owners nodes).map Allocation.className =
      givenClasses owners nodes := by
  induction nodes generalizing owners with
  | nil => rfl
  | cons node rest inductionHypothesis =>
      rw [allocations, List.map_cons, inductionHypothesis, givenClasses]

/-- Each class is given when the classes before it are taken. -/
theorem allocation_of_split {owners : ClassOwners} {nodes : List String}
    {earlier later : List Allocation} {given : Allocation}
    (split : allocations component pass owners nodes = earlier ++ given :: later) :
    given.className = freeClass (owners ++ earlier.map Allocation.taken) given.node ∧
      given.notes =
        classNotes (owners ++ earlier.map Allocation.taken) component pass given.node := by
  induction earlier generalizing owners nodes with
  | nil =>
      cases nodes with
      | nil => cases split
      | cons node rest =>
          rcases List.cons.inj split with ⟨rfl, _⟩
          rw [List.map_nil, List.append_nil]
          exact ⟨rfl, rfl⟩
  | cons first others inductionHypothesis =>
      cases nodes with
      | nil => cases split
      | cons node rest =>
          rcases List.cons.inj split with ⟨rfl, onward⟩
          have found := inductionHypothesis onward
          rw [withClass_eq, List.append_assoc, List.singleton_append] at found
          exact found

end Sequence

/-- Whatever names come one after another, each gets a class, and no class is given
twice.  A node gets its name in dash case when no node before it got that class, and
otherwise the name with the least number from two on that is not used.  The log warns
exactly of the classes with a number, and names the earlier node that was given the
class without it. -/
theorem allocations_are_least_and_warned (component pass : String) (nodes : List String) :
    (allocations component pass [] nodes).map Allocation.node = nodes ∧
    ((allocations component pass [] nodes).map Allocation.className).Nodup ∧
    ∀ earlier given later, allocations component pass [] nodes = earlier ++ given :: later →
      IsNextClass (earlier.map Allocation.className) (Naming.dashCase given.node)
        given.className ∧
      (given.className = Naming.dashCase given.node → given.notes = []) ∧
      (given.className ≠ Naming.dashCase given.node → ∃ owner ∈ earlier,
        owner.className = Naming.dashCase given.node ∧
        given.notes = [takenEntry component pass (Naming.dashCase given.node) given.node
          owner.node given.className]) := by
  refine ⟨map_node_allocations [] nodes, ?_, ?_⟩
  · rw [map_className_allocations]
    exact givenClasses_nodup [] nodes
  intro earlier given later split
  rcases allocation_of_split split with ⟨named, noted⟩
  rw [List.nil_append] at named noted
  have used : Entries.keys (earlier.map Allocation.taken) = earlier.map Allocation.className := by
    rw [Entries.keys, List.map_map]
    rfl
  have next := freeClass_isNextClass (earlier.map Allocation.taken) given.node
  rw [← named, used] at next
  rw [classNotes_eq, ← named] at noted
  refine ⟨next, ?_, ?_⟩
  · intro plain
    have absent : Naming.dashCase given.node ∉ Entries.keys (earlier.map Allocation.taken) := by
      intro present
      rw [used] at present
      exact next.ne_iff.mpr present plain
    rw [noted, Entries.lookUp?_eq_none_of_not_mem absent]
    rfl
  · intro numbered
    have present : Naming.dashCase given.node ∈ Entries.keys (earlier.map Allocation.taken) := by
      rw [used]
      exact next.ne_iff.mp numbered
    have found := (Entries.has_eq_true_iff _ _).mpr present
    rcases Option.isSome_iff_exists.mp found with ⟨owner, looked⟩
    rcases List.mem_map.mp (Entries.mem_of_lookUp?_eq_some looked) with ⟨before, member, same⟩
    rcases Prod.mk.inj same with ⟨sameClass, sameNode⟩
    refine ⟨before, member, sameClass, ?_⟩
    rw [noted, looked, sameNode]
    rfl

/-- The number that the second node of a name gets is the name of the third node, which
is therefore given a number of its own, and the fourth passes over the one in use. -/
theorem allocations_foo_again :
    (allocations "Card" "react-jss" [] ["foo", "foo", "foo-2", "Foo"]).map
      Allocation.className = ["foo", "foo-2", "foo-2-2", "foo-3"] ∧
    ∃ owner ∈ (allocations "Card" "react-jss" [] ["foo", "foo", "foo-2"]),
      owner.className = "foo" ∧
      (allocations "Card" "react-jss" [] ["foo", "foo", "foo-2", "Foo"]).getLast?.map
        Allocation.notes =
          some [takenEntry "Card" "react-jss" "foo" "Foo" owner.node "foo-3"] := by
  have split : allocations "Card" "react-jss" [] ["foo", "foo", "foo-2", "Foo"] =
      allocations "Card" "react-jss" [] ["foo", "foo", "foo-2"] ++
        [⟨"Foo", "foo-3", [takenEntry "Card" "react-jss" "foo" "Foo" "foo" "foo-3"]⟩] := by
    decide +kernel
  have dashed : Naming.dashCase "Foo" = "foo" := by decide +kernel
  refine ⟨by decide +kernel, ?_⟩
  have last := (allocations_are_least_and_warned "Card" "react-jss" _).2.2 _ _ _ split
  rcases last.2.2 (by decide +kernel) with ⟨owner, member, base, noted⟩
  simp only [dashed] at base noted
  refine ⟨owner, member, base, ?_⟩
  rw [split, List.getLast?_concat, Option.map_some, noted]

end Styling
end ComponentCompiler

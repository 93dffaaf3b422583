import ComponentCompiler.Proofs.Build.Written
import Mathlib.Data.List.Perm.Subperm

namespace ComponentCompiler

/-!
# Default content that does not nest

Default content is built at a smaller depth than the element that takes it.  When
no default content leads back to an element that takes it, the contents that were
entered on the way to a node are all different.  There are no more of them than
twice the entries of the table, so at the depth of a whole build nothing is left
out.
-/

namespace MappingTable

/-- What can be left to the entries of a table. -/
def slots (table : MappingTable) : List Slot :=
  table.flatMap fun entry =>
    match entry.1 with
    | .text type => [.children type, .repetition type]
    | _ => []

/-- Each entry takes two levels of the depth of a whole build. -/
theorem length_slots_le (table : MappingTable) : table.slots.length ≤ table.defaultDepth := by
  unfold slots defaultDepth
  induction table with
  | nil => exact Nat.le_refl _
  | cons entry rest inductionHypothesis =>
      rw [List.flatMap_cons, List.length_append, List.length_cons]
      have first : (match entry.1 with
          | .text type => [Slot.children type, Slot.repetition type]
          | _ => []).length ≤ 2 := by
        split <;> simp
      omega

theorem mem_slots_of_known {table : MappingTable} {slot : Slot} {entry : ElementMapping}
    (known : table.entry? slot.type = some entry) : slot ∈ table.slots := by
  refine List.mem_flatMap.mpr ⟨_, Entries.mem_of_lookUp?_eq_some known, ?_⟩
  cases slot with
  | children type => exact List.mem_cons_self
  | repetition type => exact List.mem_cons_of_mem _ List.mem_cons_self

theorem type_of_mem_omitted {node : ContentNode} {slot : Slot} (omitted : slot ∈ node.omitted) :
    slot.type = node.type := by
  unfold ContentNode.omitted at omitted
  split at omitted
  · rcases List.mem_append.mp omitted with inChildren | inRepetition
    · split at inChildren
      · exact List.mem_singleton.mp inChildren ▸ rfl
      · cases inChildren
    · split at inRepetition
      · exact List.mem_singleton.mp inRepetition ▸ rfl
      · cases inRepetition
  · cases omitted

theorem mem_slots_of_supply {table : MappingTable} {slot : Slot} {item : Step × ContentNode}
    (supplied : item ∈ table.supply slot) : slot ∈ table.slots := by
  rcases exists_entry_of_supply supplied with ⟨entry, known, _⟩
  exact mem_slots_of_known known

theorem Reaches.append {table : MappingTable} {first second third : ContentNode}
    {path rest : List Step} (toSecond : table.Reaches first path second)
    (toThird : table.Reaches second rest third) : table.Reaches first (path ++ rest) third := by
  induction toSecond with
  | here node => exact toThird
  | onward led _ inductionHypothesis => exact Reaches.onward led (inductionHypothesis toThird)

/-- What a node leads to at a depth comes from the node itself, or it comes from
the table for something that the node omits. -/
theorem belowAt_cases {table : MappingTable} {depth : Nat} {node : ContentNode}
    {item : (Step × ContentNode) × Nat} (member : item ∈ table.belowAt depth node) :
    item.2 = depth ∨
      ∃ slot ∈ node.omitted, item.1 ∈ table.supply slot ∧ item.2 + 1 = depth := by
  unfold belowAt at member
  split at member
  · rename_i element
    rcases List.mem_append.mp member with inChildren | inRepetition
    · rcases mem_drawn_iff.mp inChildren with ⟨_, _, _, same⟩ | ⟨absent, supplied, smaller⟩
      · exact Or.inl same
      · refine Or.inr ⟨.children node.type, ?_, supplied, smaller⟩
        rw [ContentNode.omitted, if_pos element, Option.map_eq_none_iff.mp absent]
        exact List.mem_cons_self
    · rcases mem_drawn_iff.mp inRepetition with ⟨_, _, _, same⟩ | ⟨absent, supplied, smaller⟩
      · exact Or.inl same
      · refine Or.inr ⟨.repetition node.type, ?_, supplied, smaller⟩
        rw [ContentNode.omitted, if_pos element, Option.map_eq_none_iff.mp absent]
        exact List.mem_append_right _ List.mem_cons_self
  · rcases mem_drawn_iff.mp member with ⟨_, _, _, same⟩ | ⟨impossible, _, _⟩
    · exact Or.inl same
    · cases impossible

/-- A node is built at a depth inside the default contents for the given slots. -/
structure Entered (table : MappingTable) (depth : Nat) (node : ContentNode)
    (taken : List Slot) : Prop where
  distinct : taken.Nodup
  known : taken ⊆ table.slots
  level : taken.length + depth = table.defaultDepth
  inside : ∀ slot ∈ taken, ∃ item ∈ table.supply slot, ∃ path, table.Reaches item.2 path node

namespace Entered

variable {table : MappingTable} {depth : Nat} {node : ContentNode} {taken : List Slot}

theorem start (table : MappingTable) (node : ContentNode) :
    table.Entered table.defaultDepth node [] :=
  ⟨List.nodup_nil, List.nil_subset _, Nat.zero_add _, fun _ member => absurd member List.not_mem_nil⟩

theorem fresh (entered : table.Entered depth node taken) (unnested : table.Unnested) {slot : Slot}
    (omitted : slot ∈ node.omitted) : slot ∉ taken := by
  intro member
  rcases entered.inside slot member with ⟨item, supplied, path, reached⟩
  exact unnested slot item supplied path node reached omitted

/-- Where an element leaves something to its entry, the depth is not used up. -/
theorem positive (entered : table.Entered depth node taken) (unnested : table.Unnested)
    {slot : Slot} (known : slot ∈ table.slots) (omitted : slot ∈ node.omitted) : 0 < depth := by
  have distinct : (slot :: taken).Nodup :=
    List.nodup_cons.mpr ⟨entered.fresh unnested omitted, entered.distinct⟩
  have bound := (distinct.subperm (List.cons_subset.mpr ⟨known, entered.known⟩)).length_le
  have whole := table.length_slots_le
  have level := entered.level
  rw [List.length_cons] at bound
  omega

/-- What is reached from a node is inside the contents that the node is inside. -/
theorem inside_below (entered : table.Entered depth node taken) {item : Step × ContentNode}
    (led : item ∈ table.below node) :
    ∀ slot ∈ taken, ∃ first ∈ table.supply slot, ∃ path, table.Reaches first.2 path item.2 := by
  intro slot member
  rcases entered.inside slot member with ⟨first, supplied, path, reached⟩
  exact ⟨first, supplied, path ++ [item.1],
    reached.append (Reaches.onward led (Reaches.here item.2))⟩

/-- Going down from a node, either nothing is entered or something new. -/
theorem below (entered : table.Entered depth node taken) (unnested : table.Unnested)
    {item : (Step × ContentNode) × Nat} (member : item ∈ table.belowAt depth node) :
    ∃ inner, table.Entered item.2 item.1.2 inner := by
  have led : item.1 ∈ table.below node :=
    (table.belowAt_sublist depth node).subset (List.mem_map_of_mem member)
  have inside := entered.inside_below led
  rcases belowAt_cases member with same | ⟨slot, omitted, supplied, smaller⟩
  · exact ⟨taken, entered.distinct, entered.known, same ▸ entered.level, inside⟩
  · refine ⟨slot :: taken, List.nodup_cons.mpr ⟨entered.fresh unnested omitted, entered.distinct⟩,
      List.cons_subset.mpr ⟨?_, entered.known⟩, ?_, ?_⟩
    · exact mem_slots_of_supply supplied
    · have level := entered.level
      rw [List.length_cons]
      omega
    · intro other member
      rcases List.mem_cons.mp member with same | earlier
      · exact same ▸ ⟨item.1, supplied, [], Reaches.here _⟩
      · exact inside other earlier

theorem complete (entered : table.Entered depth node taken) (unnested : table.Unnested) :
    (table.belowAt depth node).map Prod.fst = table.below node := by
  unfold belowAt MappingTable.below
  split
  · rename_i element
    rw [List.map_append]
    refine congrArg₂ (· ++ ·) (drawn_complete fun absent supplied => ?_)
      (drawn_complete fun absent supplied => ?_)
    · rcases List.exists_mem_of_ne_nil _ supplied with ⟨item, member⟩
      refine entered.positive unnested (@mem_slots_of_supply table (.children node.type) item member) ?_
      rw [ContentNode.omitted, if_pos element, Option.map_eq_none_iff.mp absent]
      exact List.mem_cons_self
    · rcases List.exists_mem_of_ne_nil _ supplied with ⟨item, member⟩
      refine entered.positive unnested (@mem_slots_of_supply table (.repetition node.type) item member) ?_
      rw [ContentNode.omitted, if_pos element, Option.map_eq_none_iff.mp absent]
      exact List.mem_append_right _ List.mem_cons_self
  · exact drawn_complete fun impossible => by cases impossible

end Entered

/-- Where default content does not nest, the depth of a whole build is enough. -/
theorem expanded_of_entered {table : MappingTable} (unnested : table.Unnested) {depth : Nat}
    {node : ContentNode} {taken : List Slot} (entered : table.Entered depth node taken) :
    table.Expanded depth node := by
  induction depth, node using table.belowAt_induction generalizing taken with
  | step depth node inductionHypothesis =>
      refine Expanded.intro (entered.complete unnested) fun item member => ?_
      rcases entered.below unnested member with ⟨inner, further⟩
      exact inductionHypothesis item member further

end MappingTable
end ComponentCompiler

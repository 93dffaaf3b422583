import ComponentCompiler.Proofs.Build.Visit
import ComponentCompiler.Proofs.Entries

namespace ComponentCompiler

/-!
# What is written down

A build reaches nodes of the content and nodes that the mapping table supplies.
Each of them is written down in one or the other, however often it is reached.
-/

/-- The content that an element type brings along. -/
def ElementMapping.roots (entry : ElementMapping) : List ContentNode :=
  (entry.children.getD []).filterMap Child.node? ++ (entry.repetition.map Repetition.content).toList

namespace MappingTable

/-- The nodes of all content that element types bring along. -/
def supplied (table : MappingTable) : List ContentNode :=
  table.flatMap fun entry => entry.2.roots.flatMap ContentNode.walk

/-- The nodes that are written down in a content and in a table. -/
def written (table : MappingTable) (content : ContentNode) : List ContentNode :=
  content.walk ++ table.supplied

variable {table : MappingTable} {content node found : ContentNode}

theorem mem_written_of_mem_walk (member : node ∈ table.written content)
    (below : found ∈ node.walk) : found ∈ table.written content := by
  rcases List.mem_append.mp member with inContent | inTable
  · exact List.mem_append_left _ (ContentNode.mem_walk_trans inContent below)
  · rcases List.mem_flatMap.mp inTable with ⟨entry, listed, inEntry⟩
    rcases List.mem_flatMap.mp inEntry with ⟨root, isRoot, walked⟩
    exact List.mem_append_right _ (List.mem_flatMap.mpr ⟨entry, listed,
      List.mem_flatMap.mpr ⟨root, isRoot, ContentNode.mem_walk_trans walked below⟩⟩)

theorem mem_supplied_of_root {type : String} {entry : ElementMapping}
    (known : table.entry? type = some entry) (root : node ∈ entry.roots) :
    node ∈ table.supplied :=
  List.mem_flatMap.mpr ⟨(.text type, entry), Entries.mem_of_lookUp?_eq_some known,
    List.mem_flatMap.mpr ⟨node, root, node.self_mem_walk⟩⟩

/-- What the table has for a slot are roots of the entry that is asked. -/
theorem exists_entry_of_supply {slot : Slot} {item : Step × ContentNode}
    (supplied : item ∈ table.supply slot) :
    ∃ entry, table.entry? slot.type = some entry ∧ item.2 ∈ entry.roots := by
  cases slot with
  | children type =>
      cases known : table.entry? type with
      | none =>
          rw [supply, defaultChildren, known] at supplied
          cases supplied
      | some entry =>
          rw [supply, defaultChildren, known] at supplied
          exact ⟨entry, known, List.mem_append_left _ (mem_of_mem_placed supplied)⟩
  | repetition type =>
      cases known : table.entry? type with
      | none =>
          rw [supply, defaultRepetition, known] at supplied
          cases supplied
      | some entry =>
          rw [supply, defaultRepetition, known, Option.bind_some] at supplied
          cases given : entry.repetition with
          | none =>
              rw [given] at supplied
              cases supplied
          | some repetition =>
              rw [given] at supplied
              refine ⟨entry, known, List.mem_append_right _ ?_⟩
              rw [given, List.mem_singleton.mp supplied]
              exact List.mem_singleton.mpr rfl

/-- A node leads to its own parts and to what the table has for what it omits. -/
theorem mem_inner_or_supply_of_below {item : Step × ContentNode} (led : item ∈ table.below node) :
    item.2 ∈ node.inner ∨ ∃ slot ∈ node.omitted, item ∈ table.supply slot := by
  unfold below at led
  split at led
  · rename_i element
    rw [ContentNode.omitted, if_pos element]
    rcases List.mem_append.mp led with child | repeated
    · cases given : node.ownChildren with
      | some items =>
          rw [given] at child
          exact Or.inl (mem_inner_of_mem_own child (Or.inl given))
      | none =>
          rw [given] at child
          refine Or.inr ⟨.children node.type, ?_, child⟩
          rw [Option.map_eq_none_iff.mp given]
          exact List.mem_cons_self
    · cases given : node.ownRepetition with
      | some items =>
          rw [given] at repeated
          exact Or.inl (mem_inner_of_mem_own repeated (Or.inr (Or.inl given)))
      | none =>
          rw [given] at repeated
          refine Or.inr ⟨.repetition node.type, List.mem_append_right _ ?_, repeated⟩
          rw [Option.map_eq_none_iff.mp given]
          exact List.mem_cons_self
  · exact Or.inl (mem_inner_of_mem_own led (Or.inr (Or.inr rfl)))

theorem Reaches.mem_written {place : List Step} {start : ContentNode}
    (reached : table.Reaches start place found) (begins : start ∈ table.written content) :
    found ∈ table.written content := by
  induction reached with
  | here node => exact begins
  | onward led _ inductionHypothesis =>
      refine inductionHypothesis ?_
      rcases mem_inner_or_supply_of_below led with own | ⟨slot, _, supplied⟩
      · exact mem_written_of_mem_walk begins
          (ContentNode.mem_walk_of_mem_inner own (ContentNode.self_mem_walk _))
      · rcases exists_entry_of_supply supplied with ⟨entry, known, root⟩
        exact List.mem_append_right _ (mem_supplied_of_root known root)

end MappingTable
end ComponentCompiler

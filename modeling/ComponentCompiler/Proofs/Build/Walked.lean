import ComponentCompiler.Proofs.Build.Account

namespace ComponentCompiler

/-!
# The walk after a build

After a build the walk starts from the content and from each default content
that the notes tell of.  Every one of these roots has a place: default content
stands one step below the node that took it.  The order of the notes is not the
order of the visits, but each root is noted as often as it is taken.
-/

/-- The walk through some roots, with the places of what it meets. -/
def walkFrom (roots : List (List Step × ContentNode)) : List (List Step × ContentNode) :=
  roots.flatMap fun root => relocate root.1 root.2.occurrences

theorem map_snd_walkFrom (roots : List (List Step × ContentNode)) :
    (walkFrom roots).map Prod.snd = (roots.map Prod.snd).flatMap ContentNode.walk := by
  rw [walkFrom, List.map_flatMap, List.flatMap_map]
  refine List.flatMap_congr fun root _ => ?_
  rw [map_snd_relocate, ContentNode.map_snd_occurrences]

/-- A list whose images are a permutation of other images is made of the same
items in another order. -/
theorem exists_perm_of_map_perm {α β : Type} {f : α → β} {images : List β} {items : List α}
    (perm : images.Perm (items.map f)) :
    ∃ others : List α, others.Perm items ∧ others.map f = images := by
  have pairs : List.Forall₂ (fun image item => image = f item) (items.map f) items := by
    rw [List.forall₂_map_left_iff, List.forall₂_same]
    exact fun _ _ => rfl
  rcases List.perm_comp_forall₂ perm pairs with ⟨others, matched, reordered⟩
  have equal : List.Forall₂ Eq images (others.map f) := List.forall₂_map_right_iff.mpr matched
  rw [List.forall₂_eq_eq_eq] at equal
  exact ⟨others, reordered, equal.symm⟩

namespace ContentNode

theorem hiddenSteps_subset (node : ContentNode) : node.hiddenSteps ⊆ node.steps := by
  unfold hiddenSteps steps
  split
  · exact List.nil_subset _
  · intro item member
    rcases List.mem_append.mp member with repeated | child
    · exact List.mem_append_left _ (List.mem_append_left _ repeated)
    · exact List.mem_append_right _ child

/-- What a node hides is part of the node. -/
theorem mem_walk_of_hidden {node found : ContentNode} {place : List Step}
    (hidden : (place, found) ∈ occurrencesBelow node.hiddenSteps) : found ∈ node.walk := by
  rcases List.mem_flatMap.mp hidden with ⟨step, listed, inside⟩
  have occurs : (place, found) ∈ node.occurrences := by
    rw [occurrences_eq]
    apply List.mem_cons_of_mem
    exact List.mem_flatMap.mpr ⟨step, node.hiddenSteps_subset listed, inside⟩
  rw [← map_snd_occurrences]
  exact List.mem_map_of_mem occurs

end ContentNode

namespace MappingTable

/-- The default content that is taken on some visits, each root with its place. -/
def takenRoots (table : MappingTable) (visited : List (List Step × ContentNode)) :
    List (List Step × ContentNode) :=
  visited.flatMap fun visit => (table.taken visit.2).map fun item => (visit.1 ++ [item.1], item.2)

theorem walkFrom_takenRoots (table : MappingTable) (visited : List (List Step × ContentNode)) :
    walkFrom (table.takenRoots visited) = table.takenBelow visited := by
  rw [walkFrom, takenRoots, List.flatMap_assoc, takenBelow]
  refine List.flatMap_congr fun visit _ => ?_
  rw [List.flatMap_map, ContentNode.occurrencesBelow, relocate, List.map_flatMap]
  refine List.flatMap_congr fun item _ => ?_
  exact (relocate_relocate visit.1 [item.1] item.2.occurrences).symm

section Walk

variable {table : MappingTable} {depth : Nat} {content : ContentNode} {origin : Origin}
  {notes : List BuildNote} {parts : List Markup}

/-- The roots of the walk have places at which it meets what the build visits and
what the visited nodes hide, each once. -/
theorem Accounts.walked (expanded : table.Expanded depth content)
    (account : table.Accounts origin [] (table.visits depth content) notes parts) :
    ∃ roots, roots.Perm (([], content) :: table.takenRoots (table.visits depth content)) ∧
      roots.map Prod.snd = content :: defaultsOf notes ∧
      (walkFrom roots).Perm
        (table.visits depth content ++ hiddenBelow (table.visits depth content)) := by
  have noted : (defaultsOf notes).Perm
      ((table.takenRoots (table.visits depth content)).map Prod.snd) := by
    rw [takenRoots, List.map_flatMap]
    simp only [List.map_map]
    exact account.defaults
  obtain ⟨others, reordered, same⟩ := exists_perm_of_map_perm noted
  refine ⟨([], content) :: others, reordered.cons _, congrArg (content :: ·) same, ?_⟩
  have taken : (walkFrom others).Perm (table.takenBelow (table.visits depth content)) := by
    rw [← walkFrom_takenRoots]
    exact reordered.flatMap_right _
  have whole : walkFrom (([], content) :: others) = content.occurrences ++ walkFrom others := by
    rw [walkFrom, List.flatMap_cons, relocate_nil]
    rfl
  rw [whole]
  exact (taken.append_left _).trans expanded.occurrences_perm

/-- Without places, the walk meets the visited nodes and those that they hide. -/
theorem Accounts.walk_perm (expanded : table.Expanded depth content)
    (account : table.Accounts origin [] (table.visits depth content) notes parts) :
    ((content :: defaultsOf notes).flatMap ContentNode.walk).Perm
      ((table.visits depth content).map Prod.snd ++
        (hiddenBelow (table.visits depth content)).map Prod.snd) := by
  obtain ⟨roots, _, same, perm⟩ := account.walked expanded
  rw [← same, ← map_snd_walkFrom, ← List.map_append]
  exact perm.map Prod.snd

end Walk

end MappingTable
end ComponentCompiler

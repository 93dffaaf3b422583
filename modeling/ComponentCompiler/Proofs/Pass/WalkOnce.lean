import ComponentCompiler.Proofs.Build.Walked
import ComponentCompiler.Proofs.Pass.ComponentTree

namespace ComponentCompiler

/-!
# The walk and the build go through the same occurrences

The build and the style walk are two traversals.  The build goes down into
default content on its way and looks only at the branches of a node that has
some.  The walk knows nothing of branches and defaults: it goes through the
content, and then through the default content that the build left behind.  Still
each occurrence that is compiled to an element is met once.  What the walk meets
besides are nodes with branches, and what such nodes have outside their branches.
-/

namespace MappingTable

/-- All occurrences that become elements, in the order of their places. -/
structure ListsElements (table : MappingTable) (content : ContentNode)
    (listed : List (List Step × ContentNode)) : Prop where
  complete : ∀ place node, (place, node) ∈ listed ↔
    table.Reaches content place node ∧ node.isElement = true
  ordered : listed.Pairwise fun first second => VisitedBefore first.1 second.1

/-- An occurrence below the children or the repeated content of a node that has
branches. -/
def Hides (table : MappingTable) (content : ContentNode) (place : List Step)
    (node : ContentNode) : Prop :=
  ∃ outer branched rest, table.Reaches content outer branched ∧ branched.isElement = false ∧
    place = outer ++ rest ∧
    (rest, node) ∈ ContentNode.occurrencesBelow
      (branched.ownRepetition.getD [] ++ branched.ownChildren.getD [])

/-- Where a walk starts: at the content, or at default content one step below an
element that left it out. -/
def StartsAt (table : MappingTable) (content : ContentNode) (root : List Step × ContentNode) :
    Prop :=
  root = ([], content) ∨ ∃ place node step, table.Reaches content place node ∧
    (∃ slot ∈ node.omitted, (step, root.2) ∈ table.supply slot) ∧ root.1 = place ++ [step]

section Visits

variable {table : MappingTable} {depth : Nat} {content : ContentNode}

theorem listsElements_visits (expanded : table.Expanded depth content) :
    table.ListsElements content (elementVisits (table.visits depth content)) := by
  constructor
  · intro place node
    rw [elementVisits, List.mem_filter]
    constructor
    · rintro ⟨visited, becomesElement⟩
      exact ⟨reaches_of_mem_visits visited, becomesElement⟩
    · rintro ⟨reached, becomesElement⟩
      exact ⟨expanded.mem_visits reached, becomesElement⟩
  · exact (table.visits_pairwise depth content).sublist List.filter_sublist

theorem mem_hiddenBelow_iff (expanded : table.Expanded depth content) {place : List Step}
    {node : ContentNode} :
    (place, node) ∈ hiddenBelow (table.visits depth content) ↔ table.Hides content place node := by
  unfold hiddenBelow
  rw [List.mem_flatMap]
  constructor
  · rintro ⟨⟨outer, branched⟩, visited, inside⟩
    rcases mem_relocate_iff.mp inside with ⟨rest, same, hidden⟩
    rw [ContentNode.hiddenSteps] at hidden
    cases kind : branched.isElement with
    | true =>
        rw [kind] at hidden
        cases hidden
    | false =>
        rw [kind] at hidden
        exact ⟨outer, branched, rest, reaches_of_mem_visits visited, kind, same, hidden⟩
  · rintro ⟨outer, branched, rest, reached, kind, same, hidden⟩
    refine ⟨(outer, branched), expanded.mem_visits reached, mem_relocate_iff.mpr ⟨rest, same, ?_⟩⟩
    rw [ContentNode.hiddenSteps, kind]
    exact hidden

theorem startsAt_of_mem_roots {root : List Step × ContentNode}
    (member : root ∈ ([], content) :: table.takenRoots (table.visits depth content)) :
    table.StartsAt content root := by
  rcases List.mem_cons.mp member with here | taken
  · exact Or.inl here
  · rcases List.mem_flatMap.mp taken with ⟨visit, visited, atVisit⟩
    rcases List.mem_map.mp atVisit with ⟨item, supplied, rfl⟩
    exact Or.inr ⟨visit.1, visit.2, item.1, reaches_of_mem_visits visited,
      List.mem_flatMap.mp supplied, rfl⟩

end Visits

end MappingTable

/-- After a build that succeeds, the walk meets each occurrence that the build
compiled once, and the tree has one element for each of them and otherwise only
wrappers.  The walk meets nothing else but nodes with branches and what is below
their children and repeated content. -/
theorem walk_meets_each_compiled_occurrence_once {component : Component} {table : MappingTable}
    {number : Nat} {notes : List BuildNote} {parts : List Markup}
    (built : component.build table number = ⟨notes, .ok parts⟩) :
    ∃ recorded roots listed,
      ((Assembly.start component).follow notes).outcome = .ok recorded ∧
      table.ListsElements component.content listed ∧
      outlineAll [.element (gathered parts)] = listed.map (fun item =>
        (some (Origin.descend ⟨number, []⟩ item.1), table.tag item.2)) ∧
      roots.map Prod.snd = component.content :: recorded.defaults ∧
      (∀ root ∈ roots, table.StartsAt component.content root) ∧
      (walkFrom roots).map Prod.snd =
        (component.content :: recorded.defaults).flatMap ContentNode.walk ∧
      ((walkFrom roots).map Prod.fst).Nodup ∧
      ∀ place node, (place, node) ∈ walkFrom roots ↔ (place, node) ∈ listed ∨
        (table.Reaches component.content place node ∧ node.isElement = false) ∨
        table.Hides component.content place node := by
  obtain ⟨expanded, account⟩ := table.accounted component.scope table.defaultDepth
    component.content ⟨number, []⟩ notes parts built
  obtain ⟨roots, reordered, same, met⟩ := account.walked expanded
  have lists := MappingTable.listsElements_visits expanded
  refine ⟨_, roots, elementVisits (table.visits table.defaultDepth component.content),
    Assembly.follow_outcome _ notes, lists, ?_, same, ?_, ?_, ?_, ?_⟩
  · rw [outlineAll_gathered]
    exact account.outline
  · intro root member
    exact MappingTable.startsAt_of_mem_roots (reordered.mem_iff.mp member)
  · rw [map_snd_walkFrom, same]
    rfl
  · exact (met.map Prod.fst).nodup_iff.mpr (table.visits_hidden_places_nodup _ _)
  · intro place node
    rw [met.mem_iff, List.mem_append, MappingTable.mem_hiddenBelow_iff expanded, ← or_assoc]
    refine or_congr_left ?_
    -- a visited node becomes an element, or else it has branches
    rw [lists.complete]
    constructor
    · intro visited
      have reached := MappingTable.reaches_of_mem_visits visited
      cases kind : node.isElement with
      | true => exact Or.inl ⟨reached, rfl⟩
      | false => exact Or.inr ⟨reached, rfl⟩
    · rintro (⟨reached, _⟩ | ⟨reached, _⟩)
      · exact expanded.mem_visits reached
      · exact expanded.mem_visits reached

/-- A page with a card and a panel.  The panel shows a card or a text; its child is
never built. -/
def panelPage : Component :=
  ⟨"Page", ⟨"group", "page", none, none, none,
    some [.node (.ofType "card" "first"),
      .node ⟨"group", "panel", none, none, none, some [.node (.ofType "text" "ignored")], none,
        some [⟨.equals (.bool true), .node (.ofType "card" "body")⟩,
          ⟨.equals (.bool false), .text "off"⟩], none⟩],
    none, none, none⟩, none, none, none⟩

/-- The element types of the page: every card brings a title along. -/
def panelTable : MappingTable :=
  [(.text "group", ⟨"div", none, none, none, none⟩),
   (.text "text", ⟨"span", none, none, none, none⟩),
   (.text "card", ⟨"section", none, none, some [.node (.ofType "text" "title")], none⟩)]

/-- Both titles of the page are met, though they come from one node; the panel and
its child are met as well and become no elements. -/
theorem panelPage_walk_meets_both_titles :
    ∃ notes parts recorded roots listed,
      panelPage.build panelTable 0 = ⟨notes, .ok parts⟩ ∧
      ((Assembly.start panelPage).follow notes).outcome = .ok recorded ∧
      ((panelPage.content :: recorded.defaults).flatMap ContentNode.walk).map ContentNode.name =
        ["page", "first", "panel", "body", "ignored", "title", "title"] ∧
      (outlineAll [.element (gathered parts)]).map Prod.snd =
        ["div", "section", "span", "section", "span"] ∧
      panelTable.ListsElements panelPage.content listed ∧
      outlineAll [.element (gathered parts)] = listed.map (fun item =>
        (some (Origin.descend ⟨0, []⟩ item.1), panelTable.tag item.2)) ∧
      ((walkFrom roots).map Prod.fst).Nodup ∧
      (walkFrom roots).map Prod.snd =
        (panelPage.content :: recorded.defaults).flatMap ContentNode.walk ∧
      ∀ item ∈ listed, item ∈ walkFrom roots := by
  obtain ⟨notes, parts, built, tags, taken⟩ : ∃ notes parts,
      panelPage.build panelTable 0 = ⟨notes, .ok parts⟩ ∧
      (outlineAll [.element (gathered parts)]).map Prod.snd =
        ["div", "section", "span", "section", "span"] ∧
      defaultsOf notes = [.ofType "text" "title", .ofType "text" "title"] :=
    ⟨_, _, rfl, rfl, rfl⟩
  obtain ⟨recorded, roots, listed, followed, lists, outline, _, _, walked, once, met⟩ :=
    walk_meets_each_compiled_occurrence_once built
  have defaults : recorded.defaults = [.ofType "text" "title", .ofType "text" "title"] := by
    rw [Assembly.follow_outcome] at followed
    cases followed
    exact taken
  refine ⟨notes, parts, recorded, roots, listed, built, followed, ?_, tags, lists, outline, once,
    walked, fun item member => (met item.1 item.2).mpr (Or.inl member)⟩
  rw [defaults]
  simp [ContentNode.walk_eq, ContentNode.inner, panelPage, ContentNode.ofType,
    ContentNode.plain, Child.node?]

end ComponentCompiler

import ComponentCompiler.Proofs.Pass.Styles

namespace ComponentCompiler

open Script Styling

/-!
# Every element receives the style of its node

Styles are handed out by name: the component pass enters each element under the
name of its node, and the style passes look the elements up again.  When the
names on the style walk are distinct, this way leads every style to its own
element.  The fixed entries become the rule of a class that this element alone
wears, the bound entries go to its inline style, and an element whose node has
no style is left as it was built.
-/

/-- The classes that are worn when every element wears the fixed entries of its
own node. -/
structure Wardrobe (table : MappingTable) (content : ContentNode) (worn : List Worn) : Prop where
  classes : (worn.map Worn.className).Nodup
  origins : (worn.map Worn.origin).Nodup
  wearers : ∀ origin node, (∃ className, ⟨origin, node, className⟩ ∈ worn) ↔
    table.Compiles content origin node ∧ node.fixedEntries ≠ []

/-- The second tree is the first one after each compiled element got what it was
to receive; nothing else changed. -/
def Received (table : MappingTable) (content : ContentNode)
    (receipt : Origin → ContentNode → Receipt) (before after : Markup) : Prop :=
  ∃ edit : Edit, after = before.restyle edit ∧
    ∀ origin node, table.Compiles content origin node →
      edit origin = (receipt origin node).onAttributes

/-- What the chunks hold when the style pass of a flavor handed every element the
style of its node. -/
def Flavor.Delivers (stylesObject : String) (camelCase : Bool) (table : MappingTable)
    (content : ContentNode) (function : ComponentFunction) (chunks : ChunkStore)
    (flavor : Flavor) : Prop :=
  if flavor = .inlineStyles then ∃ root,
    chunks.content? "react-component" = some (.component { function with root := root }) ∧
    Received table content (fun _ node => ⟨node.inlineEntries, none⟩) function.root root
  else ∃ worn root, Wardrobe table content worn ∧ flavor.KeepsClasses worn chunks ∧
    chunks.content? "react-component" = some (.component { function with root := root }) ∧
    Received table content (fun origin node => ⟨node.boundEntries,
      (classAt worn origin).map (flavor.reference stylesObject camelCase)⟩) function.root root

/-! ## Names lead to their own elements -/

section Names

variable {table : MappingTable} {built : Assembly} {function : ComponentFunction}

theorem mem_located_iff {nodes : Entries String Origin} {list : List ContentNode} {origin : Origin}
    {node : ContentNode} :
    (origin, node) ∈ located nodes list ↔
      node ∈ list ∧ Entries.lookUp? nodes node.name = some origin := by
  unfold located
  rw [List.mem_filterMap]
  constructor
  · rintro ⟨other, listed, found⟩
    rcases Option.map_eq_some_iff.mp found with ⟨place, looked, same⟩
    rcases Prod.mk.inj same with ⟨rfl, rfl⟩
    exact ⟨listed, looked⟩
  · rintro ⟨listed, looked⟩
    exact ⟨node, listed, Option.map_eq_some_iff.mpr ⟨origin, looked, rfl⟩⟩

/-- When names are distinct, the nodes that lead to an element are those that it
is compiled from. -/
theorem mem_located_styledNodes_iff (records : built.Records table function)
    (distinct : (built.walked.map ContentNode.name).Nodup) {origin : Origin} {node : ContentNode} :
    (origin, node) ∈ located built.nodes built.styledNodes ↔
      table.Compiles built.component.content origin node ∧ node.style.getD [] ≠ [] := by
  rw [mem_located_iff, mem_styledNodes_iff]
  constructor
  · rintro ⟨⟨onWalk, styled⟩, looked⟩
    rcases records.found looked with ⟨other, compiles, sameName⟩
    have same := List.inj_on_of_nodup_map distinct (records.reached compiles) onWalk sameName
    exact ⟨same ▸ compiles, styled⟩
  · rintro ⟨compiles, styled⟩
    rcases Option.isSome_iff_exists.mp (records.entered compiles) with ⟨place, looked⟩
    rcases records.found looked with ⟨other, otherCompiles, sameName⟩
    have sameOrigin := records.separate distinct otherCompiles compiles sameName
    exact ⟨⟨records.reached compiles, styled⟩, sameOrigin ▸ looked⟩

theorem located_styledNodes_nodup (records : built.Records table function)
    (distinct : (built.walked.map ContentNode.name).Nodup) :
    ((located built.nodes built.styledNodes).map Prod.fst).Nodup := by
  have names : (built.styledNodes.map ContentNode.name).Nodup :=
    distinct.sublist (List.filter_sublist.map ContentNode.name)
  unfold List.Nodup at names ⊢
  rw [List.pairwise_map] at names ⊢
  -- the elements differ because the names of their nodes do
  unfold located
  rw [List.pairwise_filterMap]
  refine names.imp_of_mem fun {first second} firstListed secondListed different => ?_
  intro item found other otherFound sameOrigin
  rcases Option.map_eq_some_iff.mp found with ⟨origin, looked, rfl⟩
  rcases Option.map_eq_some_iff.mp otherFound with ⟨_, otherLooked, rfl⟩
  cases sameOrigin
  rcases records.found looked with ⟨node, compiles, named⟩
  rcases records.found otherLooked with ⟨otherNode, otherCompiles, otherNamed⟩
  rw [compiles.unique otherCompiles] at named
  exact different (named.symm.trans otherNamed)

theorem mem_claims_styledNodes_iff (records : built.Records table function)
    (distinct : (built.walked.map ContentNode.name).Nodup) {origin : Origin} {node : ContentNode} :
    (origin, node) ∈ claims built.nodes [] built.styledNodes ↔
      table.Compiles built.component.content origin node ∧ node.style.getD [] ≠ [] := by
  rw [claims_eq_located (located_styledNodes_nodup records distinct) fun _ _ => List.not_mem_nil,
    mem_located_styledNodes_iff records distinct]

end Names

/-! ## The flavors -/

section Flavors

variable {stylesObject : String} {camelCase : Bool} {library : StyleLibrary}
  {table : MappingTable} {built styled : Assembly} {function : ComponentFunction}

theorem ContentNode.entries_of_unstyled {node : ContentNode} (unstyled : node.style.getD [] = []) :
    node.fixedEntries = [] ∧ node.boundEntries = [] ∧ node.inlineEntries = [] := by
  rw [fixedEntries, boundEntries, inlineEntries, unstyled]
  exact ⟨rfl, rfl, rfl⟩

/-- What a class pass over distinct names hands out is worn by the elements of the
nodes. -/
theorem HandsOut.wardrobe {flavor : Flavor} {chunks : ChunkStore} {worn : List Worn} {edit : Edit}
    (handsOut : HandsOut flavor stylesObject camelCase built function chunks worn edit)
    (records : built.Records table function)
    (distinct : (built.walked.map ContentNode.name).Nodup) :
    Wardrobe table built.component.content worn := by
  refine ⟨handsOut.classes, handsOut.origins, fun origin node => ?_⟩
  rw [handsOut.wearers, mem_claims_styledNodes_iff records distinct]
  constructor
  · rintro ⟨⟨compiles, _⟩, fixed⟩
    exact ⟨compiles, fixed⟩
  · rintro ⟨compiles, fixed⟩
    exact ⟨⟨compiles, fun unstyled => fixed (ContentNode.entries_of_unstyled unstyled).1⟩, fixed⟩

/-- What an element receives from a class pass over distinct names. -/
theorem HandsOut.edit_eq {flavor : Flavor} {chunks : ChunkStore} {worn : List Worn} {edit : Edit}
    (handsOut : HandsOut flavor stylesObject camelCase built function chunks worn edit)
    (records : built.Records table function)
    (distinct : (built.walked.map ContentNode.name).Nodup) {origin : Origin} {node : ContentNode}
    (compiles : table.Compiles built.component.content origin node) :
    edit origin = Receipt.onAttributes ⟨node.boundEntries,
      (classAt worn origin).map (flavor.reference stylesObject camelCase)⟩ := by
  have claimed := @mem_claims_styledNodes_iff table built function records distinct
  by_cases unstyled : node.style.getD [] = []
  · rcases ContentNode.entries_of_unstyled unstyled with ⟨noFixed, noBound, _⟩
    -- neither a receipt nor a class belongs to an element without a style
    have unclaimed : origin ∉ (claims built.nodes [] built.styledNodes).map Prod.fst := by
      intro member
      rcases List.mem_map.mp member with ⟨⟨_, other⟩, listed, rfl⟩
      rcases claimed.mp listed with ⟨otherCompiles, otherStyled⟩
      exact otherStyled (compiles.unique otherCompiles ▸ unstyled)
    have classless : classAt worn origin = none := by
      unfold classAt
      rw [Option.map_eq_none_iff, List.find?_eq_none]
      intro item member sameOrigin
      obtain ⟨otherCompiles, fixed⟩ :=
        ((handsOut.wardrobe records distinct).wearers item.origin item.node).mp
          ⟨item.className, member⟩
      rw [of_decide_eq_true sameOrigin] at otherCompiles
      exact fixed (compiles.unique otherCompiles ▸ noFixed)
    rw [handsOut.passedOver unclaimed, classless, noBound]
    rfl
  · exact handsOut.received (claimed.mpr ⟨compiles, unstyled⟩)

/-- The inline pass over distinct names hands every element all its entries. -/
theorem inlineStyles_delivers (records : built.Records table function)
    (distinct : (built.walked.map ContentNode.name).Nodup)
    (ran : (Pass.inlineStyles.run table built).outcome = .ok styled) :
    Flavor.inlineStyles.Delivers stylesObject camelCase table built.component.content function
      styled.chunks := by
  rw [run_inlineStyles] at ran
  cases ran
  rw [Flavor.Delivers, if_pos rfl]
  refine ⟨function.root.restyle (editOf (inlineReceipts (located built.nodes built.styledNodes))),
    ?_, _, rfl, ?_⟩
  · rw [ChunkStore.content?_restyle, records.content?_component]
    rfl
  intro origin node compiles
  change editOf _ origin = Receipt.onAttributes ⟨node.inlineEntries, none⟩
  have receiptOrigins : (inlineReceipts (located built.nodes built.styledNodes)).map Prod.fst =
      (located built.nodes built.styledNodes).map Prod.fst := by
    rw [inlineReceipts, List.map_map]
    rfl
  have listed := @mem_located_styledNodes_iff table built function records distinct
  by_cases unstyled : node.style.getD [] = []
  · rw [(ContentNode.entries_of_unstyled unstyled).2.2]
    refine editOf_of_absent fun member => ?_
    rw [receiptOrigins] at member
    rcases List.mem_map.mp member with ⟨⟨_, other⟩, found, rfl⟩
    rcases listed.mp found with ⟨otherCompiles, otherStyled⟩
    exact otherStyled (compiles.unique otherCompiles ▸ unstyled)
  · refine editOf_of_mem (receiptOrigins ▸ located_styledNodes_nodup records distinct) ?_
    exact List.mem_map.mpr ⟨(origin, node), listed.mpr ⟨compiles, unstyled⟩, rfl⟩

/-- Every style pass over distinct names hands each element the style of its node. -/
theorem Flavor.delivers (flavor : Flavor) (records : built.Records table function)
    (distinct : (built.walked.map ContentNode.name).Nodup)
    (ran : ((flavor.pass (.ofChoice stylesObject camelCase library)).run table built).outcome =
      .ok styled) :
    flavor.Delivers stylesObject camelCase table built.component.content function styled.chunks := by
  by_cases inline : flavor = .inlineStyles
  · subst inline
    exact inlineStyles_delivers records distinct ran
  · rw [Flavor.Delivers, if_neg inline]
    rcases Flavor.handsOut inline records ran with ⟨worn, edit, handsOut⟩
    exact ⟨worn, _, handsOut.wardrobe records distinct, handsOut.kept, handsOut.component, edit, rfl,
      fun _ _ compiles => handsOut.edit_eq records distinct compiles⟩

/-- When the styled nodes that are compiled are those that are claimed, a style pass fails only
over fixed entries of such a node that cannot be written as a rule. -/
theorem Flavor.pass_succeeds_iff_writable (flavor : Flavor) (records : built.Records table function)
    (compiled : ∀ claim ∈ claims built.nodes [] built.styledNodes,
      table.Compiles built.component.content claim.1 claim.2)
    (claimed : ∀ origin node, table.Compiles built.component.content origin node →
      node.style.getD [] ≠ [] → ∃ found, (found, node) ∈ claims built.nodes [] built.styledNodes) :
    (∃ styled, ((flavor.pass (.ofChoice stylesObject camelCase library)).run table built).outcome =
        .ok styled) ↔
      (flavor = .scopedClasses → ∀ origin node,
        table.Compiles built.component.content origin node → ∀ selector,
          ∃ text, Stylesheet.rule selector (asEntries node.fixedEntries) = .ok text) := by
  rw [Flavor.pass_succeeds_iff records]
  constructor
  · intro writable isScoped origin node compiles selector
    by_cases unstyled : node.style.getD [] = []
    · rw [(ContentNode.entries_of_unstyled unstyled).1]
      exact ⟨_, rfl⟩
    · rcases claimed origin node compiles unstyled with ⟨found, listed⟩
      exact writable isScoped (found, node) listed selector
  · intro writable isScoped claim listed
    exact writable isScoped claim.1 claim.2 (compiled claim listed)

end Flavors

/-- The title that a titled element brings along. -/
def cardTitle : ContentNode :=
  .plain "group" "title" (some [("fontWeight", .text "bold")]) (some [])

/-- A card whose head is a titled element with a bound and a fixed entry. -/
def styledCard : Component :=
  ⟨"Card", .plain "group" "card" (some [("color", .text "red")])
    (some [.node (.plain "titled" "head"
      (some [("width", .text "$props.width"), ("margin", .int 4)]) none), .text "$props.note"]),
    none, none, none⟩

/-- The element types of the card. -/
def cardTable : MappingTable :=
  [(.text "group", ⟨"div", none, none, none, none⟩),
   (.text "titled", ⟨"section", none, none, some [.node cardTitle], none⟩)]

end ComponentCompiler

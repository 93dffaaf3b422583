import ComponentCompiler.Proofs.Styling.Delivery

namespace ComponentCompiler

open Styling

/-!
# Several elements from one node

Default content is built wherever its element type is used, so one node can be
compiled to several elements.  They all have the name of the node, and a name
leads to one element only.  When the nodes that are written down have distinct
names, a class pass gives the fixed entries of a node to exactly one of its
elements.  All elements carry the fixed entries of their nodes exactly when no
such node is compiled twice.
-/

/-! ## Names and claims -/

section Names

variable {table : MappingTable} {built : Assembly} {function : ComponentFunction}

/-- When the written names are distinct, an element is claimed by the node that it
is compiled from, and only when the name of the node leads to it. -/
theorem mem_claims_iff (records : built.Records table function)
    (distinct : ((table.written built.component.content).map ContentNode.name).Nodup)
    {origin : Origin} {node : ContentNode} :
    (origin, node) ∈ claims built.nodes [] built.styledNodes ↔
      table.Compiles built.component.content origin node ∧ node.style.getD [] ≠ [] ∧
        Entries.lookUp? built.nodes node.name = some origin := by
  have forward : ∀ {other : ContentNode},
      (origin, other) ∈ claims built.nodes [] built.styledNodes →
      table.Compiles built.component.content origin other ∧ other.style.getD [] ≠ [] ∧
        Entries.lookUp? built.nodes other.name = some origin := by
    intro other claimed
    rcases of_mem_claims claimed with ⟨listed, looked, _⟩
    rcases mem_styledNodes_iff.mp listed with ⟨onWalk, styled⟩
    rcases records.found looked with ⟨owner, compiles, sameName⟩
    have same : owner = other := List.inj_on_of_nodup_map distinct compiles.mem_written
      (mem_written_of_mem_walked records onWalk) sameName
    exact ⟨same ▸ compiles, styled, looked⟩
  refine ⟨forward, ?_⟩
  rintro ⟨compiles, styled, looked⟩
  have listed := mem_styledNodes_iff.mpr ⟨records.reached compiles, styled⟩
  rcases List.mem_map.mp (claimed_of_mem listed looked List.not_mem_nil) with
    ⟨⟨_, other⟩, claimed, rfl⟩
  rw [compiles.unique (forward claimed).1]
  exact claimed

/-- When the written names are distinct, the name of a compiled node leads to one
of its elements. -/
theorem exists_lookUp?_eq_some (records : built.Records table function)
    (distinct : ((table.written built.component.content).map ContentNode.name).Nodup)
    {origin : Origin} {node : ContentNode}
    (compiles : table.Compiles built.component.content origin node) :
    ∃ found, Entries.lookUp? built.nodes node.name = some found ∧
      table.Compiles built.component.content found node := by
  rcases Option.isSome_iff_exists.mp (records.entered compiles) with ⟨found, looked⟩
  rcases records.found looked with ⟨other, otherCompiles, sameName⟩
  have same := List.inj_on_of_nodup_map distinct otherCompiles.mem_written compiles.mem_written
    sameName
  exact ⟨found, looked, same ▸ otherCompiles⟩

end Names

/-! ## Carrying a class -/

/-- The element of an origin carries a class that stands for some fixed entries:
behind the class that it was built with stands the reference to this class. -/
def Carries (worn : List Worn) (reference : String → String) (before after : Markup)
    (origin : Origin) (fixed : Fields) : Prop :=
  ∃ item ∈ worn, item.node.fixedEntries = fixed ∧
    ∃ old new, (origin, old) ∈ before.compiled ∧ (origin, new) ∈ after.compiled ∧
      Entries.lookUp? new "className" =
        some (.code (joinedClass (Entries.lookUp? old "className") (reference item.className)))

theorem ne_joinedClass (existing : Option Value) (added : String) :
    existing ≠ some (.code (joinedClass existing added)) := by
  intro same
  cases existing with
  | none => cases same
  | some value =>
      cases value with
      | code expression =>
          have lengths := congrArg String.length (Value.code.inj (Option.some.inj same))
          simp only [joinedClass, String.length_append] at lengths
          have longer : 0 < "\x60$\x7b".length := by decide
          omega
      | _ => cases same

theorem lookUp?_className_onAttributes (merged : Fields) (reference : String) (attributes : Fields) :
    Entries.lookUp? (Receipt.onAttributes ⟨merged, some reference⟩ attributes) "className" =
      some (.code (joinedClass (Entries.lookUp? attributes "className") reference)) := by
  have untouched : ∀ value, Entries.lookUp? (Entries.put attributes "style" value) "className" =
      Entries.lookUp? attributes "className" :=
    fun value => Entries.lookUp?_put_of_ne attributes value (by decide)
  cases merged with
  | nil => exact Entries.lookUp?_put_self ..
  | cons entry rest =>
      refine (Entries.lookUp?_put_self ..).trans ?_
      simp only [Element.attribute?]
      exact congrArg (fun found => some (Value.code (joinedClass found reference))) (untouched _)

theorem classAt_of_mem {worn : List Worn} (distinct : (worn.map Worn.origin).Nodup) {item : Worn}
    (member : item ∈ worn) : classAt worn item.origin = some item.className := by
  unfold classAt
  cases found : worn.find? fun other => other.origin = item.origin with
  | none => exact absurd (decide_eq_true rfl) (List.find?_eq_none.mp found item member)
  | some other =>
      have passes := List.find?_some found
      have same := List.inj_on_of_nodup_map distinct (List.mem_of_find?_eq_some found) member
        (of_decide_eq_true passes)
      rw [same]
      rfl

section Instances

variable {flavor : Flavor} {stylesObject : String} {camelCase : Bool} {library : StyleLibrary}
  {table : MappingTable} {built : Assembly} {function : ComponentFunction}

/-- An element carries the fixed entries of its node exactly when the name of the
node leads to this element. -/
theorem carries_iff_lookUp?_eq_some {chunks : ChunkStore} {worn : List Worn} {edit : Edit}
    (handsOut : HandsOut flavor stylesObject camelCase built function chunks worn edit)
    (records : built.Records table function)
    (distinct : ((table.written built.component.content).map ContentNode.name).Nodup)
    {origin : Origin} {node : ContentNode}
    (compiles : table.Compiles built.component.content origin node)
    (fixed : node.fixedEntries ≠ []) :
    Carries worn (flavor.reference stylesObject camelCase) function.root
        (function.root.restyle edit) origin node.fixedEntries ↔
      Entries.lookUp? built.nodes node.name = some origin := by
  have styled : node.style.getD [] ≠ [] := by
    intro unstyled
    rw [ContentNode.fixedEntries, unstyled] at fixed
    exact fixed rfl
  constructor
  · rintro ⟨item, _, _, old, new, before, after, carried⟩
    by_cases claimed : origin ∈ (claims built.nodes [] built.styledNodes).map Prod.fst
    · rcases List.mem_map.mp claimed with ⟨⟨_, other⟩, listed, rfl⟩
      rcases (mem_claims_iff records distinct).mp listed with ⟨otherCompiles, _, looked⟩
      rw [compiles.unique otherCompiles]
      exact looked
    · -- an element that nobody claims still has the class that it was built with
      rw [Markup.compiled_restyle] at after
      rcases List.mem_map.mp after with ⟨⟨_, attributes⟩, present, same⟩
      rcases Prod.mk.inj same with ⟨rfl, rfl⟩
      have sameElement := List.inj_on_of_nodup_map records.once before present rfl
      rcases Prod.mk.inj sameElement with ⟨_, rfl⟩
      simp only [handsOut.passedOver claimed] at carried
      exact absurd carried (ne_joinedClass _ _)
  · intro looked
    have claimed := (mem_claims_iff records distinct).mpr ⟨compiles, styled, looked⟩
    rcases (handsOut.wearers origin node).mpr ⟨claimed, fixed⟩ with ⟨className, member⟩
    have present := (records.compiled origin).mpr ⟨node, compiles⟩
    rcases List.mem_map.mp present with ⟨element, listed, same⟩
    have before : (origin, element.2) ∈ function.root.compiled := same ▸ listed
    refine ⟨_, member, rfl, element.2, edit origin element.2, before, ?_, ?_⟩
    · rw [Markup.compiled_restyle]
      exact List.mem_map.mpr ⟨_, before, rfl⟩
    · rw [handsOut.received claimed, classAt_of_mem handsOut.origins member]
      exact lookUp?_className_onAttributes ..

end Instances

/-- When the names that are written down in the content and in the table are
distinct, a class pass gives the fixed entries of each compiled node to exactly one
of its elements.  So all elements carry the fixed entries of their nodes exactly
when no node with fixed entries is compiled to two elements. -/
theorem one_instance_of_each_node_carries_its_style (stylesObject : String) (camelCase : Bool)
    (library : StyleLibrary) {flavor : Flavor} (withClasses : flavor ≠ .inlineStyles)
    {component : Component} {table : MappingTable} {built : Assembly}
    (succeeded : ((Pass.componentTree {}).run table (Assembly.start component)).outcome = .ok built)
    (distinct : ((table.written component.content).map ContentNode.name).Nodup) :
    ∃ function, built.chunks.content? "react-component" = some (.component function) ∧
      (∀ origin, origin ∈ function.root.origins ↔
        ∃ node, table.Compiles component.content origin node) ∧
      ((∃ styled, ((flavor.pass (.ofChoice stylesObject camelCase library)).run table
          built).outcome = .ok styled) ↔
        (flavor = .scopedClasses →
          ∀ origin node, table.Compiles component.content origin node → ∀ selector,
            ∃ text, Stylesheet.rule selector (asEntries node.fixedEntries) = .ok text)) ∧
      ∀ styled, ((flavor.pass (.ofChoice stylesObject camelCase library)).run table
          built).outcome = .ok styled →
        ∃ worn root, flavor.KeepsClasses worn styled.chunks ∧
          styled.chunks.content? "react-component" =
            some (.component { function with root := root }) ∧
          (∀ node, node.fixedEntries ≠ [] →
            (∃ origin, table.Compiles component.content origin node) →
            ∃! origin, table.Compiles component.content origin node ∧
              Carries worn (flavor.reference stylesObject camelCase) function.root root origin
                node.fixedEntries) ∧
          ((∀ origin node, table.Compiles component.content origin node → node.fixedEntries ≠ [] →
              Carries worn (flavor.reference stylesObject camelCase) function.root root origin
                node.fixedEntries) ↔
            ∀ node first second, node.fixedEntries ≠ [] →
              table.Compiles component.content first node →
              table.Compiles component.content second node → first = second) := by
  rcases records_of_assembleTree succeeded with ⟨rfl, function, records⟩
  refine ⟨function, records.content?_component, records.compiled,
    flavor.pass_succeeds_iff_writable records
      (fun _ listed => ((mem_claims_iff records distinct).mp listed).1)
      fun origin node compiles styled => ?_, fun styled ran => ?_⟩
  · rcases exists_lookUp?_eq_some records distinct compiles with ⟨found, looked, foundCompiles⟩
    exact ⟨found, (mem_claims_iff records distinct).mpr ⟨foundCompiles, styled, looked⟩⟩
  rcases Flavor.handsOut withClasses records ran with ⟨worn, edit, handsOut⟩
  have carries := @carries_iff_lookUp?_eq_some flavor stylesObject camelCase table built function
    styled.chunks worn edit handsOut records distinct
  refine ⟨worn, function.root.restyle edit, handsOut.kept, handsOut.component, ?_, ?_, ?_⟩
  · -- The one instance is the element that the name leads to.
    rintro node fixed ⟨origin, compiles⟩
    rcases exists_lookUp?_eq_some records distinct compiles with ⟨found, looked, foundCompiles⟩
    refine ⟨found, ⟨foundCompiles, (carries foundCompiles fixed).mpr looked⟩, ?_⟩
    rintro other ⟨otherCompiles, carried⟩
    exact Option.some.inj (((carries otherCompiles fixed).mp carried).symm.trans looked)
  · intro all node first second fixed firstCompiles secondCompiles
    have toFirst := (carries firstCompiles fixed).mp (all first node firstCompiles fixed)
    have toSecond := (carries secondCompiles fixed).mp (all second node secondCompiles fixed)
    exact Option.some.inj (toFirst.symm.trans toSecond)
  · intro single origin node compiles fixed
    rcases exists_lookUp?_eq_some records distinct compiles with ⟨found, looked, foundCompiles⟩
    refine (carries compiles fixed).mpr ?_
    rw [single node origin found fixed compiles foundCompiles]
    exact looked

/-- The title that every card brings along. -/
def cardHeading : ContentNode :=
  .plain "text" "title" (some [("color", .text "red")]) none

/-- A page with two cards. -/
def cardPage : Component :=
  ⟨"Page", .plain "group" "page" none
    (some [.node (.ofType "card" "first"), .node (.ofType "card" "second")]),
    none, none, none⟩

/-- The element types of the page. -/
def pageTable : MappingTable :=
  [(.text "group", ⟨"div", none, none, none, none⟩),
   (.text "text", ⟨"span", none, none, none, none⟩),
   (.text "card", ⟨"div", none, none, some [.node cardHeading], none⟩)]

/-- The two titles of the page come from one node, so one of them is left without
its style. -/
theorem cardPage_leaves_a_title_unstyled :
    ∃ built function styled worn root,
      ((Pass.componentTree {}).run pageTable (Assembly.start cardPage)).outcome = .ok built ∧
      built.chunks.content? "react-component" = some (.component function) ∧
      ((Flavor.scopedClasses.pass (.ofChoice "styles" false {})).run pageTable built).outcome =
        .ok styled ∧
      Flavor.scopedClasses.KeepsClasses worn styled.chunks ∧
      styled.chunks.content? "react-component" = some (.component { function with root := root }) ∧
      ((pageTable.written cardPage.content).map ContentNode.name) =
        ["page", "first", "second", "title"] ∧
      ¬ ∀ origin node, pageTable.Compiles cardPage.content origin node → node.fixedEntries ≠ [] →
        Carries worn (Flavor.scopedClasses.reference "styles" false) function.root root origin
          node.fixedEntries := by
  have written : pageTable.written cardPage.content = [cardPage.content,
      .ofType "card" "first", .ofType "card" "second", cardHeading] := by
    simp [MappingTable.written, MappingTable.supplied, ElementMapping.roots, ContentNode.walk_eq,
      ContentNode.inner, cardPage, pageTable, ContentNode.ofType,
      ContentNode.plain, cardHeading, Child.node?]
  obtain ⟨built, succeeded⟩ : ∃ built, ((Pass.componentTree {}).run pageTable
      (Assembly.start cardPage)).outcome = .ok built := ⟨_, rfl⟩
  obtain ⟨function, component, _, succeeds, carries⟩ :=
    one_instance_of_each_node_carries_its_style "styles" false {}
      (by decide : Flavor.scopedClasses ≠ .inlineStyles) succeeded (by rw [written]; decide)
  obtain ⟨styled, ran⟩ := succeeds.mpr fun _ origin node compiles selector => by
    have listed := compiles.mem_written
    rw [written] at listed
    simp only [List.mem_cons, List.not_mem_nil, or_false] at listed
    rcases listed with rfl | rfl | rfl | rfl <;> exact ⟨_, rfl⟩
  rcases carries styled ran with ⟨worn, root, kept, restyled, _, all⟩
  refine ⟨built, function, styled, worn, root, succeeded, component, ran, kept, restyled,
    by rw [written]; rfl, fun everyInstance => ?_⟩
  -- the title is compiled below both cards
  have title : ∀ index name, (.child index, .ofType "card" name) ∈
      pageTable.below cardPage.content → pageTable.Compiles cardPage.content
        (Origin.descend ⟨0, []⟩ [.child index, .child 0]) cardHeading := by
    intro index name led
    have below : (.child 0, cardHeading) ∈ pageTable.below (.ofType "card" name) :=
      List.mem_singleton.mpr rfl
    exact ⟨_, .onward led (.onward below (.here _)), rfl, rfl⟩
  have same := all.mp everyInstance cardHeading _ _ (by decide)
    (title 0 "first" List.mem_cons_self) (title 1 "second" (List.mem_cons_of_mem _ List.mem_cons_self))
  exact absurd same (by decide)

end ComponentCompiler

import ComponentCompiler.Proofs.Script.Member
import ComponentCompiler.Proofs.Styling.Instances

namespace ComponentCompiler

open Script Styling

/-!
# Classes and the elements that refer to them

Names are no keys: several nodes can have one name, different names can be the
same in dash case, and a number behind a name can make it the name of another
node.  Whatever the names are, the classes of a class pass and the elements that
got one belong together in pairs.  A class that is kept is worn by one element,
and an element whose class changed wears one that is kept.  Without classes the
pass leaves everything but inline styles as it found it.
-/

/-- The class attribute of an element is another one than before. -/
def ClassChanged (before after : Markup) (origin : Origin) : Prop :=
  ∃ old new, (origin, old) ∈ before.compiled ∧ (origin, new) ∈ after.compiled ∧
    Entries.lookUp? new "className" ≠ Entries.lookUp? old "className"

/-- An element refers to a class besides those that it was built with. -/
def RefersTo (reference : String → String) (before after : Markup) (origin : Origin)
    (className : String) : Prop :=
  ∃ old new, (origin, old) ∈ before.compiled ∧ (origin, new) ∈ after.compiled ∧
    Entries.lookUp? new "className" =
      some (.code (joinedClass (Entries.lookUp? old "className") (reference className)))

/-! ## The attributes of an element -/

theorem lookUp?_className_merged (merged attributes : Fields) :
    Entries.lookUp? (Receipt.onAttributes ⟨merged, none⟩ attributes) "className" =
      Entries.lookUp? attributes "className" := by
  cases merged with
  | nil => rfl
  | cons entry rest => exact Entries.lookUp?_put_of_ne attributes _ (by decide)

/-- The inline pass leaves the class attributes. -/
theorem lookUp?_className_inline (items : List (Origin × ContentNode)) (origin : Origin)
    (attributes : Fields) :
    Entries.lookUp? (editOf (inlineReceipts items) origin attributes) "className" =
      Entries.lookUp? attributes "className" := by
  refine editOf_relates (fun before after =>
    Entries.lookUp? after "className" = Entries.lookUp? before "className")
    (fun _ => rfl) (fun first second => second.trans first) ?_ origin attributes
  intro receipt member attributes
  rcases List.mem_map.mp member with ⟨item, _, rfl⟩
  exact lookUp?_className_merged _ attributes

/-- Where no origin comes twice, an edit changes the class of an element when it
changes the class of its attributes. -/
theorem classChanged_restyle_iff {root : Markup} (once : root.origins.Nodup) {edit : Edit}
    {origin : Origin} :
    ClassChanged root (root.restyle edit) origin ↔
      ∃ attributes, (origin, attributes) ∈ root.compiled ∧
        Entries.lookUp? (edit origin attributes) "className" ≠
          Entries.lookUp? attributes "className" := by
  unfold ClassChanged
  rw [Markup.compiled_restyle]
  constructor
  · rintro ⟨old, new, before, after, changed⟩
    rcases List.mem_map.mp after with ⟨⟨_, attributes⟩, present, same⟩
    rcases Prod.mk.inj same with ⟨rfl, rfl⟩
    have sameElement := List.inj_on_of_nodup_map once before present rfl
    rcases Prod.mk.inj sameElement with ⟨_, rfl⟩
    exact ⟨old, before, changed⟩
  · rintro ⟨attributes, present, changed⟩
    exact ⟨attributes, _, present, List.mem_map.mpr ⟨_, present, rfl⟩, changed⟩

theorem classAt_eq_none_of_absent {worn : List Worn} {origin : Origin}
    (absent : origin ∉ worn.map Worn.origin) : classAt worn origin = none := by
  unfold classAt
  rw [Option.map_eq_none_iff, List.find?_eq_none]
  intro item member sameOrigin
  exact absent (of_decide_eq_true sameOrigin ▸ List.mem_map_of_mem member)

section HandedOut

variable {flavor : Flavor} {stylesObject : String} {camelCase : Bool} {table : MappingTable}
  {built : Assembly} {function : ComponentFunction} {chunks : ChunkStore} {worn : List Worn}
  {edit : Edit}

/-- An element wears a class only when it is claimed. -/
theorem HandsOut.claimed_of_worn
    (handsOut : HandsOut flavor stylesObject camelCase built function chunks worn edit)
    {item : Worn} (member : item ∈ worn) :
    (item.origin, item.node) ∈ claims built.nodes [] built.styledNodes :=
  ((handsOut.wearers item.origin item.node).mp ⟨item.className, member⟩).1

/-- The wearers of classes are the claimants that have fixed entries, in order. -/
theorem HandsOut.claimants
    (handsOut : HandsOut flavor stylesObject camelCase built function chunks worn edit) :
    (worn.map fun item => (item.origin, item.node)) =
      (claims built.nodes [] built.styledNodes).filter
        (fun claim => claim.2.fixedEntries ≠ []) := by
  have listed (claim : Origin × ContentNode) :
      claim ∈ worn.map (fun item => (item.origin, item.node)) ↔
        claim ∈ claims built.nodes [] built.styledNodes ∧ claim.2.fixedEntries ≠ [] := by
    rw [← handsOut.wearers claim.1 claim.2, List.mem_map]
    constructor
    · rintro ⟨item, member, rfl⟩
      exact ⟨item.className, member⟩
    · rintro ⟨className, member⟩
      exact ⟨_, member, rfl⟩
  have kept := handsOut.order.filter (fun claim => decide (claim.2.fixedEntries ≠ []))
  rw [List.filter_eq_self.mpr fun claim member => decide_eq_true ((listed claim).mp member).2] at kept
  -- nothing of the filtered claims is missing, since they are listed once
  have once := (List.Nodup.of_map Prod.fst (claims_nodup built.nodes [] built.styledNodes)).filter
    (fun claim => decide (claim.2.fixedEntries ≠ []))
  refine kept.eq_of_length_le (once.subperm fun claim member => ?_).length_le
  rw [List.mem_filter, decide_eq_true_eq] at member
  exact (listed claim).mpr member

/-- The wearers are elements of the component. -/
theorem HandsOut.mem_origins_of_worn
    (handsOut : HandsOut flavor stylesObject camelCase built function chunks worn edit)
    (records : built.Records table function) {item : Worn} (member : item ∈ worn) :
    item.origin ∈ function.root.origins := by
  rcases of_mem_claims (handsOut.claimed_of_worn member) with ⟨_, looked, _⟩
  rcases records.found looked with ⟨node, compiles, _⟩
  exact (records.compiled item.origin).mpr ⟨node, compiles⟩

/-- The class attribute after the pass: the class of a wearer joins what was there,
and nothing else changes. -/
theorem HandsOut.className_edit
    (handsOut : HandsOut flavor stylesObject camelCase built function chunks worn edit)
    (origin : Origin) (attributes : Fields) :
    Entries.lookUp? (edit origin attributes) "className" =
      ((classAt worn origin).map fun className =>
        Value.code (joinedClass (Entries.lookUp? attributes "className")
          (flavor.reference stylesObject camelCase className))).or
        (Entries.lookUp? attributes "className") := by
  by_cases claimed : origin ∈ (claims built.nodes [] built.styledNodes).map Prod.fst
  · rcases List.mem_map.mp claimed with ⟨⟨_, node⟩, listed, rfl⟩
    rw [handsOut.received listed]
    cases classAt worn _ with
    | none => exact lookUp?_className_merged node.boundEntries attributes
    | some className => exact lookUp?_className_onAttributes ..
  · have bare : origin ∉ worn.map Worn.origin := by
      intro wears
      rcases List.mem_map.mp wears with ⟨item, member, rfl⟩
      exact claimed (List.mem_map.mpr ⟨_, handsOut.claimed_of_worn member, rfl⟩)
    rw [handsOut.passedOver claimed, classAt_eq_none_of_absent bare]
    rfl

/-- Every class that is worn is referred to by its wearer. -/
theorem HandsOut.refersTo_of_worn
    (handsOut : HandsOut flavor stylesObject camelCase built function chunks worn edit)
    (records : built.Records table function) {item : Worn} (member : item ∈ worn) :
    RefersTo (flavor.reference stylesObject camelCase) function.root (function.root.restyle edit)
      item.origin item.className := by
  rcases List.mem_map.mp (handsOut.mem_origins_of_worn records member) with ⟨⟨_, old⟩, listed, rfl⟩
  refine ⟨old, edit item.origin old, listed, ?_, ?_⟩
  · rw [Markup.compiled_restyle]
    exact List.mem_map.mpr ⟨_, listed, rfl⟩
  · rw [handsOut.className_edit, classAt_of_mem handsOut.origins member]
    rfl

/-- The elements whose class changed are the wearers. -/
theorem HandsOut.classChanged_iff
    (handsOut : HandsOut flavor stylesObject camelCase built function chunks worn edit)
    (records : built.Records table function) (origin : Origin) :
    ClassChanged function.root (function.root.restyle edit) origin ↔
      origin ∈ worn.map Worn.origin := by
  constructor
  · rw [classChanged_restyle_iff records.once]
    rintro ⟨attributes, _, changed⟩
    by_contra bare
    apply changed
    rw [handsOut.className_edit, classAt_eq_none_of_absent bare]
    rfl
  · intro wears
    rcases List.mem_map.mp wears with ⟨item, member, rfl⟩
    rcases handsOut.refersTo_of_worn records member with ⟨old, new, before, after, joined⟩
    refine ⟨old, new, before, after, ?_⟩
    rw [joined]
    exact (ne_joinedClass _ _).symm

end HandedOut

/-- Apart from camel case, different classes are referred to by different
expressions. -/
theorem Flavor.reference_injective (stylesObject : String) {flavor : Flavor} {camelCase : Bool}
    (dashed : flavor = .scopedClasses → camelCase = false) :
    Function.Injective (flavor.reference stylesObject camelCase) := by
  cases flavor with
  | injectedStyles => exact member_injective "props.classes"
  | inlineStyles => exact member_injective "props.classes"
  | scopedClasses =>
      rw [dashed rfl]
      intro first second same
      have characters := congrArg String.toList same
      simp only [Flavor.reference, ScopedClasses.classReference, Bool.false_eq_true, if_false,
        String.toList_append] at characters
      have inside := List.append_cancel_left (List.append_cancel_right characters)
      exact String.toList_inj.mp inside

/-- Restyling keeps the names of chunks and all chunks without a component. -/
theorem ChunkStore.chunk?_restyle_text {store : ChunkStore} {name : String} {chunk : Chunk}
    {content : String} (edit : Edit) (found : store.chunk? name = some chunk)
    (isText : chunk.content = .text content) : (store.restyle edit).chunk? name = some chunk := by
  unfold ChunkStore.chunk? ChunkStore.restyle at *
  rw [List.find?_map]
  have same : ((fun other : Chunk => decide (other.name = name)) ∘ fun other : Chunk =>
      { other with content := other.content.restyle edit }) = fun other => decide (other.name = name) :=
    rfl
  rw [same, found, Option.map_some, isText]
  rcases chunk with ⟨name, kind, own, before, after⟩
  cases isText
  rfl

/-- Over any names, a class pass that succeeds pairs the classes that it keeps with
the elements that refer to them: no class is kept twice or worn by two elements, no
element wears two, every class is referred to, and the class attribute of all other
elements is as it was.  Without classes the chunks keep their names, the export is
as it was, and nothing is imported. -/
theorem classes_correspond_to_wearers (stylesObject : String) (camelCase : Bool)
    (library : StyleLibrary) {flavor : Flavor} (withClasses : flavor ≠ .inlineStyles)
    {component : Component} {table : MappingTable} {built styled : Assembly}
    (succeeded : ((Pass.componentTree {}).run table (Assembly.start component)).outcome = .ok built)
    (ran : ((flavor.pass (.ofChoice stylesObject camelCase library)).run table built).outcome =
      .ok styled) :
    ∃ function edit worn,
      built.chunks.content? "react-component" = some (.component function) ∧
      styled.chunks.content? "react-component" =
        some (.component { function with root := function.root.restyle edit }) ∧
      function.root.origins.Nodup ∧
      flavor.KeepsClasses worn styled.chunks ∧
      (worn.map Worn.className).Nodup ∧ (worn.map Worn.origin).Nodup ∧
      (∀ item ∈ worn, RefersTo (flavor.reference stylesObject camelCase) function.root
        (function.root.restyle edit) item.origin item.className) ∧
      (∀ origin, ClassChanged function.root (function.root.restyle edit) origin ↔
        origin ∈ worn.map Worn.origin) ∧
      ((flavor = .scopedClasses → camelCase = false) →
        (worn.map fun item => flavor.reference stylesObject camelCase item.className).Nodup) ∧
      (worn = [] → styled.chunks.names = built.chunks.names ∧ styled.registry = built.registry ∧
        styled.chunks.chunk? "export" = built.chunks.chunk? "export") := by
  rcases records_of_assembleTree succeeded with ⟨_, function, records⟩
  rcases builtFrom_of_assembleTree succeeded with ⟨notes, parts, hooks, _, _, left⟩
  rcases Flavor.handsOut_and_leaves withClasses records ran with ⟨worn, edit, handsOut, leaves⟩
  refine ⟨function, edit, worn, records.content?_component, handsOut.component, records.once,
    handsOut.kept, handsOut.classes, handsOut.origins,
    fun item member => handsOut.refersTo_of_worn records member,
    handsOut.classChanged_iff records, fun dashed => ?_, fun empty => ?_⟩
  · have references := handsOut.classes.map (Flavor.reference_injective stylesObject dashed)
    rw [List.map_map] at references
    exact references
  · rcases leaves.idle empty with ⟨sameRegistry, sameChunks⟩
    have exported : built.chunks.chunk? "export" =
        some (exportChunk {} (Naming.componentName component.name)) := by
      rw [left.chunks]
      rfl
    rw [sameChunks, exported]
    refine ⟨?_, sameRegistry, ChunkStore.chunk?_restyle_text edit exported rfl⟩
    rw [ChunkStore.names, ChunkStore.names, ChunkStore.restyle, List.map_map]
    rfl

/-- A coloured element. -/
def swatch (name color : String) : Child :=
  .node (.plain "group" name (some [("color", .text color)]) none)

/-- Three elements: the names of two come to one class, and the third is named as
the class that one of them gets instead. -/
def swatchList : Component :=
  ⟨"List", .plain "group" "list" none
    (some [swatch "aB" "red", swatch "a-b" "blue", swatch "a-b-2" "green"]), none, none, none⟩

def swatchTable : MappingTable :=
  [(.text "group", ⟨"div", none, none, none, none⟩)]

/-- The three classes of the list differ, and each is worn by one element. -/
theorem swatchList_wears_three_classes :
    ∃ built styled function edit, ∃ worn : List Worn,
      ((Pass.componentTree {}).run swatchTable (Assembly.start swatchList)).outcome = .ok built ∧
      ((Flavor.injectedStyles.pass (.ofChoice "styles" false {})).run swatchTable built).outcome =
        .ok styled ∧
      built.chunks.content? "react-component" = some (.component function) ∧
      worn.map Worn.className = ["a-b", "a-b-2", "a-b-2-2"] ∧ (worn.map Worn.origin).Nodup ∧
      ∀ item ∈ worn, RefersTo InjectedStyles.classReference function.root
        (function.root.restyle edit) item.origin item.className := by
  obtain ⟨built, succeeded, same, nodes, defaults⟩ : ∃ built,
      ((Pass.componentTree {}).run swatchTable (Assembly.start swatchList)).outcome = .ok built ∧
      built.component = swatchList ∧
      built.nodes = [("aB", ⟨0, [.child 0]⟩), ("a-b", ⟨0, [.child 1]⟩), ("a-b-2", ⟨0, [.child 2]⟩),
        ("list", ⟨0, []⟩)] ∧ built.defaults = [] :=
    ⟨_, rfl, rfl, rfl, rfl⟩
  have classes : ((assignments InjectedStyles.classPass built).outcome.toOption.map fun assigned =>
      (classRules assigned).map ClassRule.name) = some ["a-b", "a-b-2", "a-b-2-2"] := by
    unfold assignments Assembly.styledNodes
    rw [same, nodes, defaults]
    decide +kernel
  rcases Option.map_eq_some_iff.mp classes with ⟨assigned, found, names⟩
  have assigns := eq_ok_of_toOption_eq_some found
  rcases records_of_assembleTree succeeded with ⟨_, _, records⟩
  have ran : ((Flavor.injectedStyles.pass (.ofChoice "styles" false {})).run swatchTable
      built).outcome = .ok ((InjectedStyles.output {} built.component).leaves built assigned) := by
    rw [run_injectedStyles records, InjectedStyles.style_outcome, assigns]
    rfl
  obtain ⟨function, edit, worn, component, _, _, keeps, _, origins, refers, _⟩ :=
    classes_correspond_to_wearers "styles" false {}
      (by decide : Flavor.injectedStyles ≠ .inlineStyles) succeeded ran
  refine ⟨built, _, function, edit, worn, succeeded, ran, component, ?_, origins, refers⟩
  -- the keys of the style object are the classes that are worn
  have object : IsStyleObject worn
      (((InjectedStyles.output {} built.component).styled assigned built.chunks).content?
        "jss-style-definition") := keeps
  have listed : (classRules assigned).isEmpty = false := by
    cases rules : classRules assigned with
    | nil =>
        rw [rules] at names
        cases names
    | cons rule rest => rfl
  rw [IsStyleObject, ClassOutput.content?_styles_styled (fun _ => rfl) (by decide) assigned
    (records.content?_eq_none (by decide) (by decide)), listed,
    if_neg Bool.false_ne_true] at object
  split at object
  · cases object
  · injection object with object
    injection object with object
    injection object with _ object
    injection object with object
    have keys := congrArg (List.map Prod.fst) object
    rw [List.map_map, List.map_map] at keys
    have texts : (worn.map Worn.className).map Key.text =
        ((classRules assigned).map ClassRule.name).map Key.text := by
      rw [List.map_map, List.map_map]
      exact keys.symm
    rw [names] at texts
    exact List.map_injective_iff.mpr (fun _ _ equal => Key.text.inj equal) texts

end ComponentCompiler

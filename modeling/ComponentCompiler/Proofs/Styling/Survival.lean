import ComponentCompiler.Proofs.Build.Declared
import ComponentCompiler.Proofs.Styling.Correspondence
import ComponentCompiler.Proofs.Styling.Template

namespace ComponentCompiler

open Script Styling

/-!
# What becomes of declared styles

A node can declare a class and an inline style of its own, and the style passes give
its element more of both.  A class that is added stands behind the declared one, be
that a text or an expression.  Entries that are added to the inline style are written
into the declared one where this is a map.  Any other inline style, such as one that
is bound to an input, gives way to them as soon as there are some.

Which entries and which class an element gets is decided by the nodes whose names
lead to it.  Where names are distinct this is the node of the element alone.
-/

/-- The nodes whose styles go to the elements of an origin, in the order of the walk. -/
def Assembly.stylists (built : Assembly) (origin : Origin) : List ContentNode :=
  built.styledNodes.filter fun node => Entries.lookUp? built.nodes node.name = some origin

/-- The entries that are written into an inline style: all entries of all nodes, or the
bound entries of the first one where the others go into a class. -/
def Flavor.writes (stylists : List ContentNode) : Flavor → Fields
  | .inlineStyles => stylists.flatMap ContentNode.inlineEntries
  | _ => (stylists.head?.map ContentNode.boundEntries).getD []

/-- The entries that an inline style shows.  What stands for a value that is no map is
left to the reader. -/
def styleEntries (reads : Value → List (Key × Value)) : Option Value → List (Key × Value)
  | none => []
  | some style => style.mapEntries?.getD (reads style)

/-- How an inline style comes out when entries are written: they are there, the last
one under each key, and what was declared is there besides them unless it is no map. -/
structure StyleAfter (written : Fields) (declared final : Option Value) : Prop where
  untouched : written = [] → final = declared
  received : ∀ reads, ∀ key ∈ Entries.keys (asEntries written),
    Entries.lookUp? (styleEntries reads final) key =
      Entries.lookUp? (asEntries written).reverse key
  kept_iff : (∀ reads, ∀ key ∉ Entries.keys (asEntries written),
      Entries.lookUp? (styleEntries reads final) key =
        Entries.lookUp? (styleEntries reads declared) key) ↔
    written = [] ∨ ∀ style, declared = some style → style.mapEntries?.isSome

/-- How a class that is added is written with the declared one. -/
inductive JoinsClass (added : String) : Option Value → String → Prop
  | text {content code : String} {literal : List Char} (nonempty : content ≠ "")
      (opens : code.toList = '\x60' :: literal)
      (reads : scanTemplate literal =
        (content.toList ++ [' '], .substitution (added.toList ++ ['\x7d', '\x60']))) :
      JoinsClass added (some (.text content)) code
  | code (expression : String) :
      JoinsClass added (some (.code expression))
        ("\x60$\x7b" ++ expression ++ "\x7d $\x7b" ++ added ++ "\x7d\x60")
  | alone {declared : Option Value}
      (noText : ∀ content, declared = some (.text content) → content = "")
      (noCode : ∀ expression, declared ≠ some (.code expression)) : JoinsClass added declared added

/-- How a class attribute comes out when a class is added, or none. -/
def ClassAfter (added : Option String) (declared final : Option Value) : Prop :=
  match added with
  | none => final = declared
  | some reference => ∃ code, final = some (.code code) ∧ JoinsClass reference declared code

/-! ## The inline style -/

/-- An inline style after entries were written. -/
def mergedStyle (declared : Option Value) (written : Fields) : Option Value :=
  if written = [] then declared
  else some (.map (Entries.update ((declared.bind Value.mapEntries?).getD []) (asEntries written)))

theorem lookUp?_style_onAttributes (receipt : Receipt) (attributes : Fields) :
    Entries.lookUp? (receipt.onAttributes attributes) "style" =
      mergedStyle (Entries.lookUp? attributes "style") receipt.merged := by
  rcases receipt with ⟨merged, reference⟩
  have apart : ∀ (before : Fields) (value : Value),
      Entries.lookUp? (Entries.put before "className" value) "style" =
        Entries.lookUp? before "style" :=
    fun before value => Entries.lookUp?_put_of_ne before value (by decide)
  unfold Receipt.onAttributes Receipt.onElement mergedStyle
  cases merged with
  | nil =>
      cases reference with
      | none => rfl
      | some expression => exact apart attributes _
  | cons entry rest =>
      rw [if_neg (List.cons_ne_nil entry rest)]
      cases reference with
      | none => exact Entries.lookUp?_put_self ..
      | some expression => exact (apart _ _).trans (Entries.lookUp?_put_self ..)

/-- Entries that are written in two steps are written in one. -/
theorem mergedStyle_mergedStyle (declared : Option Value) (first second : Fields) :
    mergedStyle (mergedStyle declared first) second = mergedStyle declared (first ++ second) := by
  unfold mergedStyle
  by_cases noFirst : first = []
  · rw [if_pos noFirst, noFirst, List.nil_append]
  · by_cases noSecond : second = []
    · rw [if_pos noSecond, noSecond, List.append_nil]
    · have someWritten : first ++ second ≠ [] :=
        fun none => noFirst (List.append_eq_nil_iff.mp none).1
      rw [if_neg noFirst, if_neg noSecond, if_neg someWritten, asEntries, asEntries, asEntries,
        List.map_append, Entries.update, Entries.update, Entries.update, List.foldl_append]
      rfl

theorem styleEntries_mergedStyle (reads : Value → List (Key × Value)) (declared : Option Value)
    {written : Fields} (some : written ≠ []) :
    styleEntries reads (mergedStyle declared written) =
      Entries.update ((declared.bind Value.mapEntries?).getD []) (asEntries written) := by
  rw [mergedStyle, if_neg some]
  rfl

/-- There is always a key that is not written. -/
theorem exists_unwritten (written : Fields) :
    ∃ name, Key.text name ∉ Entries.keys (asEntries written) := by
  -- a class that is free beside the written names
  refine ⟨freeClass (written.map fun field => (field.1, "")) "", fun member => ?_⟩
  refine freeClass_not_mem (written.map fun field => (field.1, "")) "" ?_
  simp only [Entries.keys, asEntries, List.map_map, List.mem_map, Function.comp_apply,
    Key.text.injEq] at member ⊢
  exact member

/-- Under a key that is not written a merged style shows what a declared map shows. -/
theorem lookUp?_mergedStyle_of_unwritten (reads : Value → List (Key × Value))
    (declared : Option Value) {written : Fields} (some : written ≠ []) {key : Key}
    (unwritten : key ∉ Entries.keys (asEntries written)) :
    Entries.lookUp? (styleEntries reads (mergedStyle declared written)) key =
      Entries.lookUp? ((declared.bind Value.mapEntries?).getD []) key := by
  have absent : key ∉ Entries.keys (asEntries written).reverse := by
    rw [Entries.keys, List.map_reverse, List.mem_reverse]
    exact unwritten
  rw [styleEntries_mergedStyle reads declared some, Entries.lookUp?_update,
    Entries.lookUp?_eq_none_of_not_mem absent, Option.none_or]

theorem lookUp?_mergedStyle_of_written (reads : Value → List (Key × Value))
    (declared : Option Value) {written : Fields} {key : Key}
    (isWritten : key ∈ Entries.keys (asEntries written)) :
    Entries.lookUp? (styleEntries reads (mergedStyle declared written)) key =
      Entries.lookUp? (asEntries written).reverse key := by
  have someWritten : written ≠ [] := by
    rintro rfl
    cases isWritten
  have found : (Entries.lookUp? (asEntries written).reverse key).isSome := by
    apply (Entries.has_eq_true_iff _ key).mpr
    rw [Entries.keys, List.map_reverse, List.mem_reverse]
    exact isWritten
  rcases Option.isSome_iff_exists.mp found with ⟨value, same⟩
  rw [styleEntries_mergedStyle reads declared someWritten, Entries.lookUp?_update, same,
    Option.some_or]

/-- Written entries cover the declared ones of their keys, and the others stay where
they are entries of a map. -/
theorem mergedStyle_styleAfter (written : Fields) (declared : Option Value) :
    StyleAfter written declared (mergedStyle declared written) := by
  refine ⟨fun none => if_pos none, fun reads key isWritten =>
    lookUp?_mergedStyle_of_written reads declared isWritten, ?_, ?_⟩
  · intro kept
    by_cases someWritten : written = []
    · exact Or.inl someWritten
    right
    rintro style rfl
    rcases exists_unwritten written with ⟨name, fresh⟩
    -- a style that is no map may show an entry under the key that is not written
    have lost := kept (fun _ => [(.text name, .null)]) (.text name) fresh
    rw [lookUp?_mergedStyle_of_unwritten _ _ someWritten fresh, Option.bind_some, styleEntries]
      at lost
    cases entries : style.mapEntries? with
    | some entries => rfl
    | none =>
        rw [entries] at lost
        simp [Entries.lookUp?] at lost
  · rintro (rfl | isMap) reads key unwritten
    · rfl
    by_cases someWritten : written = []
    · rw [mergedStyle, if_pos someWritten]
    rw [lookUp?_mergedStyle_of_unwritten _ _ someWritten unwritten]
    cases declared with
    | none => rfl
    | some style =>
        rcases Option.isSome_iff_exists.mp (isMap style rfl) with ⟨entries, same⟩
        rw [Option.bind_some, styleEntries, same, Option.getD_some, Option.getD_some]

/-! ## The class -/

theorem joinsClass_joinedClass (declared : Option Value) (added : String) :
    JoinsClass added declared (joinedClass declared added) := by
  unfold joinedClass
  split
  · rename_i content
    by_cases empty : content = ""
    · rw [empty]
      refine JoinsClass.alone ?_ ?_
      · intro other same
        exact (Value.text.inj (Option.some.inj same)).symm
      · intro expression same
        cases same
    · rcases exists_literal_of_joinedClass empty added with ⟨literal, opens, reads⟩
      exact JoinsClass.text empty opens reads
  · exact JoinsClass.code _
  · rename_i noText noCode
    exact JoinsClass.alone (fun content same => absurd same (noText content)) noCode

/-! ## What is handed out -/

/-- Of several receipts of one origin all entries are written, one after another. -/
theorem lookUp?_style_editOf (receipts : List (Origin × Receipt)) (origin : Origin)
    (attributes : Fields) :
    Entries.lookUp? (editOf receipts origin attributes) "style" =
      mergedStyle (Entries.lookUp? attributes "style")
        ((receipts.filter fun receipt => receipt.1 = origin).flatMap fun receipt =>
          receipt.2.merged) := by
  have general : ∀ edit : Edit, Entries.lookUp? (receipts.foldl
      (fun edit receipt => edit.andThen (Edit.single receipt.1 receipt.2.onAttributes))
      edit origin attributes) "style" =
      mergedStyle (Entries.lookUp? (edit origin attributes) "style")
        ((receipts.filter fun receipt => receipt.1 = origin).flatMap fun receipt =>
          receipt.2.merged) := by
    induction receipts with
    | nil => exact fun edit => rfl
    | cons receipt rest inductionHypothesis =>
        intro edit
        rw [List.foldl_cons, inductionHypothesis, List.filter_cons]
        dsimp only [Edit.andThen, Edit.single]
        by_cases here : origin = receipt.1
        · rw [if_pos here, if_pos (decide_eq_true here.symm), List.flatMap_cons,
            lookUp?_style_onAttributes, mergedStyle_mergedStyle]
        · rw [if_neg here, if_neg fun same => here (of_decide_eq_true same).symm]
  exact general Edit.none

/-- The claim for an element is made by the first node whose name leads to it. -/
theorem mem_claims_iff_head? {nodes : Entries String Origin} {styled : List Origin}
    {list : List ContentNode} {origin : Origin} (free : origin ∉ styled) (node : ContentNode) :
    (origin, node) ∈ claims nodes styled list ↔
      (list.filter fun other => Entries.lookUp? nodes other.name = some origin).head? =
        some node := by
  fun_induction claims nodes styled list with
  | case1 styled => simp
  | case2 styled other rest absent inductionHypothesis =>
      rw [inductionHypothesis free, List.filter_cons_of_neg (by simp [absent])]
  | case3 styled other rest taker found taken inductionHypothesis =>
      have different : taker ≠ origin := fun same => free (same ▸ taken)
      rw [inductionHypothesis free, List.filter_cons_of_neg (by simp [found, different])]
  | case4 styled other rest taker found untaken inductionHypothesis =>
      rw [List.mem_cons, Prod.mk.injEq]
      by_cases here : taker = origin
      · subst here
        -- the first claim is the only one
        have noOther : (taker, node) ∉ claims nodes (taker :: styled) rest :=
          fun again => (of_mem_claims again).2.2 List.mem_cons_self
        rw [List.filter_cons_of_pos (by simp [found])]
        simp [noOther, eq_comm]
      · have stillFree : origin ∉ taker :: styled := by
          rw [List.mem_cons, not_or]
          exact ⟨Ne.symm here, free⟩
        rw [inductionHypothesis stillFree, List.filter_cons_of_neg (by simp [found, here])]
        simp [Ne.symm here]

/-- The inline pass hands out all entries of the nodes that lead to an element. -/
theorem flatMap_inlineReceipts (nodes : Entries String Origin) (list : List ContentNode)
    (origin : Origin) :
    ((inlineReceipts (located nodes list)).filter fun receipt => receipt.1 = origin).flatMap
        (fun receipt => receipt.2.merged) =
      (list.filter fun node => Entries.lookUp? nodes node.name = some origin).flatMap
        ContentNode.inlineEntries := by
  induction list with
  | nil => rfl
  | cons node rest inductionHypothesis =>
      cases found : Entries.lookUp? nodes node.name with
      | none =>
          rw [located_cons_of_none found, inductionHypothesis,
            List.filter_cons_of_neg (by simp [found])]
      | some place =>
          rw [located_cons_of_some found, inlineReceipts, List.map_cons, ← inlineReceipts]
          by_cases here : place = origin
          · rw [List.filter_cons_of_pos (by simp [here]),
              List.filter_cons_of_pos (by simp [found, here]), List.flatMap_cons,
              List.flatMap_cons, inductionHypothesis]
            rfl
          · rw [List.filter_cons_of_neg (by simp [here]),
              List.filter_cons_of_neg (by simp [found, here]), inductionHypothesis]

/-- What a style pass does to the class and to the inline style of the elements, said of
all flavors alike. -/
structure Dresses (flavor : Flavor) (stylesObject : String) (camelCase : Bool) (built : Assembly)
    (worn : List Worn) (edit : Edit) : Prop where
  /-- A class is worn for the fixed entries of the first node that leads to the element. -/
  classed : ∀ origin, (classAt worn origin).isSome ↔
    flavor ≠ .inlineStyles ∧ ∃ first ∈ (built.stylists origin).head?, first.fixedEntries ≠ []
  className : ∀ origin attributes,
    Entries.lookUp? (edit origin attributes) "className" =
      ((classAt worn origin).map fun className =>
        Value.code (joinedClass (Entries.lookUp? attributes "className")
          (flavor.reference stylesObject camelCase className))).or
        (Entries.lookUp? attributes "className")
  style : ∀ origin attributes,
    Entries.lookUp? (edit origin attributes) "style" =
      mergedStyle (Entries.lookUp? attributes "style") (flavor.writes (built.stylists origin))

section Flavors

variable {flavor : Flavor} {stylesObject : String} {camelCase : Bool} {library : StyleLibrary}
  {table : MappingTable} {built styled : Assembly} {function : ComponentFunction}

theorem isSome_classAt_iff {worn : List Worn} {origin : Origin} :
    (classAt worn origin).isSome ↔ ∃ node className, (⟨origin, node, className⟩ : Worn) ∈ worn := by
  rw [classAt, Option.isSome_map, List.find?_isSome]
  constructor
  · rintro ⟨⟨own, node, className⟩, member, same⟩
    have here : own = origin := of_decide_eq_true same
    exact ⟨node, className, here ▸ member⟩
  · rintro ⟨node, className, member⟩
    exact ⟨_, member, decide_eq_true rfl⟩

theorem HandsOut.dresses {chunks : ChunkStore} {worn : List Worn} {edit : Edit}
    (withClasses : flavor ≠ .inlineStyles)
    (handsOut : HandsOut flavor stylesObject camelCase built function chunks worn edit) :
    Dresses flavor stylesObject camelCase built worn edit := by
  have claimed : ∀ origin node, (origin, node) ∈ claims built.nodes [] built.styledNodes ↔
      (built.stylists origin).head? = some node :=
    fun origin node => mem_claims_iff_head? List.not_mem_nil node
  have writes : ∀ stylists, flavor.writes stylists =
      (stylists.head?.map ContentNode.boundEntries).getD [] := by
    intro stylists
    cases flavor with
    | inlineStyles => exact absurd rfl withClasses
    | scopedClasses => rfl
    | injectedStyles => rfl
  refine ⟨?_, handsOut.className_edit, ?_⟩
  · intro origin
    rw [isSome_classAt_iff]
    constructor
    · rintro ⟨node, worn⟩
      rcases (handsOut.wearers origin node).mp worn with ⟨claims, fixed⟩
      exact ⟨withClasses, node, (claimed origin node).mp claims, fixed⟩
    · rintro ⟨_, first, leads, fixed⟩
      exact ⟨first, (handsOut.wearers origin first).mpr ⟨(claimed origin first).mpr leads, fixed⟩⟩
  · intro origin attributes
    rw [writes]
    cases leads : (built.stylists origin).head? with
    | some first =>
        rw [handsOut.received ((claimed origin first).mpr leads), lookUp?_style_onAttributes]
        rfl
    | none =>
        have unclaimed : origin ∉ (claims built.nodes [] built.styledNodes).map Prod.fst := by
          intro member
          rcases List.mem_map.mp member with ⟨⟨_, node⟩, listed, rfl⟩
          rw [(claimed _ node).mp listed] at leads
          cases leads
        rw [handsOut.passedOver unclaimed]
        rfl

theorem inlineStyles_dresses :
    Dresses .inlineStyles stylesObject camelCase built []
      (editOf (inlineReceipts (located built.nodes built.styledNodes))) := by
  refine ⟨?_, ?_, ?_⟩
  · intro origin
    refine iff_of_false (fun worn => Bool.false_ne_true worn) fun classes => classes.1 rfl
  · intro origin attributes
    exact lookUp?_className_inline _ origin attributes
  · intro origin attributes
    rw [lookUp?_style_editOf, flatMap_inlineReceipts]
    rfl

/-- Every style pass restyles the component and dresses its elements. -/
theorem Flavor.dresses (flavor : Flavor) (records : built.Records table function)
    (ran : ((flavor.pass (.ofChoice stylesObject camelCase library)).run table built).outcome =
      .ok styled) :
    ∃ worn edit, Dresses flavor stylesObject camelCase built worn edit ∧
      flavor.KeepsClasses worn styled.chunks ∧
      styled.chunks.content? "react-component" =
        some (.component { function with root := function.root.restyle edit }) := by
  by_cases inline : flavor = .inlineStyles
  · subst inline
    rcases @inlineStyles_leaves stylesObject library table built function styled records ran with
      ⟨_, component⟩
    exact ⟨[], _, inlineStyles_dresses, rfl, component⟩
  · rcases Flavor.handsOut inline records ran with ⟨worn, edit, handsOut⟩
    exact ⟨worn, edit, handsOut.dresses inline, handsOut.kept, handsOut.component⟩

/-- The elements of the built component have the attributes that their nodes declare. -/
theorem lookUp?_eq_declared? {component : Component} (records : built.Records table function)
    (succeeded : (assembleTree {} table (Assembly.start component)).outcome = .ok built)
    {origin : Origin} {node : ContentNode} {attributes : Fields}
    (compiles : table.Compiles component.content origin node)
    (member : (origin, attributes) ∈ function.root.compiled) {name : String}
    (noKey : name ≠ "key") :
    Entries.lookUp? attributes name = table.declared? node name := by
  rcases builtFrom_of_assembleTree succeeded with ⟨notes, parts, hooks, run, _, left⟩
  rw [records.function_eq left, Markup.compiled, compiled_gathered] at member
  rcases (component.stems_build table 0).success parts (by rw [run]) _ member with
    ⟨place, found, reached, placed, declared⟩
  rcases compiles with ⟨other, otherReached, _, otherPlaced⟩
  -- the place of an element tells the node that it is compiled from
  rw [Origin.descend_injective _ (placed.symm.trans otherPlaced)] at reached
  rw [← reached.unique otherReached]
  exact declared name noKey

/-- Where the names on the walk are distinct, the style of an element comes from its own
node. -/
theorem stylists_of_distinct (records : built.Records table function)
    (distinct : (built.walked.map ContentNode.name).Nodup) {origin : Origin} {node : ContentNode}
    (compiles : table.Compiles built.component.content origin node) :
    built.stylists origin = if node.style.getD [] = [] then [] else [node] := by
  have leads : ∀ other, other ∈ built.stylists origin ↔
      table.Compiles built.component.content origin other ∧ other.style.getD [] ≠ [] := by
    intro other
    rw [← mem_located_styledNodes_iff records distinct, mem_located_iff, Assembly.stylists,
      List.mem_filter, decide_eq_true_eq]
  split
  · rename_i unstyled
    refine List.eq_nil_iff_forall_not_mem.mpr fun other member => ?_
    rcases (leads other).mp member with ⟨otherCompiles, otherStyled⟩
    exact otherStyled (compiles.unique otherCompiles ▸ unstyled)
  · rename_i styles
    have once : (built.stylists origin).Nodup :=
      ((List.Nodup.of_map _ distinct).filter _).filter _
    apply List.perm_singleton.mp
    rw [List.perm_ext_iff_of_nodup once (List.nodup_singleton node)]
    intro other
    rw [leads, List.mem_singleton]
    constructor
    · rintro ⟨otherCompiles, _⟩
      exact otherCompiles.unique compiles
    · rintro rfl
      exact ⟨compiles, styles⟩

end Flavors

/-- Whatever the flavor and the style, an element keeps the class that its node declares,
and the class that it is given stands behind it.  Entries that are written into its inline
style leave the declared style as it is under all other keys, exactly when the declared
style is a map or there is none, or when nothing is written. -/
theorem declared_styles_survive_in_maps (stylesObject : String) (camelCase : Bool)
    (library : StyleLibrary) (flavor : Flavor) {component : Component} {table : MappingTable}
    {built styled : Assembly}
    (succeeded : ((Pass.componentTree {}).run table (Assembly.start component)).outcome = .ok built)
    (ran : ((flavor.pass (.ofChoice stylesObject camelCase library)).run table built).outcome =
      .ok styled) :
    ∃ function root worn,
      built.chunks.content? "react-component" = some (.component function) ∧
      styled.chunks.content? "react-component" =
        some (.component { function with root := root }) ∧
      flavor.KeepsClasses worn styled.chunks ∧ root.origins.Nodup ∧
      ∀ origin node, table.Compiles component.content origin node →
        ((built.walked.map ContentNode.name).Nodup →
          built.stylists origin = if node.style.getD [] = [] then [] else [node]) ∧
        ((classAt worn origin).isSome ↔ flavor ≠ .inlineStyles ∧
          ∃ first ∈ (built.stylists origin).head?, first.fixedEntries ≠ []) ∧
        ∃ attributes, (origin, attributes) ∈ root.compiled ∧
          ClassAfter ((classAt worn origin).map (flavor.reference stylesObject camelCase))
            (table.declared? node "className") (Entries.lookUp? attributes "className") ∧
          StyleAfter (flavor.writes (built.stylists origin))
            (table.declared? node "style") (Entries.lookUp? attributes "style") := by
  rcases records_of_assembleTree succeeded with ⟨same, function, records⟩
  rcases flavor.dresses records ran with ⟨worn, edit, dresses, kept, restyled⟩
  refine ⟨function, function.root.restyle edit, worn, records.content?_component, restyled, kept,
    ?_, ?_⟩
  · rw [Markup.origins, Markup.compiled_restyle, List.map_map]
    exact records.once
  intro origin node compiles
  have compilesBuilt : table.Compiles built.component.content origin node := same.symm ▸ compiles
  refine ⟨fun distinct => stylists_of_distinct records distinct compilesBuilt,
    dresses.classed origin, ?_⟩
  obtain ⟨attributes, member⟩ : ∃ attributes, (origin, attributes) ∈ function.root.compiled := by
    rcases List.mem_map.mp ((records.compiled origin).mpr ⟨node, compilesBuilt⟩) with
      ⟨element, listed, rfl⟩
    exact ⟨element.2, listed⟩
  refine ⟨edit origin attributes, ?_, ?_, ?_⟩
  · rw [Markup.compiled_restyle]
    exact List.mem_map.mpr ⟨_, member, rfl⟩
  · rw [← lookUp?_eq_declared? records succeeded compiles member (by decide : "className" ≠ "key"),
      dresses.className]
    cases classAt worn origin with
    | none => rfl
    | some className => exact ⟨_, rfl, joinsClass_joinedClass _ _⟩
  · rw [← lookUp?_eq_declared? records succeeded compiles member (by decide : "style" ≠ "key"),
      dresses.style]
    exact mergedStyle_styleAfter _ _

/-- A box with a class of its own and an inline style that is bound to an input, which
also has a fixed and a bound entry. -/
def boundBox : Component :=
  ⟨"Box", ⟨"group", "box", some [("color", .text "red"), ("width", .text "$props.width")],
    some [("className", .text "base"), ("style", .text "$props.boxStyle")], none, some [], none,
    none, none⟩, none, none, none⟩

/-- The box keeps its class, but its bound entry takes the place of its bound style. -/
theorem boundBox_keeps_class_and_loses_style :
    ∃ built styled function reference attributes,
      ((Pass.componentTree {}).run cardTable (Assembly.start boundBox)).outcome = .ok built ∧
      ((Flavor.scopedClasses.pass (.ofChoice "styles" false {})).run cardTable built).outcome =
        .ok styled ∧
      styled.chunks.content? "react-component" = some (.component function) ∧
      (⟨0, []⟩, attributes) ∈ function.root.compiled ∧
      ClassAfter (some reference) (some (.text "base")) (Entries.lookUp? attributes "className") ∧
      cardTable.declared? boundBox.content "style" = some (.code "props.boxStyle") ∧
      ¬ ∀ reads, ∀ key ∉ [Key.text "width"],
        Entries.lookUp? (styleEntries reads (Entries.lookUp? attributes "style")) key =
          Entries.lookUp? (styleEntries reads (some (.code "props.boxStyle"))) key := by
  obtain ⟨built, succeeded, same, taken⟩ : ∃ built,
      ((Pass.componentTree {}).run cardTable (Assembly.start boundBox)).outcome = .ok built ∧
        built.component = boundBox ∧ built.defaults = [] := ⟨_, rfl, rfl, rfl⟩
  have walked : built.walked = [boundBox.content] := by
    rw [Assembly.walked, same, taken]
    simp [ContentNode.walk_eq, ContentNode.inner, boundBox]
  obtain ⟨styled, ran⟩ : ∃ styled, ((Flavor.scopedClasses.pass (.ofChoice "styles" false {})).run
      cardTable built).outcome = .ok styled := by
    rcases records_of_assembleTree succeeded with ⟨_, function, records⟩
    refine (Flavor.pass_succeeds_iff records).mpr fun _ claim claimed selector => ?_
    have onWalk := (mem_styledNodes_iff.mp (of_mem_claims claimed).1).1
    rw [walked, List.mem_singleton] at onWalk
    rw [onWalk]
    exact ⟨_, rfl⟩
  have styleDeclared : cardTable.declared? boundBox.content "style" =
      some (.code "props.boxStyle") := by rfl
  have classDeclared : cardTable.declared? boundBox.content "className" =
      some (.text "base") := by rfl
  obtain ⟨function, root, worn, _, restyled, _, _, each⟩ :=
    declared_styles_survive_in_maps "styles" false {} .scopedClasses succeeded ran
  obtain ⟨own, classed, attributes, member, classKept, styleKept⟩ :=
    each ⟨0, []⟩ boundBox.content ⟨[], .here _, rfl, rfl⟩
  rw [own (by rw [walked]; exact List.nodup_singleton _)] at classed styleKept
  rw [classDeclared] at classKept
  rw [styleDeclared] at styleKept
  have wears := classed.mpr ⟨by decide, boundBox.content, rfl, by decide⟩
  rcases Option.isSome_iff_exists.mp wears with ⟨className, worn⟩
  rw [worn] at classKept
  refine ⟨built, styled, _, _, attributes, succeeded, ran, restyled, member, classKept,
    styleDeclared, fun kept => ?_⟩
  rcases styleKept.kept_iff.mp kept with none | isMap
  · cases none
  · cases isMap _ rfl

end ComponentCompiler

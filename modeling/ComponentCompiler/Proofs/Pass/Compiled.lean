import ComponentCompiler.Proofs.Build.Walked
import ComponentCompiler.Proofs.Build.Written
import ComponentCompiler.Proofs.Pass.ComponentTree

namespace ComponentCompiler

/-!
# Compiled elements and the names of their nodes

Every node that is reached and has no branches is compiled to one element, and
the tree of the component has no other compiled elements.  Each element is
entered under the name of its node.  An entry leads to an element of this name,
but when several elements share a name only one of them is found.
-/

/-- An element with this origin is compiled from this node, when the content is
built first. -/
def MappingTable.Compiles (table : MappingTable) (content : ContentNode) (origin : Origin)
    (node : ContentNode) : Prop :=
  ∃ place, table.Reaches content place node ∧ node.isElement = true ∧
    origin = Origin.descend ⟨0, []⟩ place

theorem MappingTable.Compiles.unique {table : MappingTable} {content first second : ContentNode}
    {origin : Origin} (fromFirst : table.Compiles content origin first)
    (fromSecond : table.Compiles content origin second) : first = second := by
  rcases fromFirst with ⟨place, reached, _, rfl⟩
  rcases fromSecond with ⟨other, otherReached, _, same⟩
  rw [Origin.descend_injective _ same] at reached
  exact reached.unique otherReached

/-- Where nothing is left out, the compiled elements are those of the visits. -/
theorem MappingTable.compiles_iff_mem_visits {table : MappingTable} {depth : Nat}
    {content node : ContentNode} {origin : Origin} (expanded : table.Expanded depth content) :
    table.Compiles content origin node ↔
      ∃ visit ∈ elementVisits (table.visits depth content),
        visit.2 = node ∧ origin = Origin.descend ⟨0, []⟩ visit.1 := by
  constructor
  · rintro ⟨place, reached, becomesElement, rfl⟩
    exact ⟨(place, node), List.mem_filter.mpr ⟨expanded.mem_visits reached, becomesElement⟩, rfl, rfl⟩
  · rintro ⟨visit, visited, rfl, rfl⟩
    rcases List.mem_filter.mp visited with ⟨inVisits, becomesElement⟩
    exact ⟨visit.1, reaches_of_mem_visits inVisits, becomesElement, rfl⟩

/-! ## Reading an account -/

section Account

variable {table : MappingTable} {depth : Nat} {content : ContentNode} {notes : List BuildNote}
  {parts : List Markup}

theorem compiledAll_origins_nodup
    (account : table.Accounts ⟨0, []⟩ [] (table.visits depth content) notes parts) :
    ((compiledAll parts).map Prod.fst).Nodup := by
  rw [account.compiled]
  have places : ((elementVisits (table.visits depth content)).map Prod.fst).Nodup :=
    (table.visits_paths_nodup depth content).sublist (List.filter_sublist.map Prod.fst)
  have origins := places.map (Origin.descend_injective ⟨0, []⟩)
  rw [List.map_map] at origins
  exact origins

/-- The tree has exactly the compiled elements. -/
theorem mem_compiledAll_origins_iff (expanded : table.Expanded depth content)
    (account : table.Accounts ⟨0, []⟩ [] (table.visits depth content) notes parts)
    (origin : Origin) :
    origin ∈ (compiledAll parts).map Prod.fst ↔ ∃ node, table.Compiles content origin node := by
  rw [account.compiled, List.mem_map]
  constructor
  · rintro ⟨visit, visited, rfl⟩
    exact ⟨visit.2, (MappingTable.compiles_iff_mem_visits expanded).mpr ⟨visit, visited, rfl, rfl⟩⟩
  · rintro ⟨node, compiles⟩
    obtain ⟨visit, visited, _, same⟩ := (MappingTable.compiles_iff_mem_visits expanded).mp compiles
    exact ⟨visit, visited, same.symm⟩

/-- The notes tell the name of each compiled element, and nothing else. -/
theorem mem_builtOf_iff (expanded : table.Expanded depth content)
    (account : table.Accounts ⟨0, []⟩ [] (table.visits depth content) notes parts)
    {name : String} {origin : Origin} :
    (name, origin) ∈ builtOf notes ↔
      ∃ node, table.Compiles content origin node ∧ node.name = name := by
  rw [account.built.mem_iff, List.mem_map]
  constructor
  · rintro ⟨visit, visited, same⟩
    rcases Prod.mk.inj same with ⟨rfl, rfl⟩
    exact ⟨visit.2, (MappingTable.compiles_iff_mem_visits expanded).mpr ⟨visit, visited, rfl, rfl⟩, rfl⟩
  · rintro ⟨node, compiles, rfl⟩
    rcases (MappingTable.compiles_iff_mem_visits expanded).mp compiles with
      ⟨visit, visited, rfl, rfl⟩
    exact ⟨visit, visited, rfl⟩

theorem mem_walked_of_compiles (expanded : table.Expanded depth content)
    (account : table.Accounts ⟨0, []⟩ [] (table.visits depth content) notes parts)
    {origin : Origin} {node : ContentNode} (compiles : table.Compiles content origin node) :
    node ∈ (content :: defaultsOf notes).flatMap ContentNode.walk := by
  rcases (MappingTable.compiles_iff_mem_visits expanded).mp compiles with ⟨visit, visited, rfl, _⟩
  have inVisits := (List.mem_filter.mp visited).1
  exact (account.walk_perm expanded).mem_iff.mpr
    (List.mem_append_left _ (List.mem_map_of_mem inVisits))

/-- The walk goes through reached nodes and what is below them, and nothing else. -/
theorem reached_of_mem_walked (expanded : table.Expanded depth content)
    (account : table.Accounts ⟨0, []⟩ [] (table.visits depth content) notes parts)
    {node : ContentNode} (member : node ∈ (content :: defaultsOf notes).flatMap ContentNode.walk) :
    ∃ place reached, table.Reaches content place reached ∧ node ∈ reached.walk := by
  rcases List.mem_append.mp ((account.walk_perm expanded).mem_iff.mp member) with visited | hidden
  · rcases List.mem_map.mp visited with ⟨visit, inVisits, rfl⟩
    exact ⟨visit.1, visit.2, MappingTable.reaches_of_mem_visits inVisits, visit.2.self_mem_walk⟩
  · rcases List.mem_map.mp hidden with ⟨found, listed, rfl⟩
    rcases List.mem_flatMap.mp listed with ⟨visit, inVisits, below⟩
    rcases mem_relocate_iff.mp below with ⟨rest, _, inside⟩
    exact ⟨visit.1, visit.2, MappingTable.reaches_of_mem_visits inVisits,
      ContentNode.mem_walk_of_hidden inside⟩

/-- When the names on the walk differ, each name belongs to one element. -/
theorem origin_eq_of_name_eq (expanded : table.Expanded depth content)
    (account : table.Accounts ⟨0, []⟩ [] (table.visits depth content) notes parts)
    (distinct : (((content :: defaultsOf notes).flatMap ContentNode.walk).map
      ContentNode.name).Nodup)
    {first second : Origin} {node other : ContentNode}
    (compiles : table.Compiles content first node)
    (otherCompiles : table.Compiles content second other) (sameName : node.name = other.name) :
    first = second := by
  rcases (MappingTable.compiles_iff_mem_visits expanded).mp compiles with ⟨visit, visited, rfl, rfl⟩
  rcases (MappingTable.compiles_iff_mem_visits expanded).mp otherCompiles with
    ⟨otherVisit, otherVisited, rfl, rfl⟩
  have walkNames := ((account.walk_perm expanded).map ContentNode.name).nodup_iff.mp distinct
  rw [List.map_append, List.map_map] at walkNames
  have visitNames := (List.nodup_append.mp walkNames).1
  have sameVisit := List.inj_on_of_nodup_map visitNames (List.mem_filter.mp visited).1
    (List.mem_filter.mp otherVisited).1 sameName
  rw [sameVisit]

end Account

namespace Assembly

/-- The nodes that the style walk goes through. -/
def walked (assembly : Assembly) : List ContentNode :=
  (assembly.component.content :: assembly.defaults).flatMap ContentNode.walk

/-- How an assembly records the compiled elements of its component. -/
structure Records (built : Assembly) (table : MappingTable) (function : ComponentFunction) :
    Prop where
  /-- The component has its chunk. -/
  chunk : built.chunks.chunk? "react-component" = some (componentChunk {} function)
  /-- Besides the component there is only its export. -/
  names : built.chunks.names = ["react-component", "export"]
  /-- The tree has one element for each compiled node. -/
  once : function.root.origins.Nodup
  /-- The tree has exactly the compiled elements. -/
  compiled : ∀ origin, origin ∈ function.root.origins ↔
    ∃ node, table.Compiles built.component.content origin node
  /-- A name leads to an element whose node has this name. -/
  found : ∀ {name origin}, Entries.lookUp? built.nodes name = some origin →
    ∃ node, table.Compiles built.component.content origin node ∧ node.name = name
  /-- The name of a compiled node leads to an element. -/
  entered : ∀ {origin node}, table.Compiles built.component.content origin node →
    (Entries.lookUp? built.nodes node.name).isSome
  /-- The style walk goes through all compiled nodes. -/
  reached : ∀ {origin node}, table.Compiles built.component.content origin node →
    node ∈ built.walked
  /-- The style walk goes through reached nodes and what is below them, and nothing
  else. -/
  below : ∀ {node}, node ∈ built.walked → ∃ place reached,
    table.Reaches built.component.content place reached ∧ node ∈ reached.walk
  /-- When the names on the walk differ, so do the names of compiled elements. -/
  separate : (built.walked.map ContentNode.name).Nodup →
    ∀ {first second : Origin} {node other : ContentNode},
      table.Compiles built.component.content first node →
      table.Compiles built.component.content second other → node.name = other.name →
      first = second

end Assembly

/-- The component pass records the compiled elements. -/
theorem records_of_assembleTree {component : Component} {table : MappingTable} {built : Assembly}
    (succeeded : (assembleTree {} table (Assembly.start component)).outcome = .ok built) :
    built.component = component ∧ ∃ function, built.Records table function := by
  rcases builtFrom_of_assembleTree succeeded with
    ⟨notes, parts, hooks, build, _, same, _, nodes, defaults, chunks⟩
  obtain ⟨expanded, account⟩ := table.accounted component.scope table.defaultDepth
    component.content ⟨0, []⟩ notes parts build
  have walk : built.walked =
      (component.content :: defaultsOf notes).flatMap ContentNode.walk := by
    rw [Assembly.walked, same, defaults]
  refine ⟨same, ⟨Naming.componentName component.name, .element (gathered parts), hooks⟩, ?_⟩
  have origins : (Markup.element (gathered parts)).origins = (compiledAll parts).map Prod.fst := by
    rw [Markup.origins_eq, outlineAll_gathered, compiledAll_origins_eq]
  constructor
  case chunk => rw [chunks]; rfl
  case names => rw [chunks]; rfl
  case once =>
    rw [origins]
    exact compiledAll_origins_nodup account
  case compiled =>
    intro origin
    rw [same, origins]
    exact mem_compiledAll_origins_iff expanded account origin
  case found =>
    intro name origin found
    rw [nodes] at found
    rw [same]
    rcases Entries.mem_or_lookUp?_of_update found with noted | absent
    · exact (mem_builtOf_iff expanded account).mp noted
    · cases absent
  case entered =>
    intro origin node compiles
    rw [same] at compiles
    rw [nodes]
    have noted := (mem_builtOf_iff expanded account).mpr ⟨node, compiles, rfl⟩
    exact Entries.isSome_lookUp?_update_of_mem (List.mem_map_of_mem noted)
  case reached =>
    intro origin node compiles
    rw [same] at compiles
    rw [walk]
    exact mem_walked_of_compiles expanded account compiles
  case below =>
    intro node member
    rw [walk] at member
    rw [same]
    exact reached_of_mem_walked expanded account member
  case separate =>
    intro distinct first second node other compiles otherCompiles sameName
    rw [same] at compiles otherCompiles
    rw [walk] at distinct
    exact origin_eq_of_name_eq expanded account distinct compiles otherCompiles sameName

/-! ## What is written down -/

section Written

variable {table : MappingTable} {built : Assembly} {function : ComponentFunction}

theorem MappingTable.Compiles.mem_written {content node : ContentNode} {origin : Origin}
    (compiles : table.Compiles content origin node) : node ∈ table.written content := by
  rcases compiles with ⟨place, reached, _⟩
  exact reached.mem_written (List.mem_append_left _ content.self_mem_walk)

theorem mem_written_of_mem_walked (records : built.Records table function) {node : ContentNode}
    (member : node ∈ built.walked) : node ∈ table.written built.component.content := by
  rcases records.below member with ⟨place, reached, reaches, below⟩
  have start : built.component.content ∈ table.written built.component.content :=
    List.mem_append_left _ (ContentNode.self_mem_walk _)
  exact MappingTable.mem_written_of_mem_walk (reaches.mem_written start) below

end Written

end ComponentCompiler

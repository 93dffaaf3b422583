import ComponentCompiler.Generator.Session
import ComponentCompiler.Proofs.Entries
import ComponentCompiler.Proofs.Generator.Stages
import ComponentCompiler.Proofs.Outcome
import ComponentCompiler.Proofs.Schema.ReadBack

namespace ComponentCompiler

open Schema

/-!
# Requests to one generator

The table of a generator is made of layers: the built-in tables, the table that
the generator was made with, and one for each mapping that was added.  A call
that compiles a component puts its own mapping over them.  An element type is
resolved by the last layer that has it.

A request works on the generator in place, so it has to be shown that nothing of
a failed one stays.  Each request keeps the layers, or adds one; what holds after
any row of requests follows by going through them.
-/

/-! ## Layers of tables -/

namespace MappingTable

/-- The entry of an element type in a table that is written out.  Of several
entries the last one counts. -/
def lastEntry? (table : MappingTable) (type : String) : Option ElementMapping :=
  Entries.lookUp? table.reverse (.text type)

/-- The entry of an element type in the last of some tables that has one. -/
def layered? (layers : List MappingTable) (type : String) : Option ElementMapping :=
  layers.reverse.findSome? fun table => table.lastEntry? type

theorem layered?_append (first second : List MappingTable) (type : String) :
    layered? (first ++ second) type = (layered? second type).or (layered? first type) := by
  simp only [layered?, List.reverse_append, List.findSome?_append]

theorem layered?_singleton (table : MappingTable) (type : String) :
    layered? [table] type = table.lastEntry? type := by
  cases found : table.lastEntry? type <;> simp [layered?, found]

/-- The layer of a table that may be left out. -/
theorem layered?_toList (table : Option MappingTable) (type : String) :
    layered? table.toList type = lastEntry? (table.getD []) type := by
  cases table with
  | none => rfl
  | some given => exact layered?_singleton given type

theorem entry?_update (table additions : MappingTable) (type : String) :
    entry? (Entries.update table additions) type =
      (additions.lastEntry? type).or (table.entry? type) :=
  Entries.lookUp?_update table additions (.text type)

theorem lastEntry?_eq_entry? {table : MappingTable} (distinct : (Entries.keys table).Nodup)
    (type : String) : table.lastEntry? type = table.entry? type :=
  Entries.lookUp?_reverse distinct (.text type)

theorem nodup_keys_merge (tables : List (Option MappingTable)) :
    (Entries.keys (merge tables)).Nodup := by
  have onward : ∀ merged : MappingTable, (Entries.keys merged).Nodup →
      (Entries.keys (tables.foldl
        (fun merged table => Entries.update merged (table.getD [])) merged)).Nodup := by
    induction tables with
    | nil => exact fun _ distinct => distinct
    | cons table rest inductionHypothesis =>
        intro merged distinct
        exact inductionHypothesis _ (Entries.nodup_keys_update distinct _)
  exact onward [] List.nodup_nil

/-- A merged table has the entries of the last tables that have them. -/
theorem entry?_merge (tables : List (Option MappingTable)) (type : String) :
    entry? (merge tables) type = layered? (tables.flatMap Option.toList) type := by
  have onward : ∀ merged : MappingTable,
      entry? (tables.foldl (fun merged table => Entries.update merged (table.getD [])) merged) type =
        (layered? (tables.flatMap Option.toList) type).or (merged.entry? type) := by
    induction tables with
    | nil => exact fun _ => rfl
    | cons table rest inductionHypothesis =>
        intro merged
        rw [List.foldl_cons, inductionHypothesis, entry?_update, List.flatMap_cons,
          layered?_append, layered?_toList, Option.or_assoc]
  exact (onward []).trans Option.or_none

end MappingTable

/-! ## Mappings that can be read -/

/-- A document that holds an entry for every element type it names. -/
def DescribesTable (document : Value) : Prop :=
  ∃ entries, document = .map entries ∧
    ∀ entry ∈ entries, ∃ mapping, checkElementMapping entry.2 = .valid mapping

theorem exists_toExcept_iff {α : Type} {checked : Checked α} :
    (∃ value, checked.toExcept = .ok value) ↔ ∃ value, checked = .valid value := by
  cases checked with
  | valid value => exact ⟨fun _ => ⟨value, rfl⟩, fun _ => ⟨value, rfl⟩⟩
  | invalid issues => exact ⟨nofun, nofun⟩

/-- One entry with issues keeps the whole table from being read. -/
theorem exists_checkTable_iff (entries : List (Key × Value)) :
    (∃ table, checkTable entries = .ok table) ↔
      ∀ entry ∈ entries, ∃ mapping, checkElementMapping entry.2 = .valid mapping := by
  induction entries with
  | nil => exact ⟨fun _ _ member => (List.not_mem_nil member).elim, fun _ => ⟨[], rfl⟩⟩
  | cons entry rest inductionHypothesis =>
      rcases entry with ⟨type, document⟩
      rw [List.forall_mem_cons, ← inductionHypothesis, ← exists_toExcept_iff, checkTable]
      constructor
      · rintro ⟨table, read⟩
        rcases bind_eq_ok_iff.mp read with ⟨mapping, valid, onward⟩
        rcases bind_eq_ok_iff.mp onward with ⟨others, readRest, _⟩
        exact ⟨⟨mapping, valid⟩, others, readRest⟩
      · rintro ⟨⟨mapping, valid⟩, others, readRest⟩
        rw [valid, readRest]
        exact ⟨_, rfl⟩

theorem exists_ofValue_iff (document : Value) :
    (∃ table, MappingTable.ofValue document = .ok table) ↔ DescribesTable document := by
  constructor
  · rintro ⟨table, read⟩
    cases document with
    | map entries =>
        have checked := ok_of_mapError_eq_ok read
        exact ⟨entries, rfl, (exists_checkTable_iff entries).mp ⟨table, checked⟩⟩
    | _ => cases read
  · rintro ⟨entries, rfl, valid⟩
    rcases (exists_checkTable_iff entries).mpr valid with ⟨table, checked⟩
    exact ⟨table, by rw [MappingTable.ofValue, checked]; rfl⟩

/-! ## One request -/

/-- The table that a request adds. -/
def Request.added? : Request → Option MappingTable
  | .addMapping document => (MappingTable.ofValue document).toOption
  | .compile _ _ => none

section Perform

variable (generator : Generator)

theorem perform_addMapping_of_read {document : Value} {table : MappingTable}
    (read : MappingTable.ofValue document = .ok table) :
    (Request.addMapping document).perform.run generator =
      (.ok .extended, generator.addTable table) := by
  rw [Request.perform, read]
  rfl

theorem perform_addMapping_of_failed {document : Value} {failure : Failure}
    (failed : MappingTable.ofValue document = .error failure) :
    (Request.addMapping document).perform.run generator = (.error failure, generator) := by
  rw [Request.perform, failed]
  rfl

/-- A step that only looks at the generator leaves it. -/
theorem run_answer (answer : Generator → Except Failure CompiledComponent) :
    ExceptT.run (do
      let current ← get
      let compiled ← MonadExcept.ofExcept (answer current)
      return Reply.compiled compiled : Session Reply) generator =
      ((answer generator).map Reply.compiled, generator) := by
  change (Reply.compiled <$> (MonadExcept.ofExcept (answer generator) : Session _)).run generator = _
  cases answer generator <;> rfl

theorem perform_compile (document overrides : Value) :
    (Request.compile document overrides).perform.run generator =
      ((generator.generate document overrides).outcome.map Reply.compiled, generator) :=
  run_answer generator fun current => (current.generate document overrides).outcome

end Perform

/-! ## Any row of requests -/

/-- A generator has the passes that it started with, and its table is made of
layers. -/
structure Generator.Layered (passes : List Pass) (layers : List MappingTable)
    (generator : Generator) : Prop where
  passes : generator.passes = passes
  distinct : (Entries.keys generator.table).Nodup
  entry : ∀ type, generator.table.entry? type = MappingTable.layered? layers type

section Layers

variable {passes : List Pass} {layers : List MappingTable} {generator : Generator}

theorem layered_ofFlavor (flavor : Flavor) (own : Option MappingTable) (settings : StyleSettings) :
    (Generator.ofFlavor flavor own settings).Layered
      (Generator.ofFlavor flavor own settings).passes
      (MappingTable.markup :: MappingTable.react :: own.toList) where
  passes := rfl
  distinct := MappingTable.nodup_keys_merge _
  entry type := by
    have merged := MappingTable.entry?_merge
      [some MappingTable.markup, some MappingTable.react, own] type
    rw [List.flatMap_cons, List.flatMap_cons, List.flatMap_singleton] at merged
    exact merged

/-- What is put over the table of a generator is its last layer. -/
theorem Generator.Layered.entry?_merge (layered : generator.Layered passes layers)
    (overrides : Option MappingTable) (type : String) :
    MappingTable.entry? (MappingTable.merge [some generator.table, overrides]) type =
      MappingTable.layered? (layers ++ overrides.toList) type := by
  have below : MappingTable.layered? [generator.table] type = MappingTable.layered? layers type := by
    rw [MappingTable.layered?_singleton, MappingTable.lastEntry?_eq_entry? layered.distinct,
      layered.entry]
  calc MappingTable.entry? (MappingTable.merge [some generator.table, overrides]) type
      = MappingTable.layered? ([generator.table] ++ overrides.toList) type := by
        rw [MappingTable.entry?_merge, List.flatMap_cons, List.flatMap_singleton]
        rfl
    _ = MappingTable.layered? (layers ++ overrides.toList) type := by
        rw [MappingTable.layered?_append, below, ← MappingTable.layered?_append]

theorem Generator.Layered.addTable (layered : generator.Layered passes layers)
    (table : MappingTable) : (generator.addTable table).Layered passes (layers ++ [table]) where
  passes := layered.passes
  distinct := MappingTable.nodup_keys_merge _
  entry := layered.entry?_merge (some table)

/-- A request adds a layer or leaves the generator. -/
theorem Generator.Layered.perform (layered : generator.Layered passes layers) (request : Request) :
    (request.perform.run generator).2.Layered passes (layers ++ request.added?.toList) := by
  cases request with
  | addMapping document =>
      cases read : MappingTable.ofValue document with
      | ok table =>
          rw [perform_addMapping_of_read generator read, Request.added?, read]
          exact layered.addTable table
      | error failure =>
          rw [perform_addMapping_of_failed generator read, Request.added?, read]
          exact (List.append_nil layers).symm ▸ layered
  | compile document overrides =>
      rw [perform_compile]
      exact (List.append_nil layers).symm ▸ layered

theorem Generator.Layered.serve (layered : generator.Layered passes layers)
    (requests : List Request) :
    ((serve requests).run generator).2.Layered passes
      (layers ++ requests.filterMap Request.added?) := by
  induction requests generalizing generator layers with
  | nil => exact (List.append_nil layers).symm ▸ layered
  | cons request later inductionHypothesis =>
      have onward := inductionHypothesis (layered.perform request)
      rw [List.append_assoc] at onward
      have added : (request :: later).filterMap Request.added? =
          request.added?.toList ++ later.filterMap Request.added? := by
        cases given : request.added? <;> simp [given]
      rw [added]
      exact onward

end Layers

/-- The reply to a request is that of the generator which the requests before it
have left. -/
theorem reply_serve (past later : List Request) (request : Request) (generator : Generator) :
    ((serve (past ++ request :: later)).run generator).1[past.length]? =
      some (request.perform.run ((serve past).run generator).2).1 := by
  induction past generalizing generator with
  | nil => rfl
  | cons first rest inductionHypothesis =>
      exact inductionHypothesis (first.perform.run generator).2

theorem generator_serve (past : List Request) (request : Request) (generator : Generator) :
    ((serve (past ++ [request])).run generator).2 =
      (request.perform.run ((serve past).run generator).2).2 := by
  induction past generalizing generator with
  | nil => rfl
  | cons first rest inductionHypothesis =>
      exact inductionHypothesis (first.perform.run generator).2

theorem Generator.outcome_compile (generator : Generator) (given : Option MappingTable)
    (component : Component) :
    (generator.compile given component).outcome = (do
      let assembly ← (runPasses (generator.tableFor given) generator.passes
        (Assembly.start component)).outcome
      let files ← (assemble assembly.chunks (Naming.dashCase component.name)).outcome
      return ⟨files, assembly.registry.packages⟩) := by
  rw [Generator.compile, Traced.outcome_bind]
  refine bind_congr fun assembly => ?_
  rw [Traced.outcome_bind]
  rfl

/-- In any row of requests to a generator of a flavor, a mapping is added exactly
when all its entries can be read, and a request that adds none leaves the
generator as it was.  A component is compiled with a table that has, for each
element type, the entry of the last layer: the built-in tables, the table that
the generator was made with, the mappings added so far, the mapping of the call. -/
theorem requests_resolve_by_last_layer (flavor : Flavor) (own : Option MappingTable)
    (settings : StyleSettings) (past later : List Request) (request : Request) :
    let start := Generator.ofFlavor flavor own settings
    let before := ((serve past).run start).2
    let after := ((serve (past ++ [request])).run start).2
    ∃ reply, ((serve (past ++ request :: later)).run start).1[past.length]? = some reply ∧
      (∀ document, request = .addMapping document →
        ((∃ answer, reply = .ok answer) ↔ DescribesTable document) ∧
        (∀ failure, reply = .error failure → after = before)) ∧
      (∀ document overrides, request = .compile document overrides →
        after = before ∧
        ∀ component given, Generator.readComponent document = .ok component →
          MappingTable.ofOptional overrides = .ok given →
          ∃ table,
            (∀ type, table.entry? type = MappingTable.layered?
              ([.markup, .react] ++ own.toList ++ past.filterMap Request.added? ++ given.toList)
              type) ∧
            reply = Except.map Reply.compiled (do
              let assembly ← (runPasses table start.passes (Assembly.start component)).outcome
              let files ← (assemble assembly.chunks (Naming.dashCase component.name)).outcome
              return ⟨files, assembly.registry.packages⟩)) := by
  intro start before after
  have layered : before.Layered start.passes _ :=
    (layered_ofFlavor flavor own settings).serve past
  have left : after = (request.perform.run before).2 := generator_serve past request start
  refine ⟨_, reply_serve past later request start, ?_, ?_⟩
  · rintro document rfl
    cases read : MappingTable.ofValue document with
    | ok table =>
        rw [perform_addMapping_of_read before read]
        have described := (exists_ofValue_iff document).mp ⟨table, read⟩
        exact ⟨⟨fun _ => described, fun _ => ⟨_, rfl⟩⟩, nofun⟩
    | error failure =>
        rw [left, perform_addMapping_of_failed before read]
        refine ⟨⟨nofun, fun described => ?_⟩, fun _ _ => rfl⟩
        rcases (exists_ofValue_iff document).mpr described with ⟨table, found⟩
        cases found.symm.trans read
  · rintro document overrides rfl
    rw [left, perform_compile]
    refine ⟨rfl, fun component given described overridden => ?_⟩
    refine ⟨before.tableFor given, layered.entry?_merge given, ?_⟩
    have compiled := (before.outcome_generate described overridden).trans
      (before.outcome_compile given component)
    rw [layered.passes] at compiled
    rw [compiled]

/-- A table with one plain entry. -/
def plainTable (type tag : String) : MappingTable :=
  [(.text type, ⟨tag, none, none, none, none⟩)]

/-- A card that is only a badge. -/
def badgeCard : Component :=
  ⟨"Card", ⟨"badge", "top", none, none, none, none, none, none, none⟩, none, none, none⟩

/-- The requests before the card: a badge, and another badge together with an
entry that cannot be read. -/
def badgeRequests : List Request :=
  [.addMapping (.map [(.text "badge", formElementMapping ⟨"b", none, none, none, none⟩)]),
    .addMapping (.map [(.text "badge", formElementMapping ⟨"i", none, none, none, none⟩),
      (.text "star", .int 5)])]

theorem added_badgeRequests : badgeRequests.filterMap Request.added? = [plainTable "badge" "b"] :=
  rfl

theorem badge_keeps_its_mapping :
    ∃ table : MappingTable, table.entry? "badge" = some ⟨"b", none, none, none, none⟩ ∧
      ((serve (badgeRequests ++ [.compile (formComponent badgeCard) .null])).run
        (Generator.ofFlavor .inlineStyles none {})).1[2]? =
        some (Except.map Reply.compiled (do
          let assembly ← (runPasses table (Generator.ofFlavor .inlineStyles none {}).passes
            (Assembly.start badgeCard)).outcome
          let files ← (assemble assembly.chunks (Naming.dashCase badgeCard.name)).outcome
          return ⟨files, assembly.registry.packages⟩)) := by
  have read : Generator.readComponent (formComponent badgeCard) = .ok badgeCard := by
    rw [Generator.readComponent, checkComponent_reads badgeCard]
    rfl
  rcases requests_resolve_by_last_layer .inlineStyles none {} badgeRequests []
    (.compile (formComponent badgeCard) .null) with ⟨reply, answered, _, compiles⟩
  rcases (compiles _ _ rfl).2 badgeCard none read rfl with ⟨table, entries, same⟩
  refine ⟨table, ?_, answered.trans (congrArg some same)⟩
  rw [entries, added_badgeRequests]
  rfl

end ComponentCompiler

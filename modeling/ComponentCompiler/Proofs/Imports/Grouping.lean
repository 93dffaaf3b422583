import ComponentCompiler.Proofs.Imports.Lines

namespace ComponentCompiler
namespace Imports

open Script

/-!
# How import lines are grouped

The lines can be found in one pass over the entries.  The pass keeps the paths that it
has met, the default names of each path and the named imports of each path; the lines
are made from the three tables when it is done.  An entry of one path can come between
those of another, so a table is filled in an order that is not the order of the lines.

What the tables hold after some entries is said by these entries alone: the paths in
the order of their first appearance, and for each path its names in the order of the
entries.  One more entry keeps this true, and so it is true at the end.
-/

/-! ## The groups of entries -/

/-- The imports of some entries by module path, in the order in which the paths first
appear.  Under each path the names stand in the order of the entries. -/
structure Grouped (entries : List (String × Dependency)) (groups : List PathGroup) : Prop where
  present : ∀ path, path ∈ groups.map PathGroup.path ↔ path ∈ pathsOf entries
  order : groups.Pairwise fun earlier later =>
    (pathsOf entries).idxOf earlier.path < (pathsOf entries).idxOf later.path
  defaults : ∀ group ∈ groups, group.defaults =
    (entries.filter fun entry =>
      modulePath entry.1 entry.2 = group.path && !entry.2.isNamed).map Prod.fst
  named : ∀ group ∈ groups, group.named =
    (entries.filter fun entry =>
      modulePath entry.1 entry.2 = group.path && entry.2.isNamed).map fun entry =>
        (entry.1, (given? (entry.2.details.bind (·.exported))).getD entry.1)

/-- The distinct texts stand in the order of their first places. -/
theorem distinct_pairwise_idxOf (texts : List String) :
    (distinct texts).Pairwise fun earlier later => texts.idxOf earlier < texts.idxOf later := by
  induction texts with
  | nil => exact .nil
  | cons first rest inductionHypothesis =>
      have onward : ∀ text, first ≠ text → (first :: rest).idxOf text = rest.idxOf text + 1 :=
        fun text different => List.idxOf_cons_ne rest different
      refine List.pairwise_cons.mpr ⟨fun text member => ?_, ?_⟩
      · have different : text ≠ first := of_decide_eq_true (List.mem_filter.mp member).2
        rw [List.idxOf_cons_self, onward text different.symm]
        exact Nat.succ_pos _
      · refine (inductionHypothesis.filter _).imp_of_mem ?_
        intro earlier later inEarlier inLater before
        have notEarlier : earlier ≠ first := of_decide_eq_true (List.mem_filter.mp inEarlier).2
        have notLater : later ≠ first := of_decide_eq_true (List.mem_filter.mp inLater).2
        rw [onward earlier notEarlier.symm, onward later notLater.symm]
        exact Nat.succ_lt_succ before

theorem path_groupsOf (entries : List (String × Dependency)) :
    (groupsOf entries).map PathGroup.path = distinct (pathsOf entries) := by
  rw [groupsOf, List.map_map]
  exact List.map_id _

theorem grouped_groupsOf (entries : List (String × Dependency)) :
    Grouped entries (groupsOf entries) where
  present path := by
    rw [path_groupsOf]
    exact mem_distinct_iff
  order := by
    have ordered := distinct_pairwise_idxOf (pathsOf entries)
    rw [← path_groupsOf, List.pairwise_map] at ordered
    exact ordered
  defaults group member := by
    rcases List.mem_map.mp member with ⟨path, _, rfl⟩
    rw [groupOf, defaultNames, entriesOf, List.filter_filter]
    refine congrArg (List.map Prod.fst) (List.filter_congr fun entry _ => ?_)
    exact Bool.and_comm _ _
  named group member := by
    rcases List.mem_map.mp member with ⟨path, _, rfl⟩
    rw [groupOf, namedImports, entriesOf, List.filter_filter, List.map_map]
    refine congrArg (List.map _) (List.filter_congr fun entry _ => ?_)
    exact Bool.and_comm _ _

/-! ## One pass over the entries -/

/-- What a pass over entries has gathered: the paths that it met, and under a path the
default names and the named imports. -/
structure Gathered where
  order : List String
  defaults : Entries String (List String)
  named : Entries String (List NamedImport)

/-- What is gathered under a path. -/
def under {α : Type} (table : Entries String (List α)) (path : String) : List α :=
  (Entries.lookUp? table path).getD []

/-- The table with one more item under a path. -/
def appendUnder {α : Type} (table : Entries String (List α)) (path : String) (item : α) :
    Entries String (List α) :=
  Entries.put table path (under table path ++ [item])

namespace Gathered

/-- Before the first entry nothing is gathered. -/
def nothing : Gathered := ⟨[], [], []⟩

/-- Take up one entry. -/
def add (gathered : Gathered) (entry : String × Dependency) : Gathered :=
  let path := modulePath entry.1 entry.2
  { order := if path ∈ gathered.order then gathered.order else gathered.order ++ [path]
    defaults :=
      if entry.2.isNamed then gathered.defaults else appendUnder gathered.defaults path entry.1
    named :=
      if entry.2.isNamed then
        appendUnder gathered.named path ⟨entry.1, entry.2.details.bind (·.exported)⟩
      else gathered.named }

/-- The lines of what is gathered. -/
def lines (gathered : Gathered) : List String :=
  gathered.order.flatMap fun path =>
    importStatement path (under gathered.defaults path).head? (under gathered.named path) ::
      (under gathered.defaults path).tail.map fun name => importStatement path (some name) []

/-- The tables hold what the entries say. -/
structure Holds (gathered : Gathered) (entries : List (String × Dependency)) : Prop where
  order : gathered.order = distinct (pathsOf entries)
  defaults : ∀ path, under gathered.defaults path = defaultNames (entriesOf path entries)
  named : ∀ path, under gathered.named path = namedImports (entriesOf path entries)

end Gathered

theorem under_appendUnder {α : Type} (table : Entries String (List α)) (path other : String)
    (item : α) :
    under (appendUnder table path item) other =
      under table other ++ if path = other then [item] else [] := by
  unfold under appendUnder
  by_cases same : path = other
  · subst same
    rw [Entries.lookUp?_put_self, if_pos rfl]
    rfl
  · rw [Entries.lookUp?_put_of_ne table _ same, if_neg same, List.append_nil]

theorem entriesOf_append_singleton (path : String) (entries : List (String × Dependency))
    (entry : String × Dependency) :
    entriesOf path (entries ++ [entry]) =
      entriesOf path entries ++ if modulePath entry.1 entry.2 = path then [entry] else [] := by
  rw [entriesOf, entriesOf, List.filter_append, List.filter_singleton]
  by_cases same : modulePath entry.1 entry.2 = path
  · rw [decide_eq_true same, if_pos same]
    rfl
  · rw [decide_eq_false same, if_neg same]
    rfl

/-- A text at the end of others is one more distinct text when it is new. -/
theorem distinct_append_singleton (texts : List String) (text : String) :
    distinct (texts ++ [text]) =
      if text ∈ distinct texts then distinct texts else distinct texts ++ [text] := by
  induction texts with
  | nil => rfl
  | cons first rest inductionHypothesis =>
      rw [List.cons_append, distinct, inductionHypothesis, distinct]
      by_cases same : text = first
      · subst same
        rw [if_pos List.mem_cons_self]
        split
        · rfl
        · rw [List.filter_append, List.filter_singleton]
          simp only [ne_eq, not_true_eq_false, decide_false, List.append_nil, cond_false]
      · have kept : text ∈ first :: (distinct rest).filter (· ≠ first) ↔ text ∈ distinct rest := by
          rw [List.mem_cons, List.mem_filter]
          simp only [same, false_or, ne_eq, not_false_eq_true, decide_true, and_true]
        by_cases known : text ∈ distinct rest
        · rw [if_pos known, if_pos (kept.mpr known)]
        · rw [if_neg known, if_neg fun member => known (kept.mp member), List.filter_append,
            List.filter_singleton]
          simp only [ne_eq, same, not_false_eq_true, decide_true, cond_true, List.cons_append]

/-- One more entry keeps the tables true. -/
theorem Gathered.Holds.add {gathered : Gathered} {entries : List (String × Dependency)}
    (holds : gathered.Holds entries) (entry : String × Dependency) :
    (gathered.add entry).Holds (entries ++ [entry]) where
  order := by
    have paths : pathsOf (entries ++ [entry]) = pathsOf entries ++ [modulePath entry.1 entry.2] :=
      List.map_append
    rw [paths, distinct_append_singleton, ← holds.order]
    rfl
  defaults path := by
    rw [entriesOf_append_singleton, defaultNames, List.filter_append, List.map_append]
    have earlier := holds.defaults path
    unfold defaultNames at earlier
    rw [← earlier, Gathered.add]
    cases kind : entry.2.isNamed with
    | true =>
        -- a named import leaves the default names as they are
        have none : ((if modulePath entry.1 entry.2 = path then [entry] else []).filter
            fun other => !other.2.isNamed) = [] := by
          split
          · simp only [List.filter_singleton, kind, Bool.not_true, cond_false]
          · rfl
        rw [none, List.map_nil, List.append_nil]
        rfl
    | false =>
        refine (under_appendUnder gathered.defaults _ path entry.1).trans (congrArg _ ?_)
        split
        · simp only [List.filter_singleton, kind, Bool.not_false, cond_true, List.map_cons,
            List.map_nil]
        · rfl
  named path := by
    rw [entriesOf_append_singleton, namedImports, List.filter_append, List.map_append]
    have earlier := holds.named path
    unfold namedImports at earlier
    rw [← earlier, Gathered.add]
    cases kind : entry.2.isNamed with
    | false =>
        have none : ((if modulePath entry.1 entry.2 = path then [entry] else []).filter
            fun other => other.2.isNamed) = [] := by
          split
          · simp only [List.filter_singleton, kind, cond_false]
          · rfl
        rw [none, List.map_nil, List.append_nil]
        rfl
    | true =>
        refine (under_appendUnder gathered.named _ path _).trans (congrArg _ ?_)
        split
        · simp only [List.filter_singleton, kind, cond_true, List.map_cons, List.map_nil]
        · rfl

theorem Gathered.Holds.foldl {gathered : Gathered} {earlier : List (String × Dependency)}
    (holds : gathered.Holds earlier) (entries : List (String × Dependency)) :
    (entries.foldl Gathered.add gathered).Holds (earlier ++ entries) := by
  induction entries generalizing gathered earlier with
  | nil =>
      rw [List.append_nil]
      exact holds
  | cons entry rest inductionHypothesis =>
      have onward := inductionHypothesis (holds.add entry)
      rw [List.append_assoc, List.singleton_append] at onward
      exact onward

/-- The lines of entries are those of what one pass gathers. -/
theorem lines_eq_gathered (entries : List (String × Dependency)) :
    lines entries = (entries.foldl Gathered.add .nothing).lines := by
  have nothing : Gathered.nothing.Holds [] := ⟨rfl, fun _ => rfl, fun _ => rfl⟩
  have holds := nothing.foldl entries
  rw [List.nil_append] at holds
  unfold lines Gathered.lines linesOf
  simp only [holds.order, holds.defaults, holds.named]
  rfl

/-! ## The lines of the groups -/

/-- Only the first line of a module path has named imports. -/
theorem PathGroup.named_lines_le_one (group : PathGroup) (path : String) :
    (group.lines.filter fun line => line.any fun specifier =>
      specifier.path = path && specifier.exported.isSome).length ≤ 1 := by
  have later : (group.defaults.tail.map fun name => defaultBindings group.path [name]).filter
      (fun line => line.any fun specifier =>
        specifier.path = path && specifier.exported.isSome) = [] := by
    refine List.filter_eq_nil_iff.mpr fun line member => ?_
    rcases List.mem_map.mp member with ⟨name, _, rfl⟩
    simp only [defaultBindings, List.map_cons, List.map_nil, List.any_cons, Option.isSome_none,
      Bool.and_false, List.any_nil, Bool.or_false, Bool.false_eq_true, not_false_eq_true]
  rw [PathGroup.lines, List.filter_cons, later]
  split
  · exact Nat.le_refl 1
  · exact Nat.zero_le 1

theorem path_of_mem_lines {group : PathGroup} {line : List Binding} (listed : line ∈ group.lines)
    {specifier : Binding} (member : specifier ∈ line) : specifier.path = group.path := by
  have bound := group.flatten_lines_perm.mem_iff.mp (List.mem_flatten.mpr ⟨line, listed, member⟩)
  rcases List.mem_append.mp bound with byDefault | byName
  · rcases List.mem_map.mp byDefault with ⟨_, _, rfl⟩
    rfl
  · rcases List.mem_map.mp byName with ⟨_, _, rfl⟩
    rfl

/-- Where no module path comes twice, none has two lines with named imports. -/
theorem named_lines_le_one {groups : List PathGroup} (once : (groups.map PathGroup.path).Nodup)
    (path : String) :
    ((groups.flatMap PathGroup.lines).filter fun line => line.any fun specifier =>
      specifier.path = path && specifier.exported.isSome).length ≤ 1 := by
  induction groups with
  | nil => exact Nat.zero_le 1
  | cons group rest inductionHypothesis =>
      rcases List.nodup_cons.mp once with ⟨absent, restOnce⟩
      -- a group has such lines only when the path is its own
      have foreign : ∀ other : PathGroup, other.path ≠ path →
          other.lines.filter (fun line => line.any fun specifier =>
            specifier.path = path && specifier.exported.isSome) = [] := by
        intro other different
        refine List.filter_eq_nil_iff.mpr fun line listed found => ?_
        rcases List.any_eq_true.mp found with ⟨specifier, member, holds⟩
        have same := of_decide_eq_true (Bool.and_eq_true_iff.mp holds).1
        exact different ((path_of_mem_lines listed member).symm.trans same)
      rw [List.flatMap_cons, List.filter_append, List.length_append]
      by_cases here : group.path = path
      · have later : (rest.flatMap PathGroup.lines).filter (fun line => line.any fun specifier =>
            specifier.path = path && specifier.exported.isSome) = [] := by
          rw [List.filter_flatMap]
          refine List.flatMap_eq_nil_iff.mpr fun other member => foreign other fun same => ?_
          exact absent (here.trans same.symm ▸ List.mem_map_of_mem member)
        rw [later]
        exact group.named_lines_le_one path
      · rw [foreign group here, List.length_nil, Nat.zero_add]
        exact inductionHypothesis restOnce

/-- For entries with distinct names that are not empty, the lines are those that one
pass over the entries gathers.  They stand in groups, one for each module path, in the
order in which the paths first appear.  The first line of a group has the first default
name and all named imports, and each further default name has a line of its own.  So
each entry has one specifier, in one line, with its own path and its own export; there
are no other specifiers; and no path has two lines with named imports. -/
theorem import_lines_grouped_by_path {entries : List (String × Dependency)}
    (once : (entries.map Prod.fst).Nodup) (spelled : ∀ entry ∈ entries, entry.1 ≠ "") :
    lines entries = (entries.foldl Gathered.add .nothing).lines ∧
      ∃ groups, Grouped entries groups ∧
        List.Forall₂ ImportLine (lines entries) (groups.flatMap PathGroup.lines) ∧
        (∀ entry ∈ entries, ((groups.flatMap PathGroup.lines).flatten.filter fun specifier =>
          specifier.identifier = entry.1) = [Binding.ofEntry entry]) ∧
        (groups.flatMap PathGroup.lines).flatten.length = entries.length ∧
        ∀ path, ((groups.flatMap PathGroup.lines).filter fun line => line.any fun specifier =>
          specifier.path = path && specifier.exported.isSome).length ≤ 1 := by
  have bound := flatten_groupsOf_perm entries
  refine ⟨lines_eq_gathered entries, groupsOf entries, grouped_groupsOf entries,
    importLines_lines spelled, ?_, ?_, ?_⟩
  · intro entry listed
    -- the specifiers of one name are the bindings of the entries of this name
    have own := bound.filter fun specifier => decide (specifier.identifier = entry.1)
    have single : entries.filter ((fun specifier => decide (specifier.identifier = entry.1)) ∘
        Binding.ofEntry) = [entry] := Entries.filter_key_of_mem once listed
    rw [List.filter_map, single] at own
    exact List.perm_singleton.mp own
  · rw [bound.length_eq, List.length_map]
  · refine named_lines_le_one ?_
    rw [path_groupsOf]
    exact distinct_nodup _

/-- A default import, and a named one where the export has a name. -/
def importFrom (path : String) (exported : Option String) : Dependency :=
  ⟨.library, some path, none, exported.map fun name => ⟨some true, some name, none, none⟩⟩

/-- Imports of two modules in turns: one has two default names and two named imports,
and one of these has another name than its export. -/
def toolImports : List (String × Dependency) :=
  [("pick", importFrom "tools" (some "select")), ("Table", importFrom "grid" none),
   ("Tools", importFrom "tools" none), ("Row", importFrom "grid" (some "Row")),
   ("Kit", importFrom "tools" none), ("sort", importFrom "tools" (some ""))]

/-- The imports of the two modules are told apart, and each has its specifier. -/
theorem toolImports_grouped :
    lines toolImports =
        ["import Tools, \x7b select as pick, sort \x7d from 'tools'", "import Kit from 'tools'",
          "import Table, \x7b Row \x7d from 'grid'"] ∧
      ∃ groups, Grouped toolImports groups ∧
        List.Forall₂ ImportLine (lines toolImports) (groups.flatMap PathGroup.lines) ∧
        ((groups.flatMap PathGroup.lines).flatten.filter fun specifier =>
          specifier.identifier = "pick") = [⟨"pick", "tools", some "select"⟩] ∧
        (groups.flatMap PathGroup.lines).flatten.length = 6 := by
  rcases import_lines_grouped_by_path (by decide : (toolImports.map Prod.fst).Nodup) (by decide) with
    ⟨_, groups, grouped, imports, each, count, _⟩
  exact ⟨by decide +kernel, groups, grouped, imports, each _ List.mem_cons_self, count⟩

end Imports
end ComponentCompiler

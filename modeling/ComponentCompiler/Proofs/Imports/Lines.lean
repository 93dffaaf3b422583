import ComponentCompiler.Proofs.Imports.Registration
import Mathlib.Data.List.Forall2
import Mathlib.Data.List.Perm.Basic

namespace ComponentCompiler
namespace Imports

open Script

/-!
# What import lines bind

A line binds local names to exports of one module: to its default export, to
named ones, or to both.  The lines of some entries are grouped by module path and
split by kind.  Still each entry is bound once, in one line, with its own path and
its own export.
-/

/-- A local name for an export of a module.  Without a name of its own it is the
default export. -/
structure Binding where
  identifier : String
  path : String
  exported : Option String
deriving DecidableEq, Repr

/-- The binding that an entry asks for.  An export without a name of its own has the
name of the identifier. -/
def Binding.ofEntry (entry : String × Dependency) : Binding :=
  ⟨entry.1, modulePath entry.1 entry.2,
    if entry.2.isNamed then some ((given? (entry.2.details.bind (·.exported))).getD entry.1)
    else none⟩

/-- How a named export is written under a local name. -/
def specifier (identifier exported : String) : String :=
  if exported = identifier then identifier else exported ++ " as " ++ identifier

/-- Local names and named exports in one pair of braces. -/
def braced (names : List (String × String)) : String :=
  "\x7b " ++ Text.joinWith ", " (names.map fun name => specifier name.1 name.2) ++ " \x7d"

/-- Local names for the default export of a module. -/
def defaultBindings (path : String) (names : List String) : List Binding :=
  names.map fun name => ⟨name, path, none⟩

/-- Local names for named exports of a module. -/
def namedBindings (path : String) (names : List (String × String)) : List Binding :=
  names.map fun name => ⟨name.1, path, some name.2⟩

/-- A line of text and what it binds. -/
inductive ImportLine : String → List Binding → Prop
  | byDefault (identifier path : String) :
      ImportLine ("import " ++ identifier ++ " from " ++ quote path) [⟨identifier, path, none⟩]
  | byName (path : String) {names : List (String × String)} (given : names ≠ []) :
      ImportLine ("import " ++ braced names ++ " from " ++ quote path) (namedBindings path names)
  | byBoth (identifier path : String) {names : List (String × String)} (given : names ≠ []) :
      ImportLine ("import " ++ (identifier ++ ", " ++ braced names) ++ " from " ++ quote path)
        (⟨identifier, path, none⟩ :: namedBindings path names)

/-- The lines together bind these, in some order. -/
def Binds (lines : List String) (bindings : List Binding) : Prop :=
  ∃ groups, List.Forall₂ ImportLine lines groups ∧ groups.flatten.Perm bindings

/-! ## One line -/

/-- The local name of a named import, and the name of its export. -/
def namePair (named : NamedImport) : String × String :=
  (named.localName, (given? named.exported).getD named.localName)

theorem render_eq_specifier (named : NamedImport) :
    named.render = specifier (namePair named).1 (namePair named).2 := by
  rcases named with ⟨localName, exported⟩
  cases exported with
  | none => exact (if_pos rfl).symm
  | some exported =>
      unfold NamedImport.render namePair given? specifier
      by_cases empty : exported.isEmpty
      · simp only [Option.filter_some, empty, Bool.not_true, Bool.false_eq_true, if_false,
          Option.getD_none, if_true, Bool.true_or]
      · simp only [Option.filter_some, empty, Bool.not_false, if_true, Option.getD_some,
          Bool.false_or, decide_eq_true_eq]

theorem importSpecifiers_eq {defaultName : Option String} (named : List NamedImport)
    (spelled : ∀ name ∈ defaultName, name ≠ "") :
    importSpecifiers defaultName named =
      defaultName.toList ++ if named.isEmpty then [] else [braced (named.map namePair)] := by
  have rendered : named.map NamedImport.render =
      (named.map namePair).map fun name => specifier name.1 name.2 := by
    rw [List.map_map]
    exact List.map_congr_left fun item _ => render_eq_specifier item
  unfold importSpecifiers
  rw [rendered]
  cases defaultName with
  | none => rfl
  | some name =>
      have visible : ¬ name.isEmpty = true := fun empty =>
        spelled name rfl (String.isEmpty_iff.mp empty)
      simp only [visible]
      rfl

/-- The line of a default name and named imports binds just these. -/
theorem importLine_importStatement (path : String) {defaultName : Option String}
    {named : List NamedImport} (spelled : ∀ name ∈ defaultName, name ≠ "")
    (something : defaultName = none → named ≠ []) :
    ImportLine (importStatement path defaultName named)
      (defaultBindings path defaultName.toList ++ namedBindings path (named.map namePair)) := by
  unfold importStatement
  rw [importSpecifiers_eq named spelled]
  cases named with
  | nil =>
      cases defaultName with
      | none => exact absurd rfl (something rfl)
      | some name => exact .byDefault name path
  | cons item rest =>
      have given : (item :: rest).map namePair ≠ [] := List.cons_ne_nil _ _
      cases defaultName with
      | none => exact .byName path given
      | some name => exact .byBoth name path given

/-! ## The lines of a module path -/

/-- The imports of one module path: its default names, and its named imports as pairs
of a local name and the name of the export. -/
structure PathGroup where
  path : String
  defaults : List String
  named : List (String × String)
deriving DecidableEq, Repr

/-- What the lines of a module path bind, line by line.  The first line has the first
default name and all named imports, and every further default name has a line of its
own. -/
def PathGroup.lines (group : PathGroup) : List (List Binding) :=
  (defaultBindings group.path group.defaults.head?.toList ++
      namedBindings group.path group.named) ::
    group.defaults.tail.map fun name => defaultBindings group.path [name]

theorem importLines_statements (path : String) {defaults : List String} {named : List NamedImport}
    (spelled : ∀ name ∈ defaults, name ≠ "") (something : defaults = [] → named ≠ []) :
    List.Forall₂ ImportLine
      (importStatement path defaults.head? named ::
        defaults.tail.map fun name => importStatement path (some name) [])
      (PathGroup.lines ⟨path, defaults, named.map namePair⟩) := by
  have first := importLine_importStatement path
    (fun name member => spelled name (List.mem_of_mem_head? member))
    fun none => something (List.head?_eq_none_iff.mp none)
  refine List.Forall₂.cons first ?_
  rw [List.forall₂_map_left_iff, List.forall₂_map_right_iff, List.forall₂_same]
  intro name member
  refine importLine_importStatement path ?_ fun none => absurd none (Option.some_ne_none name)
  intro other same
  exact Option.some.inj same ▸ spelled name (List.mem_of_mem_tail member)

/-- The lines of a module path together bind its default names and its named imports. -/
theorem PathGroup.flatten_lines_perm (group : PathGroup) :
    group.lines.flatten.Perm
      (defaultBindings group.path group.defaults ++ namedBindings group.path group.named) := by
  rcases group with ⟨path, defaults, named⟩
  have later : ∀ names : List String, (names.map fun name => defaultBindings path [name]).flatten =
      defaultBindings path names := fun _ => List.map_eq_flatMap.symm
  rw [PathGroup.lines, List.flatten_cons, later]
  cases defaults with
  | nil => exact .of_eq (List.append_nil _)
  | cons name rest =>
      refine List.Perm.cons _ ?_
      exact List.perm_append_comm

/-! ## The lines of entries -/

theorem given_of_mem_entriesOf {path : String} {entries : List (String × Dependency)}
    {entry : String × Dependency} (member : entry ∈ entriesOf path entries) :
    entry ∈ entries ∧ modulePath entry.1 entry.2 = path := by
  rcases List.mem_filter.mp member with ⟨listed, same⟩
  exact ⟨listed, of_decide_eq_true same⟩

/-- The default names and the named imports of a path are its entries. -/
theorem bindings_perm_entriesOf (path : String) (entries : List (String × Dependency)) :
    (defaultBindings path (defaultNames (entriesOf path entries)) ++
      namedBindings path ((namedImports (entriesOf path entries)).map namePair)).Perm
      ((entriesOf path entries).map Binding.ofEntry) := by
  have byDefault : defaultBindings path (defaultNames (entriesOf path entries)) =
      ((entriesOf path entries).filter fun entry => !entry.2.isNamed).map Binding.ofEntry := by
    unfold defaultBindings defaultNames
    rw [List.map_map]
    refine List.map_congr_left fun entry member => ?_
    rcases List.mem_filter.mp member with ⟨own, unnamed⟩
    have byDefault : entry.2.isNamed = false := by simpa using unnamed
    rw [Binding.ofEntry, (given_of_mem_entriesOf own).2, byDefault]
    rfl
  have byName : namedBindings path ((namedImports (entriesOf path entries)).map namePair) =
      ((entriesOf path entries).filter fun entry => entry.2.isNamed).map Binding.ofEntry := by
    unfold namedBindings namedImports
    rw [List.map_map, List.map_map]
    refine List.map_congr_left fun entry member => ?_
    rcases List.mem_filter.mp member with ⟨own, isNamed⟩
    rw [Binding.ofEntry, (given_of_mem_entriesOf own).2, if_pos isNamed]
    rfl
  rw [byDefault, byName, ← List.map_append]
  refine List.Perm.map _ (List.perm_append_comm.trans ?_)
  exact List.filter_append_perm _ _

/-- The module paths of entries, in order. -/
def pathsOf (entries : List (String × Dependency)) : List String :=
  entries.map fun entry => modulePath entry.1 entry.2

/-- The imports of a module path among some entries. -/
def groupOf (entries : List (String × Dependency)) (path : String) : PathGroup :=
  ⟨path, defaultNames (entriesOf path entries),
    (namedImports (entriesOf path entries)).map namePair⟩

/-- The imports of entries by module path. -/
def groupsOf (entries : List (String × Dependency)) : List PathGroup :=
  (distinct (pathsOf entries)).map (groupOf entries)

theorem importLines_linesOf {path : String} {entries : List (String × Dependency)}
    (listed : entriesOf path entries ≠ []) (spelled : ∀ entry ∈ entries, entry.1 ≠ "") :
    List.Forall₂ ImportLine (linesOf path entries) (groupOf entries path).lines := by
  refine importLines_statements path ?_ ?_
  · intro name member
    rcases List.mem_map.mp member with ⟨entry, kept, rfl⟩
    exact spelled entry (given_of_mem_entriesOf (List.mem_filter.mp kept).1).1
  · intro noDefaults noNamed
    have none := (bindings_perm_entriesOf path entries).length_eq
    rw [noDefaults, noNamed, List.length_map] at none
    exact listed (List.length_eq_zero_iff.mp none.symm)

/-- Line by line, the lines of entries bind the imports of their module paths. -/
theorem importLines_lines {entries : List (String × Dependency)}
    (spelled : ∀ entry ∈ entries, entry.1 ≠ "") :
    List.Forall₂ ImportLine (lines entries) ((groupsOf entries).flatMap PathGroup.lines) := by
  have each : ∀ paths ⊆ pathsOf entries, List.Forall₂ ImportLine
      (paths.flatMap fun path => linesOf path entries)
      ((paths.map (groupOf entries)).flatMap PathGroup.lines) := by
    intro paths known
    induction paths with
    | nil => exact .nil
    | cons path rest inductionHypothesis =>
        rcases List.cons_subset.mp known with ⟨present, restKnown⟩
        rcases List.mem_map.mp present with ⟨entry, listed, rfl⟩
        refine List.rel_append (importLines_linesOf ?_ spelled) (inductionHypothesis restKnown)
        exact List.ne_nil_of_mem (List.mem_filter.mpr ⟨listed, decide_eq_true rfl⟩)
  exact each _ fun path member => mem_distinct_iff.mp member

theorem linesOf_subset_lines {entries : List (String × Dependency)} {entry : String × Dependency}
    (listed : entry ∈ entries) : linesOf (modulePath entry.1 entry.2) entries ⊆ lines entries := by
  intro line member
  exact List.mem_flatMap.mpr ⟨_, mem_distinct_iff.mpr (List.mem_map_of_mem listed), member⟩

/-- A named import is bound by its line, also behind a default name that is empty. -/
theorem exists_importLine_of_named {named : List NamedImport} {item : NamedImport}
    (member : item ∈ named) (path : String) (defaultName : Option String) :
    ∃ group, ImportLine (importStatement path defaultName named) group ∧
      ⟨item.localName, path, some (namePair item).2⟩ ∈ group := by
  have something : named ≠ [] := List.ne_nil_of_mem member
  have bound : ⟨item.localName, path, some (namePair item).2⟩ ∈
      namedBindings path (named.map namePair) :=
    List.mem_map_of_mem (List.mem_map_of_mem member)
  by_cases spelled : ∀ name ∈ defaultName, name ≠ ""
  · exact ⟨_, importLine_importStatement path spelled fun _ => something,
      List.mem_append_right _ bound⟩
  · obtain rfl : defaultName = some "" := by
      push Not at spelled
      rcases spelled with ⟨name, given, rfl⟩
      exact given
    have unnamed : importStatement path (some "") named = importStatement path none named := rfl
    rw [unnamed]
    have silent : ∀ name ∈ (none : Option String), name ≠ "" := fun _ absent => nomatch absent
    exact ⟨_, importLine_importStatement path silent fun _ => something, bound⟩

/-- An entry is bound in a line of its path, whatever the other entries are. -/
theorem exists_line_of_entry {entries : List (String × Dependency)} {entry : String × Dependency}
    (listed : entry ∈ entries) (spelled : entry.1 ≠ "") :
    ∃ line ∈ linesOf (modulePath entry.1 entry.2) entries, ∃ group, ImportLine line group ∧
      Binding.ofEntry entry ∈ group := by
  let path := modulePath entry.1 entry.2
  have own : entry ∈ entriesOf path entries := List.mem_filter.mpr ⟨listed, decide_eq_true rfl⟩
  unfold linesOf Binding.ofEntry
  cases kind : entry.2.isNamed with
  | true =>
      have byName : ⟨entry.1, entry.2.details.bind (·.exported)⟩ ∈
          namedImports (entriesOf path entries) :=
        List.mem_map.mpr ⟨entry, List.mem_filter.mpr ⟨own, kind⟩, rfl⟩
      rcases exists_importLine_of_named byName path (defaultNames (entriesOf path entries)).head? with
        ⟨group, imports, bound⟩
      exact ⟨_, List.mem_cons_self, group, imports, bound⟩
  | false =>
      have byDefault : entry.1 ∈ defaultNames (entriesOf path entries) :=
        List.mem_map_of_mem (List.mem_filter.mpr ⟨own, by rw [kind]; rfl⟩)
      have alone : ∀ named, ImportLine (importStatement path (some entry.1) named)
          (defaultBindings path [entry.1] ++ namedBindings path (named.map namePair)) := by
        intro named
        refine importLine_importStatement path ?_ fun none => absurd none (Option.some_ne_none _)
        exact fun name same => Option.some.inj same ▸ spelled
      cases names : defaultNames (entriesOf path entries) with
      | nil =>
          rw [names] at byDefault
          cases byDefault
      | cons first others =>
          simp only [path] at names
          simp only [names]
          rw [names] at byDefault
          rcases List.mem_cons.mp byDefault with same | later
          · rw [← same]
            exact ⟨_, List.mem_cons_self, _, alone _, List.mem_cons_self⟩
          · exact ⟨_, List.mem_cons_of_mem _ (List.mem_map.mpr ⟨_, later, rfl⟩), _, alone [],
              List.mem_cons_self⟩

/-- Grouping by path loses no entry and repeats none. -/
theorem flatMap_entriesOf_perm {paths : List String} (once : paths.Nodup)
    (entries : List (String × Dependency)) :
    (paths.flatMap fun path => entriesOf path entries).Perm
      (entries.filter fun entry => modulePath entry.1 entry.2 ∈ paths) := by
  induction paths with
  | nil =>
      rw [List.filter_eq_nil_iff.mpr fun _ _ impossible => absurd (of_decide_eq_true impossible)
        List.not_mem_nil]
      exact .nil
  | cons path rest inductionHypothesis =>
      rcases List.nodup_cons.mp once with ⟨absent, restOnce⟩
      -- the entries of the first path, and those of the others
      have split := List.filter_append_perm (fun entry => decide (modulePath entry.1 entry.2 = path))
        (entries.filter fun entry => modulePath entry.1 entry.2 ∈ path :: rest)
      rw [List.filter_filter, List.filter_filter] at split
      refine List.Perm.trans ?_ split
      rw [List.flatMap_cons]
      refine List.Perm.append (.of_eq ?_) ((inductionHypothesis restOnce).trans (.of_eq ?_))
      · refine List.filter_congr fun entry _ => ?_
        by_cases here : modulePath entry.1 entry.2 = path
        · simp only [here, decide_true, List.mem_cons_self, Bool.and_self]
        · simp only [here, decide_false, Bool.false_and]
      · refine List.filter_congr fun entry _ => ?_
        by_cases here : modulePath entry.1 entry.2 = path
        · simp only [here, absent, decide_false, decide_true, Bool.not_true, Bool.false_and]
        · simp only [here, decide_false, Bool.not_false, List.mem_cons, false_or, Bool.true_and]

/-- The imports of the module paths are the entries, each once. -/
theorem flatten_groupsOf_perm (entries : List (String × Dependency)) :
    ((groupsOf entries).flatMap PathGroup.lines).flatten.Perm (entries.map Binding.ofEntry) := by
  have each : ∀ paths : List String,
      (((paths.map (groupOf entries)).flatMap PathGroup.lines).flatten).Perm
        (paths.flatMap fun path => (entriesOf path entries).map Binding.ofEntry) := by
    intro paths
    induction paths with
    | nil => exact .nil
    | cons path rest inductionHypothesis =>
        rw [List.map_cons, List.flatMap_cons, List.flatten_append, List.flatMap_cons]
        exact ((groupOf entries path).flatten_lines_perm.trans
          (bindings_perm_entriesOf path entries)).append inductionHypothesis
  refine (each _).trans ?_
  rw [← List.map_flatMap]
  refine List.Perm.map _ ((flatMap_entriesOf_perm (distinct_nodup _) entries).trans (.of_eq ?_))
  refine List.filter_eq_self.mpr fun entry member => decide_eq_true ?_
  exact mem_distinct_iff.mpr (List.mem_map_of_mem member)

/-- The lines of entries bind each of them once, and nothing else. -/
theorem binds_lines {entries : List (String × Dependency)}
    (spelled : ∀ entry ∈ entries, entry.1 ≠ "") :
    Binds (lines entries) (entries.map Binding.ofEntry) :=
  ⟨_, importLines_lines spelled, flatten_groupsOf_perm entries⟩

end Imports
end ComponentCompiler

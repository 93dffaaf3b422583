import ComponentCompiler.Imports.Registry
import ComponentCompiler.Proofs.Imports.Lines

namespace ComponentCompiler

open Imports Script

/-!
# The manifest and the import lines

The manifest lists the packages that the import lines need.  Both take the path of
a dependency where it gives one.  Where it gives none, its line imports from a module
of the identifier's name, and the manifest passes it over.  So the two agree exactly
when each dependency without a path is covered by others that give its identifier
as theirs.
-/

namespace Dependency

/-- The path that a dependency gives, itself or in its details. -/
def ownPath? (dependency : Dependency) : Option String :=
  given? dependency.importPath

/-- The version of a library or a package, when it carries one. -/
def packageVersion? (dependency : Dependency) : Option String :=
  if dependency.kind = .localFile then none else given? dependency.importVersion

theorem packageOf?_eq (dependency : Dependency) :
    Registry.packageOf? dependency =
      dependency.ownPath?.bind fun path => dependency.packageVersion?.map (path, ·) := by
  unfold Registry.packageOf? ownPath? packageVersion?
  cases given? dependency.importPath with
  | none => rfl
  | some path =>
      by_cases isLocal : dependency.kind = .localFile
      · simp only [isLocal, if_true, Option.bind_some, Option.map_none]
        cases given? dependency.importVersion <;> rfl
      · simp only [isLocal, if_false, Option.bind_some]
        cases given? dependency.importVersion <;> rfl

end Dependency

namespace Imports

theorem modulePath_of_ownPath? {dependency : Dependency} {path : String}
    (given : dependency.ownPath? = some path) (identifier : String) :
    modulePath identifier dependency = path := by
  unfold Dependency.ownPath? at given
  rw [modulePath, given]

/-- A library or a package without a path is imported from a module of the
identifier's name. -/
theorem modulePath_of_pathless {dependency : Dependency} {version : String}
    (pathless : dependency.ownPath? = none) (versioned : dependency.packageVersion? = some version)
    (identifier : String) : modulePath identifier dependency = identifier := by
  unfold Dependency.ownPath? at pathless
  have foreign : ¬ dependency.kind = .localFile := by
    intro isLocal
    rw [Dependency.packageVersion?, if_pos isLocal] at versioned
    cases versioned
  rw [modulePath, pathless, if_neg foreign]

end Imports

namespace Registry

/-- The registry that is filled by some registrations. -/
def ofRegistrations (registrations : List (String × Dependency)) : Registry :=
  registrations.foldl (fun registry registration =>
    registry.register registration.1 registration.2) []

/-- Where an entry is imported from. -/
def importPlace (entry : String × Dependency) : Option String :=
  some (modulePath entry.1 entry.2)

/-- Where an entry says that it is imported from. -/
def givenPlace (entry : String × Dependency) : Option String :=
  entry.2.ownPath?

/-- The version of the last library or package in a place that carries a version. -/
def lastVersion? (place : String × Dependency → Option String) (registry : Registry)
    (path : String) : Option String :=
  registry.reverse.findSome? fun entry =>
    if place entry = some path then entry.2.packageVersion? else none

/-- Under every module path the manifest has the version of the last dependency that is
imported from it, and nothing when none carries a version. -/
def Agrees (registry : Registry) : Prop :=
  ∀ path, Entries.lookUp? registry.packages path = registry.lastVersion? importPlace path

/-- Other dependencies cover one without a path: later ones give its identifier as
their path, or the last of the earlier ones that do so has its version. -/
def Covers (before after : Registry) (identifier version : String) : Prop :=
  Entries.has (packages after) identifier = true ∨
    Entries.lookUp? (packages before) identifier = some version

/-! ## The versions in the manifest -/

theorem lastVersion?_append (place : String × Dependency → Option String)
    (before after : Registry) (path : String) :
    lastVersion? place (before ++ after) path =
      (lastVersion? place after path).or (lastVersion? place before path) := by
  unfold lastVersion?
  rw [List.reverse_append, List.findSome?_append]

theorem lastVersion?_singleton (place : String × Dependency → Option String)
    (entry : String × Dependency) (path : String) :
    lastVersion? place [entry] path =
      if place entry = some path then entry.2.packageVersion? else none := by
  unfold lastVersion?
  rw [List.reverse_singleton, List.findSome?_singleton]

theorem lookUp?_packages_append (before after : Registry) (path : String) :
    Entries.lookUp? (packages (before ++ after)) path =
      (Entries.lookUp? (packages after) path).or (Entries.lookUp? (packages before) path) := by
  have onward : packages (before ++ after) =
      Entries.update (packages before) (after.filterMap fun entry => packageOf? entry.2) := by
    rw [packages, List.filterMap_append]
    exact List.foldl_append
  rw [onward, Entries.lookUp?_update, packages.eq_def after, Entries.lookUp?_update,
    Entries.lookUp?, Option.or_none]

theorem lookUp?_packages_singleton (entry : String × Dependency) (path : String) :
    Entries.lookUp? (packages [entry]) path =
      if entry.2.ownPath? = some path then entry.2.packageVersion? else none := by
  have listed : packages [entry] = Entries.update [] (packageOf? entry.2).toList := by
    rw [packages, List.filterMap_cons]
    cases packageOf? entry.2 <;> rfl
  rw [listed, Dependency.packageOf?_eq]
  cases entry.2.ownPath? with
  | none => rfl
  | some given =>
      cases entry.2.packageVersion? with
      | none => exact (ite_self none).symm
      | some version =>
          by_cases same : given = path
          · rw [if_pos (congrArg some same)]
            exact if_pos same
          · rw [if_neg fun equal => same (Option.some.inj equal)]
            exact if_neg same

/-- The manifest has the last version that is given with a path. -/
theorem lookUp?_packages (registry : Registry) (path : String) :
    Entries.lookUp? registry.packages path = registry.lastVersion? givenPlace path := by
  induction registry with
  | nil => rfl
  | cons entry rest inductionHypothesis =>
      rw [← List.singleton_append, lookUp?_packages_append, lastVersion?_append,
        inductionHypothesis, lookUp?_packages_singleton, lastVersion?_singleton]
      rfl

theorem importPlace_eq_givenPlace {entry : String × Dependency} {path : String}
    (given : entry.1 = path → entry.2.packageVersion?.isSome → entry.2.ownPath?.isSome) :
    lastVersion? importPlace [entry] path = lastVersion? givenPlace [entry] path := by
  rw [lastVersion?_singleton, lastVersion?_singleton, importPlace, givenPlace]
  cases versioned : entry.2.packageVersion? with
  | none => rw [ite_self, ite_self]
  | some version =>
      cases pathless : entry.2.ownPath? with
      | some own => rw [modulePath_of_ownPath? pathless]
      | none =>
          rw [modulePath_of_pathless pathless versioned, if_neg, if_neg (Option.some_ne_none _).symm]
          intro same
          have found := given (Option.some.inj same) (versioned ▸ rfl)
          rw [pathless] at found
          cases found

/-- Where each dependency of an identifier gives a path, both places have the same
version. -/
theorem lastVersion?_of_given {registry : Registry} {path : String}
    (given : ∀ entry ∈ registry, entry.1 = path → entry.2.packageVersion?.isSome →
      entry.2.ownPath?.isSome) :
    registry.lastVersion? importPlace path = registry.lastVersion? givenPlace path := by
  induction registry with
  | nil => rfl
  | cons entry rest inductionHypothesis =>
      rcases List.forall_mem_cons.mp given with ⟨first, others⟩
      rw [← List.singleton_append, lastVersion?_append, lastVersion?_append,
        inductionHypothesis others, importPlace_eq_givenPlace first]

/-! ## Dependencies without a path -/

/-- At the identifier of a dependency without a path, the manifest agrees with the
imports when others cover it. -/
theorem agrees_at_pathless_iff {before after : Registry} {identifier version : String}
    {dependency : Dependency}
    (distinct : (Entries.keys (before ++ (identifier, dependency) :: after)).Nodup)
    (pathless : dependency.ownPath? = none)
    (versioned : dependency.packageVersion? = some version) :
    Entries.lookUp? (packages (before ++ (identifier, dependency) :: after)) identifier =
        lastVersion? importPlace (before ++ (identifier, dependency) :: after) identifier ↔
      Covers before after identifier version := by
  have fresh : identifier ∉ Entries.keys after := by
    rw [Entries.keys, List.map_append, List.map_cons] at distinct
    exact (List.nodup_cons.mp (List.nodup_append.mp distinct).2.1).1
  have later : lastVersion? importPlace after identifier =
      Entries.lookUp? (packages after) identifier := by
    rw [lookUp?_packages]
    refine lastVersion?_of_given fun entry member same => ?_
    exact absurd (same ▸ List.mem_map_of_mem member) fresh
  have unlisted : Entries.lookUp? (packages [(identifier, dependency)]) identifier = none := by
    rw [lookUp?_packages_singleton, pathless]
    rfl
  have imported : lastVersion? importPlace [(identifier, dependency)] identifier = some version := by
    rw [lastVersion?_singleton, importPlace, modulePath_of_pathless pathless versioned, if_pos rfl]
    exact versioned
  rw [← List.singleton_append, lookUp?_packages_append, lookUp?_packages_append,
    lastVersion?_append, lastVersion?_append, later, unlisted, imported, Covers, Entries.has]
  cases Entries.lookUp? (packages after) identifier with
  | some listed => exact ⟨fun _ => Or.inl rfl, fun _ => rfl⟩
  | none => exact ⟨Or.inr, fun covered => covered.resolve_left Bool.false_ne_true⟩

/-- The manifest agrees with the imports exactly when each dependency without a path is
covered by others. -/
theorem agrees_iff_covered {registry : Registry} (distinct : (Entries.keys registry).Nodup) :
    registry.Agrees ↔
      ∀ before identifier dependency after version,
        registry = before ++ (identifier, dependency) :: after →
        dependency.ownPath? = none → dependency.packageVersion? = some version →
          Covers before after identifier version := by
  constructor
  · rintro agrees before identifier dependency after version rfl pathless versioned
    exact (agrees_at_pathless_iff distinct pathless versioned).mp (agrees identifier)
  · intro covered path
    by_cases given : ∀ entry ∈ registry, entry.1 = path → entry.2.packageVersion?.isSome →
        entry.2.ownPath?.isSome
    · rw [lookUp?_packages, lastVersion?_of_given given]
    · push Not at given
      rcases given with ⟨⟨identifier, dependency⟩, member, rfl, carries, unplaced⟩
      rcases List.append_of_mem member with ⟨before, after, rfl⟩
      rcases Option.isSome_iff_exists.mp carries with ⟨version, versioned⟩
      have pathless : dependency.ownPath? = none := Option.not_isSome_iff_eq_none.mp unplaced
      exact (agrees_at_pathless_iff distinct pathless versioned).mpr
        (covered before identifier dependency after version rfl pathless versioned)

end Registry

/-! ## The paths of import lines -/

namespace Imports

/-- A line imports from a module path, with names or only to load the module. -/
def ImportsFrom (line path : String) : Prop :=
  line = "import " ++ quote path ∨ ∃ names, line = "import " ++ names ++ " from " ++ quote path

theorem importsFrom_importStatement (path : String) (defaultName : Option String)
    (named : List NamedImport) : ImportsFrom (importStatement path defaultName named) path := by
  unfold importStatement
  cases importSpecifiers defaultName named with
  | nil => exact Or.inl rfl
  | cons first others => exact Or.inr ⟨_, rfl⟩

theorem importsFrom_of_mem_linesOf {path line : String} {entries : List (String × Dependency)}
    (member : line ∈ linesOf path entries) : ImportsFrom line path := by
  rcases List.mem_cons.mp member with rfl | further
  · exact importsFrom_importStatement path _ _
  · rcases List.mem_map.mp further with ⟨name, _, rfl⟩
    exact importsFrom_importStatement path _ _

/-- Every entry has a line of its module path, and an identifier that is not empty is
bound there. -/
theorem exists_importing_line {entries : List (String × Dependency)} {entry : String × Dependency}
    (listed : entry ∈ entries) :
    ∃ line ∈ lines entries, ImportsFrom line (modulePath entry.1 entry.2) ∧
      (entry.1 ≠ "" → ∃ group, ImportLine line group ∧ Binding.ofEntry entry ∈ group) := by
  by_cases spelled : entry.1 = ""
  · refine ⟨_, linesOf_subset_lines listed List.mem_cons_self, importsFrom_importStatement _ _ _, ?_⟩
    exact fun nonempty => absurd spelled nonempty
  · rcases exists_line_of_entry listed spelled with ⟨line, written, bound⟩
    exact ⟨line, linesOf_subset_lines listed written, importsFrom_of_mem_linesOf written,
      fun _ => bound⟩

end Imports

namespace Registry

theorem exists_entry_of_mem_keys_packages {registry : Registry} {path : String}
    (listed : path ∈ Entries.keys registry.packages) :
    ∃ entry ∈ registry, modulePath entry.1 entry.2 = path := by
  rcases Option.isSome_iff_exists.mp ((Entries.has_eq_true_iff _ _).mpr listed) with ⟨version, found⟩
  rw [lookUp?_packages] at found
  rcases List.exists_of_findSome?_eq_some found with ⟨entry, member, chosen⟩
  refine ⟨entry, List.mem_reverse.mp member, ?_⟩
  by_cases placed : givenPlace entry = some path
  · exact modulePath_of_ownPath? placed entry.1
  · rw [if_neg placed] at chosen
    cases chosen

/-- After any registrations each dependency has an import line of its module path, each
path of the manifest has one, and under it stands the last version that is given with
this path.  This is the last version that is imported from it, for all paths, exactly
when each versioned dependency without a path is covered by others. -/
theorem manifest_agrees_iff_pathless_covered (registrations : List (String × Dependency)) :
    (∀ entry ∈ ofRegistrations registrations, ∃ line ∈ lines (ofRegistrations registrations),
        ImportsFrom line (modulePath entry.1 entry.2) ∧
          (entry.1 ≠ "" → ∃ group, ImportLine line group ∧ Binding.ofEntry entry ∈ group)) ∧
      (∀ path ∈ Entries.keys (packages (ofRegistrations registrations)),
        ∃ line ∈ lines (ofRegistrations registrations), ImportsFrom line path) ∧
      (∀ path, Entries.lookUp? (packages (ofRegistrations registrations)) path =
        lastVersion? givenPlace (ofRegistrations registrations) path) ∧
      ((ofRegistrations registrations).Agrees ↔
        ∀ before identifier dependency after version,
          ofRegistrations registrations = before ++ (identifier, dependency) :: after →
          dependency.ownPath? = none → dependency.packageVersion? = some version →
            Covers before after identifier version) := by
  have empty : (Entries.keys ([] : Registry)).Nodup := List.nodup_nil
  have distinct : (Entries.keys (ofRegistrations registrations)).Nodup :=
    Entries.nodup_keys_update empty registrations
  refine ⟨fun entry => exists_importing_line, ?_, lookUp?_packages _, agrees_iff_covered distinct⟩
  intro path listed
  rcases exists_entry_of_mem_keys_packages listed with ⟨entry, member, rfl⟩
  rcases exists_importing_line member with ⟨line, written, imports, _⟩
  exact ⟨line, written, imports⟩

/-- A package with a version and without a path. -/
def chartPackage : Dependency := ⟨.package, none, some "2.1.0", none⟩

/-- It is imported from a module of its name, and no package of this name is in the
manifest. -/
theorem chart_is_imported_and_not_listed :
    lines (ofRegistrations [("React", .ofLibrary "react"), ("Chart", chartPackage)]) =
        ["import React from 'react'", "import Chart from 'Chart'"] ∧
      packages (ofRegistrations [("React", .ofLibrary "react"), ("Chart", chartPackage)]) = [] ∧
      ¬ (ofRegistrations [("React", .ofLibrary "react"), ("Chart", chartPackage)]).Agrees := by
  refine ⟨by decide +kernel, by decide +kernel, fun agrees => ?_⟩
  have covered := (manifest_agrees_iff_pathless_covered
    [("React", .ofLibrary "react"), ("Chart", chartPackage)]).2.2.2.mp agrees
    [("React", .ofLibrary "react")] "Chart" chartPackage [] "2.1.0" (by decide +kernel)
    (by decide +kernel) (by decide +kernel)
  rcases covered with listed | listed
  · exact absurd listed (by decide +kernel)
  · exact absurd listed (by decide +kernel)

end Registry
end ComponentCompiler

import ComponentCompiler.Proofs.Build.Coverage
import ComponentCompiler.Proofs.Build.Element
import ComponentCompiler.Proofs.Markup.Outline

namespace ComponentCompiler

/-!
# The account of a build

A build that succeeds leaves a tree and notes.  Both are accounted for by its
visits: the tree has one element for each visited node that becomes one, in the
order of the visits, and besides these only wrappers; the notes tell the name and
the place of each of them once, the imports that they need in the same order, and
the default content that was taken.

Accounts of parts are put together to accounts of the whole, so each way of
building contributes one step.
-/

/-- The names and places that the notes of a build tell. -/
def builtOf (notes : List BuildNote) : List (String × Origin) :=
  notes.filterMap fun
    | .built name origin => some (name, origin)
    | _ => none

/-- The roots of default content that the notes of a build tell. -/
def defaultsOf (notes : List BuildNote) : List ContentNode :=
  notes.filterMap fun
    | .defaults root => some root
    | _ => none

/-- The imports that the notes of a build ask for. -/
def registeredOf (notes : List BuildNote) : List (String × Dependency) :=
  notes.filterMap fun
    | .register identifier dependency => some (identifier, dependency)
    | _ => none

theorem builtOf_append (first second : List BuildNote) :
    builtOf (first ++ second) = builtOf first ++ builtOf second :=
  List.filterMap_append

theorem defaultsOf_append (first second : List BuildNote) :
    defaultsOf (first ++ second) = defaultsOf first ++ defaultsOf second :=
  List.filterMap_append

theorem registeredOf_append (first second : List BuildNote) :
    registeredOf (first ++ second) = registeredOf first ++ registeredOf second :=
  List.filterMap_append

/-- Notes of default content tell of nothing else. -/
theorem notes_of_defaults (roots : List ContentNode) :
    builtOf (roots.map BuildNote.defaults) = [] ∧
      defaultsOf (roots.map BuildNote.defaults) = roots ∧
      registeredOf (roots.map BuildNote.defaults) = [] := by
  unfold builtOf defaultsOf registeredOf
  rw [List.filterMap_map, List.filterMap_map, List.filterMap_map]
  exact ⟨List.filterMap_eq_nil_iff.mpr fun _ _ => rfl, List.filterMap_some,
    List.filterMap_eq_nil_iff.mpr fun _ _ => rfl⟩

/-- The visits at nodes that become elements. -/
def elementVisits (visited : List (List Step × ContentNode)) : List (List Step × ContentNode) :=
  visited.filter fun visit => visit.2.isElement

theorem elementVisits_append (first second : List (List Step × ContentNode)) :
    elementVisits (first ++ second) = elementVisits first ++ elementVisits second :=
  List.filter_append ..

theorem elementVisits_of_element {node : ContentNode} (becomesElement : node.isElement = true)
    (path : List Step) (visited : List (List Step × ContentNode)) :
    elementVisits ((path, node) :: visited) = (path, node) :: elementVisits visited := by
  simp only [elementVisits, List.filter_cons, becomesElement, if_true]

theorem elementVisits_of_branches {node : ContentNode} (hasBranches : node.isElement = false)
    (path : List Step) (visited : List (List Step × ContentNode)) :
    elementVisits ((path, node) :: visited) = elementVisits visited := by
  simp only [elementVisits, List.filter_cons, hasBranches, Bool.false_eq_true, if_false]

theorem elementVisits_relocate (place : List Step) (visited : List (List Step × ContentNode)) :
    elementVisits (relocate place visited) = relocate place (elementVisits visited) :=
  List.filter_map ..

namespace MappingTable

/-- The tag of the element of a node. -/
def tag (table : MappingTable) (node : ContentNode) : String :=
  ((table.entry? node.type).map ElementMapping.type).getD ""

/-- The import that the element of a node needs: its tag, with the dependency of
the node or else of the entry. -/
def registration? (table : MappingTable) (node : ContentNode) : Option (String × Dependency) :=
  (table.entry? node.type).bind fun entry =>
    (node.dependency.or entry.dependency).map fun dependency => (entry.type, dependency)

/-- Parts and notes are accounted for by visits from an origin on.  The default
content of the notes is what the visited nodes take, and what is adopted for the
node that they are below.  No visited element is without an entry. -/
structure Accounts (table : MappingTable) (origin : Origin) (adopted : List ContentNode)
    (visited : List (List Step × ContentNode)) (notes : List BuildNote) (parts : List Markup) :
    Prop where
  outline : outlineAll parts = (elementVisits visited).map fun visit =>
    (some (origin.descend visit.1), table.tag visit.2)
  built : (builtOf notes).Perm
    ((elementVisits visited).map fun visit => (visit.2.name, origin.descend visit.1))
  defaults : (defaultsOf notes).Perm
    (adopted ++ visited.flatMap fun visit => (table.taken visit.2).map Prod.snd)
  registered : registeredOf notes =
    (elementVisits visited).filterMap fun visit => table.registration? visit.2
  mapped : ∀ visit ∈ visited, ¬ table.IsUnmapped visit.2

namespace Accounts

variable {table : MappingTable} {origin : Origin} {adopted : List ContentNode}
  {visited : List (List Step × ContentNode)} {notes : List BuildNote} {parts : List Markup}

theorem empty (table : MappingTable) (origin : Origin) : table.Accounts origin [] [] [] [] :=
  ⟨rfl, List.Perm.refl _, List.Perm.refl _, rfl, fun _ member => absurd member List.not_mem_nil⟩

theorem append {otherAdopted : List ContentNode} {otherVisited : List (List Step × ContentNode)}
    {otherNotes : List BuildNote} {otherParts : List Markup}
    (first : table.Accounts origin adopted visited notes parts)
    (second : table.Accounts origin otherAdopted otherVisited otherNotes otherParts) :
    table.Accounts origin (adopted ++ otherAdopted) (visited ++ otherVisited) (notes ++ otherNotes)
      (parts ++ otherParts) where
  outline := by
    rw [outlineAll_append, first.outline, second.outline, elementVisits_append, List.map_append]
  built := by
    rw [builtOf_append, elementVisits_append, List.map_append]
    exact first.built.append second.built
  defaults := by
    rw [defaultsOf_append, List.flatMap_append]
    refine (first.defaults.append second.defaults).trans ?_
    simp only [List.append_assoc]
    exact (List.perm_append_comm_assoc _ _ _).append_left _
  registered := by
    rw [registeredOf_append, first.registered, second.registered, elementVisits_append,
      List.filterMap_append]
  mapped visit member := (List.mem_append.mp member).elim (first.mapped visit) (second.mapped visit)

theorem below (step : Step)
    (account : table.Accounts (origin.below step) adopted visited notes parts) :
    table.Accounts origin adopted (relocate [step] visited) notes parts where
  outline := by
    rw [account.outline, elementVisits_relocate, relocate, List.map_map]
    exact List.map_congr_left fun visit _ => congrArg (fun found => (some found, table.tag visit.2))
      (origin.descend_cons step visit.1).symm
  built := by
    refine account.built.trans (List.Perm.of_eq ?_)
    rw [elementVisits_relocate, relocate, List.map_map]
    exact List.map_congr_left fun visit _ =>
      congrArg (Prod.mk visit.2.name) (origin.descend_cons step visit.1).symm
  defaults := by
    rw [relocate, List.flatMap_map]
    exact account.defaults
  registered := by
    rw [elementVisits_relocate, relocate, List.filterMap_map]
    exact account.registered
  mapped visit member := by
    rcases List.mem_map.mp member with ⟨inner, listed, rfl⟩
    exact account.mapped inner listed

/-- Only the outline of the parts counts. -/
theorem reshaped {others : List Markup} (account : table.Accounts origin adopted visited notes parts)
    (same : outlineAll others = outlineAll parts) :
    table.Accounts origin adopted visited notes others :=
  { account with outline := same.trans account.outline }

/-- Default content is noted before it is built. -/
theorem adopting (account : table.Accounts origin [] visited notes parts)
    (roots : List ContentNode) :
    table.Accounts origin roots visited (roots.map .defaults ++ notes) parts where
  outline := account.outline
  built := by
    rw [builtOf_append, (notes_of_defaults roots).1]
    exact account.built
  defaults := by
    rw [defaultsOf_append, (notes_of_defaults roots).2.1]
    exact account.defaults.append_left roots
  registered := by
    rw [registeredOf_append, (notes_of_defaults roots).2.2]
    exact account.registered
  mapped := account.mapped

/-- An element accounts for itself and for what it holds. -/
theorem element {node : ContentNode} {started : Element} {inner repeated : List Markup}
    {adoptedRepeated : List ContentNode}
    {innerVisited repeatedVisited : List (List Step × ContentNode)}
    {opening innerNotes repeatedNotes : List BuildNote} (becomesElement : node.isElement = true)
    (nodeMapped : ¬ table.IsUnmapped node)
    (startedOrigin : started.origin = some origin) (startedTag : started.tag = table.tag node)
    (noneBuilt : builtOf opening = []) (noDefaults : defaultsOf opening = [])
    (imports : registeredOf opening = (table.registration? node).toList)
    (allTaken : (table.taken node).map Prod.snd = adopted ++ adoptedRepeated)
    (innerAccount : table.Accounts origin adopted innerVisited innerNotes inner)
    (repeatedAccount : table.Accounts origin adoptedRepeated repeatedVisited repeatedNotes
      repeated) :
    table.Accounts origin [] (([], node) :: (innerVisited ++ repeatedVisited))
      (opening ++ (innerNotes ++ (repeatedNotes ++ [.built node.name origin])))
      [.element { started with children := inner ++ repeated }] where
  outline := by
    have inside := (innerAccount.append repeatedAccount).outline
    have itself : Element.isWrapper { started with children := inner ++ repeated } = false := by
      rw [Element.isWrapper, startedOrigin]
      rfl
    rw [outlineAll_singleton, itself, inside, elementVisits_of_element becomesElement,
      List.map_cons, Origin.descend_nil, startedOrigin, startedTag]
    rfl
  built := by
    have inside := (innerAccount.append repeatedAccount).built
    rw [elementVisits_of_element becomesElement, List.map_cons, Origin.descend_nil,
      ← List.append_assoc innerNotes, builtOf_append, noneBuilt, List.nil_append, builtOf_append]
    exact (List.perm_append_singleton _ _).trans (inside.cons _)
  defaults := by
    have inside := (innerAccount.append repeatedAccount).defaults
    rw [← List.append_assoc innerNotes, defaultsOf_append, noDefaults, List.nil_append,
      defaultsOf_append, List.flatMap_cons, allTaken]
    exact (List.append_nil _).symm ▸ inside
  registered := by
    have inside := (innerAccount.append repeatedAccount).registered
    have closing : registeredOf [.built node.name origin] = [] := rfl
    rw [← List.append_assoc innerNotes, registeredOf_append, imports, registeredOf_append, inside,
      closing, List.append_nil, elementVisits_of_element becomesElement, List.filterMap_cons]
    cases table.registration? node <;> rfl
  mapped := List.forall_mem_cons.mpr ⟨nodeMapped, (innerAccount.append repeatedAccount).mapped⟩

/-- A node with branches accounts for its branches. -/
theorem branched {node : ContentNode} (hasBranches : node.isElement = false)
    (account : table.Accounts origin [] visited notes parts) :
    table.Accounts origin [] (([], node) :: visited) notes parts where
  outline := by
    rw [elementVisits_of_branches hasBranches]
    exact account.outline
  built := by
    rw [elementVisits_of_branches hasBranches]
    exact account.built
  defaults := by
    rw [List.flatMap_cons, table.taken_of_branches hasBranches]
    exact account.defaults
  registered := by
    rw [elementVisits_of_branches hasBranches]
    exact account.registered
  mapped := List.forall_mem_cons.mpr
    ⟨fun unmapped => Bool.false_ne_true (hasBranches.symm.trans unmapped.1), account.mapped⟩

/-- The compiled elements are those of the visits, in order. -/
theorem compiled (account : table.Accounts origin adopted visited notes parts) :
    (compiledAll parts).map Prod.fst =
      (elementVisits visited).map fun visit => origin.descend visit.1 := by
  rw [compiledAll_origins_eq, account.outline, List.filterMap_map]
  exact congrFun List.filterMap_eq_map (elementVisits visited)

end Accounts

end MappingTable
end ComponentCompiler

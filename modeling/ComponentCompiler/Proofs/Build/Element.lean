import ComponentCompiler.Proofs.Build.Reach
import ComponentCompiler.Proofs.Traced

namespace ComponentCompiler

/-!
# The steps of building a node

A node with branches is built by building its branches.  Any other node is
resolved, its handlers are written, and then its children and its repeated
content are built, whether the node gives them itself or the mapping table
does.  Later facts about building go through the two equations below and never
through the definition of building.
-/

/-- The builder of a component at a depth of default content. -/
def MappingTable.siteAt (table : MappingTable) (scope : Scope) (depth : Nat) : Site :=
  ⟨table, scope, defaultBuilder table scope depth⟩

namespace Site

/-- The children of an element: those of its node, or else those of its type. -/
def innerParts (site : Site) (origin : Origin) (node : ContentNode) (resolved : ResolvedElement) :
    Builder (List Markup) :=
  match node.children with
  | some children => buildChildList site origin 0 children
  | none => site.defaultChildren origin resolved

/-- The repeated content of an element: that of its node, or else that of its
type. -/
def repeatedParts (site : Site) (origin : Origin) (node : ContentNode)
    (resolved : ResolvedElement) : Builder (List Markup) :=
  match node.repetition with
  | some repetition => do return [← buildRepeated site origin repetition]
  | none => site.defaultRepetition origin resolved

end Site

/-- The element of a node before its content is built. -/
def ContentNode.started (node : ContentNode) (origin : Origin) (resolved : ResolvedElement) :
    Element :=
  withHandlers (withAttributes (Element.ofTag (some origin) resolved.tag) resolved.attrs)
    (node.events.getD [])

/-- The statements of all handlers of a node. -/
def ContentNode.statements (node : ContentNode) : List Statement :=
  (node.events.getD []).flatMap Prod.snd

/-- The scalars that the handlers of a node show. -/
def ContentNode.shown (node : ContentNode) : List Scalar :=
  node.statements.flatMap Statement.shown

/-- The notes of an element before its content, when its handlers can be written: the
warnings about these, then its import. -/
def openingNotes (scope : Scope) (node : ContentNode) (resolved : ResolvedElement) :
    List BuildNote :=
  (handlerNotes scope.component node.statements).map .log ++ importNotes resolved

/-! ## Attributes keep the rest of an element -/

theorem withAttributes_keeps (element : Element) (attrs : Fields) :
    (withAttributes element attrs).origin = element.origin ∧
      (withAttributes element attrs).tag = element.tag := by
  unfold withAttributes
  induction attrs generalizing element with
  | nil => exact ⟨rfl, rfl⟩
  | cons attr rest inductionHypothesis =>
      rw [List.foldl_cons]
      exact inductionHypothesis (element.setAttribute attr.1 (attributeValue attr.2))

theorem withHandlers_keeps (element : Element) (events : List (String × List Statement)) :
    (withHandlers element events).origin = element.origin ∧
      (withHandlers element events).tag = element.tag := by
  unfold withHandlers
  induction events generalizing element with
  | nil => exact ⟨rfl, rfl⟩
  | cons event rest inductionHypothesis =>
      rw [List.foldl_cons]
      cases handler? event.2 with
      | none => exact inductionHypothesis element
      | some handler => exact inductionHypothesis (element.setAttribute event.1 (.code handler))

theorem ContentNode.started_origin (node : ContentNode) (origin : Origin)
    (resolved : ResolvedElement) : (node.started origin resolved).origin = some origin := by
  unfold started
  rw [(withHandlers_keeps _ _).1, (withAttributes_keeps _ _).1]
  rfl

theorem ContentNode.started_tag (node : ContentNode) (origin : Origin)
    (resolved : ResolvedElement) : (node.started origin resolved).tag = resolved.tag := by
  unfold started
  rw [(withHandlers_keeps _ _).2, (withAttributes_keeps _ _).2]
  rfl

/-! ## The two equations -/

theorem length_of_buildBranches {site : Site} {origin : Origin} {subject : String}
    {branches : List Branch} {position : Nat} {notes : List BuildNote} {parts : List Markup}
    (built : buildBranches site origin subject position branches = ⟨notes, .ok parts⟩) :
    parts.length = branches.length := by
  induction branches generalizing position notes parts with
  | nil =>
      rw [buildBranches, Traced.pure_eq, Traced.mk.injEq, Except.ok.injEq] at built
      exact built.2 ▸ rfl
  | cons branch rest inductionHypothesis =>
      rw [buildBranches] at built
      rcases Traced.bind_eq_ok built with ⟨_, part, _, _, onward, _⟩
      rcases Traced.bind_eq_ok onward with ⟨_, others, _, restBuilt, last, _⟩
      rw [Traced.pure_eq, Traced.mk.injEq, Except.ok.injEq] at last
      rw [← last.2, List.length_cons, List.length_cons, inductionHypothesis restBuilt]

theorem buildNode_of_branches {site : Site} {origin : Origin} {node : ContentNode}
    (branched : node.isElement = false) :
    buildNode site origin node =
      buildBranches site origin (site.scope.subject node.name) 0 (node.states.getD []) := by
  rcases node with ⟨type, name, style, attrs, events, children, repetition, states, dependency⟩
  cases states with
  | none => cases branched
  | some branches =>
      simp only [buildNode, buildStates, Option.getD_some]
      cases run : buildBranches site origin (site.scope.subject name) 0 branches with
      | mk notes outcome =>
          cases outcome with
          | error failure => rfl
          | ok parts =>
              have sameLength := length_of_buildBranches run
              have someParts : parts.isEmpty = false := by
                cases parts with
                | cons part others => rfl
                | nil =>
                    have none : branches = [] := List.eq_nil_of_length_eq_zero sameLength.symm
                    rw [none] at branched
                    cases branched
              simp only [Traced.bind_ok, someParts, Bool.false_eq_true, if_false,
                Traced.pure_eq, List.append_nil]

/-- Any other node is resolved and then built from its parts. -/
theorem buildNode_of_element {site : Site} {origin : Origin} {node : ContentNode}
    (element : node.isElement = true) :
    buildNode site origin node = do
      let resolved ← site.resolve node.type node.attrs node.dependency node.name
      passStatements site.scope.component node.statements
      Traced.noteAll (importNotes resolved)
      let inner ← site.innerParts origin node resolved
      let repeated ← site.repeatedParts origin node resolved
      Traced.note (.built node.name origin)
      return [.element { node.started origin resolved with children := inner ++ repeated }] := by
  rcases node with ⟨type, name, style, attrs, events, children, repetition, states, dependency⟩
  have noBranches : buildStates site origin (site.scope.subject name) states = pure [] := by
    cases states with
    | none => rw [buildStates]
    | some branches =>
        have empty : branches = [] := List.isEmpty_iff.mp element
        rw [buildStates, empty, buildBranches]
  simp only [buildNode, noBranches, pure_bind, List.isEmpty_nil, if_true]
  cases children <;> cases repetition <;>
    simp only [buildChildren, buildRepetition, bind_assoc, pure_bind, Site.innerParts,
      Site.repeatedParts, ContentNode.started, ContentNode.statements]

theorem Site.resolve_eq (site : Site) (type : String) (attrs : Option Fields)
    (dependency : Option Dependency) (name : String) :
    site.resolve type attrs dependency name =
      match site.table.entry? type with
      | some entry => pure (entry.resolve attrs dependency)
      | none => ⟨[.log (unmappedEntry type (some name))], .error (.unmapped type (some name))⟩ := by
  unfold Site.resolve MappingTable.resolve
  cases site.table.entry? type <;> rfl

theorem requireWritable_silent {scalars : List Scalar} {notes : List BuildNote} {result : Unit}
    (run : requireWritable scalars = ⟨notes, .ok result⟩) : notes = [] := by
  unfold requireWritable at run
  split at run
  · cases run
  · exact (Traced.pure_eq_ok run).1

/-- Going over statements fails as writing all their scalars does. -/
theorem outcome_passStatements (component : String) (statements : List Statement) :
    (passStatements component statements).outcome =
      (requireWritable (statements.flatMap Statement.shown)).outcome := by
  induction statements with
  | nil => rfl
  | cons statement rest inductionHypothesis =>
      rw [passStatements, Traced.outcome_noteAll_bind, Traced.outcome_bind, inductionHypothesis,
        List.flatMap_cons]
      unfold requireWritable Scalar.writeFault?
      rw [List.any_append]
      cases statement.shown.any Scalar.isTooLong <;> rfl

/-- Statements that can all be gone over leave the warnings about those left out. -/
theorem notes_of_passStatements {component : String} {statements : List Statement}
    {notes : List BuildNote} {result : Unit}
    (run : passStatements component statements = ⟨notes, .ok result⟩) :
    notes = (handlerNotes component statements).map .log := by
  induction statements generalizing notes with
  | nil => exact (Traced.pure_eq_ok run).1
  | cons statement rest inductionHypothesis =>
      rw [passStatements] at run
      rcases Traced.bind_eq_ok run with ⟨_, _, _, warned, afterWarning, rfl⟩
      rcases Traced.bind_eq_ok afterWarning with ⟨_, _, _, writable, onward, rfl⟩
      rcases Traced.mk.inj warned with ⟨rfl, _⟩
      rw [requireWritable_silent writable, inductionHypothesis onward, List.nil_append,
        ← List.map_append]
      unfold handlerNotes
      rw [← List.map_append, ← List.filter_append, List.singleton_append]

/-- What a successful build of an element is made of. -/
theorem buildNode_element_eq_ok {site : Site} {origin : Origin} {node : ContentNode}
    {notes : List BuildNote} {parts : List Markup} (element : node.isElement = true)
    (built : buildNode site origin node = ⟨notes, .ok parts⟩) :
    ∃ entry innerNotes inner repeatedNotes repeated,
      site.table.entry? node.type = some entry ∧
      site.innerParts origin node (entry.resolve node.attrs node.dependency) =
        ⟨innerNotes, .ok inner⟩ ∧
      site.repeatedParts origin node (entry.resolve node.attrs node.dependency) =
        ⟨repeatedNotes, .ok repeated⟩ ∧
      notes = openingNotes site.scope node (entry.resolve node.attrs node.dependency) ++
        (innerNotes ++ (repeatedNotes ++ [.built node.name origin])) ∧
      parts = [.element { node.started origin (entry.resolve node.attrs node.dependency) with
        children := inner ++ repeated }] := by
  rw [buildNode_of_element element, Site.resolve_eq] at built
  cases known : site.table.entry? node.type with
  | none =>
      simp only [known, Traced.bind_error] at built
      cases (Traced.mk.inj built).2
  | some entry =>
      simp only [known, pure_bind] at built
      rcases Traced.bind_eq_ok built with ⟨_, _, _, passed, afterWriting, rfl⟩
      rcases Traced.bind_eq_ok afterWriting with ⟨_, _, _, opened, afterOpening, rfl⟩
      rcases Traced.bind_eq_ok afterOpening with ⟨innerNotes, inner, _, innerBuilt, afterInner, rfl⟩
      rcases Traced.bind_eq_ok afterInner with
        ⟨repeatedNotes, repeated, _, repeatedBuilt, afterRepeated, rfl⟩
      rcases Traced.bind_eq_ok afterRepeated with ⟨_, _, _, closed, last, rfl⟩
      rcases Traced.pure_eq_ok last with ⟨rfl, rfl⟩
      rcases Traced.mk.inj opened with ⟨rfl, _⟩
      rcases Traced.mk.inj closed with ⟨rfl, _⟩
      refine ⟨entry, innerNotes, inner, repeatedNotes, repeated, rfl, innerBuilt, repeatedBuilt,
        ?_, rfl⟩
      rw [notes_of_passStatements passed, openingNotes, List.append_nil, List.append_assoc]

end ComponentCompiler

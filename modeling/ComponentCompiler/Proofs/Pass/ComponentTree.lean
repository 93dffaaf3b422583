import ComponentCompiler.Pass.ComponentTree
import ComponentCompiler.Proofs.Build.Success

namespace ComponentCompiler

/-!
# What the component pass leaves

Taking up the notes of a build never fails.  It enters the elements under the
names of their nodes and keeps the default content that was taken.  The pass
fails as the build does, or as the declarations of the states do; otherwise it
leaves the component and its export.
-/

/-- Taking up notes registers the imports, enters the elements by name and keeps
the default content. -/
theorem Assembly.follow_outcome (assembly : Assembly) (notes : List BuildNote) :
    (assembly.follow notes).outcome = .ok { assembly with
      registry := Entries.update assembly.registry (registeredOf notes)
      nodes := Entries.update assembly.nodes (builtOf notes)
      defaults := assembly.defaults ++ defaultsOf notes } := by
  induction notes generalizing assembly with
  | nil =>
      refine congrArg Except.ok ?_
      rw [defaultsOf, List.filterMap_nil, List.append_nil]
      rfl
  | cons note rest inductionHypothesis =>
      cases note with
      | log entry => exact inductionHypothesis assembly
      | register identifier dependency =>
          exact inductionHypothesis
            { assembly with registry := assembly.registry.register identifier dependency }
      | defaults root =>
          have followed := inductionHypothesis
            { assembly with defaults := assembly.defaults ++ [root] }
          rw [List.append_assoc] at followed
          exact followed
      | built name origin =>
          exact inductionHypothesis
            { assembly with nodes := Entries.put assembly.nodes name origin }

/-- The imports of a component with the notes of its build and the declarations of
its states, in the order in which they are registered. -/
def componentImports (notes : List BuildNote) (hooks : List String) : List (String × Dependency) :=
  ("React", Dependency.ofLibrary "react") :: registeredOf notes ++
    if hooks.isEmpty then [] else [("useState", stateHookDependency)]

/-- The chunks of a component with its parts and the declarations of its states. -/
def Component.chunks (component : Component) (parts : List Markup) (hooks : List String) :
    ChunkStore :=
  [componentChunk {} ⟨Naming.componentName component.name, .element (gathered parts), hooks⟩,
    exportChunk {} (Naming.componentName component.name)]

/-- The component pass fails as the build does, or else as the declarations of
the states do. -/
theorem assembleTree_outcome (component : Component) (table : MappingTable) :
    (assembleTree {} table (Assembly.start component)).outcome = do
      let parts ← (component.build table 0).outcome
      let hooks ← component.hooks.mapError Failure.unrenderable
      return { component := component
               chunks := component.chunks parts hooks
               registry := Entries.update []
                 (componentImports (component.build table 0).notes hooks)
               nodes := Entries.update [] (builtOf (component.build table 0).notes)
               defaults := defaultsOf (component.build table 0).notes
               builds := 1 } := by
  cases run : component.build table 0 with
  | mk notes outcome =>
      unfold assembleTree
      simp only [Assembly.start]
      rw [run, Traced.outcome_bind]
      change (Assembly.follow _ notes >>= _).outcome = _
      rw [Traced.outcome_bind, Assembly.follow_outcome]
      cases outcome with
      | error failure => rfl
      | ok parts =>
          cases component.hooks with
          | error fault => rfl
          | ok hooks =>
              have imports : Entries.update [] (componentImports notes hooks) =
                  if hooks.isEmpty then
                    Entries.update (Registry.register [] "React" (Dependency.ofLibrary "react"))
                      (registeredOf notes)
                  else Registry.register
                    (Entries.update (Registry.register [] "React" (Dependency.ofLibrary "react"))
                      (registeredOf notes)) "useState" stateHookDependency := by
                unfold componentImports Entries.update
                rw [List.cons_append, List.foldl_cons, List.foldl_append]
                cases hooks <;> rfl
              dsimp only [bind, Except.bind, Except.mapError]
              rw [imports]
              cases hooks <;> rfl

/-- What the component pass leaves when it succeeds. -/
structure Assembly.BuiltFrom (built : Assembly) (component : Component) (notes : List BuildNote)
    (parts : List Markup) (hooks : List String) : Prop where
  same : built.component = component
  registry : built.registry = Entries.update [] (componentImports notes hooks)
  nodes : built.nodes = Entries.update [] (builtOf notes)
  defaults : built.defaults = defaultsOf notes
  chunks : built.chunks = component.chunks parts hooks

/-- The component pass succeeds only when the build does. -/
theorem builtFrom_of_assembleTree {component : Component} {table : MappingTable}
    {built : Assembly}
    (succeeded : (assembleTree {} table (Assembly.start component)).outcome = .ok built) :
    ∃ notes parts hooks, component.build table 0 = ⟨notes, .ok parts⟩ ∧
      component.hooks = .ok hooks ∧ built.BuiltFrom component notes parts hooks := by
  rw [assembleTree_outcome] at succeeded
  cases run : component.build table 0 with
  | mk notes result =>
      rw [run] at succeeded
      cases result with
      | error failure => cases succeeded
      | ok parts =>
          cases declared : component.hooks with
          | error fault =>
              rw [declared] at succeeded
              cases succeeded
          | ok hooks =>
              rw [declared] at succeeded
              cases succeeded
              exact ⟨notes, parts, hooks, rfl, rfl, rfl, rfl, rfl, rfl, rfl⟩

end ComponentCompiler

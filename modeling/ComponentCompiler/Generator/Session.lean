import ComponentCompiler.Generator.Basic

namespace ComponentCompiler

/-!
# Sessions

A generator is kept from one request to the next.  A request works on it in
place: whatever it has changed stays changed, also when the request fails
afterwards.
-/

/-- What a generator can be asked for. -/
inductive Request where
  | addMapping (document : Value)
  | compile (document overrides : Value)

/-- What comes back from a request that succeeds. -/
inductive Reply where
  | extended
  | compiled (component : CompiledComponent)

/-- Steps that work on a generator in place and can fail. -/
abbrev Session := ExceptT Failure (StateM Generator)

/-- Answer one request.  A mapping is read as a whole before it goes over the
table. -/
def Request.perform : Request → Session Reply
  | .addMapping document => do
    let table ← MonadExcept.ofExcept (MappingTable.ofValue document)
    modify fun generator => generator.addTable table
    return .extended
  | .compile document overrides => do
    let generator ← get
    let compiled ← MonadExcept.ofExcept (generator.generate document overrides).outcome
    return .compiled compiled

/-- Answer requests one after the other. -/
def serve : List Request → StateM Generator (List (Except Failure Reply))
  | [] => pure []
  | request :: later => do
    let reply ← request.perform.run
    let replies ← serve later
    return reply :: replies

end ComponentCompiler

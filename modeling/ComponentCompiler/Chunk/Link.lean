import ComponentCompiler.Chunk.Basic
import ComponentCompiler.Log

namespace ComponentCompiler

/-!
# Linking chunks

Chunks are put in an order in which every constraint between chunks that are
there holds.  At each step the first waiting chunk whose predecessors have all
been emitted is next.  When there is none, the constraints run in a circle, and
the first waiting chunk is taken.  A constraint that names an absent chunk is
ignored, and so is one that names the chunk itself.
-/

/-- Something noticed while linking. -/
inductive LinkNotice where
  | absentAfter (chunk absent : String)
  | absentBefore (chunk absent : String)
  | cycle (emitted : String)
deriving DecidableEq, Repr

/-- The entry in the log for a notice. -/
def LinkNotice.entry (notice : LinkNotice) : Log.Entry :=
  let level : Log.Level :=
    match notice with
    | .cycle _ => .warning
    | _ => .debug
  let message :=
    match notice with
    | .absentAfter chunk absent =>
      "Chunk " ++ chunk ++ ": ignoring 'after' on missing chunk " ++ absent
    | .absentBefore chunk absent =>
      "Chunk " ++ chunk ++ ": ignoring 'before' on missing chunk " ++ absent
    | .cycle emitted => "Chunk ordering cycle detected, emitting " ++ emitted ++ " first"
  ⟨level, "uidl_compiler.generators.component_gen.linker", none, none, message⟩

namespace Chunk

/-- The names that a chunk itself puts before one of the given name. -/
def precedes (chunk : Chunk) (present : List String) (name : String) : List String :=
  (if chunk.name = name then
      chunk.after.filter fun other => other ∈ present && other ≠ name
    else []) ++
  (if name ∈ chunk.before && chunk.name ≠ name then [chunk.name] else [])

/-- The constraints of a chunk that name absent ones. -/
def absentNotices (chunk : Chunk) (present : List String) : List LinkNotice :=
  (chunk.after.filter (· ∉ present)).map (.absentAfter chunk.name) ++
    (chunk.before.filter (· ∉ present)).map (.absentBefore chunk.name)

end Chunk

/-- The names that have to be emitted before a name. -/
def predecessors (chunks : List Chunk) (name : String) : List String :=
  chunks.flatMap fun chunk => chunk.precedes (chunks.map Chunk.name) name

/-- Whether all predecessors of a name have been emitted. -/
def isReady (chunks : List Chunk) (emitted : List String) (name : String) : Bool :=
  (predecessors chunks name).all fun other => other ∈ emitted

/-- Emit the waiting names.  Each comes with whether a circle was broken for it. -/
def emitFrom (chunks : List Chunk) (emitted : List String) :
    List String → List (String × Bool)
  | [] => []
  | first :: others =>
    let ready := (first :: others).find? (isReady chunks emitted)
    let name := ready.getD first
    (name, ready.isNone) :: emitFrom chunks (name :: emitted) ((first :: others).erase name)
termination_by waiting => waiting.length
decreasing_by
  have member : (List.find? (isReady chunks emitted) (first :: others)).getD first
      ∈ first :: others := by
    cases found : List.find? (isReady chunks emitted) (first :: others) with
    | none => simp
    | some name => exact List.mem_of_find?_eq_some found
  have shorter := List.length_erase_of_mem member
  simp only [List.length_cons] at shorter ⊢
  omega

/-- The chunk of a name; of several the last one. -/
def lastNamed? (chunks : List Chunk) (name : String) : Option Chunk :=
  chunks.reverse.find? fun chunk => chunk.name = name

/-- The names in linked order, each with whether a circle was broken for it. -/
def linkedNames (chunks : List Chunk) : List (String × Bool) :=
  emitFrom chunks [] (chunks.map Chunk.name)

/-- The chunks in linked order. -/
def link (chunks : List Chunk) : List Chunk :=
  (linkedNames chunks).filterMap fun emitted => lastNamed? chunks emitted.1

/-- What is noticed while linking. -/
def linkNotices (chunks : List Chunk) : List LinkNotice :=
  chunks.flatMap (fun chunk => chunk.absentNotices (chunks.map Chunk.name)) ++
    (linkedNames chunks).filterMap fun emitted =>
      if emitted.2 then some (.cycle emitted.1) else none

end ComponentCompiler

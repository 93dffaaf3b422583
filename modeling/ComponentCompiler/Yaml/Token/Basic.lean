import ComponentCompiler.Value.ReadFault

namespace ComponentCompiler
namespace Yaml

/-!
# Tokens

A document is a list of tokens.  Where indentation opens or closes a block,
there is a token of its own.  The last token may say why nothing more can be
read.
-/

/-- What a line in front of a document says about it. -/
inductive Directive where
  /-- The version of the notation, of which the first number counts. -/
  | version (major : Nat)
  /-- What a handle of tags stands for. -/
  | handle (name meaning : String)
  /-- Something that is passed over. -/
  | other
deriving DecidableEq, Repr

/-- A part of a document that has a meaning of its own. -/
inductive Token where
  | directive (content : Directive)
  | documentStart
  | documentEnd
  | blockSequenceStart
  | blockMappingStart
  | blockEnd
  | flowSequenceStart
  | flowSequenceEnd
  | flowMappingStart
  | flowMappingEnd
  | flowEntry
  | blockEntry
  | key
  | value
  | alias (name : String)
  | anchor (name : String)
  | tag (handle : Option String) (rest : String)
  | scalar (content : String) (plain : Bool)
  | unreadable (fault : ReadFault)
deriving DecidableEq, Repr

/-- What was found, or else the fault of a malformed document. -/
def orMalformed {α : Type} : Option α → Except ReadFault α
  | some found => .ok found
  | none => .error .malformed

end Yaml
end ComponentCompiler

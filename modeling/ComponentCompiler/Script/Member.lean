import ComponentCompiler.Script.Literal

namespace ComponentCompiler
namespace Script

/-!
# Member access

A property of an object is read with a dot when its name is an identifier and
with a quoted name in brackets otherwise.  A path is a chain of such steps over
its dotted segments; an empty segment is a property like any other.
-/

/-- The access to one property of an object expression. -/
def member (object property : String) : String :=
  if isIdentifier property then object ++ "." ++ property
  else object ++ "[" ++ quote property ++ "]"

/-- The segments of a dotted path.  There is always at least one. -/
def segments (path : String) : List String :=
  (Text.piecesAt '.' path.toList).map String.ofList

/-- The access along a dotted path. -/
def memberPath (object path : String) : String :=
  (segments path).foldl member object

end Script
end ComponentCompiler

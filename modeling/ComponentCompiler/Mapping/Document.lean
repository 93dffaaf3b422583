import ComponentCompiler.Failure
import ComponentCompiler.Schema.Content

namespace ComponentCompiler

open Schema

/-!
# Mapping documents

A mapping table is read from a map; the first entry with issues is reported.
-/

namespace MappingTable

/-- Read a mapping table. -/
def ofValue : Value → Except Failure MappingTable
  | .map entries => (checkTable entries).mapError Failure.invalid
  | other => .error (.notTable other.kindName)

/-- Read a mapping table that may be left out. -/
def ofOptional (value : Value) : Except Failure (Option MappingTable) :=
  if value.isVoid then .ok none else some <$> ofValue value

end MappingTable
end ComponentCompiler

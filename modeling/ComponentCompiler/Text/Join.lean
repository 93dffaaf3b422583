namespace ComponentCompiler
namespace Text

/-!
# Joining texts

The output is put together from pieces with a separator between neighbours.
-/

/-- The pieces in order, with the separator between neighbours. -/
def joinWith (separator : String) : List String → String
  | [] => ""
  | [piece] => piece
  | piece :: next :: rest => piece ++ separator ++ joinWith separator (next :: rest)

/-- The text repeated the given number of times. -/
def repeated (piece : String) : Nat → String
  | 0 => ""
  | count + 1 => piece ++ repeated piece count

/-- Two blanks for every level of nesting, and none below zero. -/
def padding (level : Int) : String :=
  repeated "  " level.toNat

/-- The blanks in front of a line inside something at a level. -/
def innerPadding (level : Int) : String :=
  padding level ++ "  "

@[simp] theorem joinWith_nil (separator : String) : joinWith separator [] = "" := rfl

@[simp] theorem joinWith_singleton (separator piece : String) :
    joinWith separator [piece] = piece := rfl

theorem joinWith_cons_cons (separator piece next : String) (rest : List String) :
    joinWith separator (piece :: next :: rest)
      = piece ++ separator ++ joinWith separator (next :: rest) := rfl

/-- The pieces of a text between the occurrences of a character. -/
def piecesAt (mark : Char) : List Char → List (List Char)
  | [] => [[]]
  | character :: rest =>
    if character = mark then [] :: piecesAt mark rest
    else
      match piecesAt mark rest with
      | [] => [[character]]
      | piece :: others => (character :: piece) :: others

end Text
end ComponentCompiler

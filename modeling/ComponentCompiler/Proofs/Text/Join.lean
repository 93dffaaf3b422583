import ComponentCompiler.Text.Join

namespace ComponentCompiler
namespace Text

/-!
# Pieces of a joined text

Every piece is found in the text that they are joined to, and all but the first
stand right behind a separator.  Padding is made of spaces only.  A text that is
split at a mark has at least one piece, and what is put in front of it or behind
it joins the piece at that end.
-/

/-- The pieces in order, each with the separator in front. -/
def separated (separator : String) (pieces : List String) : String :=
  pieces.foldr (fun piece later => separator ++ piece ++ later) ""

theorem joinWith_cons (separator piece : String) (rest : List String) :
    joinWith separator (piece :: rest) = piece ++ separated separator rest := by
  induction rest generalizing piece with
  | nil => exact String.append_empty.symm
  | cons next others inductionHypothesis =>
      rw [joinWith_cons_cons, inductionHypothesis, separated, separated, List.foldr_cons,
        String.append_assoc, String.append_assoc]

theorem joinWith_append (separator : String) {first second : List String} (nonempty : first ≠ [])
    (others : second ≠ []) :
    joinWith separator (first ++ second) =
      joinWith separator first ++ separator ++ joinWith separator second := by
  induction first with
  | nil => exact absurd rfl nonempty
  | cons piece rest inductionHypothesis =>
      cases rest with
      | nil =>
          cases second with
          | nil => exact absurd rfl others
          | cons next later => rfl
      | cons next later =>
          have onward := inductionHypothesis (List.cons_ne_nil next later)
          rw [List.cons_append] at onward
          rw [List.cons_append, List.cons_append, joinWith_cons_cons, joinWith_cons_cons, onward]
          simp only [String.append_assoc]

theorem separated_cons (separator piece : String) (rest : List String) :
    separated separator (piece :: rest) = separator ++ piece ++ separated separator rest := rfl

theorem separated_singleton (separator piece : String) :
    separated separator [piece] = separator ++ piece :=
  String.append_empty

theorem separated_append (separator : String) (pieces others : List String) :
    separated separator (pieces ++ others) =
      separated separator pieces ++ separated separator others := by
  induction pieces with
  | nil => exact String.empty_append.symm
  | cons piece rest inductionHypothesis =>
      rw [List.cons_append, separated_cons, separated_cons, inductionHypothesis]
      exact String.append_assoc.symm

theorem toList_separated (separator : String) (pieces : List String) :
    (separated separator pieces).toList =
      pieces.flatMap fun piece => separator.toList ++ piece.toList := by
  induction pieces with
  | nil => rfl
  | cons piece rest inductionHypothesis =>
      rw [List.flatMap_cons, ← inductionHypothesis, ← String.toList_append, ← String.toList_append]
      rfl

theorem exists_separated_eq {separator piece : String} {pieces : List String}
    (member : piece ∈ pieces) :
    ∃ before after, separated separator pieces = before ++ piece ++ after := by
  induction pieces with
  | nil => cases member
  | cons first others inductionHypothesis =>
      rcases List.mem_cons.mp member with rfl | later
      · exact ⟨separator, separated separator others, separated_cons separator piece others⟩
      · rcases inductionHypothesis later with ⟨before, after, found⟩
        refine ⟨separator ++ first ++ before, after, ?_⟩
        rw [separated_cons, found]
        simp only [String.append_assoc]

/-! ## Padding -/

theorem mem_twoBlanks {character : Char} (member : character ∈ "  ".toList) : character = ' ' := by
  have spelled : "  ".toList = List.replicate 2 ' ' := rfl
  rw [spelled] at member
  exact List.eq_of_mem_replicate member

/-- Padding is two spaces for each level. -/
theorem toList_padding (level : Int) :
    (padding level).toList = List.replicate (2 * level.toNat) ' ' := by
  unfold padding
  induction level.toNat with
  | zero => rfl
  | succ count inductionHypothesis =>
      have blanks : "  ".toList = List.replicate 2 ' ' := rfl
      rw [repeated, String.toList_append, inductionHypothesis, blanks,
        List.replicate_append_replicate]
      exact congrArg (List.replicate · ' ') (by omega)

theorem mem_padding {level : Int} {character : Char} (member : character ∈ (padding level).toList) :
    character = ' ' := by
  rw [toList_padding] at member
  exact List.eq_of_mem_replicate member

theorem mem_innerPadding {level : Int} {character : Char}
    (member : character ∈ (innerPadding level).toList) : character = ' ' := by
  rw [innerPadding, String.toList_append] at member
  rcases List.mem_append.mp member with outer | own
  · exact mem_padding outer
  · exact mem_twoBlanks own

theorem repeated_append_self (piece : String) (count : Nat) :
    repeated piece count ++ piece = repeated piece (count + 1) := by
  induction count with
  | zero => exact String.empty_append.trans String.append_empty.symm
  | succ count inductionHypothesis =>
      have again (count : Nat) : repeated piece (count + 1) =
          piece ++ repeated piece count := rfl
      rw [again count, String.append_assoc, inductionHypothesis, again (count + 1)]

theorem innerPadding_eq {level : Int} (nonneg : 0 ≤ level) :
    innerPadding level = padding (level + 1) := by
  have next : (level + 1).toNat = level.toNat + 1 := by omega
  rw [innerPadding, padding, padding, next, repeated_append_self]

/-! ## Splitting -/

theorem exists_piecesAt_cons (mark : Char) (text : List Char) :
    ∃ piece others, piecesAt mark text = piece :: others := by
  cases text with
  | nil => exact ⟨[], [], rfl⟩
  | cons character rest =>
      rw [piecesAt]
      split
      · exact ⟨[], _, rfl⟩
      · split
        · exact ⟨[character], [], rfl⟩
        · exact ⟨_, _, rfl⟩

/-- A character that is no mark joins the first piece. -/
theorem piecesAt_cons_of_ne {mark character : Char} (different : character ≠ mark)
    {rest piece : List Char} {others : List (List Char)}
    (split : piecesAt mark rest = piece :: others) :
    piecesAt mark (character :: rest) = (character :: piece) :: others := by
  rw [piecesAt, if_neg different, split]

theorem piecesAt_append_of_not_mem {mark : Char} {front : List Char} (absent : mark ∉ front)
    {rest piece : List Char} {others : List (List Char)}
    (split : piecesAt mark rest = piece :: others) :
    piecesAt mark (front ++ rest) = (front ++ piece) :: others := by
  induction front with
  | nil => exact split
  | cons character front inductionHypothesis =>
      rw [List.mem_cons, not_or] at absent
      exact piecesAt_cons_of_ne (Ne.symm absent.1) (inductionHypothesis absent.2)

theorem piecesAt_of_not_mem {mark : Char} {text : List Char} (absent : mark ∉ text) :
    piecesAt mark text = [text] := by
  have whole := @piecesAt_append_of_not_mem mark text absent [] [] [] rfl
  rwa [List.append_nil] at whole

/-- What is put behind a text joins its last piece when it holds no mark. -/
theorem exists_piecesAt_append {mark : Char} (front : List Char) {back : List Char}
    (absent : mark ∉ back) :
    ∃ earlier last, piecesAt mark front = earlier ++ [last] ∧
      piecesAt mark (front ++ back) = earlier ++ [last ++ back] := by
  induction front with
  | nil => exact ⟨[], [], rfl, piecesAt_of_not_mem absent⟩
  | cons character front inductionHypothesis =>
      rcases inductionHypothesis with ⟨earlier, last, split, extended⟩
      by_cases isMark : character = mark
      · refine ⟨[] :: earlier, last, ?_, ?_⟩
        · rw [piecesAt, if_pos isMark, split, List.cons_append]
        · rw [List.cons_append, piecesAt, if_pos isMark, extended, List.cons_append]
      · cases earlier with
        | nil =>
            exact ⟨[], character :: last, piecesAt_cons_of_ne isMark split,
              piecesAt_cons_of_ne isMark extended⟩
        | cons piece others =>
            exact ⟨(character :: piece) :: others, last, piecesAt_cons_of_ne isMark split,
              piecesAt_cons_of_ne isMark extended⟩

end Text
end ComponentCompiler

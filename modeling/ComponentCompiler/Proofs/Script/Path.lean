import ComponentCompiler.Proofs.Script.Quoted
import ComponentCompiler.Proofs.Script.Spelling
import ComponentCompiler.Proofs.Text.Join
import ComponentCompiler.Script.Member

namespace ComponentCompiler
namespace Script

/-!
# Accesses along a path

The character behind an object expression tells whether its property is read with
a dot or in brackets.  So an access along a path is the path itself behind a dot
only when every segment of the path is an identifier.

It also tells where the name begins, and each of the two forms tells where it ends:
a bare name has neither dots nor brackets in it, and a quoted one ends at its quote.
So the segments are read back from the chain of accesses, whatever they hold.
-/

/-- The object expression with the names behind it, each behind a dot. -/
def dotted (object : String) (names : List String) : String :=
  names.foldl (fun code name => code ++ "." ++ name) object

theorem exists_foldl_eq_append {step : String → String → String}
    (adds : ∀ object name, ∃ behind, step object name = object ++ behind)
    (object : String) (names : List String) :
    ∃ behind, names.foldl step object = object ++ behind := by
  induction names generalizing object with
  | nil => exact ⟨"", String.append_empty.symm⟩
  | cons name rest inductionHypothesis =>
      rcases adds object name with ⟨first, stepped⟩
      rcases inductionHypothesis (step object name) with ⟨others, onward⟩
      exact ⟨first ++ others, by rw [List.foldl_cons, onward, stepped, String.append_assoc]⟩

theorem member_of_identifier {property : String} (bare : isIdentifier property = true)
    (object : String) : member object property = object ++ "." ++ property :=
  if_pos bare

theorem member_of_not_identifier {property : String} (quoted : ¬ isIdentifier property = true)
    (object : String) : member object property = object ++ "[" ++ quote property ++ "]" :=
  if_neg quoted

theorem exists_member_eq_append (object property : String) :
    ∃ behind, member object property = object ++ behind := by
  by_cases bare : isIdentifier property = true
  · exact ⟨"." ++ property, by rw [member_of_identifier bare, String.append_assoc]⟩
  · exact ⟨"[" ++ (quote property ++ "]"), by
      rw [member_of_not_identifier bare, String.append_assoc, String.append_assoc]⟩

theorem foldl_member_eq_dotted_iff (object : String) (names : List String) :
    names.foldl member object = dotted object names ↔
      ∀ name ∈ names, isIdentifier name = true := by
  induction names generalizing object with
  | nil => exact ⟨fun _ name member => absurd member List.not_mem_nil, fun _ => rfl⟩
  | cons name rest inductionHypothesis =>
      rw [List.forall_mem_cons, dotted, List.foldl_cons, List.foldl_cons]
      by_cases bare : isIdentifier name = true
      · rw [member_of_identifier bare]
        exact (inductionHypothesis _).trans ⟨fun others => ⟨bare, others⟩, And.right⟩
      · refine ⟨fun same => ?_, fun all => absurd all.1 bare⟩
        -- a bracket stands behind the object on one side, a dot on the other
        rcases exists_foldl_eq_append exists_member_eq_append (member object name) rest with ⟨first, bracketed⟩
        rcases exists_foldl_eq_append (fun code name => ⟨"." ++ name, String.append_assoc⟩)
          (object ++ "." ++ name) rest with ⟨second, pointed⟩
        rw [bracketed, pointed, member_of_not_identifier bare] at same
        have characters := congrArg String.toList same
        simp only [String.toList_append, List.append_assoc] at characters
        cases (List.cons.inj (List.append_cancel_left characters)).1

/-! ## The segments of a path -/

theorem flatMap_piecesAt (mark : Char) (characters : List Char) :
    (Text.piecesAt mark characters).flatMap (mark :: ·) = mark :: characters := by
  induction characters with
  | nil => rfl
  | cons character rest inductionHypothesis =>
      rw [Text.piecesAt]
      by_cases same : character = mark
      · rw [if_pos same, List.flatMap_cons, inductionHypothesis, same]
        rfl
      · rw [if_neg same]
        cases pieces : Text.piecesAt mark rest with
        | nil =>
            rw [pieces] at inductionHypothesis
            cases inductionHypothesis
        | cons piece others =>
            rw [pieces, List.flatMap_cons, List.cons_append] at inductionHypothesis
            rw [List.flatMap_cons, List.cons_append, List.cons_append,
              (List.cons.inj inductionHypothesis).2]

theorem toList_dotted (object : String) (names : List String) :
    (dotted object names).toList = object.toList ++ names.flatMap fun name => '.' :: name.toList := by
  induction names generalizing object with
  | nil => exact (List.append_nil _).symm
  | cons name rest inductionHypothesis =>
      rw [dotted, List.foldl_cons]
      refine (inductionHypothesis (object ++ "." ++ name)).trans ?_
      rw [String.toList_append, String.toList_append, List.flatMap_cons, List.append_assoc,
        List.append_assoc]
      rfl

/-- The segments of a path with the dots between them are the path. -/
theorem dotted_segments (object path : String) :
    dotted object (segments path) = object ++ "." ++ path := by
  have names : (segments path).flatMap (fun name => '.' :: name.toList) = '.' :: path.toList := by
    rw [segments, List.flatMap_map, ← flatMap_piecesAt]
    simp only [String.toList_ofList]
  apply String.toList_inj.mp
  rw [toList_dotted, names, String.toList_append, String.toList_append, List.append_assoc]
  rfl

/-- The access along a path is the path behind a dot when all segments are
identifiers, and only then. -/
theorem memberPath_eq_append_iff (object path : String) :
    memberPath object path = object ++ "." ++ path ↔
      ∀ segment ∈ segments path, isIdentifier segment = true := by
  rw [memberPath, ← dotted_segments]
  exact foldl_member_eq_dotted_iff object (segments path)

/-- A path is put together from its segments with dots between them. -/
theorem joinWith_segments (path : String) : Text.joinWith "." (segments path) = path := by
  have spelled : (Text.separated "." (segments path)).toList = '.' :: path.toList := by
    rw [Text.toList_separated, segments, List.flatMap_map, ← flatMap_piecesAt]
    simp only [String.toList_ofList]
    rfl
  cases pieces : segments path with
  | nil =>
      rw [pieces] at spelled
      cases spelled
  | cons segment rest =>
      rw [pieces] at spelled
      have whole : Text.separated "." (segment :: rest) =
          "." ++ Text.joinWith "." (segment :: rest) := by
        rw [Text.joinWith_cons, ← String.append_assoc]
        rfl
      rw [whole, String.toList_append] at spelled
      exact String.toList_inj.mp (List.cons.inj spelled).2

theorem not_mem_of_mem_piecesAt {mark : Char} {characters piece : List Char}
    (listed : piece ∈ Text.piecesAt mark characters) : mark ∉ piece := by
  induction characters generalizing piece with
  | nil =>
      rw [List.mem_singleton.mp listed]
      exact List.not_mem_nil
  | cons character rest inductionHypothesis =>
      rw [Text.piecesAt] at listed
      split at listed
      · rcases List.mem_cons.mp listed with rfl | later
        · exact List.not_mem_nil
        · exact inductionHypothesis later
      · rename_i different
        split at listed
        · rw [List.mem_singleton.mp listed, List.mem_singleton]
          exact Ne.symm different
        · rename_i first others pieces
          rw [pieces] at inductionHypothesis
          rcases List.mem_cons.mp listed with rfl | later
          · rw [List.mem_cons, not_or]
            exact ⟨Ne.symm different, inductionHypothesis List.mem_cons_self⟩
          · exact inductionHypothesis (List.mem_cons_of_mem _ later)

/-- No segment of a path has a dot in it. -/
theorem not_mem_segment {path segment : String} (listed : segment ∈ segments path) :
    '.' ∉ segment.toList := by
  rcases List.mem_map.mp listed with ⟨piece, isPiece, rfl⟩
  rw [String.toList_ofList]
  exact not_mem_of_mem_piecesAt isPiece

/-! ## Reading a chain of accesses -/

/-- Whether a character of a chain goes on with a bare name: it begins no access. -/
def isBarePart (character : Char) : Bool :=
  character ≠ '.' && character ≠ '['

/-- The name of the access that the characters start with, and what stands behind it. -/
def readAccess : List Char → Option (String × List Char)
  | [] => none
  | character :: rest =>
    if character = '.' then
      some (String.ofList (rest.takeWhile isBarePart), rest.dropWhile isBarePart)
    else if character = '[' then
      (readQuoted rest).bind fun read =>
        if read.2.head? = some ']' then some (read.1, read.2.tail) else none
    else none

theorem length_lt_of_readAccess {characters rest : List Char} {name : String}
    (read : readAccess characters = some (name, rest)) : rest.length < characters.length := by
  cases characters with
  | nil => cases read
  | cons character others =>
      rw [readAccess] at read
      split at read
      · cases read
        exact Nat.lt_succ_of_le (List.dropWhile_sublist isBarePart).length_le
      split at read
      · rcases Option.bind_eq_some_iff.mp read with ⟨⟨text, behind⟩, quoted, closed⟩
        have shorter := length_lt_of_readQuoted quoted
        dsimp only at closed
        split at closed
        · cases closed
          rw [List.length_tail, List.length_cons]
          omega
        · cases closed
      · cases read

/-- The names of a chain of accesses. -/
def readChain (characters : List Char) : Option (List String) :=
  if characters = [] then some []
  else
    match _read : readAccess characters with
    | none => none
    | some (name, rest) => (readChain rest).map (name :: ·)
termination_by characters.length
decreasing_by exact length_lt_of_readAccess _read

theorem readChain_of_readAccess {characters rest : List Char} {name : String}
    (read : readAccess characters = some (name, rest)) :
    readChain characters = (readChain rest).map (name :: ·) := by
  have nonempty : characters ≠ [] := by
    rintro rfl
    cases read
  rw [readChain, if_neg nonempty]
  split
  · rename_i absent
    rw [read] at absent
    cases absent
  · rename_i found
    rw [read] at found
    cases found
    rfl

/-- The characters that access a property behind an object. -/
def accessChars (property : String) : List Char :=
  if isIdentifier property then '.' :: property.toList
  else '[' :: ((quote property).toList ++ [']'])

theorem toList_member (object property : String) :
    (member object property).toList = object.toList ++ accessChars property := by
  unfold member accessChars
  split
  · rw [String.toList_append, String.toList_append, List.append_assoc]
    rfl
  · have opening : "[".toList = ['['] := rfl
    have closing : "]".toList = [']'] := rfl
    rw [String.toList_append, String.toList_append, String.toList_append, opening, closing,
      List.append_assoc, List.append_assoc, List.singleton_append]

theorem toList_foldl_member (object : String) (names : List String) :
    (names.foldl member object).toList = object.toList ++ names.flatMap accessChars := by
  induction names generalizing object with
  | nil => exact (List.append_nil _).symm
  | cons name rest inductionHypothesis =>
      rw [List.foldl_cons, inductionHypothesis, toList_member, List.flatMap_cons, List.append_assoc]

theorem isBarePart_of_isIdentifierPart {character : Char}
    (part : isIdentifierPart character = true) : isBarePart character = true := by
  unfold isBarePart
  rw [Bool.and_eq_true, decide_eq_true_eq, decide_eq_true_eq]
  constructor
  · rintro rfl
    cases part
  · rintro rfl
    cases part

/-- An identifier goes on with parts of a bare name, also when a line feed ends it. -/
theorem isBarePart_of_mem_identifier {name : String} (bare : isIdentifier name = true)
    {character : Char} (member : character ∈ name.toList) : isBarePart character = true := by
  by_cases isBreak : character = '\n'
  · rw [isBreak]
    rfl
  · have inside : character ∈ withoutFinalBreak name.toList := by
      unfold withoutFinalBreak
      split
      · rename_i broken
        rcases List.getLast?_eq_some_iff.mp broken with ⟨others, spelled⟩
        rw [spelled] at member ⊢
        rw [List.dropLast_concat]
        rcases List.mem_append.mp member with early | last
        · exact early
        · exact absurd (List.mem_singleton.mp last) isBreak
      · exact member
    have parts := (parts_of_isPlainIdentifier bare).2
    exact isBarePart_of_isIdentifierPart (List.all_eq_true.mp parts character inside)

section Apart

variable {passes : Char → Bool} {word rest : List Char}

/-- A word is taken as a whole when what stands behind it cannot continue it. -/
theorem takeWhile_append_of_apart (all : ∀ character ∈ word, passes character = true)
    (apart : ∀ character ∈ rest.head?, passes character = false) :
    (word ++ rest).takeWhile passes = word := by
  rw [List.takeWhile_append_of_pos all]
  cases rest with
  | nil => exact List.append_nil word
  | cons character others =>
      rw [List.takeWhile_cons_of_neg (Bool.eq_false_iff.mp (apart character rfl)), List.append_nil]

theorem dropWhile_append_of_apart (all : ∀ character ∈ word, passes character = true)
    (apart : ∀ character ∈ rest.head?, passes character = false) :
    (word ++ rest).dropWhile passes = rest := by
  rw [List.dropWhile_append_of_pos all]
  cases rest with
  | nil => rfl
  | cons character others =>
      exact List.dropWhile_cons_of_neg (Bool.eq_false_iff.mp (apart character rfl))

end Apart

/-- An access is read as the name of its property, and nothing behind it is touched. -/
theorem readAccess_accessChars (property : String) {rest : List Char}
    (apart : ∀ character ∈ rest.head?, isBarePart character = false) :
    readAccess (accessChars property ++ rest) = some (property, rest) := by
  unfold accessChars
  split
  · rename_i bare
    have parts : ∀ character ∈ property.toList, isBarePart character = true :=
      fun character member => isBarePart_of_mem_identifier bare member
    rw [List.cons_append, readAccess, if_pos rfl, takeWhile_append_of_apart parts apart,
      dropWhile_append_of_apart parts apart, String.ofList_toList]
  · have bracket : '[' ≠ '.' := by decide
    rw [List.cons_append, List.append_assoc, readAccess, if_neg bracket, if_pos rfl,
      readQuoted_quote, Option.bind_some]
    rfl

theorem head?_chain (names : List String) {character : Char}
    (first : character ∈ (names.flatMap accessChars).head?) : isBarePart character = false := by
  cases names with
  | nil => cases first
  | cons name rest =>
      rw [List.flatMap_cons] at first
      unfold accessChars at first
      split at first
      · cases first
        rfl
      · cases first
        rfl

/-- The names of a chain of accesses are read back. -/
theorem readChain_chain (names : List String) :
    readChain (names.flatMap accessChars) = some names := by
  induction names with
  | nil =>
      rw [List.flatMap_nil, readChain]
      rfl
  | cons name rest inductionHypothesis =>
      have first := readAccess_accessChars name fun _ => head?_chain rest
      rw [List.flatMap_cons, readChain_of_readAccess first, inductionHypothesis]
      rfl

/-- What stands behind the object in an access along a path is read as the segments of
the path. -/
theorem exists_chain_of_memberPath (object path : String) :
    ∃ chain, memberPath object path = object ++ chain ∧
      readChain chain.toList = some (segments path) := by
  refine ⟨String.ofList ((segments path).flatMap accessChars), ?_, ?_⟩
  · apply String.toList_inj.mp
    rw [memberPath, toList_foldl_member, String.toList_append, String.toList_ofList]
  · rw [String.toList_ofList, readChain_chain]

theorem memberPath_injective (object : String) {first second : String}
    (same : memberPath object first = memberPath object second) : first = second := by
  rcases exists_chain_of_memberPath object first with ⟨chain, spelled, read⟩
  rcases exists_chain_of_memberPath object second with ⟨other, otherSpelled, otherRead⟩
  have sameChain : chain = other := by
    rw [spelled, otherSpelled] at same
    have characters := congrArg String.toList same
    rw [String.toList_append, String.toList_append] at characters
    exact String.toList_inj.mp (List.append_cancel_left characters)
  rw [sameChain] at read
  have sameSegments : segments first = segments second := Option.some.inj (read.symm.trans otherRead)
  rw [← joinWith_segments first, sameSegments, joinWith_segments]

end Script
end ComponentCompiler

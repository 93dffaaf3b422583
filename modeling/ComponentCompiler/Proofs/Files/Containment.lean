import ComponentCompiler.Files.Output
import ComponentCompiler.Proofs.Generator.Imports
import ComponentCompiler.Proofs.Naming.Boundaries
import ComponentCompiler.Proofs.Text.Casing
import ComponentCompiler.Proofs.Text.Join

namespace ComponentCompiler

open Naming Text

/-!
# Whether the output stays in its directory

A file of the output is named after its component, in dash case, and its path is seen
from the output directory.  Dash case changes neither slashes nor dots.  So a component
can be named after a path that starts at a root, or one that goes up by more double dots
than it has names in front of them, and its files then lie outside.  They lie inside every
directory exactly when the name does neither.
-/

namespace Path

/-! ## Paths in normal form -/

/-- One more part behind parts in normal form.  A double dot takes back the name in front
of it; where there is none it is dropped below a root and kept otherwise. -/
def normalStep (absolute : Bool) (kept : List String) (part : String) : List String :=
  if part = "" ∨ part = "." then kept
  else if part ≠ ".." then kept ++ [part]
  else
    match kept.getLast? with
    | none => if absolute then [] else [".."]
    | some last => if last = ".." then kept ++ [".."] else kept.dropLast

/-- The parts of a path whose double dots are resolved by name. -/
def normalParts (path : Path) : List String :=
  path.parts.foldl (normalStep path.isAbsolute) []

/-- A path lies inside a directory: in normal form it is the directory with names behind
it. -/
def IsInside (path directory : Path) : Prop :=
  path.root = directory.root ∧
    ∃ below, path.normalParts = directory.normalParts ++ below ∧ ".." ∉ below

/-- Whether parts lead above the place from which they are seen, when so many names stand
between. -/
def climbs (depth : Nat) : List String → Bool
  | [] => false
  | part :: rest =>
    if part = "" ∨ part = "." then climbs depth rest
    else if part ≠ ".." then climbs (depth + 1) rest
    else depth = 0 || climbs (depth - 1) rest

section Steps

variable {absolute : Bool} {kept : List String} {part : String}

theorem normalStep_of_blank (blank : part = "" ∨ part = ".") :
    normalStep absolute kept part = kept :=
  if_pos blank

theorem normalStep_of_name (solid : ¬ (part = "" ∨ part = ".")) (named : part ≠ "..") :
    normalStep absolute kept part = kept ++ [part] := by
  rw [normalStep, if_neg solid, if_pos named]

theorem normalStep_concat {last : String} (named : last ≠ "..") :
    normalStep absolute (kept ++ [last]) ".." = kept := by
  have solid : ¬ (".." = "" ∨ ".." = ".") := by decide
  rw [normalStep, if_neg solid, if_neg (not_not_intro rfl), List.getLast?_concat]
  simp only [if_neg named, List.dropLast_concat]

/-- A step brings no other name in than its own. -/
theorem not_mem_normalStep {name : String} (other : name ≠ "..") (absent : name ∉ kept)
    (different : name ≠ part) : name ∉ normalStep absolute kept part := by
  unfold normalStep
  split
  · exact absent
  split
  · simp only [List.mem_append, List.mem_singleton, absent, different, or_self, not_false_eq_true]
  split
  · split
    · exact List.not_mem_nil
    · simp only [List.mem_singleton, other, not_false_eq_true]
  · split
    · simp only [List.mem_append, List.mem_singleton, absent, other, or_self, not_false_eq_true]
    · exact fun member => absent (List.dropLast_subset kept member)

theorem not_mem_foldl_normalStep {name : String} (other : name ≠ "..") {parts : List String}
    (absent : name ∉ kept) (unused : name ∉ parts) :
    name ∉ parts.foldl (normalStep absolute) kept := by
  induction parts generalizing kept with
  | nil => exact absent
  | cons part rest inductionHypothesis =>
      rw [List.mem_cons, not_or] at unused
      exact inductionHypothesis (not_mem_normalStep other absent unused.1) unused.2

end Steps

/-! ## Walking down and climbing -/

/-- How parts are walked from some names below a place: they end below it, or they meet a
double dot at the place itself. -/
inductive Walked (absolute : Bool) (base names parts : List String) : Prop
  | below (stays : climbs names.length parts = false) (ends : List String)
      (walked : parts.foldl (normalStep absolute) (base ++ names) = base ++ ends)
      (named : ".." ∉ ends)
  | above (climbing : climbs names.length parts = true) (earlier later : List String)
      (split : parts = earlier ++ ".." :: later)
      (back : earlier.foldl (normalStep absolute) (base ++ names) = base)

/-- A part after which names are left below the place leaves it to the rest. -/
theorem Walked.cons {absolute : Bool} {base names next rest : List String} {part : String}
    (later : Walked absolute base next rest)
    (step : normalStep absolute (base ++ names) part = base ++ next)
    (counted : climbs names.length (part :: rest) = climbs next.length rest) :
    Walked absolute base names (part :: rest) := by
  cases later with
  | below stays ends walked named =>
      refine .below (counted.trans stays) ends ?_ named
      rw [List.foldl_cons, step, walked]
  | above climbing earlier behind split back =>
      refine .above (counted.trans climbing) (part :: earlier) behind ?_ ?_
      · rw [split, List.cons_append]
      · rw [List.foldl_cons, step, back]

theorem walked (absolute : Bool) (base : List String) {names : List String}
    (named : ".." ∉ names) (parts : List String) : Walked absolute base names parts := by
  induction parts generalizing names with
  | nil => exact .below rfl names rfl named
  | cons part rest inductionHypothesis =>
      by_cases blank : part = "" ∨ part = "."
      · exact (inductionHypothesis named).cons (normalStep_of_blank blank) (if_pos blank)
      by_cases isName : part ≠ ".."
      · have longer : ".." ∉ names ++ [part] := by
          rw [List.mem_append, List.mem_singleton, not_or]
          exact ⟨named, Ne.symm isName⟩
        apply (inductionHypothesis longer).cons
        · rw [normalStep_of_name blank isName, List.append_assoc]
        · rw [climbs, if_neg blank, if_pos isName, List.length_append, List.length_singleton]
      · have up (depth : Nat) : climbs depth (part :: rest) =
            (decide (depth = 0) || climbs (depth - 1) rest) := by
          rw [climbs, if_neg blank, if_neg isName]
        rw [not_not] at isName
        rcases List.eq_nil_or_concat' names with rfl | ⟨earlier, last, rfl⟩
        · refine .above (up 0) [] rest ?_ (List.append_nil base)
          rw [isName, List.nil_append]
        · rw [List.mem_append, List.mem_singleton, not_or] at named
          apply (inductionHypothesis named.1).cons
          · rw [isName, ← List.append_assoc, normalStep_concat (Ne.symm named.2)]
          · rw [up, List.length_append, List.length_singleton, Nat.add_sub_cancel,
              decide_eq_false (Nat.succ_ne_zero _), Bool.false_or]

/-- A path that starts at no root and does not climb leads into every directory. -/
theorem isInside_join {path : Path} (relative : path.isAbsolute = false)
    (stays : climbs 0 path.parts = false) (base : Path) : (base.join path).IsInside base := by
  have joined : base.join path = { base with parts := base.parts ++ path.parts } := by
    rw [join, relative, if_neg Bool.false_ne_true]
  cases walked base.isAbsolute base.normalParts List.not_mem_nil path.parts with
  | below _ ends walked named =>
      rw [List.append_nil] at walked
      rw [joined]
      refine ⟨rfl, ends, ?_, named⟩
      rw [← walked]
      exact List.foldl_append
  | above climbing => exact absurd climbing (Bool.eq_false_iff.mp stays)

/-- Once parts have climbed above a directory below a root, its name is gone. -/
theorem not_mem_foldl_of_climbs {directory : String} (other : directory ≠ "..")
    {parts : List String} (unused : directory ∉ parts) (climbing : climbs 0 parts = true) :
    directory ∉ parts.foldl (normalStep true) [directory] := by
  cases walked true [directory] List.not_mem_nil parts with
  | below stays => exact absurd climbing (Bool.eq_false_iff.mp stays)
  | above _ earlier later split back =>
      have gone : normalStep true ([] ++ [directory]) ".." = [] := normalStep_concat other
      rw [List.append_nil] at back
      rw [List.nil_append] at gone
      rw [split, List.mem_append, List.mem_cons, not_or, not_or] at unused
      rw [split, List.foldl_append, back, List.foldl_cons, gone]
      exact not_mem_foldl_normalStep other List.not_mem_nil unused.2.2

theorem exists_longer (parts : List String) : ∃ size, ∀ part ∈ parts, part.length < size := by
  induction parts with
  | nil => exact ⟨0, fun part member => absurd member List.not_mem_nil⟩
  | cons part rest inductionHypothesis =>
      rcases inductionHypothesis with ⟨size, longer⟩
      refine ⟨part.length + 1 + size, List.forall_mem_cons.mpr ⟨by omega, fun other member => ?_⟩⟩
      have shorter := longer other member
      omega

/-- A name of so many letters. -/
def longName (size : Nat) : String :=
  String.ofList (List.replicate size 'x')

theorem length_longName (size : Nat) : (longName size).length = size := by
  rw [longName, String.length_ofList, List.length_replicate]

theorem longName_ne {size : Nat} {text : String} (shorter : text.length < size) :
    longName size ≠ text := by
  rintro rfl
  rw [length_longName] at shorter
  exact Nat.lt_irrefl size shorter

theorem ofText_longName {size : Nat} (long : ".".length < size) :
    ofText ("/" ++ longName size) = ⟨"/", [longName size]⟩ := by
  have solid : "".length < size := Nat.lt_trans (by decide) long
  have letters : '/' ∉ List.replicate size 'x' :=
    fun member => absurd (List.eq_of_mem_replicate member) (by decide)
  have slash : "/".toList = ['/'] := rfl
  have spelled : ("/" ++ longName size).toList = '/' :: List.replicate size 'x' := by
    rw [String.toList_append, slash, longName, String.toList_ofList, List.singleton_append]
  have root : rootOf ('/' :: List.replicate size 'x') = "/" := by
    cases size with
    | zero => rfl
    | succ size =>
        rw [List.replicate_succ]
        rfl
  unfold ofText
  rw [spelled, root, piecesAt, if_pos rfl, piecesAt_of_not_mem letters, List.map_cons, List.map_cons,
    List.map_nil, ← longName, List.filter_cons_of_neg (by decide), List.filter_cons_of_pos]
  · rfl
  · simp only [ne_eq, longName_ne solid, longName_ne long, not_false_eq_true, decide_true,
      Bool.and_true]

/-- A path that starts at a root or climbs leads out of some directory. -/
theorem exists_outside {path : Path}
    (leaves : path.isAbsolute = true ∨ climbs 0 path.parts = true) :
    ∃ directory, ¬ ((ofText directory).join path).IsInside (ofText directory) := by
  -- the directory has a name that is not among the parts
  rcases exists_longer (".." :: path.parts) with ⟨size, longer⟩
  rw [List.forall_mem_cons] at longer
  have long : ".".length < size := Nat.lt_trans (by decide) longer.1
  have solid : ¬ (longName size = "" ∨ longName size = ".") :=
    not_or.mpr ⟨longName_ne (Nat.lt_trans (by decide) long), longName_ne long⟩
  have other : longName size ≠ ".." := longName_ne longer.1
  have unused : longName size ∉ path.parts := fun member => longName_ne (longer.2 _ member) rfl
  refine ⟨"/" ++ longName size, ?_⟩
  rw [ofText_longName long]
  rintro ⟨_, below, whole, _⟩
  have directory : (⟨"/", [longName size]⟩ : Path).normalParts = [longName size] :=
    normalStep_of_name solid other
  rw [directory] at whole
  have found : longName size ∈ ((⟨"/", [longName size]⟩ : Path).join path).normalParts :=
    whole ▸ List.mem_cons_self
  revert found
  cases absolute : path.isAbsolute with
  | true =>
      rw [join, absolute, if_pos rfl]
      exact not_mem_foldl_normalStep other List.not_mem_nil unused
  | false =>
      have climbing := leaves.resolve_left (Bool.eq_false_iff.mp absolute)
      rw [join, absolute, if_neg Bool.false_ne_true]
      have walked : ({ root := "/", parts := [longName size] ++ path.parts } : Path).normalParts =
          path.parts.foldl (normalStep true) [longName size] :=
        congrArg (path.parts.foldl (normalStep true)) (normalStep_of_name solid other)
      rw [walked]
      exact not_mem_foldl_of_climbs other unused climbing

/-! ## Texts of paths -/

/-- The names in front of the last slash of a text. -/
def folders (text : String) : List String :=
  (piecesAt '/' text.toList).dropLast.map String.ofList

/-- Whether a name leads out of a directory: it starts at a root, or what stands in front
of its last slash climbs above the directory. -/
def leadsOut (name : String) : Bool :=
  name.toList.head? = some '/' || climbs 0 (folders name)

theorem climbs_filter (depth : Nat) (parts : List String) :
    climbs depth (parts.filter fun part => part ≠ "" && part ≠ ".") = climbs depth parts := by
  induction parts generalizing depth with
  | nil => rfl
  | cons part rest inductionHypothesis =>
      by_cases blank : part = "" ∨ part = "."
      · have dropped : ¬ (part ≠ "" && part ≠ ".") = true := by
          rcases blank with rfl | rfl
          all_goals decide
        rw [List.filter_cons, if_neg dropped, inductionHypothesis, climbs, if_pos blank]
      · have kept : (part ≠ "" && part ≠ ".") = true := by
          rw [not_or] at blank
          simp only [ne_eq, blank, not_false_eq_true, decide_true, Bool.and_true]
        rw [List.filter_cons, if_pos kept, climbs, climbs, inductionHypothesis, inductionHypothesis,
          inductionHypothesis]

/-- A name at the end of parts makes no difference. -/
theorem climbs_concat {name : String} (named : name ≠ "..") (depth : Nat) (parts : List String) :
    climbs depth (parts ++ [name]) = climbs depth parts := by
  induction parts generalizing depth with
  | nil =>
      rw [List.nil_append, climbs, climbs, if_pos named]
      split
      all_goals rfl
  | cons part rest inductionHypothesis =>
      rw [List.cons_append, climbs, climbs, inductionHypothesis, inductionHypothesis,
        inductionHypothesis]

theorem isAbsolute_ofText (text : String) :
    (ofText text).isAbsolute = decide (text.toList.head? = some '/') := by
  unfold ofText isAbsolute rootOf
  cases text.toList with
  | nil => rfl
  | cons first rest =>
      by_cases slash : first = '/'
      · subst slash
        rw [List.takeWhile_cons_of_pos (by decide), List.head?_cons, List.length_cons]
        split
        · rename_i impossible
          cases impossible
        all_goals rfl
      · rw [List.takeWhile_cons_of_neg (by simpa using slash), List.head?_cons]
        simp [slash]

/-- Where a file of the output goes is told by its name alone, since its extension makes the
last part a name. -/
theorem inside_every_iff {name extension : String} (plain : '/' ∉ extension.toList)
    (ends : ∃ last, extension.toList.getLast? = some last ∧ last ≠ '.') :
    (∀ directory, ((ofText directory).join (ofText (name ++ "." ++ extension))).IsInside
      (ofText directory)) ↔ leadsOut name = false := by
  have spelled : (name ++ "." ++ extension).toList = name.toList ++ '.' :: extension.toList := by
    have dot : ".".toList = ['.'] := rfl
    rw [String.toList_append, String.toList_append, dot, List.append_assoc, List.singleton_append]
  have unslashed : '/' ∉ '.' :: extension.toList := by
    rw [List.mem_cons, not_or]
    exact ⟨by decide, plain⟩
  rcases exists_piecesAt_append name.toList unslashed with ⟨earlier, last, split, extended⟩
  have parts : climbs 0 (ofText (name ++ "." ++ extension)).parts = climbs 0 (folders name) := by
    have named : String.ofList (last ++ '.' :: extension.toList) ≠ ".." := by
      intro dots
      rcases ends with ⟨final, isLast, noDot⟩
      have tail := congrArg (fun text : String => text.toList.getLast?) dots
      simp only [String.toList_ofList, List.getLast?_append, List.getLast?_cons, isLast] at tail
      exact noDot (Option.some.inj tail)
    unfold ofText
    rw [climbs_filter, spelled, extended, List.map_append, List.map_singleton, climbs_concat named,
      folders, split, List.dropLast_concat]
  have start : (ofText (name ++ "." ++ extension)).isAbsolute =
      decide (name.toList.head? = some '/') := by
    rw [isAbsolute_ofText, spelled]
    cases name.toList with
    | nil => rfl
    | cons first rest => rfl
  rw [leadsOut, ← start, ← parts]
  constructor
  · intro inside
    by_contra leaves
    rw [Bool.not_eq_false, Bool.or_eq_true] at leaves
    rcases exists_outside leaves with ⟨directory, outside⟩
    exact outside (inside directory)
  · intro stays directory
    rw [Bool.or_eq_false_iff] at stays
    exact isInside_join stays.1 stays.2 _

/-! ## What dash case leaves alone -/

/-- Whether a character shapes a path: a slash or a dot. -/
def isPathMark (character : Char) : Bool :=
  character = '/' || character = '.'

/-- A text is spelled anew, all but its slashes and dots. -/
inductive Respelled : List Char → List Char → Prop
  | nil : Respelled [] []
  | kept {mark : Char} {rest spelled : List Char} (isMark : isPathMark mark = true)
      (later : Respelled rest spelled) : Respelled (mark :: rest) (mark :: spelled)
  | changed {character : Char} {image rest spelled : List Char}
      (noMark : isPathMark character = false) (nonempty : image ≠ [])
      (unmarked : ∀ inside ∈ image, isPathMark inside = false) (later : Respelled rest spelled) :
      Respelled (character :: rest) (image ++ spelled)

namespace Respelled

variable {text spelled : List Char}

theorem head?_eq_slash_iff (respelled : Respelled text spelled) :
    spelled.head? = some '/' ↔ text.head? = some '/' := by
  cases respelled with
  | nil => rfl
  | kept _ _ => rfl
  | @changed character image rest _ noMark nonempty unmarked _ =>
      cases image with
      | nil => exact absurd rfl nonempty
      | cons first others =>
          constructor
          · intro slash
            cases slash
            cases unmarked '/' List.mem_cons_self
          · intro slash
            cases slash
            cases noMark

/-- A text of dots only is spelled by no other. -/
theorem eq_dots_iff (respelled : Respelled text spelled) {dots : List Char}
    (only : ∀ dot ∈ dots, dot = '.') : spelled = dots ↔ text = dots := by
  induction respelled generalizing dots with
  | nil => rfl
  | kept _ _ inductionHypothesis =>
      cases dots with
      | nil => simp only [reduceCtorEq]
      | cons dot rest =>
          rw [List.forall_mem_cons] at only
          rw [List.cons.injEq, List.cons.injEq, inductionHypothesis only.2]
  | @changed character image rest _ noMark nonempty unmarked _ _ =>
      constructor
      · rintro rfl
        rcases List.exists_mem_of_ne_nil image nonempty with ⟨inside, member⟩
        have dot := only inside (List.mem_append_left _ member)
        have noDot := unmarked inside member
        rw [dot] at noDot
        cases noDot
      · rintro rfl
        rw [only character List.mem_cons_self] at noMark
        cases noMark

/-- The pieces between slashes are spelled anew one by one. -/
theorem piecesAt (respelled : Respelled text spelled) :
    List.Forall₂ Respelled (piecesAt '/' text) (piecesAt '/' spelled) := by
  induction respelled with
  | nil => exact .cons .nil .nil
  | @kept mark rest spelled isMark _ inductionHypothesis =>
      by_cases slash : mark = '/'
      · rw [Text.piecesAt, Text.piecesAt, if_pos slash, if_pos slash]
        exact .cons .nil inductionHypothesis
      · rcases exists_piecesAt_cons '/' rest with ⟨piece, others, split⟩
        rcases exists_piecesAt_cons '/' spelled with ⟨newPiece, newOthers, newSplit⟩
        rw [split, newSplit, List.forall₂_cons] at inductionHypothesis
        rw [piecesAt_cons_of_ne slash split, piecesAt_cons_of_ne slash newSplit]
        exact .cons (.kept isMark inductionHypothesis.1) inductionHypothesis.2
  | @changed character image rest spelled noMark nonempty unmarked _ inductionHypothesis =>
      rcases exists_piecesAt_cons '/' rest with ⟨piece, others, split⟩
      rcases exists_piecesAt_cons '/' spelled with ⟨newPiece, newOthers, newSplit⟩
      have noSlash : character ≠ '/' := by
        rintro rfl
        cases noMark
      have unslashed : '/' ∉ image := by
        intro member
        cases unmarked '/' member
      rw [split, newSplit, List.forall₂_cons] at inductionHypothesis
      rw [piecesAt_cons_of_ne noSlash split, piecesAt_append_of_not_mem unslashed newSplit]
      exact .cons (.changed noMark nonempty unmarked inductionHypothesis.1) inductionHypothesis.2

end Respelled

/-- Whether parts climb depends on their dots only. -/
theorem climbs_of_respelled {pieces others : List (List Char)}
    (aligned : List.Forall₂ Respelled pieces others) (depth : Nat) :
    climbs depth (others.map String.ofList) = climbs depth (pieces.map String.ofList) := by
  induction aligned generalizing depth with
  | nil => rfl
  | @cons piece other _ _ respelled _ inductionHypothesis =>
      have same (dots : String) (only : ∀ dot ∈ dots.toList, dot = '.') :
          String.ofList other = dots ↔ String.ofList piece = dots := by
        rw [← String.toList_inj, ← String.toList_inj, String.toList_ofList, String.toList_ofList]
        exact respelled.eq_dots_iff only
      have empty := same "" fun dot member => absurd member List.not_mem_nil
      have single := same "." fun dot member => List.mem_singleton.mp member
      have double := same ".." fun dot member => @List.eq_of_mem_replicate _ '.' dot 2 member
      rw [List.map_cons, List.map_cons, climbs, climbs, inductionHypothesis, inductionHypothesis,
        inductionHypothesis]
      simp only [empty, single, double, ne_eq]

theorem leadsOut_of_respelled {name spelled : String}
    (respelled : Respelled name.toList spelled.toList) : leadsOut spelled = leadsOut name := by
  have dropped : List.Forall₂ Respelled (piecesAt '/' name.toList).dropLast
      (piecesAt '/' spelled.toList).dropLast := by
    rw [List.dropLast_eq_take, List.dropLast_eq_take, respelled.piecesAt.length_eq]
    exact List.forall₂_take _ respelled.piecesAt
  unfold leadsOut folders
  rw [climbs_of_respelled dropped]
  congr 1
  exact decide_eq_decide.mpr respelled.head?_eq_slash_iff

/-! ### The dashed spelling -/

section PathMarks

variable {mark : Char} (isMark : isPathMark mark = true)
include isMark

theorem eq_of_isPathMark : mark = '/' ∨ mark = '.' := by
  rw [isPathMark, Bool.or_eq_true, decide_eq_true_iff, decide_eq_true_iff] at isMark
  exact isMark

theorem noLetter_of_isPathMark : mark.toNat < 0x80 ∧ mark.isAlpha = false := by
  rcases eq_of_isPathMark isMark with rfl | rfl
  all_goals decide

theorem dashFor_of_isPathMark : dashFor mark = mark := by
  rcases eq_of_isPathMark isMark with rfl | rfl
  all_goals rfl

end PathMarks

theorem isPathMark_dashFor {character : Char} (noMark : isPathMark character = false) :
    isPathMark (dashFor character) = false := by
  unfold dashFor
  split
  · rfl
  · exact noMark

theorem isPathMark_of_isUpper {character : Char} (capital : character.isUpper = true) :
    isPathMark character = false := by
  refine Bool.eq_false_iff.mpr fun isMark => ?_
  rcases eq_of_isPathMark isMark with rfl | rfl
  all_goals cases capital

/-- One character in its place: its small form, and a dash for a break. -/
theorem Respelled.lowered {before rest written : List Char} (character : Char)
    (later : Respelled rest (lowerAfter (dashFor character :: before) written)) :
    Respelled (character :: rest) (lowerAfter before (dashFor character :: written)) := by
  rw [lowerAfter_cons]
  cases isMark : isPathMark character with
  | true =>
      have noLetter := noLetter_of_isPathMark isMark
      rw [dashFor_of_isPathMark isMark] at later ⊢
      rw [smallForm_of_noLetter noLetter.1 noLetter.2]
      exact .kept isMark later
  | false =>
      refine .changed isMark (smallForm_ne_nil _ _ _) (fun inside member => ?_) later
      refine Bool.eq_false_iff.mpr fun insideMark => ?_
      have noLetter := noLetter_of_isPathMark insideMark
      rw [(mem_smallForm_iff noLetter.1 noLetter.2).mp member, isPathMark_dashFor isMark] at insideMark
      cases insideMark

/-- A dash more in front of a character that is no mark. -/
theorem Respelled.dashed {character : Char} {rest spelled : List Char}
    (respelled : Respelled (character :: rest) spelled) (noMark : isPathMark character = false) :
    Respelled (character :: rest) ('-' :: spelled) := by
  cases respelled with
  | kept isMark => exact absurd isMark (Bool.eq_false_iff.mp noMark)
  | changed _ _ unmarked later =>
      exact .changed noMark (List.cons_ne_nil '-' _) (List.forall_mem_cons.mpr ⟨rfl, unmarked⟩) later

theorem respelled_dashedBehind (first : Char) (before rest : List Char) :
    Respelled rest (lowerAfter before ((dashedBehind first rest).map dashFor)) := by
  induction rest generalizing first before with
  | nil => exact .nil
  | cons character rest inductionHypothesis =>
      rw [dashedBehind, dashIf]
      split
      · rename_i boundary
        have capital : character.isUpper = true := ((Bool.and_eq_true _ _).mp boundary).1
        have dash : dashFor '-' = '-' := rfl
        have small : smallForm before '-' ((character :: dashedBehind character rest).map dashFor) =
            ['-'] :=
          smallForm_of_noLetter (by decide) (by decide)
        rw [List.map_cons, dash, lowerAfter_cons, small]
        exact (Respelled.lowered character (inductionHypothesis character _)).dashed
          (isPathMark_of_isUpper capital)
      · exact Respelled.lowered character (inductionHypothesis character _)

theorem respelled_dashCase (name : String) : Respelled name.toList (dashCase name).toList := by
  rw [dashCase, String.toList_ofList, dashCaseChars]
  cases name.toList with
  | nil => exact .nil
  | cons first rest =>
      rw [separateHumps_separateWords]
      exact Respelled.lowered first (respelled_dashedBehind first _ rest)

end Path

/-! ## The output of a component -/

/-- The files of a component are named after it. -/
theorem name_of_mem_files {generator : Generator} {overrides : Option MappingTable}
    {component : Component} {compiled : CompiledComponent}
    (succeeded : (generator.compile overrides component).outcome = .ok compiled) {file : OutputFile}
    (member : file ∈ compiled.files) :
    file.name = dashCase component.name ∧ ∃ kind : ChunkKind, file.extension = kind.extension := by
  rcases Traced.outcome_bind_eq_ok.mp succeeded with ⟨assembly, _, afterAssembly⟩
  rcases Traced.outcome_bind_eq_ok.mp afterAssembly with ⟨files, filesMade, afterFiles⟩
  rcases Traced.outcome_bind_eq_ok.mp afterFiles with ⟨_, _, last⟩
  cases last
  rcases files_of_assemble filesMade with ⟨script, stylesheet, scriptMade, stylesheetMade, rfl⟩
  rcases List.mem_append.mp member with inScript | inStylesheet
  · rcases eq_of_mem_assembleKind scriptMade inScript with ⟨content, rfl⟩
    exact ⟨rfl, .script, rfl⟩
  · rcases eq_of_mem_assembleKind stylesheetMade inStylesheet with ⟨content, rfl⟩
    exact ⟨rfl, .stylesheet, rfl⟩

/-- The output of a component lies inside the output directory, whichever it is, exactly
when the name of the component does not lead out of a directory. -/
theorem output_inside_every_directory_iff {generator : Generator}
    {overrides : Option MappingTable} {component : Component} {compiled : CompiledComponent}
    (succeeded : (generator.compile overrides component).outcome = .ok compiled) :
    ∀ file ∈ compiled.files,
      (∀ directory, (file.place (Path.ofText directory)).IsInside (Path.ofText directory)) ↔
        Path.leadsOut component.name = false := by
  intro file member
  rcases name_of_mem_files succeeded member with ⟨named, kind, extended⟩
  have plain : '/' ∉ kind.extension.toList ∧
      ∃ last, kind.extension.toList.getLast? = some last ∧ last ≠ '.' := by
    cases kind with
    | script => exact ⟨by decide, 's', rfl, by decide⟩
    | stylesheet => exact ⟨by decide, 's', rfl, by decide⟩
  unfold OutputFile.place OutputFile.path
  rw [named, extended, Path.inside_every_iff plain.1 plain.2,
    Path.leadsOut_of_respelled (Path.respelled_dashCase component.name)]

/-- A component named after a place beside the directory. -/
def strayForm : Component :=
  ⟨"forms/../../login", ⟨"group", "form", none, none, none, none, none, none, none⟩, none, none, none⟩

/-- Its script lies outside of some directory.  Seen from `out` it lies beside it. -/
theorem strayForm_lies_outside :
    ∃ compiled, ((Generator.ofFlavor .inlineStyles none {}).compile none strayForm).outcome =
        .ok compiled ∧
      Path.leadsOut strayForm.name = true ∧
      ∃ script ∈ compiled.files, script.path = "forms/../../login.js" ∧
        (∃ directory, ¬ (script.place (Path.ofText directory)).IsInside (Path.ofText directory)) ∧
        (script.place (Path.ofText "out")).normalParts = ["login.js"] ∧
        (Path.ofText "out").normalParts = ["out"] := by
  have succeeds : ((Generator.ofFlavor .inlineStyles none {}).compile none
      strayForm).outcome.toOption.isSome = true := by
    decide +kernel
  rcases Option.isSome_iff_exists.mp succeeds with ⟨compiled, found⟩
  have compiles := eq_ok_of_toOption_eq_some found
  have leaves : Path.leadsOut strayForm.name = true := by decide +kernel
  rcases stages_of_compile compiles with ⟨_, _, _, stages, _, made⟩
  obtain ⟨_, _, _, _, _, _, _, _, first⟩ := stages.needs
  rcases script_of_assemble made first rfl with ⟨_, _, files, _⟩
  have member : _ ∈ compiled.files := files ▸ List.mem_cons_self
  have path (text : String) :
      (⟨dashCase strayForm.name, "js", text⟩ : OutputFile).path = "forms/../../login.js" := by
    have spelled : dashCase strayForm.name ++ "." ++ "js" = "forms/../../login.js" := by
      decide +kernel
    exact spelled
  refine ⟨compiled, compiles, leaves, _, member, path _, ?_, ?_, by decide +kernel⟩
  · by_contra inside
    rw [not_exists_not] at inside
    have stays := (output_inside_every_directory_iff compiles _ member).mp inside
    rw [leaves] at stays
    cases stays
  · rw [OutputFile.place, path]
    decide +kernel

end ComponentCompiler

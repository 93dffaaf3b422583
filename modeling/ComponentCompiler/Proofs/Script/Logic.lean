import ComponentCompiler.Build.Guard
import ComponentCompiler.Proofs.Script.Operand

namespace ComponentCompiler
namespace Script
namespace Logic

/-!
# Reading logical expressions

A logical expression is put together from comparisons of operands, negations,
conjunctions and disjunctions.  A negation binds tightest, then a comparison, then
a conjunction, and a disjunction binds least; parentheses come before all of them.
The reader keeps what stands to the left of the last operators at each level of
parentheses, so that no text has to be read twice.

As with literals, a text leads the reader from one state to another when reading
goes on behind it as if the reader had been in the second state.
-/

inductive Expression where
  | operand (text : String)
  | comparison (left operation right : String)
  | negation (inner : Expression)
  | conjunction (left right : Expression)
  | disjunction (left right : Expression)
deriving DecidableEq, Repr

/-- Which operands count as true, and which comparisons hold. -/
structure Valuation where
  truth : String → Bool
  compares : String → String → String → Bool

/-- Whether an expression holds. -/
def Expression.holds (valuation : Valuation) : Expression → Bool
  | .operand text => valuation.truth text
  | .comparison left operation right => valuation.compares left operation right
  | .negation inner => !inner.holds valuation
  | .conjunction left right => left.holds valuation && right.holds valuation
  | .disjunction left right => left.holds valuation || right.holds valuation

/-! ## Tokens -/

inductive Token where
  | operand (text : String)
  | comparison (operation : String)
  | negate
  | both
  | either
  | opening
  | closing
deriving DecidableEq, Repr

/-- Whether a character belongs to an operator. -/
def isOperatorPart (character : Char) : Bool :=
  character ∈ ['=', '!', '<', '>', '&', '|']

/-- The operator that characters are. -/
def operator? (characters : List Char) : Option Token :=
  if characters = ['!'] then some .negate
  else if characters = ['&', '&'] then some .both
  else if characters = ['|', '|'] then some .either
  else if String.ofList characters ∈ comparisons then some (.comparison (String.ofList characters))
  else none

/-- Where a scan is: between tokens, in an operand or in an operator.  It keeps what
it has read of the token. -/
inductive Scan where
  | between
  | operand (read : List Char) (spot : Spot)
  | operator (read : List Char)
deriving DecidableEq, Repr

namespace Scan

/-- The token that ends here, if there is one. -/
def settle : Scan → Option (List Token)
  | .between => some []
  | .operand read spot => if spot.isEnd then some [.operand (String.ofList read)] else none
  | .operator read => (operator? read).map fun token => [token]

/-- Begin with a token, or skip white space. -/
def start (character : Char) : Option (List Token × Scan) :=
  if isWhiteSpace character then some ([], .between)
  else if character = '(' then some ([.opening], .between)
  else if character = ')' then some ([.closing], .between)
  else if isOperatorPart character then some ([], .operator [character])
  else (Spot.start.next? character).map fun spot => ([], .operand [character] spot)

/-- End a token and begin with the next. -/
def restart (state : Scan) (character : Char) : Option (List Token × Scan) :=
  state.settle.bind fun ended => (start character).map fun begun => (ended ++ begun.1, begun.2)

/-- Take one character; the tokens that it completes come first. -/
def step (state : Scan) (character : Char) : Option (List Token × Scan) :=
  match state with
  | .between => start character
  | .operand read spot =>
    match spot.next? character with
    | some next => some ([], .operand (read ++ [character]) next)
    | none => state.restart character
  | .operator read =>
    if isOperatorPart character then some ([], .operator (read ++ [character]))
    else state.restart character

end Scan

/-- The tokens of the characters that are left. -/
def scan (state : Scan) : List Char → Option (List Token)
  | [] => state.settle
  | character :: rest =>
    (state.step character).bind fun taken => (scan taken.2 rest).map (taken.1 ++ ·)

/-! ## States of the reader -/

/-- What stands to the left at one level of parentheses: the alternatives before the
last disjunction, and the conjuncts behind it. -/
structure Level where
  alternatives : Option Expression := none
  conjuncts : Option Expression := none
deriving DecidableEq, Repr

/-- An expression behind what may stand to its left. -/
def joined (join : Expression → Expression → Expression) : Option Expression → Expression →
    Expression
  | none, right => right
  | some left, right => join left right

/-- An expression with negations in front. -/
def negated (count : Nat) (inner : Expression) : Expression :=
  Nat.rec inner (fun _ => .negation) count

/-- The whole expression of a level that ends with the given one. -/
def Level.close (level : Level) (last : Expression) : Expression :=
  joined .disjunction level.alternatives (joined .conjunction level.conjuncts last)

/-- What the reader expects.  The outer levels are kept with the negations in front of
their parentheses, the innermost first. -/
inductive Reading where
  /-- An expression behind some negations. -/
  | expecting (level : Level) (negations : Nat) (outer : List (Level × Nat))
  /-- The right side of a comparison. -/
  | comparing (left operation : String) (level : Level) (outer : List (Level × Nat))
  /-- What stands behind an expression that is read. -/
  | behind (read : Expression) (level : Level) (negations : Nat) (outer : List (Level × Nat))

/-- The operand that an expression is, when nothing stands in front of it. -/
def bare? : Expression → Nat → Option String
  | .operand text, 0 => some text
  | _, _ => none

namespace Reading

/-- Take one token. -/
def step : Reading → Token → Option Reading
  | .expecting level negations outer, .operand text =>
    some (.behind (.operand text) level negations outer)
  | .expecting level negations outer, .negate => some (.expecting level (negations + 1) outer)
  | .expecting level negations outer, .opening => some (.expecting {} 0 ((level, negations) :: outer))
  | .comparing left operation level outer, .operand right =>
    some (.behind (.comparison left operation right) level 0 outer)
  | .behind read level negations outer, .comparison operation =>
    (bare? read negations).map fun left => .comparing left operation level outer
  | .behind read level negations outer, .both =>
    some (.expecting { level with
      conjuncts := some (joined .conjunction level.conjuncts (negated negations read)) } 0 outer)
  | .behind read level negations outer, .either =>
    some (.expecting { alternatives := some (level.close (negated negations read)) } 0 outer)
  | .behind read level negations ((around, before) :: outer), .closing =>
    some (.behind (level.close (negated negations read)) around before outer)
  | _, _ => none

/-- The expression that is read when the text ends. -/
def finish : Reading → Option Expression
  | .behind read level negations [] => some (level.close (negated negations read))
  | _ => none

/-- Read all tokens of a text. -/
def advance (state : Reading) (characters : List Char) : Option Reading :=
  (scan .between characters).bind fun tokens => tokens.foldlM step state

end Reading

end Logic

open Logic

/-- The expression that a text is. -/
def readExpression (text : String) : Option Expression :=
  ((Reading.expecting {} 0 []).advance text.toList).bind (·.finish)

/-- The expression that two texts are around a part that is taken as one operand,
whatever its text is. -/
def readAround (before part after : String) : Option Expression :=
  ((Reading.expecting {} 0 []).advance before.toList).bind fun reached =>
    (reached.step (.operand part)).bind fun behind =>
      (behind.advance after.toList).bind (·.finish)

example : readExpression "a || b && !props['c d']" = some (.disjunction (.operand "a")
    (.conjunction (.operand "b") (.negation (.operand "props['c d']")))) := by
  decide +kernel

namespace Logic

/-! ## Scanning operands and operators -/

/-- What can stand behind an operand. -/
def Apart (characters : List Char) : Prop :=
  ∀ character ∈ characters.head?, isWhiteSpace character = true ∨ character = ')'

theorem apart_cons {character : Char} (delimits : isWhiteSpace character = true ∨ character = ')')
    (rest : List Char) : Apart (character :: rest) := by
  intro first isFirst
  rw [← Option.some.inj isFirst]
  exact delimits

theorem scan_of_step {state next : Scan} {character : Char} {emitted : List Token}
    (stepped : state.step character = some (emitted, next)) (rest : List Char) :
    scan state (character :: rest) = (scan next rest).map (emitted ++ ·) := by
  rw [scan, stepped, Option.bind_some]

theorem scan_of_silent_step {state next : Scan} {character : Char}
    (stepped : state.step character = some ([], next)) (rest : List Char) :
    scan state (character :: rest) = scan next rest := by
  rw [scan_of_step stepped]
  exact Option.map_id'

/-- A token that ends is followed by what the rest is scanned as. -/
theorem scan_of_restart {state : Scan} {token : Token} (ends : state.settle = some [token])
    {rest : List Char}
    (restarts : ∀ character ∈ rest.head?, state.step character = state.restart character) :
    scan state rest = (scan .between rest).map (token :: ·) := by
  cases rest with
  | nil =>
      rw [scan, ends]
      rfl
  | cons character others =>
      rw [scan, scan, restarts character rfl, Scan.restart, ends, Option.bind_some]
      change _ = ((Scan.start character).bind _).map _
      cases Scan.start character with
      | none => rfl
      | some begun =>
          simp only [Option.map_some, Option.bind_some, Option.map_map]
          rfl

theorem isNamePart_eq_false_of_delimiter {character : Char}
    (delimits : isWhiteSpace character = true ∨ character = ')') : isNamePart character = false := by
  rcases delimits with space | rfl
  · rw [isNamePart, space]
    rfl
  · decide

theorem isDigit_eq_false_of_delimiter {character : Char}
    (delimits : isWhiteSpace character = true ∨ character = ')') : character.isDigit = false := by
  by_contra digit
  have part := isNamePart_of_isIdentifierPart
    (isIdentifierPart_of_isDigit (Bool.not_eq_false _ ▸ digit))
  rw [isNamePart_eq_false_of_delimiter delimits] at part
  cases part

/-- No operand goes on with white space or a parenthesis. -/
theorem next?_eq_none_of_delimiter {spot : Spot} (ends : spot.isEnd = true) {character : Char}
    (delimits : isWhiteSpace character = true ∨ character = ')') : spot.next? character = none := by
  have noDigit := isDigit_eq_false_of_delimiter delimits
  have noPart := isNamePart_eq_false_of_delimiter delimits
  have other {mark : Char} (space : isWhiteSpace mark = false) (unclosed : mark ≠ ')') :
      character ≠ mark := by
    rintro rfl
    rcases delimits with isSpace | isMark
    · rw [space] at isSpace
      cases isSpace
    · exact unclosed isMark
  have noPoint : character ≠ '.' := other (by decide) (by decide)
  have noPower : character ≠ 'e' := other (by decide) (by decide)
  have noBracket : character ≠ '[' := other (by decide) (by decide)
  cases spot with
  | whole => simp only [Spot.next?, noDigit, noPoint, noPower, Bool.false_eq_true, if_false]
  | fraction => simp only [Spot.next?, noDigit, noPower, Bool.false_eq_true, if_false]
  | powerDigits => simp only [Spot.next?, noDigit, Bool.false_eq_true, if_false]
  | name => simp only [Spot.next?, noPart, noPoint, noBracket, Bool.false_eq_true, if_false]
  | closed => simp only [Spot.next?, noPoint, noBracket, if_false]
  | _ => cases ends

/-- A character of operators starts an operator and no operand. -/
theorem start_operator {character : Char} (part : isOperatorPart character = true) :
    Spot.start.next? character = none ∧
      Scan.between.step character = some ([], .operator [character]) := by
  have listed : character ∈ ['=', '!', '<', '>', '&', '|'] := of_decide_eq_true part
  simp only [List.mem_cons, List.not_mem_nil, or_false] at listed
  rcases listed with rfl | rfl | rfl | rfl | rfl | rfl <;> decide

/-- A character that starts an operand starts nothing else. -/
theorem start_of_next? {character : Char} {spot : Spot}
    (begins : Spot.start.next? character = some spot) :
    isOperatorPart character = false ∧
      Scan.between.step character = some ([], .operand [character] spot) := by
  have other {mark : Char} (unknown : Spot.start.next? mark = none) : character ≠ mark := by
    rintro rfl
    rw [unknown] at begins
    cases begins
  have noSpace : isWhiteSpace character = false := by
    by_contra space
    have delimits : isWhiteSpace character = true ∨ character = ')' :=
      Or.inl (Bool.not_eq_false _ ▸ space)
    have unknown : Spot.begin? character = none := by
      rw [Spot.begin?, isDigit_eq_false_of_delimiter delimits, isNameStart,
        isNamePart_eq_false_of_delimiter delimits]
      rfl
    rw [Spot.next?, unknown] at begins
    split at begins
    · rename_i minus
      subst minus
      exact space (by decide)
    split at begins
    · rename_i quote
      subst quote
      exact space (by decide)
    · cases begins
  have noOperator : isOperatorPart character = false := by
    by_contra part
    exact other (start_operator (Bool.not_eq_false _ ▸ part)).1 rfl
  refine ⟨noOperator, ?_⟩
  have noOpening : character ≠ '(' := other (by decide)
  have noClosing : character ≠ ')' := other (by decide)
  rw [Scan.step, Scan.start, noSpace, noOperator, begins]
  simp only [Bool.false_eq_true, noOpening, noClosing, if_false, Option.map_some]

theorem scan_operand_append {spot reached : Spot} {more : List Char}
    (runs : spot.run? more = some reached) (read rest : List Char) :
    scan (.operand read spot) (more ++ rest) = scan (.operand (read ++ more) reached) rest := by
  induction more generalizing spot read with
  | nil =>
      cases runs
      rw [List.nil_append, List.append_nil]
  | cons character others inductionHypothesis =>
      rw [Spot.run?_cons] at runs
      rcases Option.bind_eq_some_iff.mp runs with ⟨next, taken, onward⟩
      have stepped : (Scan.operand read spot).step character =
          some ([], .operand (read ++ [character]) next) := by
        rw [Scan.step, taken]
      rw [List.cons_append, scan_of_silent_step stepped, inductionHypothesis onward,
        List.append_assoc, List.singleton_append]

/-- An operand is one token when it stands apart from the rest. -/
theorem scan_operand {text : String} (operand : isOperand text.toList = true) {rest : List Char}
    (apart : Apart rest) :
    scan .between (text.toList ++ rest) = (scan .between rest).map (.operand text :: ·) := by
  rcases isOperand_iff.mp operand with ⟨reached, runs, ends⟩
  cases characters : text.toList with
  | nil =>
      rw [characters] at runs
      cases runs
      cases ends
  | cons first others =>
      rw [characters, Spot.run?_cons] at runs
      rcases Option.bind_eq_some_iff.mp runs with ⟨spot, begins, onward⟩
      rw [List.cons_append, scan_of_silent_step (start_of_next? begins).2,
        scan_operand_append onward, List.singleton_append, ← characters]
      have settled : (Scan.operand text.toList reached).settle = some [.operand text] := by
        rw [Scan.settle, if_pos ends, String.ofList_toList]
      refine scan_of_restart settled fun character isFirst => ?_
      rw [Scan.step, next?_eq_none_of_delimiter ends (apart character isFirst)]

theorem scan_operator_append {more : List Char} (parts : more.all isOperatorPart = true)
    (read rest : List Char) :
    scan (.operator read) (more ++ rest) = scan (.operator (read ++ more)) rest := by
  induction more generalizing read with
  | nil => rw [List.nil_append, List.append_nil]
  | cons character others inductionHypothesis =>
      rw [List.all_cons, Bool.and_eq_true] at parts
      have stepped : (Scan.operator read).step character =
          some ([], .operator (read ++ [character])) := by
        rw [Scan.step, if_pos parts.1]
      rw [List.cons_append, scan_of_silent_step stepped, inductionHypothesis parts.2,
        List.append_assoc, List.singleton_append]

/-- An operator is one token when no other character of operators stands behind it. -/
theorem scan_operator {characters : List Char} {token : Token}
    (known : operator? characters = some token) (parts : characters.all isOperatorPart = true)
    {rest : List Char} (apart : ∀ character ∈ rest.head?, isOperatorPart character = false) :
    scan .between (characters ++ rest) = (scan .between rest).map (token :: ·) := by
  cases characters with
  | nil => cases known
  | cons first others =>
      rw [List.all_cons, Bool.and_eq_true] at parts
      rw [List.cons_append, scan_of_silent_step (start_operator parts.1).2,
        scan_operator_append parts.2, List.singleton_append]
      have settled : (Scan.operator (first :: others)).settle = some [token] := by
        rw [Scan.settle, known]
        rfl
      refine scan_of_restart settled fun character isFirst => ?_
      rw [Scan.step, if_neg (Bool.eq_false_iff.mp (apart character isFirst))]

/-! ## Texts that lead from state to state -/

/-- Reading goes on behind the text as if it had begun in the second state. -/
def Leads (text : List Char) (before after : Reading) : Prop :=
  ∀ rest, Apart rest → before.advance (text ++ rest) = after.advance rest

theorem advance_of_scan {characters rest : List Char} {token : Token} {before after : Reading}
    (scanned : scan .between characters = (scan .between rest).map (token :: ·))
    (stepped : before.step token = some after) : before.advance characters = after.advance rest := by
  unfold Reading.advance
  rw [scanned]
  cases scan .between rest with
  | none => rfl
  | some tokens =>
      rw [Option.map_some, Option.bind_some, Option.bind_some, List.foldlM_cons, stepped]
      rfl

theorem advance_whiteSpace {character : Char} (space : isWhiteSpace character = true)
    (state : Reading) (rest : List Char) :
    state.advance (character :: rest) = state.advance rest := by
  have skipped : Scan.between.step character = some ([], .between) := by
    rw [Scan.step, Scan.start, if_pos space]
  unfold Reading.advance
  rw [scan_of_silent_step skipped]

theorem leads_operand {text : String} (operand : isOperand text.toList = true)
    {before after : Reading} (stepped : before.step (.operand text) = some after) :
    Leads text.toList before after :=
  fun _ apart => advance_of_scan (scan_operand operand apart) stepped

/-- White space in front of a text is skipped. -/
theorem Leads.skip {spaces text : List Char}
    (space : ∀ character ∈ spaces, isWhiteSpace character = true) {before after : Reading}
    (onward : Leads text before after) : Leads (spaces ++ text) before after := by
  induction spaces with
  | nil => exact onward
  | cons character others inductionHypothesis =>
      rw [List.forall_mem_cons] at space
      intro rest apart
      rw [List.cons_append, List.cons_append, advance_whiteSpace space.1]
      exact inductionHypothesis space.2 rest apart

/-- White space behind a text is skipped. -/
theorem Leads.trail {spaces text : List Char}
    (space : ∀ character ∈ spaces, isWhiteSpace character = true) {before after : Reading}
    (early : Leads text before after) : Leads (text ++ spaces) before after := by
  intro rest apart
  have nothing : Leads [] after after := fun _ _ => rfl
  have apartSpaces : Apart (spaces ++ rest) := by
    cases spaces with
    | nil => exact apart
    | cons character others => exact apart_cons (Or.inl (space character List.mem_cons_self)) _
  have skipped := nothing.skip space rest apart
  rw [List.append_nil] at skipped
  rw [List.append_assoc, early _ apartSpaces, skipped]

/-- An operator with a blank on either side stands between two texts. -/
theorem Leads.operator {first second operator : List Char} {token : Token}
    {before middle next after : Reading} (early : Leads first before middle)
    (known : operator? operator = some token) (parts : operator.all isOperatorPart = true)
    (stepped : middle.step token = some next) (late : Leads second next after) :
    Leads (first ++ ' ' :: (operator ++ ' ' :: second)) before after := by
  intro rest apart
  have blank : isWhiteSpace ' ' = true := by decide
  have ended : ∀ character ∈ (' ' :: (second ++ rest)).head?, isOperatorPart character = false := by
    intro character isFirst
    rw [← Option.some.inj isFirst]
    decide
  rw [List.append_assoc, List.cons_append, early _ (apart_cons (Or.inl blank) _),
    advance_whiteSpace blank, List.append_assoc, List.cons_append,
    advance_of_scan (scan_operator known parts ended) stepped, advance_whiteSpace blank,
    late rest apart]

theorem leads_negation {text : String} (operand : isOperand text.toList = true)
    {before middle after : Reading} (negates : before.step .negate = some middle)
    (stepped : middle.step (.operand text) = some after) :
    Leads ('!' :: text.toList) before after := by
  intro rest apart
  have ended : ∀ character ∈ (text.toList ++ rest).head?, isOperatorPart character = false := by
    rcases isOperand_iff.mp operand with ⟨reached, runs, ends⟩
    cases characters : text.toList with
    | nil =>
        rw [characters] at runs
        cases runs
        cases ends
    | cons first others =>
        rw [characters, Spot.run?_cons] at runs
        rcases Option.bind_eq_some_iff.mp runs with ⟨spot, begins, _⟩
        intro character isFirst
        rw [← Option.some.inj isFirst]
        exact (start_of_next? begins).1
  have negated : before.advance (['!'] ++ (text.toList ++ rest)) =
      middle.advance (text.toList ++ rest) :=
    advance_of_scan (scan_operator rfl (by decide) ended) negates
  rw [List.cons_append]
  exact negated.trans (leads_operand operand stepped rest apart)

theorem scan_opening (rest : List Char) :
    scan .between ('(' :: rest) = (scan .between rest).map (.opening :: ·) := by
  have stepped : Scan.between.step '(' = some ([.opening], .between) := by decide
  exact scan_of_step stepped rest

theorem scan_closing (rest : List Char) :
    scan .between (')' :: rest) = (scan .between rest).map (.closing :: ·) := by
  have stepped : Scan.between.step ')' = some ([.closing], .between) := by decide
  exact scan_of_step stepped rest

/-- A parenthesis opens a level of its own. -/
theorem leads_opening (level : Level) (negations : Nat) (outer : List (Level × Nat)) :
    Leads ['('] (.expecting level negations outer) (.expecting {} 0 ((level, negations) :: outer)) :=
  fun rest _ => advance_of_scan (scan_opening rest) rfl

/-- The level that a parenthesis closes is one expression outside. -/
theorem leads_closing (read : Expression) (inner level : Level) (count negations : Nat)
    (outer : List (Level × Nat)) :
    Leads [')'] (.behind read inner count ((level, negations) :: outer))
      (.behind (inner.close (negated count read)) level negations outer) :=
  fun rest _ => advance_of_scan (scan_closing rest) rfl

/-- An expression in parentheses is read at a level of its own.  What follows the
opening one need not stand apart, so the two steps are taken by hand. -/
theorem leads_parentheses {text : List Char} {level inner : Level} {negations count : Nat}
    {outer : List (Level × Nat)} {read : Expression}
    (inside : Leads text (.expecting {} 0 ((level, negations) :: outer))
      (.behind read inner count ((level, negations) :: outer))) :
    Leads ('(' :: (text ++ [')'])) (.expecting level negations outer)
      (.behind (inner.close (negated count read)) level negations outer) := by
  intro rest apart
  have opened (later : List Char) : (Reading.expecting level negations outer).advance ('(' :: later) =
      (Reading.expecting {} 0 ((level, negations) :: outer)).advance later :=
    advance_of_scan (scan_opening later) rfl
  rw [List.cons_append, opened, List.append_assoc, List.singleton_append,
    inside _ (apart_cons (Or.inr rfl) rest)]
  exact leads_closing read inner level count negations outer rest apart

/-- Parentheses around nothing are no expression, whatever stands behind them. -/
theorem advance_empty_parentheses (level : Level) (negations : Nat) (outer : List (Level × Nat))
    (rest : List Char) :
    (Reading.expecting level negations outer).advance ('(' :: ')' :: rest) = none := by
  have opened : (Reading.expecting level negations outer).advance ('(' :: ')' :: rest) =
      (Reading.expecting {} 0 ((level, negations) :: outer)).advance (')' :: rest) :=
    advance_of_scan (scan_opening _) rfl
  rw [opened, Reading.advance, scan_closing]
  cases scan .between rest with
  | none => rfl
  | some tokens => rfl

/-- A text leads the reader there also when nothing stands behind it. -/
theorem Leads.advance_eq {text : List Char} {before after : Reading}
    (leads : Leads text before after) : before.advance text = some after := by
  have ended : Apart [] := by
    intro character impossible
    cases impossible
  have whole := leads [] ended
  rw [List.append_nil] at whole
  exact whole

theorem readExpression_of_leads {text : String} {read : Expression} {level : Level}
    {negations : Nat}
    (leads : Leads text.toList (.expecting {} 0 []) (.behind read level negations [])) :
    readExpression text = some (level.close (negated negations read)) := by
  rw [readExpression, leads.advance_eq]
  rfl

end Logic
end Script
end ComponentCompiler

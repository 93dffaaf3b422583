import ComponentCompiler.Script.Literal

namespace ComponentCompiler
namespace Script

/-!
# The tokens of a literal

A literal is read as marks, words and quoted texts.  White space between them is
skipped.  A quoted text ends with the first quote that is not escaped.  A word
goes on as long as the characters of identifiers do, so a word is read back only
when something else stands behind it.
-/

inductive Mark where
  | openList
  | closeList
  | openMap
  | closeMap
  | colon
  | comma
  | minus
deriving DecidableEq, Repr

def Mark.ofChar? (character : Char) : Option Mark :=
  if character = '[' then some .openList
  else if character = ']' then some .closeList
  else if character = '\x7b' then some .openMap
  else if character = '\x7d' then some .closeMap
  else if character = ':' then some .colon
  else if character = ',' then some .comma
  else if character = '-' then some .minus
  else none

inductive Token where
  | mark (mark : Mark)
  | word (characters : List Char)
  | quoted (content : String)
deriving DecidableEq, Repr

/-- The white space and the line ends of scripts. -/
def isWhiteSpace (character : Char) : Bool :=
  character ∈ ['\t', '\n', '\x0b', '\x0c', '\r', ' ', '\u00a0', '\u1680', '\u2028', '\u2029',
    '\u202f', '\u205f', '\u3000', '\ufeff'] || ('\u2000' ≤ character && character ≤ '\u200a')

/-- The character that an escape stands for. -/
def unescape? (character : Char) : Option Char :=
  if character = '\\' then some '\\'
  else if character = '\'' then some '\''
  else if character = 'n' then some '\n'
  else none

/-! ## Scanning -/

/-- Where a scan is: between tokens, in a word, in a quoted text, or behind the
first character of an escape.  It keeps what it has read of the token. -/
inductive Scan where
  | between
  | word (read : List Char)
  | quoted (read : List Char)
  | escaped (read : List Char)
deriving DecidableEq, Repr

namespace Scan

/-- Begin with a token, or skip white space. -/
def start (character : Char) : Option (List Token × Scan) :=
  if isIdentifierPart character then some ([], .word [character])
  else if isWhiteSpace character then some ([], .between)
  else if character = '\'' then some ([], .quoted [])
  else (Mark.ofChar? character).map fun mark => ([.mark mark], .between)

/-- Take one character; the tokens that it completes come first. -/
def step : Scan → Char → Option (List Token × Scan)
  | .between, character => start character
  | .word read, character =>
    if isIdentifierPart character then some ([], .word (read ++ [character]))
    else (start character).map fun begun => (.word read :: begun.1, begun.2)
  | .quoted read, character =>
    if character = '\'' then some ([.quoted (String.ofList read)], .between)
    else if character = '\\' then some ([], .escaped read)
    else some ([], .quoted (read ++ [character]))
  | .escaped read, character =>
    (unescape? character).map fun meant => ([], .quoted (read ++ [meant]))

/-- The tokens that the end of the text completes. -/
def finish : Scan → Option (List Token)
  | .between => some []
  | .word read => some [.word read]
  | .quoted _ => none
  | .escaped _ => none

end Scan

/-- The tokens of the characters that are left. -/
def scan (state : Scan) : List Char → Option (List Token)
  | [] => state.finish
  | character :: rest =>
    (state.step character).bind fun taken => (scan taken.2 rest).map (taken.1 ++ ·)

/-- What can stand behind a word. -/
def Apart (characters : List Char) : Prop :=
  ∀ character ∈ characters.head?, isIdentifierPart character = false

theorem apart_cons {character : Char} (other : isIdentifierPart character = false)
    (rest : List Char) : Apart (character :: rest) := by
  intro first isFirst
  rw [← Option.some.inj isFirst]
  exact other

theorem scan_of_step {state next : Scan} {character : Char} {emitted : List Token}
    (stepped : state.step character = some (emitted, next)) (rest : List Char) :
    scan state (character :: rest) = (scan next rest).map (emitted ++ ·) := by
  rw [scan, stepped, Option.bind_some]

theorem scan_of_silent_step {state next : Scan} {character : Char}
    (stepped : state.step character = some ([], next)) (rest : List Char) :
    scan state (character :: rest) = scan next rest := by
  rw [scan_of_step stepped]
  exact Option.map_id'

/-! ## Words -/

theorem scan_word_append {word : List Char} (parts : word.all isIdentifierPart = true)
    (read rest : List Char) : scan (.word read) (word ++ rest) = scan (.word (read ++ word)) rest := by
  induction word generalizing read with
  | nil => rw [List.nil_append, List.append_nil]
  | cons character others inductionHypothesis =>
      rcases Bool.and_eq_true_iff.mp parts with ⟨first, later⟩
      have stepped : (Scan.word read).step character = some ([], .word (read ++ [character])) :=
        if_pos first
      rw [List.cons_append, scan_of_silent_step stepped, inductionHypothesis later,
        List.append_assoc]
      rfl

/-- What stands apart ends a word and is scanned as if the word were not there. -/
theorem scan_word_of_apart {rest : List Char} (apart : Apart rest) (word : List Char) :
    scan (.word word) rest = (scan .between rest).map (.word word :: ·) := by
  cases rest with
  | nil => rfl
  | cons character others =>
      have other := apart character rfl
      rw [scan, scan, Scan.step, Scan.step, if_neg (Bool.eq_false_iff.mp other)]
      cases Scan.start character with
      | none => rfl
      | some begun =>
          rw [Option.map_some, Option.bind_some, Option.bind_some, Option.map_map]
          rfl

theorem scan_word {word rest : List Char} (named : word ≠ [])
    (parts : word.all isIdentifierPart = true) (apart : Apart rest) :
    scan .between (word ++ rest) = (scan .between rest).map (.word word :: ·) := by
  cases word with
  | nil => exact absurd rfl named
  | cons character others =>
      rcases Bool.and_eq_true_iff.mp parts with ⟨first, later⟩
      have stepped : Scan.between.step character = some ([], .word [character]) := if_pos first
      rw [List.cons_append, scan_of_silent_step stepped, scan_word_append later,
        scan_word_of_apart apart]
      rfl

/-! ## Quoted texts, marks and white space -/

/-- A character is written as an escape that stands for it, or as it is. -/
theorem escapeChar_cases (character : Char) :
    (∃ written, escapeChar character = ['\\', written] ∧ unescape? written = some character) ∨
      (escapeChar character = [character] ∧ character ≠ '\'' ∧ character ≠ '\\') := by
  unfold escapeChar
  by_cases isBackslash : character = '\\'
  · subst isBackslash
    exact Or.inl ⟨'\\', rfl, rfl⟩
  by_cases isQuote : character = '\''
  · subst isQuote
    exact Or.inl ⟨'\'', rfl, rfl⟩
  by_cases isBreak : character = '\n'
  · subst isBreak
    exact Or.inl ⟨'n', rfl, rfl⟩
  rw [if_neg isBackslash, if_neg isQuote, if_neg isBreak]
  exact Or.inr ⟨rfl, isQuote, isBackslash⟩

theorem scan_escapeChar (read rest : List Char) (character : Char) :
    scan (.quoted read) (escapeChar character ++ rest) =
      scan (.quoted (read ++ [character])) rest := by
  rcases escapeChar_cases character with ⟨written, escaped, meant⟩ | ⟨plain, noQuote, noBackslash⟩
  · have opened : (Scan.quoted read).step '\\' = some ([], .escaped read) := rfl
    have closed : (Scan.escaped read).step written = some ([], .quoted (read ++ [character])) := by
      rw [Scan.step, meant, Option.map_some]
    rw [escaped, List.cons_append, scan_of_silent_step opened, List.singleton_append,
      scan_of_silent_step closed]
  · have stepped : (Scan.quoted read).step character =
        some ([], .quoted (read ++ [character])) := by
      rw [Scan.step, if_neg noQuote, if_neg noBackslash]
    rw [plain]
    exact scan_of_silent_step stepped rest

theorem scan_escaped_text (text read rest : List Char) :
    scan (.quoted read) (text.flatMap escapeChar ++ rest) = scan (.quoted (read ++ text)) rest := by
  induction text generalizing read with
  | nil => rw [List.flatMap_nil, List.nil_append, List.append_nil]
  | cons character others inductionHypothesis =>
      rw [List.flatMap_cons, List.append_assoc, scan_escapeChar, inductionHypothesis,
        List.append_assoc]
      rfl

/-- A quoted text is one token, whatever it holds and whatever stands behind it. -/
theorem scan_quote (text : String) (rest : List Char) :
    scan .between ((quote text).toList ++ rest) =
      (scan .between rest).map (.quoted text :: ·) := by
  have opened : Scan.between.step '\'' = some ([], .quoted []) := by decide
  have closed : (Scan.quoted text.toList).step '\'' = some ([.quoted text], .between) := by
    rw [Scan.step, if_pos rfl, String.ofList_toList]
  rw [quote, String.toList_ofList, quoteChars_eq_flatMap, List.cons_append, scan_of_silent_step opened,
    List.append_assoc, scan_escaped_text, List.nil_append]
  exact scan_of_step closed rest

theorem scan_mark {character : Char} {mark : Mark}
    (begins : Scan.between.step character = some ([.mark mark], .between)) (rest : List Char) :
    scan .between (character :: rest) = (scan .between rest).map (.mark mark :: ·) :=
  scan_of_step begins rest

end Script
end ComponentCompiler

import ComponentCompiler.Proofs.Script.Token

namespace ComponentCompiler
namespace Script

/-!
# Reading literals

A literal is read token by token.  The reader keeps the lists and maps that are
open, the innermost first, each with what it holds so far.  A comma may also
stand behind the last part.  When the text ends, one whole value has to be read
and nothing may be open.

A text leads the reader from one state to another when reading goes on behind it
as if the reader had been in the second state.  Texts one after another lead from
state to state; this is all that is needed to read what is put together from
pieces.
-/

/-- A list that is open, or a map that is open at the value of a key. -/
inductive Frame where
  | list (items : List Value)
  | map (entries : List (Key × Value)) (key : Key)

/-- What the reader expects. -/
inductive Reading where
  /-- A value, or the end of the list that is open. -/
  | value (frames : List Frame)
  /-- The digits of a negative number. -/
  | digits (frames : List Frame)
  /-- A key, or the end of the map with these entries. -/
  | key (entries : List (Key × Value)) (frames : List Frame)
  /-- The colon behind a key. -/
  | colon (entries : List (Key × Value)) (key : Key) (frames : List Frame)
  /-- What stands behind a value that is read. -/
  | behind (value : Value) (frames : List Frame)

/-- The number that a word of digits is. -/
def natural? (word : List Char) : Option Nat :=
  if word.all Char.isDigit then some (Nat.ofDigitChars 10 word 0) else none

/-- The value that a word is. -/
def wordValue? (word : List Char) : Option Value :=
  if word = "null".toList then some .null
  else if word = "true".toList then some (.bool true)
  else if word = "false".toList then some (.bool false)
  else (natural? word).map fun number : Nat => .int number

namespace Reading

/-- Take one token. -/
def step : Reading → Token → Option Reading
  | .value frames, .word word => (wordValue? word).map fun result => .behind result frames
  | .value frames, .quoted content => some (.behind (.text content) frames)
  | .value frames, .mark .minus => some (.digits frames)
  | .value frames, .mark .openList => some (.value (.list [] :: frames))
  | .value frames, .mark .openMap => some (.key [] frames)
  | .value (.list items :: frames), .mark .closeList => some (.behind (.list items) frames)
  | .digits frames, .word word =>
    (natural? word).map fun number : Nat => .behind (.int (-number)) frames
  | .key entries frames, .word word =>
    if isPlainIdentifier word then some (.colon entries (.text (String.ofList word)) frames)
    else none
  | .key entries frames, .quoted content => some (.colon entries (.text content) frames)
  | .key entries frames, .mark .closeMap => some (.behind (.map entries) frames)
  | .colon entries name frames, .mark .colon => some (.value (.map entries name :: frames))
  | .behind result (.list items :: frames), .mark .comma =>
    some (.value (.list (items ++ [result]) :: frames))
  | .behind result (.list items :: frames), .mark .closeList =>
    some (.behind (.list (items ++ [result])) frames)
  | .behind result (.map entries name :: frames), .mark .comma =>
    some (.key (entries ++ [(name, result)]) frames)
  | .behind result (.map entries name :: frames), .mark .closeMap =>
    some (.behind (.map (entries ++ [(name, result)])) frames)
  | _, _ => none

/-- The value that is read when the text ends. -/
def finish : Reading → Option Value
  | .behind result [] => some result
  | _ => none

/-- Read to the end of the text. -/
def readOn (state : Reading) (characters : List Char) : Option Value :=
  (scan .between characters).bind fun tokens => (tokens.foldlM step state).bind finish

end Reading

/-- The value of a text that is one literal. -/
def readLiteral (text : String) : Option Value :=
  (Reading.value []).readOn text.toList

/-! ## Texts that lead from state to state -/

/-- Reading goes on behind the text as if it had begun in the second state. -/
def Leads (text : List Char) (before after : Reading) : Prop :=
  ∀ rest, Apart rest → before.readOn (text ++ rest) = after.readOn rest

theorem leads_nil (state : Reading) : Leads [] state state :=
  fun _ _ => rfl

theorem Leads.append {first second : List Char} {before middle after : Reading}
    (early : Leads first before middle) (late : Leads second middle after)
    (apart : ∀ rest, Apart rest → Apart (second ++ rest)) : Leads (first ++ second) before after := by
  intro rest restApart
  rw [List.append_assoc, early _ (apart rest restApart)]
  exact late rest restApart

theorem readOn_of_scan {text rest : List Char} {token : Token} {before after : Reading}
    (scanned : scan .between (text ++ rest) = (scan .between rest).map (token :: ·))
    (stepped : before.step token = some after) :
    before.readOn (text ++ rest) = after.readOn rest := by
  unfold Reading.readOn
  rw [scanned]
  cases scan .between rest with
  | none => rfl
  | some tokens =>
      rw [Option.map_some, Option.bind_some, Option.bind_some, List.foldlM_cons, stepped]
      rfl

theorem leads_quote {text : String} {before after : Reading}
    (stepped : before.step (.quoted text) = some after) : Leads (quote text).toList before after :=
  fun rest _ => readOn_of_scan (scan_quote text rest) stepped

theorem leads_word {word : List Char} {before after : Reading} (named : word ≠ [])
    (parts : word.all isIdentifierPart = true) (stepped : before.step (.word word) = some after) :
    Leads word before after :=
  fun _ apart => readOn_of_scan (scan_word named parts apart) stepped

/-- A mark in front of a text.  Nothing has to stand apart from a mark. -/
theorem Leads.mark {character : Char} {mark : Mark} {before middle after : Reading}
    {text : List Char} (stepped : before.step (.mark mark) = some middle)
    (begins : Scan.between.step character = some ([.mark mark], .between))
    (onward : Leads text middle after) : Leads (character :: text) before after := by
  intro rest apart
  have taken : before.readOn ([character] ++ (text ++ rest)) = middle.readOn (text ++ rest) :=
    readOn_of_scan (scan_mark begins (text ++ rest)) stepped
  rw [List.cons_append]
  exact taken.trans (onward rest apart)

theorem Leads.whiteSpace {character : Char} {before after : Reading} {text : List Char}
    (skipped : Scan.between.step character = some ([], .between))
    (onward : Leads text before after) : Leads (character :: text) before after := by
  intro rest apart
  rw [List.cons_append, ← onward rest apart]
  unfold Reading.readOn
  rw [scan_of_silent_step skipped]

theorem readLiteral_of_leads {text : String} {value : Value}
    (leads : Leads text.toList (.value []) (.behind value [])) : readLiteral text = some value := by
  have ended : Apart [] := by
    intro character first
    cases first
  have whole := leads [] ended
  rw [List.append_nil] at whole
  exact whole

end Script
end ComponentCompiler

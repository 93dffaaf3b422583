import ComponentCompiler.Entries
import ComponentCompiler.Text.Decimal
import ComponentCompiler.Text.Search

namespace ComponentCompiler
namespace CommandLine

/-!
# Arguments of the command line

The command takes the path of one description and options, each with one value.
An option may be shortened as long as it stays unambiguous, and its value may
stand behind an equals sign.  Behind a double dash there are no options, and an
option whose value is only a double dash gets no value.
-/

/-- The arguments of a run. -/
structure Arguments where
  description : String
  target : String
  flavor : Option String
  mapping : Option String
  out : Option String
deriving DecidableEq, Repr

/-- What a command line asks for. -/
inductive Invocation where
  | run (arguments : Arguments)
  | help
  | misuse
deriving DecidableEq, Repr

/-- The status that the program ends with when it does not run. -/
def Invocation.status : Invocation → Nat
  | .misuse => 2
  | _ => 0

/-- The options of the command. -/
inductive Switch where
  | help
  | target
  | flavor
  | mapping
  | out
deriving DecidableEq, Repr

/-- The long spellings of the options. -/
def longSwitches : List (String × Switch) :=
  [("--help", .help), ("--target", .target), ("--flavor", .flavor), ("--mapping", .mapping),
   ("--out", .out)]

/-- All spellings of the options. -/
def switches : List (String × Switch) :=
  ("-h", .help) :: longSwitches

/-- A word of the command line. -/
inductive Word where
  | plain (content : String)
  | switch (switch : Switch) (value : Option String)
  | unknown (content : String)
  | divider
deriving DecidableEq, Repr

/-- What stands before the first equals sign, and what stands behind it. -/
def splitAtEquals (characters : List Char) : String × Option String :=
  match characters.span fun character => character ≠ '=' with
  | (name, _ :: value) => (String.ofList name, some (String.ofList value))
  | (name, []) => (String.ofList name, none)

/-- Whether a word is a negative number.  A line feed may follow it. -/
def isNegativeNumber : List Char → Bool
  | '-' :: rest =>
    let number := if rest.getLast? = some '\n' then rest.dropLast else rest
    let (whole, behind) := number.span Text.isDecimalDigit
    match behind with
    | [] => !whole.isEmpty
    | '.' :: fraction => !fraction.isEmpty && fraction.all Text.isDecimalDigit
    | _ => false
  | _ => false

/-- The short option for help with letters behind it, which may repeat it. -/
def repeatedHelp (letters : List Char) : Word :=
  let repeats := !letters.isEmpty && letters.all fun letter => letter = 'h'
  .switch .help (if repeats then none else some (String.ofList letters))

/-- The word for something that starts with a dash and is no option in full: a
shortened option, or else a plain word when it is a number or holds a blank.
More than one option that it may stand for is misuse. -/
def shortened? (characters : List Char) : Option Word :=
  let text := String.ofList characters
  let (name, value) := splitAtEquals characters
  let candidates :=
    if Text.isStartOf "--" text then longSwitches.filter fun known => Text.isStartOf name known.1
    else []
  match candidates with
  | [known] => some (.switch known.2 value)
  | [] =>
    if Text.isStartOf "-h" text then some (repeatedHelp (characters.drop 2))
    else if isNegativeNumber characters || characters.contains ' ' then some (.plain text)
    else some (.unknown text)
  | _ => none

/-- The word that a text of the command line is. -/
def wordOf? (text : String) : Option Word :=
  match text.toList with
  | [] | ['-'] => some (.plain text)
  | '-' :: rest =>
    match Entries.lookUp? switches text with
    | some known => some (.switch known none)
    | none =>
      match splitAtEquals ('-' :: rest) with
      | (name, some value) =>
        match Entries.lookUp? switches name with
        | some known =>
          some (if name = "-h" then repeatedHelp value.toList else .switch known (some value))
        | none => shortened? ('-' :: rest)
      | (_, none) => shortened? ('-' :: rest)
  | _ => some (.plain text)

/-- The words of a command line.  Behind the divider all are plain. -/
def wordsOf? : List String → Option (List Word)
  | [] => some []
  | "--" :: rest => some (.divider :: rest.map .plain)
  | text :: rest => do
    let word ← wordOf? text
    return word :: (← wordsOf? rest)

/-- What is known of the arguments so far. -/
structure Gathered where
  description : Option String := none
  target : String := "React"
  flavor : Option String := none
  mapping : Option String := none
  out : Option String := none
  hasRest : Bool := false

/-- Take up an option that gets no value.  The target is then an empty list, and
the others are as if they had not been given. -/
def Gathered.takeNone (gathered : Gathered) : Switch → Gathered
  | .help => gathered
  | .target => { gathered with target := "[]" }
  | .flavor => { gathered with flavor := none }
  | .mapping => { gathered with mapping := none }
  | .out => { gathered with out := none }

/-- Take up the value of an option. -/
def Gathered.take (gathered : Gathered) (switch : Switch) (value : String) : Gathered :=
  match switch with
  | .help => gathered
  | .target => { gathered with target := value }
  | .flavor => { gathered with flavor := some value }
  | .mapping => { gathered with mapping := some value }
  | .out => { gathered with out := some value }

/-- What the words ask for. -/
def interpret : Gathered → List Word → Invocation
  | gathered, [] =>
    match gathered.description with
    | some description =>
      if gathered.hasRest then .misuse
      else .run ⟨description, gathered.target, gathered.flavor, gathered.mapping, gathered.out⟩
    | none => .misuse
  | _, .switch .help none :: _ => .help
  | _, .switch .help (some _) :: _ => .misuse
  | gathered, .switch known (some value) :: rest =>
    if value = "--" then interpret (gathered.takeNone known) rest
    else interpret (gathered.take known value) rest
  | gathered, .switch known none :: .plain value :: rest =>
    interpret (gathered.take known value) rest
  | _, .switch _ none :: _ => .misuse
  | gathered, .unknown _ :: rest => interpret { gathered with hasRest := true } rest
  | gathered, .plain content :: .divider :: rest =>
    if gathered.description.isNone then
      interpret { gathered with description := some content } rest
    else interpret { gathered with hasRest := true } rest
  | gathered, .plain content :: rest =>
    if gathered.description.isNone then
      interpret { gathered with description := some content } rest
    else interpret { gathered with hasRest := true } rest
  | gathered, .divider :: .plain content :: rest =>
    if gathered.description.isNone then
      interpret { gathered with description := some content } rest
    else interpret { gathered with hasRest := true } rest
  | gathered, .divider :: rest => interpret { gathered with hasRest := true } rest

/-- What a command line asks for. -/
def invocation (texts : List String) : Invocation :=
  match wordsOf? texts with
  | some words => interpret {} words
  | none => .misuse

end CommandLine
end ComponentCompiler

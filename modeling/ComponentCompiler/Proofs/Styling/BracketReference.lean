import ComponentCompiler.Proofs.Naming.Boundaries
import ComponentCompiler.Proofs.Script.PropertyName
import ComponentCompiler.Proofs.Styling.CamelCase

namespace ComponentCompiler

open Naming Script Styling Text

/-!
# References in brackets

An element refers to a class of the styles object by the name of the class, set
between quotes and brackets as it is.  Nothing is escaped there, so the access names
the class only when each of its characters stands for itself inside quotes.  The class
of an element has the quotes, backslashes and line ends that the name of the element
has: dashes, small letters and numbers add none and take none away.

The style library is handed the same class by a member access that quotes it.  Quoting
names every class without a carriage return.
-/

/-! ## Characters that stand for themselves -/

/-- Whether a character stands for itself inside quotes. -/
def isVerbatim (character : Char) : Bool :=
  character ≠ '\'' && character ≠ '\\' && !isLineBreak character

theorem isVerbatim_iff {character : Char} :
    isVerbatim character = true ↔
      (character ≠ '\'' ∧ character ≠ '\\') ∧ isLineBreak character = false := by
  simp only [isVerbatim, Bool.and_eq_true, decide_eq_true_eq, Bool.not_eq_true']

/-- Quoting a text changes nothing in it when all its characters stand for themselves. -/
theorem flatMap_escapeChar_of_verbatim {characters : List Char}
    (verbatim : ∀ character ∈ characters, isVerbatim character = true) :
    characters.flatMap escapeChar = characters := by
  induction characters with
  | nil => rfl
  | cons character rest inductionHypothesis =>
      obtain ⟨here, later⟩ := List.forall_mem_cons.mp verbatim
      obtain ⟨⟨noQuote, noBackslash⟩, noBreak⟩ := isVerbatim_iff.mp here
      have noLineFeed : character ≠ '\n' := by
        rintro rfl
        cases noBreak
      rw [List.flatMap_cons, inductionHypothesis later, escapeChar, if_neg noBackslash,
        if_neg noQuote, if_neg noLineFeed, List.singleton_append]

/-! ## Reading an access in brackets -/

/-- The access to a name that is set between quotes as it is. -/
def bracketAccess (name : String) : List Char :=
  '[' :: '\'' :: (name.toList ++ ['\'', ']'])

/-- The access to a name that is quoted. -/
def quotedAccess (name : String) : List Char :=
  '[' :: ((quote name).toList ++ [']'])

theorem toList_classReference (stylesObject className : String) :
    (ScopedClasses.classReference stylesObject false className).toList =
      stylesObject.toList ++ bracketAccess className := by
  have opening : "['".toList = ['[', '\''] := rfl
  have closing : "']".toList = ['\'', ']'] := rfl
  rw [ScopedClasses.classReference, if_neg Bool.false_ne_true, String.toList_append,
    String.toList_append, String.toList_append, opening, closing, List.append_assoc,
    List.append_assoc]
  rfl

/-- Behind a bracket and a quote a literal is read, and the bracket that closes the access. -/
theorem readProperty_bracket (characters : List Char) :
    readProperty ('[' :: '\'' :: characters) =
      (readLine ('\'' :: characters)).bind (readMark ']') := by
  have bracket : isWhiteSpace '[' = false := by decide
  have quoteMark : isWhiteSpace '\'' = false := by decide
  have noPoint : some '[' ≠ some '.' := by decide
  rw [readProperty, skipSpace_cons bracket, List.head?_cons, if_neg noPoint, if_pos rfl,
    List.tail_cons, skipSpace_cons quoteMark]

theorem readProperty_quotedAccess (name : String) :
    readProperty (quotedAccess name) = if '\r' ∈ name.toList then none else some (name, []) := by
  have read := readLine_quote name [']']
  rw [quotedAccess]
  rcases exists_quote_eq_cons name with ⟨others, spelled⟩
  rw [spelled, List.cons_append] at read ⊢
  rw [readProperty_bracket, read]
  split
  · rfl
  · exact readMark_cons (by decide) name []

theorem readProperty_quotedAccess_iff {name : String} :
    readProperty (quotedAccess name) = some (name, []) ↔ '\r' ∉ name.toList := by
  rw [readProperty_quotedAccess]
  split
  · rename_i returns
    exact ⟨fun read => absurd read (by simp), fun noReturn => absurd returns noReturn⟩
  · rename_i noReturn
    exact ⟨fun _ => noReturn, fun _ => rfl⟩

theorem bracketAccess_of_verbatim {name : String}
    (verbatim : ∀ character ∈ name.toList, isVerbatim character = true) :
    bracketAccess name = quotedAccess name := by
  rw [bracketAccess, quotedAccess, quote, String.toList_ofList, quoteChars_eq_flatMap,
    flatMap_escapeChar_of_verbatim verbatim, List.cons_append, List.append_assoc]
  rfl

/-- A mark that is found takes something of what was left. -/
theorem length_pos_of_readMark {mark : Char} {read found : String × List Char}
    (marked : readMark mark read = some found) : read.1 = found.1 ∧ 0 < read.2.length := by
  rw [readMark] at marked
  split at marked
  · rename_i present
    cases marked
    refine ⟨rfl, List.length_pos_of_ne_nil fun empty => ?_⟩
    rw [empty] at present
    cases present
  · cases marked

/-- What is read between quotes as it was set there stands for itself. -/
theorem verbatim_of_readLine {name : String} {rest : List Char}
    (read : readLine ('\'' :: (name.toList ++ ['\'', ']'])) = some (name, rest))
    (left : 0 < rest.length) : ∀ character ∈ name.toList, isVerbatim character = true := by
  rcases Option.bind_eq_some_iff.mp read with ⟨found, quoted, oneLine⟩
  split at oneLine
  · cases oneLine
  rename_i unbroken
  cases oneLine
  rw [readQuoted, if_pos rfl] at quoted
  rcases Option.map_eq_some_iff.mp quoted with ⟨⟨text, behind⟩, inside, same⟩
  dsimp only at same
  obtain ⟨named, rfl⟩ := Prod.mk.inj same
  obtain rfl : text = name.toList := by rw [← named, String.toList_ofList]
  have lengths := length_add_lt_of_readInside inside
  have one : behind.length = 1 := by
    rw [List.length_append] at lengths
    simp only [List.length_cons, List.length_nil] at lengths
    omega
  have unescaped := unescaped_of_readInside inside (by rw [one]; exact Nat.le_refl 2)
  -- the literal is all but the bracket, so the whole name is in its line
  have consumed : ('\'' :: (name.toList ++ ['\'', ']'])).take
      (('\'' :: (name.toList ++ ['\'', ']'])).length - behind.length) =
        '\'' :: (name.toList ++ ['\'']) := by
    have spelled : '\'' :: (name.toList ++ ['\'', ']']) =
        '\'' :: (name.toList ++ ['\'']) ++ [']'] := by
      simp
    rw [spelled, one, List.length_append, List.length_singleton, Nat.add_sub_cancel, List.take_left]
  rw [consumed, Bool.not_eq_true, List.any_eq_false] at unbroken
  intro character member
  refine isVerbatim_iff.mpr ⟨unescaped character member, ?_⟩
  exact Bool.not_eq_true _ ▸ unbroken character
    (List.mem_cons_of_mem _ (List.mem_append_left _ member))

/-- A name between quotes and brackets is read as this name, and nothing is left over,
exactly when all its characters stand for themselves. -/
theorem readProperty_bracketAccess_iff {name : String} :
    readProperty (bracketAccess name) = some (name, []) ↔
      ∀ character ∈ name.toList, isVerbatim character = true := by
  constructor
  · intro read
    rw [bracketAccess, readProperty_bracket] at read
    rcases Option.bind_eq_some_iff.mp read with ⟨⟨text, rest⟩, line, marked⟩
    obtain ⟨rfl, left⟩ := length_pos_of_readMark marked
    exact verbatim_of_readLine line left
  · intro verbatim
    rw [bracketAccess_of_verbatim verbatim, readProperty_quotedAccess_iff]
    intro returns
    cases verbatim '\r' returns

/-! ## The characters of a class and of its node -/

section Special

variable {mark : Char} (special : isVerbatim mark = false)
include special

theorem eq_mark_of_special : mark = '\'' ∨ mark = '\\' ∨ mark = '\n' ∨ mark = '\r' := by
  simp only [isVerbatim, isLineBreak, Bool.and_eq_false_iff, decide_eq_false_iff_not, not_not,
    Bool.not_eq_false', Bool.or_eq_true, decide_eq_true_eq] at special
  rwa [or_assoc] at special

theorem special_properties :
    (mark.toNat < 0x80 ∧ mark.isAlpha = false) ∧ mark.isDigit = false ∧
      mark ∉ ['-', '_', ' '] := by
  rcases eq_mark_of_special special with rfl | rfl | rfl | rfl
  all_goals decide

theorem ne_dash_of_special : mark ≠ '-' := by
  rintro rfl
  cases special

/-- No dash is written for one of them, and none of them for another character. -/
theorem dashFor_eq_iff {character : Char} : dashFor character = mark ↔ character = mark := by
  have noBreak := (special_properties special).2.2
  unfold dashFor
  split
  · rename_i breaks
    rw [Bool.or_eq_true, decide_eq_true_eq, decide_eq_true_eq] at breaks
    constructor
    · exact fun dash => absurd dash.symm (ne_dash_of_special special)
    · rintro rfl
      rcases breaks with rfl | rfl
      · exact absurd (by decide) noBreak
      · exact absurd (by decide) noBreak
  · rfl

theorem mem_dashedBehind_iff {before : Char} {characters : List Char} :
    mark ∈ dashedBehind before characters ↔ mark ∈ characters := by
  induction characters generalizing before with
  | nil => rfl
  | cons character rest inductionHypothesis =>
      have noDash := ne_dash_of_special special
      rw [dashedBehind, dashIf]
      split
      · rw [List.mem_cons, List.mem_cons, List.mem_cons, inductionHypothesis]
        exact or_iff_right noDash
      · rw [List.mem_cons, List.mem_cons, inductionHypothesis]

theorem mem_dashCase_iff {name : String} : mark ∈ (dashCase name).toList ↔ mark ∈ name.toList := by
  obtain ⟨⟨basic, noLetter⟩, _⟩ := special_properties special
  rw [dashCase, String.toList_ofList, dashCaseChars, mem_lower_iff basic noLetter, List.mem_map]
  simp only [dashFor_eq_iff special, exists_eq_right]
  cases name.toList with
  | nil => rfl
  | cons first rest =>
      rw [separateHumps_separateWords, List.mem_cons, List.mem_cons, mem_dashedBehind_iff special]

/-- A class holds one of these characters when the name of its node does. -/
theorem mem_freeClass_iff {owners : ClassOwners} {node : String} :
    mark ∈ (freeClass owners node).toList ↔ mark ∈ node.toList := by
  unfold freeClass
  simp only
  split
  · obtain ⟨number, same⟩ := firstFree_eq_numbered owners (dashCase node) owners.length 2
    have noDigit : mark ∉ Nat.toDigits 10 number := by
      intro member
      have digit := Nat.isDigit_of_mem_toDigits (by decide) (by decide) member
      rw [(special_properties special).2.1] at digit
      cases digit
    rw [same, toList_numbered, List.mem_append, List.mem_cons, mem_dashCase_iff special]
    constructor
    · rintro (inName | rfl | inNumber)
      · exact inName
      · exact absurd rfl (ne_dash_of_special special)
      · exact absurd inNumber noDigit
    · exact Or.inl
  · exact mem_dashCase_iff special

end Special

theorem verbatim_freeClass_iff {owners : ClassOwners} {node : String} :
    (∀ character ∈ (freeClass owners node).toList, isVerbatim character = true) ↔
      ∀ character ∈ node.toList, isVerbatim character = true := by
  constructor
  · intro verbatim character member
    by_contra special
    rw [Bool.not_eq_true] at special
    exact absurd (verbatim character ((mem_freeClass_iff special).mpr member))
      (Bool.eq_false_iff.mp special)
  · intro verbatim character member
    by_contra special
    rw [Bool.not_eq_true] at special
    exact absurd (verbatim character ((mem_freeClass_iff special).mp member))
      (Bool.eq_false_iff.mp special)

/-- What an element wears is the first class that is free for its own name. -/
theorem exists_freeClass_of_worn {owners : ClassOwners} {worn : List Worn}
    (given : worn.map Worn.className = givenClasses owners (worn.map fun item => item.node.name))
    {item : Worn} (member : item ∈ worn) :
    ∃ taken, item.className = freeClass taken item.node.name := by
  induction worn generalizing owners with
  | nil => cases member
  | cons first rest inductionHypothesis =>
      rw [List.map_cons, List.map_cons, givenClasses, List.cons.injEq] at given
      rcases List.mem_cons.mp member with rfl | later
      · exact ⟨owners, given.1⟩
      · exact inductionHypothesis given.2 later

/-! ## References -/

/-- Each element refers to its class by an access in brackets behind the styles object.
The access is read as the class that the rule is for exactly when the name of the node
has no quote, no backslash and no line end in it.  Where the class is quoted instead,
only a carriage return keeps it from being read.  The member access of the style library
quotes what is no identifier, and is read as the class with one more exception: an
identifier with a line feed behind it. -/
theorem bracket_references_read_back_iff (stylesObject : String) (library : StyleLibrary)
    {component : Component} {table : MappingTable} {built styled : Assembly}
    (succeeded : ((Pass.componentTree {}).run table (Assembly.start component)).outcome = .ok built)
    (ran : ((Flavor.scopedClasses.pass (.ofChoice stylesObject false library)).run table
      built).outcome = .ok styled) :
    ∃ function edit worn,
      built.chunks.content? "react-component" = some (.component function) ∧
      styled.chunks.content? "react-component" =
        some (.component { function with root := function.root.restyle edit }) ∧
      IsStylesheet worn (styled.chunks.content? "css-modules") ∧
      (worn.map fun item => (item.origin, item.node)) =
        (claims built.nodes [] built.styledNodes).filter (fun claim => claim.2.fixedEntries ≠ []) ∧
      worn.map Worn.className = givenClasses [] (worn.map fun item => item.node.name) ∧
      ∀ item ∈ worn,
        RefersTo (ScopedClasses.classReference stylesObject false) function.root
          (function.root.restyle edit) item.origin item.className ∧
        (ScopedClasses.classReference stylesObject false item.className).toList =
          stylesObject.toList ++ bracketAccess item.className ∧
        (readProperty (bracketAccess item.className) = some (item.className, []) ↔
          ∀ character ∈ item.node.name.toList, isVerbatim character = true) ∧
        (readProperty (quotedAccess item.className) = some (item.className, []) ↔
          '\r' ∉ item.node.name.toList) ∧
        (InjectedStyles.classReference item.className).toList =
          "props.classes".toList ++ accessChars item.className ∧
        ((readProperty (accessChars item.className)).map Prod.fst = some item.className ↔
          isIdentifierLine item.className = false ∧ '\r' ∉ item.node.name.toList) := by
  rcases records_of_assembleTree succeeded with ⟨_, function, records⟩
  rcases Flavor.handsOut (by decide) records ran with ⟨worn, edit, handsOut⟩
  refine ⟨function, edit, worn, records.content?_component, handsOut.component, handsOut.kept,
    handsOut.claimants, handsOut.given, fun item member => ?_⟩
  rcases exists_freeClass_of_worn handsOut.given member with ⟨taken, same⟩
  have returns : '\r' ∈ item.className.toList ↔ '\r' ∈ item.node.name.toList := by
    rw [same]
    exact mem_freeClass_iff (by decide)
  refine ⟨handsOut.refersTo_of_worn records member, toList_classReference stylesObject _, ?_, ?_,
    toList_member _ _, ?_⟩
  · rw [readProperty_bracketAccess_iff, same, verbatim_freeClass_iff]
  · rw [readProperty_quotedAccess_iff, returns]
  · have nothing : Apart [] := fun character first => by cases first
    have read := readProperty_accessChars item.className nothing
    rw [List.append_nil] at read
    rw [read, denotedName_eq_self_iff, returns]

/-- Two elements, one of them with a quote in its name. -/
def quotingList : Component :=
  ⟨"Menu", .plain "group" "menu" none (some [swatch "it's" "red", swatch "itIs" "blue"]),
    none, none, none⟩

/-- The class with the quote is not read from the reference to it, though quoting it would
do.  The other one is read. -/
theorem quotingList_breaks_reference :
    ∃ built styled function edit, ∃ worn : List Worn,
      ((Pass.componentTree {}).run swatchTable (Assembly.start quotingList)).outcome = .ok built ∧
      ((Flavor.scopedClasses.pass (.ofChoice "styles" false {})).run swatchTable built).outcome =
        .ok styled ∧
      built.chunks.content? "react-component" = some (.component function) ∧
      worn.map Worn.className = ["it's", "it-is"] ∧
      (∀ item ∈ worn, RefersTo (ScopedClasses.classReference "styles" false) function.root
        (function.root.restyle edit) item.origin item.className) ∧
      (∀ item ∈ worn, readProperty (quotedAccess item.className) = some (item.className, [])) ∧
      ∀ item ∈ worn, (readProperty (bracketAccess item.className) = some (item.className, []) ↔
        item.node.name = "itIs") := by
  obtain ⟨built, succeeded, same, nodes, defaults⟩ : ∃ built,
      ((Pass.componentTree {}).run swatchTable (Assembly.start quotingList)).outcome = .ok built ∧
      built.component = quotingList ∧
      built.nodes = [("it's", ⟨0, [.child 0]⟩), ("itIs", ⟨0, [.child 1]⟩), ("menu", ⟨0, []⟩)] ∧
      built.defaults = [] :=
    ⟨_, rfl, rfl, rfl, rfl⟩
  have claimants : ((claims built.nodes [] built.styledNodes).filter
      (fun claim => claim.2.fixedEntries ≠ [])).map (fun claim => claim.2.name) =
        ["it's", "itIs"] := by
    unfold Assembly.styledNodes
    rw [same, nodes, defaults]
    decide +kernel
  have assigned : (assignments ScopedClasses.classPass built).outcome.toOption.isSome = true := by
    unfold assignments Assembly.styledNodes
    rw [same, nodes, defaults]
    decide +kernel
  rcases exists_ran_of_assigned succeeded assigned "styles" false {} with ⟨styled, ran⟩
  obtain ⟨function, edit, worn, component, _, _, listed, given, each⟩ :=
    bracket_references_read_back_iff "styles" {} succeeded ran
  have names : (worn.map fun item => item.node.name) = ["it's", "itIs"] :=
    names_of_claimants listed claimants
  have classes : worn.map Worn.className = ["it's", "it-is"] := by
    rw [given, names]
    decide +kernel
  have among : ∀ item ∈ worn, item.node.name ∈ ["it's", "itIs"] :=
    fun item member => names ▸ List.mem_map_of_mem member
  have noReturn : ∀ name ∈ ["it's", "itIs"], '\r' ∉ name.toList := by decide
  have legible : ∀ name ∈ ["it's", "itIs"],
      name.toList.all isVerbatim = true ↔ name = "itIs" := by
    decide
  refine ⟨built, styled, function, edit, worn, succeeded, ran, component, classes,
    fun item member => (each item member).1, fun item member => ?_, fun item member => ?_⟩
  · obtain ⟨_, _, _, quoted, _⟩ := each item member
    exact quoted.mpr (noReturn _ (among item member))
  · obtain ⟨_, _, bracketed, _⟩ := each item member
    exact bracketed.trans (List.all_eq_true.symm.trans (legible _ (among item member)))

end ComponentCompiler

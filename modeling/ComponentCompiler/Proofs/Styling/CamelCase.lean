import ComponentCompiler.Proofs.Naming.Breaks
import ComponentCompiler.Proofs.Styling.Correspondence

namespace ComponentCompiler

open Naming Styling Text

/-!
# References with inner capitals

Classes are told apart in dash case, and elements can refer to them with inner
capitals.  The number behind a class that was taken is the last of its words, and
no digit has a capital form, so the break in front of it is lost.  Two classes of a
pass are referred to alike when they show the same breaks, however many names the
pass has to tell apart.
-/

/-! ## The characters of a class -/

theorem isSmall_of_mem_dashCase {name : String} {character : Char}
    (member : character ∈ (dashCase name).toList) : IsSmall character := by
  rw [dashCase, String.toList_ofList] at member
  exact isSmall_of_mem_lower member

theorem digit_properties {digit : Char} (isDigit : digit.isDigit = true) :
    IsSmall digit ∧ isWordBreak digit = false ∧ upperChar digit = [digit] := by
  have each : ∀ code < 0x80, (Char.ofNat code).isDigit = true → IsSmall (Char.ofNat code) ∧
      isWordBreak (Char.ofNat code) = false ∧ upperChar (Char.ofNat code) = [Char.ofNat code] := by
    decide
  have basic : digit.toNat < 0x80 := by
    rw [Char.isDigit, Bool.and_eq_true, decide_eq_true_eq, decide_eq_true_eq] at isDigit
    exact Nat.lt_of_le_of_lt isDigit.2 (by decide)
  exact of_basicLatin (P := fun read => read.isDigit = true →
    IsSmall read ∧ isWordBreak read = false ∧ upperChar read = [read]) each basic isDigit

theorem toList_numbered (base : String) (number : Nat) :
    (numbered base number).toList = base.toList ++ '-' :: Nat.toDigits 10 number := by
  have digits : (toString number).toList = Nat.toDigits 10 number := by
    rw [Nat.toString_eq_ofList_toDigits, String.toList_ofList]
  rw [numbered, String.toList_append, String.toList_append, digits, List.append_assoc]
  rfl

theorem firstFree_eq_numbered (owners : ClassOwners) (base : String) (count number : Nat) :
    ∃ found, firstFree owners base count number = numbered base found := by
  induction count generalizing number with
  | zero => exact ⟨number, rfl⟩
  | succ count inductionHypothesis =>
      rw [firstFree]
      split
      · exact inductionHypothesis (number + 1)
      · exact ⟨number, rfl⟩

/-- A class is made of small letters. -/
theorem isSmall_of_mem_freeClass {owners : ClassOwners} {node : String} {character : Char}
    (member : character ∈ (freeClass owners node).toList) : IsSmall character := by
  unfold freeClass at member
  simp only at member
  split at member
  · obtain ⟨number, same⟩ :=
      firstFree_eq_numbered owners (dashCase node) owners.length 2
    rw [same, toList_numbered, List.mem_append, List.mem_cons] at member
    rcases member with inBase | rfl | inNumber
    · exact isSmall_of_mem_dashCase inBase
    · decide
    · exact (digit_properties (Nat.isDigit_of_mem_toDigits (by decide) (by decide) inNumber)).1
  · exact isSmall_of_mem_dashCase member

/-! ## References -/

theorem classReference_eq_iff {stylesObject first second : String} :
    ScopedClasses.classReference stylesObject true first =
        ScopedClasses.classReference stylesObject true second ↔
      camelCaseChars first.toList = camelCaseChars second.toList := by
  have spelled (name : String) : (ScopedClasses.classReference stylesObject true name).toList =
      (stylesObject ++ ".").toList ++ camelCaseChars name.toList := by
    rw [ScopedClasses.classReference, if_pos rfl, String.toList_append, camelCase,
      String.toList_ofList]
  rw [← String.toList_inj, spelled, spelled, List.append_cancel_left_eq]

/-- The break in front of the number of a class is lost. -/
theorem classReference_numbered (stylesObject base : String) (number : Nat) :
    ScopedClasses.classReference stylesObject true (numbered base number) =
      ScopedClasses.classReference stylesObject true base ++ toString number := by
  have digits : ∀ digit ∈ Nat.toDigits 10 number, digit.isDigit = true :=
    fun digit member => Nat.isDigit_of_mem_toDigits (by decide) (by decide) member
  have nonempty : Nat.toDigits 10 number ≠ [] := Nat.toDigits_ne_nil
  have uncased : capitalise (Nat.toDigits 10 number) = Nat.toDigits 10 number := by
    cases written : Nat.toDigits 10 number with
    | nil => rfl
    | cons digit rest =>
        rw [written] at digits
        rw [capitalise, (digit_properties (digits digit List.mem_cons_self)).2.2,
          List.singleton_append]
  rw [ScopedClasses.classReference, ScopedClasses.classReference, if_pos rfl, if_pos rfl, camelCase,
    camelCase, toList_numbered, camelCaseChars_append_word _ nonempty
      (fun digit member => (digit_properties (digits digit member)).2.1) uncased,
    String.ofList_append, Nat.toString_eq_ofList_toDigits, String.append_assoc, String.append_assoc,
    String.append_assoc]

/-- The classes that a pass gives with inner capitals are all different, but two
elements refer to theirs by one expression whenever the classes show the same
breaks.  Where all breaks of the two classes are legible, as those of basic Latin
are, this is the only case.  The break in front of a number is never shown. -/
theorem camelCase_references_agree_iff_breaks_agree (stylesObject : String)
    (library : StyleLibrary) {component : Component} {table : MappingTable}
    {built styled : Assembly}
    (succeeded : ((Pass.componentTree {}).run table (Assembly.start component)).outcome = .ok built)
    (ran : ((Flavor.scopedClasses.pass (.ofChoice stylesObject true library)).run table
      built).outcome = .ok styled) :
    ∃ function edit worn,
      built.chunks.content? "react-component" = some (.component function) ∧
      styled.chunks.content? "react-component" =
        some (.component { function with root := function.root.restyle edit }) ∧
      IsStylesheet worn (styled.chunks.content? "css-modules") ∧
      (worn.map fun item => (item.origin, item.node)) =
        (claims built.nodes [] built.styledNodes).filter (fun claim => claim.2.fixedEntries ≠ []) ∧
      worn.map Worn.className = givenClasses [] (worn.map fun item => item.node.name) ∧
      (worn.map Worn.className).Nodup ∧
      (∀ item ∈ worn, RefersTo (ScopedClasses.classReference stylesObject true) function.root
        (function.root.restyle edit) item.origin item.className) ∧
      (∀ first ∈ worn, ∀ second ∈ worn,
        shownBreaks first.className.toList = shownBreaks second.className.toList →
          ScopedClasses.classReference stylesObject true first.className =
            ScopedClasses.classReference stylesObject true second.className) ∧
      (∀ first ∈ worn, ∀ second ∈ worn, LegibleBreaks first.className.toList →
        LegibleBreaks second.className.toList →
          (ScopedClasses.classReference stylesObject true first.className =
              ScopedClasses.classReference stylesObject true second.className ↔
            shownBreaks first.className.toList = shownBreaks second.className.toList)) ∧
      (∀ item ∈ worn, (∀ character ∈ item.className.toList, character.toNat < 0x80) →
        LegibleBreaks item.className.toList) ∧
      ∀ base number, ScopedClasses.classReference stylesObject true (numbered base number) =
        ScopedClasses.classReference stylesObject true base ++ toString number := by
  rcases records_of_assembleTree succeeded with ⟨_, function, records⟩
  rcases Flavor.handsOut (by decide) records ran with ⟨worn, edit, handsOut⟩
  have small : ∀ item ∈ worn, ∀ character ∈ item.className.toList, IsSmall character := by
    intro item member character inside
    have given : item.className ∈ givenClasses [] (worn.map fun item => item.node.name) :=
      handsOut.given ▸ List.mem_map_of_mem member
    rcases exists_freeClass_of_given given with ⟨taken, node, _, same⟩
    rw [same] at inside
    exact isSmall_of_mem_freeClass inside
  refine ⟨function, edit, worn, records.content?_component, handsOut.component, handsOut.kept,
    handsOut.claimants, handsOut.given, handsOut.classes,
    fun item member => handsOut.refersTo_of_worn records member, ?_, ?_,
    fun _ _ basic => legibleBreaks_of_basicLatin basic, classReference_numbered stylesObject⟩
  · intro first _ second _ same
    rw [classReference_eq_iff, camelCaseChars_eq_raised, camelCaseChars_eq_raised, same]
  · intro first firstWorn second secondWorn legibleFirst legibleSecond
    rw [classReference_eq_iff]
    exact camelCaseChars_eq_iff (small first firstWorn) legibleFirst (small second secondWorn)
      legibleSecond

/-- The classes are worn by the nodes of the claims, in their order. -/
theorem names_of_claimants {worn : List Worn} {claimants : List (Origin × ContentNode)}
    {names : List String} (listed : (worn.map fun item => (item.origin, item.node)) = claimants)
    (named : claimants.map (fun claim => claim.2.name) = names) :
    (worn.map fun item => item.node.name) = names := by
  rw [← named, ← listed, List.map_map]
  rfl

/-- A class pass goes through when its rules can be written. -/
theorem exists_ran_of_assigned {component : Component} {table : MappingTable} {built : Assembly}
    (succeeded : ((Pass.componentTree {}).run table (Assembly.start component)).outcome = .ok built)
    (found : (assignments ScopedClasses.classPass built).outcome.toOption.isSome = true)
    (stylesObject : String) (camelCase : Bool) (library : StyleLibrary) :
    ∃ styled, ((Flavor.scopedClasses.pass (.ofChoice stylesObject camelCase library)).run table
      built).outcome = .ok styled := by
  rcases Option.isSome_iff_exists.mp found with ⟨assigned, assigns⟩
  rcases records_of_assembleTree succeeded with ⟨_, _, records⟩
  refine ⟨(ScopedClasses.output stylesObject camelCase built.component).leaves built assigned, ?_⟩
  rw [run_scopedClasses records, ScopedClasses.style_outcome, eq_ok_of_toOption_eq_some assigns]
  rfl

/-- Two elements whose names differ in a dash in front of a digit. -/
def itemList : Component :=
  ⟨"Menu", .plain "group" "menu" none (some [swatch "item-1" "red", swatch "item1" "blue"]),
    none, none, none⟩

/-- The two elements of the list have classes of their own and refer to both alike. -/
theorem itemList_shares_reference :
    ∃ built styled function edit, ∃ worn : List Worn,
      ((Pass.componentTree {}).run swatchTable (Assembly.start itemList)).outcome = .ok built ∧
      ((Flavor.scopedClasses.pass (.ofChoice "styles" true {})).run swatchTable built).outcome =
        .ok styled ∧
      built.chunks.content? "react-component" = some (.component function) ∧
      worn.map Worn.className = ["item-1", "item1"] ∧
      (∀ item ∈ worn, RefersTo (ScopedClasses.classReference "styles" true) function.root
        (function.root.restyle edit) item.origin item.className) ∧
      ∀ first ∈ worn, ∀ second ∈ worn,
        ScopedClasses.classReference "styles" true first.className =
          ScopedClasses.classReference "styles" true second.className := by
  obtain ⟨built, succeeded, same, nodes, defaults⟩ : ∃ built,
      ((Pass.componentTree {}).run swatchTable (Assembly.start itemList)).outcome = .ok built ∧
      built.component = itemList ∧
      built.nodes = [("item-1", ⟨0, [.child 0]⟩), ("item1", ⟨0, [.child 1]⟩), ("menu", ⟨0, []⟩)] ∧
      built.defaults = [] :=
    ⟨_, rfl, rfl, rfl, rfl⟩
  have claimants : ((claims built.nodes [] built.styledNodes).filter
      (fun claim => claim.2.fixedEntries ≠ [])).map (fun claim => claim.2.name) =
        ["item-1", "item1"] := by
    unfold Assembly.styledNodes
    rw [same, nodes, defaults]
    decide +kernel
  have assigned : (assignments ScopedClasses.classPass built).outcome.toOption.isSome = true := by
    unfold assignments Assembly.styledNodes
    rw [same, nodes, defaults]
    decide +kernel
  rcases exists_ran_of_assigned succeeded assigned "styles" true {} with ⟨styled, ran⟩
  obtain ⟨function, edit, worn, component, _, _, listed, given, _, refers, agree, _⟩ :=
    camelCase_references_agree_iff_breaks_agree "styles" {} succeeded ran
  have names : (worn.map fun item => item.node.name) = ["item-1", "item1"] :=
    names_of_claimants listed claimants
  have classes : worn.map Worn.className = ["item-1", "item1"] := by
    rw [given, names]
    decide +kernel
  have shown : ∀ item ∈ worn, shownBreaks item.className.toList = "item1".toList := by
    intro item member
    have among : item.className ∈ ["item-1", "item1"] := classes ▸ List.mem_map_of_mem member
    revert among
    generalize item.className = name
    revert name
    decide
  refine ⟨built, styled, function, edit, worn, succeeded, ran, component, classes, refers, ?_⟩
  intro first firstWorn second secondWorn
  exact agree first firstWorn second secondWorn
    ((shown first firstWorn).trans (shown second secondWorn).symm)

/-! ## Names with inner capitals -/

/-- A name with inner capitals, and no two of them in a row, comes back from its dash case.
So no two such names have one dash case; and where the class of a node with such a name is
the dash case itself, without a number behind it, the element refers to the class by the
name of its node. -/
theorem camelCase_inverts_dashCase {name : String} (camel : IsCamelName name.toList) :
    camelCase (dashCase name) = name ∧
    (∀ other : String, IsCamelName other.toList → dashCase other = dashCase name → other = name) ∧
    ∀ (stylesObject : String) (library : StyleLibrary) (component : Component)
      (table : MappingTable) (built styled : Assembly),
      ((Pass.componentTree {}).run table (Assembly.start component)).outcome = .ok built →
      ((Flavor.scopedClasses.pass (.ofChoice stylesObject true library)).run table
        built).outcome = .ok styled →
      ∃ function edit worn,
        built.chunks.content? "react-component" = some (.component function) ∧
        styled.chunks.content? "react-component" =
          some (.component { function with root := function.root.restyle edit }) ∧
        IsStylesheet worn (styled.chunks.content? "css-modules") ∧
        (worn.map fun item => (item.origin, item.node)) =
          (claims built.nodes [] built.styledNodes).filter
            (fun claim => claim.2.fixedEntries ≠ []) ∧
        worn.map Worn.className = givenClasses [] (worn.map fun item => item.node.name) ∧
        ∀ item ∈ worn, item.node.name = name → item.className = dashCase name →
          RefersTo (fun _ => stylesObject ++ "." ++ name) function.root
            (function.root.restyle edit) item.origin item.className := by
  have returns := camelCase_dashCase camel
  refine ⟨returns, fun other otherCamel same => ?_, ?_⟩
  · rw [← camelCase_dashCase otherCamel, same, returns]
  · intro stylesObject library component table built styled succeeded ran
    rcases records_of_assembleTree succeeded with ⟨_, function, records⟩
    rcases Flavor.handsOut (by decide) records ran with ⟨worn, edit, handsOut⟩
    refine ⟨function, edit, worn, records.content?_component, handsOut.component, handsOut.kept,
      handsOut.claimants, handsOut.given, fun item member _ unnumbered => ?_⟩
    rcases handsOut.refersTo_of_worn records member with ⟨old, new, before, after, joined⟩
    have reference : ScopedClasses.classReference stylesObject true item.className =
        stylesObject ++ "." ++ name := by
      rw [ScopedClasses.classReference, if_pos rfl, unnumbered, returns]
    refine ⟨old, new, before, after, ?_⟩
    rw [joined, ← reference]
    rfl

/-- An element whose name has digits on both sides of a capital and ends in one. -/
def gridCell : Component :=
  ⟨"Grid", .plain "group" "grid" none (some [swatch "row2Col3X" "red"]), none, none, none⟩

/-- The cell has the class `row2-col3-x` and refers to it by its own name. -/
theorem gridCell_refers_by_its_name :
    IsCamelName "row2Col3X".toList ∧ dashCase "row2Col3X" = "row2-col3-x" ∧
      camelCase (dashCase "row2Col3X") = "row2Col3X" ∧
      ∃ built styled function edit, ∃ worn : List Worn,
        ((Pass.componentTree {}).run swatchTable (Assembly.start gridCell)).outcome = .ok built ∧
        ((Flavor.scopedClasses.pass (.ofChoice "styles" true {})).run swatchTable built).outcome =
          .ok styled ∧
        built.chunks.content? "react-component" = some (.component function) ∧
        worn.map Worn.className = ["row2-col3-x"] ∧
        ∀ item ∈ worn, RefersTo (fun _ => "styles.row2Col3X") function.root
          (function.root.restyle edit) item.origin item.className := by
  have camel : IsCamelName "row2Col3X".toList :=
    { begins := by decide
      plain := fun character member => List.all_eq_true.mp (by decide) character member
      apart := by decide }
  have dashed : dashCase "row2Col3X" = "row2-col3-x" := by decide +kernel
  obtain ⟨built, succeeded, same, nodes, defaults⟩ : ∃ built,
      ((Pass.componentTree {}).run swatchTable (Assembly.start gridCell)).outcome = .ok built ∧
      built.component = gridCell ∧
      built.nodes = [("row2Col3X", ⟨0, [.child 0]⟩), ("grid", ⟨0, []⟩)] ∧ built.defaults = [] :=
    ⟨_, rfl, rfl, rfl, rfl⟩
  have claimants : ((claims built.nodes [] built.styledNodes).filter
      (fun claim => claim.2.fixedEntries ≠ [])).map (fun claim => claim.2.name) =
        ["row2Col3X"] := by
    unfold Assembly.styledNodes
    rw [same, nodes, defaults]
    decide +kernel
  have assigned : (assignments ScopedClasses.classPass built).outcome.toOption.isSome = true := by
    unfold assignments Assembly.styledNodes
    rw [same, nodes, defaults]
    decide +kernel
  rcases exists_ran_of_assigned succeeded assigned "styles" true {} with ⟨styled, ran⟩
  obtain ⟨returns, _, referred⟩ := camelCase_inverts_dashCase camel
  obtain ⟨function, edit, worn, component, _, _, listed, given, refers⟩ :=
    referred "styles" {} gridCell swatchTable built styled succeeded ran
  have names : (worn.map fun item => item.node.name) = ["row2Col3X"] :=
    names_of_claimants listed claimants
  have classes : worn.map Worn.className = ["row2-col3-x"] := by
    rw [given, names]
    decide +kernel
  refine ⟨camel, dashed, returns, built, styled, function, edit, worn, succeeded, ran, component,
    classes, fun item member => ?_⟩
  have named : item.node.name ∈ ["row2Col3X"] :=
    names ▸ List.mem_map_of_mem (f := fun item : Worn => item.node.name) member
  have unnumbered : item.className ∈ ["row2-col3-x"] := classes ▸ List.mem_map_of_mem member
  exact refers item member (List.mem_singleton.mp named)
    ((List.mem_singleton.mp unnumbered).trans dashed.symm)

end ComponentCompiler

import ComponentCompiler.Proofs.Build.Binding
import ComponentCompiler.Proofs.Styling.Decoration

namespace ComponentCompiler

open Script Styling

/-!
# Which element wears which class

A class pass is summed up by the classes that its elements wear.  Each class is
worn by one element and stands for the fixed entries of one node; an element
wears one class at most.  What an element receives and which rules are made can
be read off this list.
-/

/-- A value is bound to an input when it is the marker with the name of the input
behind it. -/
theorem Binding.prop?_eq_some_iff {value : Value} {name : String} :
    Binding.prop? value = some name ↔ value = .text ("$props." ++ name) ∧ name ≠ "" :=
  Binding.afterMarker?_eq_some_iff

namespace ContentNode

/-- The entries of a node's style that are no bindings to an input, in order. -/
def fixedEntries (node : ContentNode) : Fields :=
  (node.style.getD []).filter fun entry => (Binding.prop? entry.2).isNone

/-- The entries of a node's style that are bindings, in order, each as the path
to the input. -/
def boundEntries (node : ContentNode) : Fields :=
  (node.style.getD []).filterMap fun entry =>
    (Binding.prop? entry.2).map fun path => (entry.1, .code (memberPath "props" path))

/-- All entries of a node's style in order, the bindings as paths to the inputs. -/
def inlineEntries (node : ContentNode) : Fields :=
  (node.style.getD []).map fun entry =>
    match Binding.prop? entry.2 with
    | some path => (entry.1, .code (memberPath "props" path))
    | none => entry

theorem boundStyle_split (node : ContentNode) :
    boundStyle (split (node.style.getD [])).bound = node.boundEntries := by
  rw [boundStyle, split, List.map_filterMap, boundEntries]
  refine List.filterMap_congr fun entry _ => ?_
  cases Binding.prop? entry.2 <;> rfl

end ContentNode

/-- A class, the element that wears it, and the node whose fixed entries it
stands for. -/
structure Worn where
  origin : Origin
  node : ContentNode
  className : String

/-- The class that the elements of an origin wear. -/
def classAt (worn : List Worn) (origin : Origin) : Option String :=
  (worn.find? fun item => item.origin = origin).map Worn.className

namespace Styling

variable {ρ : Type}

/-- Each class that is worn has its rule, made of the fixed entries of its node. -/
def MakesRules (classPass : ClassPass ρ) (worn : List Worn) (rules : List (ClassRule ρ)) : Prop :=
  List.Forall₂ (fun item classRule => classRule.name = item.className ∧
    classRule.fixed = item.node.fixedEntries ∧
    classPass.rule item.className item.node.fixedEntries = .ok classRule.rule) worn rules

/-- The assignments of a class pass are summed up by what is worn. -/
structure Dressed (classPass : ClassPass ρ) (claimed : List (Origin × ContentNode))
    (assigned : List (Assignment ρ)) (worn : List Worn) : Prop where
  /-- The classes are those that the nodes are given one after another. -/
  given : worn.map Worn.className = givenClasses [] (worn.map fun item => item.node.name)
  /-- No element wears two classes. -/
  origins : (worn.map Worn.origin).Nodup
  /-- The classes stand in the order of the claims. -/
  order : (worn.map fun item => (item.origin, item.node)).Sublist claimed
  /-- The elements with fixed entries wear a class, and no others. -/
  wearers : ∀ origin node, (∃ className, ⟨origin, node, className⟩ ∈ worn) ↔
    (origin, node) ∈ claimed ∧ node.fixedEntries ≠ []
  /-- What an element receives. -/
  received : ∀ {reference : String → String} {origin : Origin} {node : ContentNode},
    (origin, node) ∈ claimed →
    editOf (assigned.map fun assignment => (assignment.origin, assignment.receipt reference)) origin =
      Receipt.onAttributes ⟨node.boundEntries, (classAt worn origin).map reference⟩
  /-- An element without a claim receives nothing. -/
  passedOver : ∀ {reference : String → String} {origin : Origin},
    origin ∉ claimed.map Prod.fst →
    editOf (assigned.map fun assignment => (assignment.origin, assignment.receipt reference)) origin =
      fun attributes => attributes
  /-- The rules that are made. -/
  rules : MakesRules classPass worn (classRules assigned)

/-- What is worn by the element of a claim and its assignment. -/
def wornBy (pair : (Origin × ContentNode) × Assignment ρ) : Option Worn :=
  pair.2.classRule.map fun classRule => ⟨pair.1.1, pair.1.2, classRule.name⟩

/-- Claims and assignments that belong together, in one list. -/
theorem exists_pairs {classPass : ClassPass ρ} {claimed : List (Origin × ContentNode)}
    {assigned : List (Assignment ρ)} (matching : List.Forall₂ (Assigns classPass) claimed assigned) :
    ∃ pairs : List ((Origin × ContentNode) × Assignment ρ),
      pairs.map Prod.fst = claimed ∧ pairs.map Prod.snd = assigned ∧
      ∀ pair ∈ pairs, Assigns classPass pair.1 pair.2 := by
  refine ⟨claimed.zip assigned, ?_, ?_, ?_⟩
  · exact List.map_fst_zip (Nat.le_of_eq matching.length_eq)
  · exact List.map_snd_zip (Nat.le_of_eq matching.length_eq.symm)
  · intro pair member
    exact (List.forall₂_iff_zip.mp matching).2 member

section Pairs

variable {classPass : ClassPass ρ} {pairs : List ((Origin × ContentNode) × Assignment ρ)}

theorem mem_worn_iff {item : Worn} :
    item ∈ pairs.filterMap wornBy ↔ ∃ pair ∈ pairs, ∃ classRule,
      pair.2.classRule = some classRule ∧ item = ⟨pair.1.1, pair.1.2, classRule.name⟩ := by
  rw [List.mem_filterMap]
  constructor
  · rintro ⟨pair, member, wears⟩
    rcases Option.map_eq_some_iff.mp wears with ⟨classRule, classed, rfl⟩
    exact ⟨pair, member, classRule, classed, rfl⟩
  · rintro ⟨pair, member, classRule, classed, rfl⟩
    exact ⟨pair, member, Option.map_eq_some_iff.mpr ⟨classRule, classed, rfl⟩⟩

theorem classAt_worn (distinct : (pairs.map fun pair => pair.1.1).Nodup)
    {pair : (Origin × ContentNode) × Assignment ρ} (member : pair ∈ pairs) :
    classAt (pairs.filterMap wornBy) pair.1.1 = pair.2.classRule.map ClassRule.name := by
  -- what is worn at this origin is worn by this pair
  have single : ∀ item ∈ pairs.filterMap wornBy, item.origin = pair.1.1 →
      ∃ classRule, pair.2.classRule = some classRule ∧ item.className = classRule.name := by
    intro item worn sameOrigin
    rcases mem_worn_iff.mp worn with ⟨other, otherMember, classRule, classed, rfl⟩
    have same := List.inj_on_of_nodup_map distinct otherMember member sameOrigin
    exact ⟨classRule, same ▸ classed, rfl⟩
  unfold classAt
  cases found : (pairs.filterMap wornBy).find? fun item => item.origin = pair.1.1 with
  | some item =>
      have passes := List.find?_some found
      rcases single item (List.mem_of_find?_eq_some found) (of_decide_eq_true passes) with
        ⟨classRule, classed, named⟩
      rw [classed, Option.map_some, Option.map_some, named]
  | none =>
      cases classed : pair.2.classRule with
      | none => rfl
      | some classRule =>
          have worn := mem_worn_iff.mpr ⟨pair, member, classRule, classed, rfl⟩
          have fails := List.find?_eq_none.mp found _ worn
          exact absurd (decide_eq_true rfl) fails

theorem worn_origins_nodup (distinct : (pairs.map fun pair => pair.1.1).Nodup) :
    ((pairs.filterMap wornBy).map Worn.origin).Nodup := by
  unfold List.Nodup at distinct ⊢
  rw [List.pairwise_map] at distinct ⊢
  refine distinct.filterMap wornBy fun first second different item wears other otherWears => ?_
  rcases Option.map_eq_some_iff.mp wears with ⟨_, _, rfl⟩
  rcases Option.map_eq_some_iff.mp otherWears with ⟨_, _, rfl⟩
  exact different

theorem worn_sublist (pairs : List ((Origin × ContentNode) × Assignment ρ)) :
    ((pairs.filterMap wornBy).map fun item => (item.origin, item.node)).Sublist
      (pairs.map Prod.fst) := by
  induction pairs with
  | nil => exact List.Sublist.slnil
  | cons pair rest inductionHypothesis =>
      rw [List.filterMap_cons, wornBy, List.map_cons]
      cases pair.2.classRule with
      | none => exact inductionHypothesis.cons _
      | some classRule => exact inductionHypothesis.cons_cons _

theorem worn_classNames (pairs : List ((Origin × ContentNode) × Assignment ρ)) :
    (pairs.filterMap wornBy).map Worn.className =
      (classRules (pairs.map Prod.snd)).map ClassRule.name := by
  unfold classRules
  rw [List.filterMap_map, List.map_filterMap, List.map_filterMap]
  refine List.filterMap_congr fun pair _ => ?_
  simp only [wornBy, Function.comp_apply, Option.map_map]
  rfl

theorem worn_nodeNames (assigns : ∀ pair ∈ pairs, Assigns classPass pair.1 pair.2) :
    ((pairs.filterMap wornBy).map fun item => item.node.name) =
      (classRules (pairs.map Prod.snd)).map ClassRule.node := by
  unfold classRules
  rw [List.filterMap_map, List.map_filterMap, List.map_filterMap]
  refine List.filterMap_congr fun pair member => ?_
  simp only [wornBy, Function.comp_apply, Option.map_map]
  cases classed : pair.2.classRule with
  | none => rfl
  | some classRule => exact congrArg some ((assigns pair member).named classRule classed).symm

theorem worn_rules (assigns : ∀ pair ∈ pairs, Assigns classPass pair.1 pair.2) :
    MakesRules classPass (pairs.filterMap wornBy) (classRules (pairs.map Prod.snd)) := by
  induction pairs with
  | nil => exact List.Forall₂.nil
  | cons pair rest inductionHypothesis =>
      have here := assigns pair List.mem_cons_self
      have later := inductionHypothesis fun other member =>
        assigns other (List.mem_cons_of_mem _ member)
      unfold classRules at later ⊢
      rw [List.map_cons, List.filterMap_cons, List.filterMap_cons, wornBy]
      cases classed : pair.2.classRule with
      | none => exact later
      | some classRule =>
          rcases here.classed classRule classed with ⟨fixed, _, made⟩
          refine List.Forall₂.cons ⟨rfl, fixed, ?_⟩ later
          rw [fixed] at made
          exact made

end Pairs

/-- Every successful class pass is summed up by what is worn. -/
theorem exists_dressed {classPass : ClassPass ρ} {claimed : List (Origin × ContentNode)}
    {assigned : List (Assignment ρ)} (matching : List.Forall₂ (Assigns classPass) claimed assigned)
    (distinct : (claimed.map Prod.fst).Nodup)
    (classNames : (classRules assigned).map ClassRule.name =
      givenClasses [] ((classRules assigned).map ClassRule.node)) :
    ∃ worn, Dressed classPass claimed assigned worn := by
  rcases exists_pairs matching with ⟨pairs, rfl, rfl, assigns⟩
  rw [List.map_map] at distinct
  have receiptOrigins : ∀ reference : String → String,
      ((pairs.map Prod.snd).map fun assignment =>
        (assignment.origin, assignment.receipt reference)).map Prod.fst =
      pairs.map fun pair => pair.1.1 := by
    intro reference
    rw [List.map_map, List.map_map]
    exact List.map_congr_left fun pair member => (assigns pair member).origin
  refine ⟨pairs.filterMap wornBy, ?_, worn_origins_nodup distinct, worn_sublist pairs, ?_, ?_, ?_,
    worn_rules assigns⟩
  · rw [worn_classNames, worn_nodeNames assigns]
    exact classNames
  · intro origin node
    constructor
    · rintro ⟨className, worn⟩
      rcases mem_worn_iff.mp worn with ⟨pair, member, classRule, classed, same⟩
      rcases Worn.mk.inj same with ⟨rfl, rfl, _⟩
      rcases (assigns pair member).classed classRule classed with ⟨fixed, nonempty, _⟩
      rw [fixed] at nonempty
      exact ⟨List.mem_map_of_mem member, nonempty⟩
    · rintro ⟨claims, nonempty⟩
      rcases List.mem_map.mp claims with ⟨pair, member, same⟩
      cases classed : pair.2.classRule with
      | none =>
          have noFixed := (assigns pair member).classless classed
          rw [same] at noFixed
          exact absurd noFixed nonempty
      | some classRule =>
          refine ⟨classRule.name, mem_worn_iff.mpr ⟨pair, member, classRule, classed, ?_⟩⟩
          rw [same]
  · -- Origins are claimed once, so the receipt of an origin is the only one that it gets.
    intro reference origin node claims
    rcases List.mem_map.mp claims with ⟨pair, member, same⟩
    have here := assigns pair member
    have handed : (origin, pair.2.receipt reference) ∈ (pairs.map Prod.snd).map fun assignment =>
        (assignment.origin, assignment.receipt reference) := by
      refine List.mem_map.mpr ⟨pair.2, List.mem_map_of_mem member, ?_⟩
      rw [here.origin, same]
    have worn := classAt_worn distinct member
    rw [same] at worn
    rw [editOf_of_mem (receiptOrigins reference ▸ distinct) handed, worn, Assignment.receipt,
      here.bound, same, ContentNode.boundStyle_split, Option.map_map]
    rfl
  · intro reference origin absent
    refine editOf_of_absent ?_
    rw [receiptOrigins]
    rw [List.map_map] at absent
    exact absent

end Styling
end ComponentCompiler

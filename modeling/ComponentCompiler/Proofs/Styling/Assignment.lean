import ComponentCompiler.Proofs.Outcome
import ComponentCompiler.Proofs.Styling.ClassName
import ComponentCompiler.Proofs.Traced
import ComponentCompiler.Styling.Assignment

namespace ComponentCompiler
namespace Styling

/-!
# What a class pass assigns

The nodes that style an element are its claims: for each element the first node
whose name leads to it.  A class pass makes one assignment for each claim, in
order.  An assignment gives its element the bound entries of the node's style,
and a class for the fixed entries when there are some.  The classes are those that
the nodes are given one after another, so no two of them have one name.
-/

variable {ρ : Type}

/-- For each element the first node whose name leads to it, apart from the
elements that are already styled. -/
def claims (nodes : Entries String Origin) :
    List Origin → List ContentNode → List (Origin × ContentNode)
  | _, [] => []
  | styled, node :: rest =>
    match Entries.lookUp? nodes node.name with
    | none => claims nodes styled rest
    | some origin =>
      if origin ∈ styled then claims nodes styled rest
      else (origin, node) :: claims nodes (origin :: styled) rest

/-- An assignment gives an element exactly the style of a node. -/
structure Assigns (classPass : ClassPass ρ) (claim : Origin × ContentNode)
    (assignment : Assignment ρ) : Prop where
  origin : assignment.origin = claim.1
  bound : assignment.bound = (split (claim.2.style.getD [])).bound
  classless : assignment.classRule = none → (split (claim.2.style.getD [])).fixed = []
  classed : ∀ classRule, assignment.classRule = some classRule →
    classRule.fixed = (split (claim.2.style.getD [])).fixed ∧ classRule.fixed ≠ [] ∧
      classPass.rule classRule.name classRule.fixed = .ok classRule.rule
  named : ∀ classRule, assignment.classRule = some classRule → classRule.node = claim.2.name

/-! ## Claims -/

/-- A claim is made by a node of the list, for the element of its name. -/
theorem of_mem_claims {nodes : Entries String Origin} {styled : List Origin}
    {list : List ContentNode} {claim : Origin × ContentNode}
    (member : claim ∈ claims nodes styled list) :
    claim.2 ∈ list ∧ Entries.lookUp? nodes claim.2.name = some claim.1 ∧ claim.1 ∉ styled := by
  fun_induction claims nodes styled list with
  | case1 styled => cases member
  | case2 styled node rest absent inductionHypothesis =>
      rcases inductionHypothesis member with ⟨listed, found, free⟩
      exact ⟨List.mem_cons_of_mem _ listed, found, free⟩
  | case3 styled node rest origin found taken inductionHypothesis =>
      rcases inductionHypothesis member with ⟨listed, foundToo, free⟩
      exact ⟨List.mem_cons_of_mem _ listed, foundToo, free⟩
  | case4 styled node rest origin found free inductionHypothesis =>
      rcases List.mem_cons.mp member with rfl | later
      · exact ⟨List.mem_cons_self, found, free⟩
      · rcases inductionHypothesis later with ⟨listed, foundToo, freeToo⟩
        exact ⟨List.mem_cons_of_mem _ listed, foundToo, fun taken =>
          freeToo (List.mem_cons_of_mem _ taken)⟩

theorem claims_nodup (nodes : Entries String Origin) (styled : List Origin)
    (list : List ContentNode) : ((claims nodes styled list).map Prod.fst).Nodup := by
  fun_induction claims nodes styled list with
  | case1 styled => exact List.nodup_nil
  | case2 styled node rest absent inductionHypothesis => exact inductionHypothesis
  | case3 styled node rest origin found taken inductionHypothesis => exact inductionHypothesis
  | case4 styled node rest origin found free inductionHypothesis =>
      refine List.nodup_cons.mpr ⟨fun again => ?_, inductionHypothesis⟩
      rcases List.mem_map.mp again with ⟨claim, member, same⟩
      exact (of_mem_claims member).2.2 (same ▸ List.mem_cons_self)

/-- The claims are made in the order of the list. -/
theorem claims_sublist (nodes : Entries String Origin) (styled : List Origin)
    (list : List ContentNode) : ((claims nodes styled list).map Prod.snd).Sublist list := by
  fun_induction claims nodes styled list with
  | case1 styled => exact List.Sublist.slnil
  | case2 styled node rest absent inductionHypothesis => exact inductionHypothesis.cons _
  | case3 styled node rest origin found taken inductionHypothesis =>
      exact inductionHypothesis.cons _
  | case4 styled node rest origin found free inductionHypothesis =>
      exact inductionHypothesis.cons_cons _

theorem claimed_of_mem {nodes : Entries String Origin} {styled : List Origin}
    {list : List ContentNode} {node : ContentNode} {origin : Origin} (listed : node ∈ list)
    (found : Entries.lookUp? nodes node.name = some origin) (free : origin ∉ styled) :
    origin ∈ (claims nodes styled list).map Prod.fst := by
  fun_induction claims nodes styled list with
  | case1 styled => cases listed
  | case2 styled other rest absent inductionHypothesis =>
      rcases List.mem_cons.mp listed with rfl | later
      · rw [absent] at found
        cases found
      · exact inductionHypothesis later free
  | case3 styled other rest taker foundToo taken inductionHypothesis =>
      rcases List.mem_cons.mp listed with rfl | later
      · rw [foundToo] at found
        exact absurd (Option.some.inj found ▸ taken) free
      · exact inductionHypothesis later free
  | case4 styled other rest taker foundToo freeToo inductionHypothesis =>
      by_cases same : origin = taker
      · exact same ▸ List.mem_cons_self
      · rcases List.mem_cons.mp listed with rfl | later
        · rw [foundToo] at found
          exact absurd (Option.some.inj found).symm same
        · refine List.mem_cons_of_mem _ (inductionHypothesis later fun taken => ?_)
          rcases List.mem_cons.mp taken with equal | earlier
          · exact same equal
          · exact free earlier

/-! ## Assignments -/

section Assignments

variable {classPass : ClassPass ρ} {component : Component} {nodes : Entries String Origin}
  {owners : ClassOwners} {styled : List Origin} {list : List ContentNode}

/-- A class pass that succeeds makes one assignment for each claim, and gives the
classes one after another. -/
theorem assigns_of_assign {assigned : List (Assignment ρ)}
    (succeeded : (assign classPass component nodes owners styled list).outcome = .ok assigned) :
    List.Forall₂ (Assigns classPass) (claims nodes styled list) assigned ∧
      (classRules assigned).map ClassRule.name =
        givenClasses owners ((classRules assigned).map ClassRule.node) := by
  induction list generalizing owners styled assigned with
  | nil =>
      cases succeeded
      exact ⟨List.Forall₂.nil, rfl⟩
  | cons node rest inductionHypothesis =>
      rw [assign] at succeeded
      rw [claims]
      cases found : Entries.lookUp? nodes node.name with
      | none =>
          simp only [found] at succeeded ⊢
          rcases Traced.outcome_bind_eq_ok.mp succeeded with ⟨_, _, onward⟩
          exact inductionHypothesis onward
      | some origin =>
          simp only [found] at succeeded ⊢
          by_cases taken : origin ∈ styled
          · rw [if_pos taken] at succeeded ⊢
            exact inductionHypothesis succeeded
          rw [if_neg taken] at succeeded ⊢
          by_cases plain : (split (node.style.getD [])).fixed.isEmpty
          · rw [if_pos plain] at succeeded
            rcases Traced.outcome_bind_eq_ok.mp succeeded with ⟨others, onward, last⟩
            cases last
            rcases inductionHypothesis onward with ⟨matching, names⟩
            refine ⟨List.Forall₂.cons ⟨rfl, rfl, fun _ => List.isEmpty_iff.mp plain, ?_, ?_⟩ matching,
              names⟩
            all_goals
              intro classRule impossible
              cases impossible
          · rw [if_neg plain] at succeeded
            rcases Traced.outcome_bind_eq_ok.mp succeeded with ⟨_, _, afterNotes⟩
            rcases Traced.outcome_bind_eq_ok.mp afterNotes with ⟨rule, made, afterRule⟩
            rcases Traced.outcome_bind_eq_ok.mp afterRule with ⟨others, onward, last⟩
            cases last
            rcases inductionHypothesis onward with ⟨matching, names⟩
            refine ⟨List.Forall₂.cons ⟨rfl, rfl, ?_, ?_, ?_⟩ matching,
              congrArg (freeClass owners node.name :: ·) names⟩
            · intro impossible
              cases impossible
            · intro classRule same
              cases same
              exact ⟨rfl, fun none => plain (List.isEmpty_iff.mpr none), ok_of_mapError_eq_ok made⟩
            · intro classRule same
              cases same
              rfl

/-- A class pass succeeds when the rules of all claims can be made. -/
theorem assign_succeeds
    (makeable : ∀ claim ∈ claims nodes styled list, (split (claim.2.style.getD [])).fixed ≠ [] →
      ∀ name, ∃ rule, classPass.rule name (split (claim.2.style.getD [])).fixed = .ok rule) :
    ∃ assigned, (assign classPass component nodes owners styled list).outcome = .ok assigned := by
  induction list generalizing owners styled with
  | nil => exact ⟨[], rfl⟩
  | cons node rest inductionHypothesis =>
      rw [assign]
      rw [claims] at makeable
      cases found : Entries.lookUp? nodes node.name with
      | none =>
          simp only [found] at makeable ⊢
          rcases inductionHypothesis makeable with ⟨others, onward⟩
          exact ⟨others, Traced.outcome_bind_eq_ok.mpr ⟨(), rfl, onward⟩⟩
      | some origin =>
          simp only [found] at makeable ⊢
          -- An element that is styled already makes no claim, so nothing is asked of its rule.
          by_cases taken : origin ∈ styled
          · rw [if_pos taken] at makeable ⊢
            exact inductionHypothesis makeable
          rw [if_neg taken] at makeable ⊢
          have later := fun claim member => makeable claim (List.mem_cons_of_mem _ member)
          by_cases plain : (split (node.style.getD [])).fixed.isEmpty
          · rw [if_pos plain]
            rcases inductionHypothesis later with ⟨others, onward⟩
            exact ⟨_, Traced.outcome_bind_eq_ok.mpr ⟨others, onward, rfl⟩⟩
          · rw [if_neg plain]
            obtain ⟨rule, made⟩ := makeable _ List.mem_cons_self
              (fun none => plain (List.isEmpty_iff.mpr none)) (freeClass owners node.name)
            have written : (Traced.ofExcept ((classPass.rule (freeClass owners node.name)
                (split (node.style.getD [])).fixed).mapError Failure.unrenderable) :
                Run ρ).outcome = .ok rule := by
              rw [Traced.ofExcept, made]
              rfl
            obtain ⟨others, onward⟩ : ∃ others, (assign classPass component nodes
                (withClass owners node.name) (origin :: styled) rest).outcome = .ok others :=
              inductionHypothesis later
            exact ⟨_, Traced.outcome_bind_eq_ok.mpr ⟨(), rfl, Traced.outcome_bind_eq_ok.mpr
              ⟨rule, written, Traced.outcome_bind_eq_ok.mpr ⟨others, onward, rfl⟩⟩⟩⟩

end Assignments

end Styling
end ComponentCompiler

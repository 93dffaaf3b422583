import ComponentCompiler.Proofs.Build.Account

namespace ComponentCompiler

/-!
# What a successful build leaves behind

A build that succeeds has left nothing out, and its tree and its notes are
accounted for by its visits.  The induction is on what a node leads to.  Lists
of children, branches and repeated content deliver what they are made of, and a
node is assembled from what they deliver.
-/

namespace MappingTable

/-- Whenever a node is built successfully at a depth, nothing below it was left
out and the visits account for what was built. -/
def Accounted (table : MappingTable) (scope : Scope) (depth : Nat) (node : ContentNode) : Prop :=
  ∀ origin notes parts, buildNode (table.siteAt scope depth) origin node = ⟨notes, .ok parts⟩ →
    table.Expanded depth node ∧ table.Accounts origin [] (table.visits depth node) notes parts

/-- The same for what a node leads to, seen from the node. -/
structure Delivers (table : MappingTable) (origin : Origin) (adopted : List ContentNode)
    (items : List ((Step × ContentNode) × Nat)) (notes : List BuildNote) (parts : List Markup) :
    Prop where
  account : table.Accounts origin adopted (table.visitsBelow items) notes parts
  inside : ∀ item ∈ items, table.Expanded item.2 item.1.2

section Delivered

variable {table : MappingTable} {scope : Scope} {depth : Nat} {origin : Origin}
  {adopted : List ContentNode} {items : List ((Step × ContentNode) × Nat)}
  {notes : List BuildNote} {parts : List Markup}

theorem Delivers.empty (table : MappingTable) (origin : Origin) :
    table.Delivers origin [] [] [] [] :=
  ⟨Accounts.empty table origin, fun _ member => absurd member List.not_mem_nil⟩

theorem Delivers.append {otherAdopted : List ContentNode}
    {otherItems : List ((Step × ContentNode) × Nat)} {otherNotes : List BuildNote}
    {otherParts : List Markup} (first : table.Delivers origin adopted items notes parts)
    (second : table.Delivers origin otherAdopted otherItems otherNotes otherParts) :
    table.Delivers origin (adopted ++ otherAdopted) (items ++ otherItems) (notes ++ otherNotes)
      (parts ++ otherParts) where
  account := by
    rw [visitsBelow, List.flatMap_append]
    exact first.account.append second.account
  inside item member := by
    rcases List.mem_append.mp member with inFirst | inSecond
    · exact first.inside item inFirst
    · exact second.inside item inSecond

/-- A single node is delivered by building it one step further down. -/
theorem Delivers.single {step : Step} {node : ContentNode}
    (accounted : table.Accounted scope depth node)
    (built : buildNode (table.siteAt scope depth) (origin.below step) node = ⟨notes, .ok parts⟩) :
    table.Delivers origin [] [((step, node), depth)] notes parts := by
  rcases accounted _ _ _ built with ⟨expanded, account⟩
  constructor
  · rw [visitsBelow, List.flatMap_cons, List.flatMap_nil, List.append_nil]
    exact account.below step
  · intro item member
    rw [List.mem_singleton.mp member]
    exact expanded

/-- A child is a node, or a text that accounts for nothing. -/
theorem delivers_of_buildChild {mark : Nat → Step} {position : Nat} {child : Child}
    (accounted : ∀ item ∈ placed mark position [child], table.Accounted scope depth item.2)
    (built : buildChild (table.siteAt scope depth) (origin.below (mark position)) child =
      ⟨notes, .ok parts⟩) :
    table.Delivers origin [] ((placed mark position [child]).map fun item => (item, depth)) notes
      parts := by
  cases child with
  | node node =>
      rw [buildChild] at built
      exact Delivers.single (accounted _ (List.mem_singleton.mpr rfl)) built
  | text content =>
      rw [buildChild] at built
      rcases Traced.pure_eq_ok built with ⟨rfl, rfl⟩
      exact ⟨(Accounts.empty table origin).reshaped (outlineAll_ofText content),
        fun _ member => absurd member List.not_mem_nil⟩

theorem delivers_of_buildChildList {position : Nat} {children : List Child}
    (accounted : ∀ item ∈ placed .child position children, table.Accounted scope depth item.2)
    (built : buildChildList (table.siteAt scope depth) origin position children =
      ⟨notes, .ok parts⟩) :
    table.Delivers origin [] ((placed .child position children).map fun item => (item, depth))
      notes parts := by
  induction children generalizing position notes parts with
  | nil =>
      rw [buildChildList] at built
      rcases Traced.pure_eq_ok built with ⟨rfl, rfl⟩
      exact Delivers.empty table origin
  | cons child rest inductionHypothesis =>
      rw [placed_cons] at accounted
      rw [buildChildList] at built
      rcases Traced.bind_eq_ok built with ⟨firstNotes, first, onwardNotes, firstBuilt, onward, rfl⟩
      rcases Traced.bind_eq_ok onward with ⟨restNotes, others, lastNotes, restBuilt, last, rfl⟩
      rcases Traced.pure_eq_ok last with ⟨rfl, rfl⟩
      have here := delivers_of_buildChild
        (fun item member => accounted item (List.mem_append_left _ member)) firstBuilt
      have later := inductionHypothesis
        (fun item member => accounted item (List.mem_append_right _ member)) restBuilt
      have together := here.append later
      rw [← List.map_append, ← placed_cons] at together
      rw [List.append_nil]
      exact together

theorem delivers_of_buildBranches {subject : String} {position : Nat} {branches : List Branch}
    (accounted : ∀ item ∈ placed .branch position (branches.map Branch.content),
      table.Accounted scope depth item.2)
    (built : buildBranches (table.siteAt scope depth) origin subject position branches =
      ⟨notes, .ok parts⟩) :
    table.Delivers origin []
      ((placed .branch position (branches.map Branch.content)).map fun item => (item, depth))
      notes parts := by
  induction branches generalizing position notes parts with
  | nil =>
      rw [buildBranches] at built
      rcases Traced.pure_eq_ok built with ⟨rfl, rfl⟩
      exact Delivers.empty table origin
  | cons branch rest inductionHypothesis =>
      rw [List.map_cons, placed_cons] at accounted
      rcases branch with ⟨test, content⟩
      rw [buildBranches] at built
      rcases Traced.bind_eq_ok built with ⟨firstNotes, first, onwardNotes, firstBuilt, onward, rfl⟩
      rcases Traced.bind_eq_ok onward with ⟨restNotes, others, lastNotes, restBuilt, last, rfl⟩
      rcases Traced.pure_eq_ok last with ⟨rfl, rfl⟩
      rw [buildBranch] at firstBuilt
      rcases Traced.bind_eq_ok firstBuilt with ⟨writeNotes, _, bodyNotes, writable, body, rfl⟩
      rcases Traced.bind_eq_ok body with ⟨childNotes, inner, finalNotes, childBuilt, final, rfl⟩
      rcases Traced.pure_eq_ok final with ⟨rfl, rfl⟩
      have silent := requireWritable_silent writable
      have child := delivers_of_buildChild
        (fun item member => accounted item (List.mem_append_left _ member)) childBuilt
      have here : table.Delivers origin []
          ((placed .branch position [content]).map fun item => (item, depth)) childNotes
          [.guarded (test.guard subject) (.element (gathered inner))] := by
        refine ⟨child.account.reshaped ?_, child.inside⟩
        rw [outlineAll_guarded, outlineAll_gathered]
      have later := inductionHypothesis
        (fun item member => accounted item (List.mem_append_right _ member)) restBuilt
      have together := here.append later
      rw [← List.map_append, ← placed_cons] at together
      rw [silent, List.nil_append, List.append_nil, List.append_nil]
      exact together

theorem delivers_of_buildRepeated {repetition : Repetition} {part : Markup}
    (accounted : table.Accounted scope depth repetition.content)
    (built : buildRepeated (table.siteAt scope depth) origin repetition = ⟨notes, .ok part⟩) :
    table.Delivers origin [] [((.repetition, repetition.content), depth)] notes [part] := by
  rcases repetition with ⟨content, source, annotation⟩
  rw [buildRepeated] at built
  rcases Traced.bind_eq_ok built with ⟨innerNotes, inner, onwardNotes, innerBuilt, onward, rfl⟩
  obtain ⟨sourceNotes, expression, lastNotes, sourceWritten, last, rfl⟩ := Traced.bind_eq_ok onward
  rcases Traced.pure_eq_ok last with ⟨rfl, rfl⟩
  have silent : sourceNotes = [] := (Traced.mk.inj sourceWritten).1.symm
  have here := Delivers.single accounted innerBuilt
  rw [silent, List.append_nil, List.append_nil]
  refine ⟨here.account.reshaped ?_, here.inside⟩
  rw [outlineAll_repeated, outlineAll_repeatedElement]

end Delivered

/-! ## Elements -/

theorem drawn_nil {α : Type} (depth : Nat) : drawn depth (none : Option (List α)) [] = [] := by
  cases depth <;> rfl

section Elements

variable {table : MappingTable} {scope : Scope} {depth : Nat} {origin : Origin}
  {node : ContentNode} {entry : ElementMapping} {notes : List BuildNote} {parts : List Markup}

/-- Default children are noted, and then built one level further down. -/
theorem delivers_of_defaultChildren {resolved : ResolvedElement} {supplied : Option (List Child)}
    (fromEntry : resolved.children = someNonempty supplied)
    (accounted : ∀ item ∈ drawn depth none (placed .child 0 (supplied.getD [])),
      table.Accounted scope item.2 item.1.2)
    (built : (table.siteAt scope depth).defaultChildren origin resolved = ⟨notes, .ok parts⟩) :
    (drawn depth none (placed .child 0 (supplied.getD []))).map Prod.fst =
        placed .child 0 (supplied.getD []) ∧
      table.Delivers origin ((placed .child 0 (supplied.getD [])).map Prod.snd)
        (drawn depth none (placed .child 0 (supplied.getD []))) notes parts := by
  unfold Site.defaultChildren at built
  rw [fromEntry] at built
  match supplied with
  | none | some [] =>
      rcases Traced.pure_eq_ok built with ⟨rfl, rfl⟩
      simp only [Option.getD_none, Option.getD_some, placed, drawn_nil, List.map_nil]
      exact ⟨trivial, Delivers.empty table origin⟩
  | some (child :: rest) =>
      rcases Traced.bind_eq_ok built with ⟨noted, _, innerNotes, rootsNoted, innerBuilt, rfl⟩
      rcases Traced.mk.inj rootsNoted with ⟨rfl, _⟩
      cases depth with
      | zero => cases innerBuilt
      | succ smaller =>
          simp only [Option.getD_some, drawn] at accounted ⊢
          constructor
          · rw [List.map_map]
            exact List.map_id' _
          · have delivered := delivers_of_buildChildList
              (fun item member => accounted (item, smaller) (List.mem_map_of_mem member)) innerBuilt
            rw [map_snd_placed]
            exact ⟨delivered.account.adopting _, delivered.inside⟩

theorem delivers_of_defaultRepetition {resolved : ResolvedElement}
    (accounted : ∀ item ∈ drawn depth none ((resolved.repetition.map Repetition.placed).getD []),
      table.Accounted scope item.2 item.1.2)
    (built : (table.siteAt scope depth).defaultRepetition origin resolved = ⟨notes, .ok parts⟩) :
    (drawn depth none ((resolved.repetition.map Repetition.placed).getD [])).map Prod.fst =
        (resolved.repetition.map Repetition.placed).getD [] ∧
      table.Delivers origin (((resolved.repetition.map Repetition.placed).getD []).map Prod.snd)
        (drawn depth none ((resolved.repetition.map Repetition.placed).getD [])) notes parts := by
  unfold Site.defaultRepetition at built
  cases supplied : resolved.repetition with
  | none =>
      rw [supplied] at built
      rcases Traced.pure_eq_ok built with ⟨rfl, rfl⟩
      simp only [Option.map_none, Option.getD_none, drawn_nil, List.map_nil]
      exact ⟨trivial, Delivers.empty table origin⟩
  | some repetition =>
      rw [supplied] at accounted built
      rcases Traced.bind_eq_ok built with ⟨noted, _, onwardNotes, rootNoted, onward, rfl⟩
      rcases Traced.mk.inj rootNoted with ⟨rfl, _⟩
      rcases Traced.bind_eq_ok onward with ⟨innerNotes, part, lastNotes, innerBuilt, last, rfl⟩
      rcases Traced.pure_eq_ok last with ⟨rfl, rfl⟩
      cases depth with
      | zero => cases innerBuilt
      | succ smaller =>
          have delivered := delivers_of_buildRepeated
            (accounted ((.repetition, repetition.content), smaller) (List.mem_singleton.mpr rfl))
            innerBuilt
          rw [List.append_nil]
          exact ⟨rfl, delivered.account.adopting [repetition.content], delivered.inside⟩

/-- The children of an element are delivered, whether its node lists them or the
entry of its type does. -/
theorem delivers_of_innerParts (known : table.entry? node.type = some entry)
    (accounted : ∀ item ∈ drawn depth node.ownChildren (table.defaultChildren node.type),
      table.Accounted scope item.2 item.1.2)
    (built : (table.siteAt scope depth).innerParts origin node
      (entry.resolve node.attrs node.dependency) = ⟨notes, .ok parts⟩) :
    (drawn depth node.ownChildren (table.defaultChildren node.type)).map Prod.fst =
        node.ownChildren.getD (table.defaultChildren node.type) ∧
      table.Delivers origin
        ((if node.children.isNone then table.defaultChildren node.type else []).map Prod.snd)
        (drawn depth node.ownChildren (table.defaultChildren node.type)) notes parts := by
  unfold Site.innerParts at built
  unfold ContentNode.ownChildren at accounted ⊢
  cases given : node.children with
  | some children =>
      simp only [given, Option.map_some, Option.getD_some, drawn] at accounted built ⊢
      constructor
      · rw [List.map_map]
        exact List.map_id' _
      · refine delivers_of_buildChildList (fun item member => ?_) built
        exact accounted (item, depth) (List.mem_map_of_mem member)
  | none =>
      simp only [given, Option.map_none, Option.getD_none] at accounted built ⊢
      have listed : table.defaultChildren node.type = placed .child 0 (entry.children.getD []) := by
        rw [defaultChildren, known]
        rfl
      rw [listed] at accounted ⊢
      exact delivers_of_defaultChildren rfl accounted built

theorem delivers_of_repeatedParts (known : table.entry? node.type = some entry)
    (accounted : ∀ item ∈ drawn depth node.ownRepetition (table.defaultRepetition node.type),
      table.Accounted scope item.2 item.1.2)
    (built : (table.siteAt scope depth).repeatedParts origin node
      (entry.resolve node.attrs node.dependency) = ⟨notes, .ok parts⟩) :
    (drawn depth node.ownRepetition (table.defaultRepetition node.type)).map Prod.fst =
        node.ownRepetition.getD (table.defaultRepetition node.type) ∧
      table.Delivers origin
        ((if node.repetition.isNone then table.defaultRepetition node.type else []).map Prod.snd)
        (drawn depth node.ownRepetition (table.defaultRepetition node.type)) notes parts := by
  unfold Site.repeatedParts at built
  unfold ContentNode.ownRepetition at accounted ⊢
  cases given : node.repetition with
  | some repetition =>
      simp only [given, Option.map_some, Option.getD_some, drawn] at accounted built ⊢
      rcases Traced.bind_eq_ok built with ⟨innerNotes, part, lastNotes, innerBuilt, last, rfl⟩
      rcases Traced.pure_eq_ok last with ⟨rfl, rfl⟩
      constructor
      · rfl
      · rw [List.append_nil]
        exact delivers_of_buildRepeated
          (accounted ((.repetition, repetition.content), depth) (List.mem_singleton.mpr rfl))
          innerBuilt
  | none =>
      simp only [given, Option.map_none, Option.getD_none] at accounted built ⊢
      have listed : table.defaultRepetition node.type =
          (entry.repetition.map Repetition.placed).getD [] := by
        rw [defaultRepetition, known]
        rfl
      rw [listed] at accounted ⊢
      exact delivers_of_defaultRepetition accounted built

/-- The notes before the content of an element tell only of its import. -/
theorem openingNotes_tell (scope : Scope) (node : ContentNode) (resolved : ResolvedElement) :
    builtOf (openingNotes scope node resolved) = [] ∧
      defaultsOf (openingNotes scope node resolved) = [] ∧
      registeredOf (openingNotes scope node resolved) =
        (resolved.dependency.map fun dependency => (resolved.tag, dependency)).toList := by
  have logged : ∀ notes : List Log.Entry, builtOf (notes.map .log) = [] ∧
      defaultsOf (notes.map .log) = [] ∧ registeredOf (notes.map .log) = [] := by
    intro notes
    unfold builtOf defaultsOf registeredOf
    rw [List.filterMap_map, List.filterMap_map, List.filterMap_map]
    exact ⟨List.filterMap_eq_nil_iff.mpr fun _ _ => rfl,
      List.filterMap_eq_nil_iff.mpr fun _ _ => rfl, List.filterMap_eq_nil_iff.mpr fun _ _ => rfl⟩
  unfold openingNotes importNotes
  rw [builtOf_append, defaultsOf_append, registeredOf_append, (logged _).1, (logged _).2.1,
    (logged _).2.2]
  cases resolved.dependency <;> exact ⟨rfl, rfl, rfl⟩

end Elements

/-- A build that succeeds has left nothing out, and its visits account for its
tree and its notes. -/
theorem accounted (table : MappingTable) (scope : Scope) (depth : Nat) (node : ContentNode) :
    table.Accounted scope depth node := by
  induction depth, node using table.belowAt_induction with
  | step depth node inductionHypothesis =>
      intro origin notes parts built
      rw [visits_eq]
      -- A node with branches is never an element itself, whatever children it lists.
      cases kind : node.isElement with
      | false =>
          rw [buildNode_of_branches kind] at built
          have led : table.belowAt depth node = node.ownBranches.map fun item => (item, depth) := by
            rw [belowAt, kind]
            rfl
          have accounted : ∀ item ∈ node.ownBranches, table.Accounted scope depth item.2 :=
            fun item member => inductionHypothesis (item, depth) (led ▸ List.mem_map_of_mem member)
          have delivered := delivers_of_buildBranches accounted built
          refine ⟨Expanded.intro ?_ ?_, Accounts.branched kind ?_⟩
          · rw [led, List.map_map, below, kind]
            exact List.map_id' _
          · rw [led]
            exact delivered.inside
          · rw [led]
            exact delivered.account
      | true =>
          obtain ⟨entry, innerNotes, inner, repeatedNotes, repeated, known, innerBuilt,
            repeatedBuilt, rfl, rfl⟩ := buildNode_element_eq_ok kind built
          replace known : table.entry? node.type = some entry := known
          have led : table.belowAt depth node =
              drawn depth node.ownChildren (table.defaultChildren node.type) ++
                drawn depth node.ownRepetition (table.defaultRepetition node.type) := by
            rw [belowAt, kind]
            rfl
          obtain ⟨innerComplete, innerDelivered⟩ := delivers_of_innerParts known
            (fun item member => inductionHypothesis item (led ▸ List.mem_append_left _ member))
            innerBuilt
          obtain ⟨repeatedComplete, repeatedDelivered⟩ := delivers_of_repeatedParts known
            (fun item member => inductionHypothesis item (led ▸ List.mem_append_right _ member))
            repeatedBuilt
          have together := innerDelivered.append repeatedDelivered
          refine ⟨Expanded.intro ?_ ?_, ?_⟩
          · rw [led, List.map_append, innerComplete, repeatedComplete, below, kind]
            rfl
          · rw [led]
            exact together.inside
          · obtain ⟨noneBuilt, noDefaults, imports⟩ := openingNotes_tell scope node
              (entry.resolve node.attrs node.dependency)
            have tagged : (entry.resolve node.attrs node.dependency).tag = table.tag node := by
              rw [tag, known]
              rfl
            have needed : table.registration? node =
                (entry.resolve node.attrs node.dependency).dependency.map fun dependency =>
                  ((entry.resolve node.attrs node.dependency).tag, dependency) := by
              rw [registration?, known]
              rfl
            have allTaken := congrArg (List.map Prod.snd) (table.taken_of_element kind)
            rw [List.map_append] at allTaken
            rw [led, visitsBelow, List.flatMap_append]
            have mapped : ¬ table.IsUnmapped node :=
              fun unmapped => Option.some_ne_none _ (known.symm.trans unmapped.2)
            exact Accounts.element kind mapped (node.started_origin origin _)
              ((node.started_tag origin _).trans tagged) noneBuilt noDefaults
              (needed ▸ imports) allTaken innerDelivered.account repeatedDelivered.account

end MappingTable
end ComponentCompiler

import ComponentCompiler.Entries

namespace ComponentCompiler
namespace Entries

/-!
# Entries written one after another

What is found after writing was written, or was there before; what was written
is found, though a later value may have replaced it.
-/

variable {κ α : Type} [DecidableEq κ] {entries additions : Entries κ α} {key : κ} {value : α}

theorem mem_of_lookUp?_eq_some (found : lookUp? entries key = some value) :
    (key, value) ∈ entries := by
  induction entries with
  | nil => cases found
  | cons entry rest inductionHypothesis =>
      rcases entry with ⟨known, old⟩
      rw [lookUp?] at found
      split at found
      · rename_i same
        rw [same, Option.some.inj found]
        exact List.mem_cons_self
      · exact List.mem_cons_of_mem _ (inductionHypothesis found)

theorem mem_or_eq_of_mem_put {entry : κ × α} (member : entry ∈ put entries key value) :
    entry ∈ entries ∨ entry = (key, value) := by
  induction entries with
  | nil => exact Or.inr (List.mem_singleton.mp member)
  | cons first rest inductionHypothesis =>
      rcases first with ⟨known, old⟩
      rw [put] at member
      split at member
      · rename_i same
        rcases List.mem_cons.mp member with here | later
        · exact Or.inr (same ▸ here)
        · exact Or.inl (List.mem_cons_of_mem _ later)
      · rcases List.mem_cons.mp member with here | later
        · exact Or.inl (here ▸ List.mem_cons_self)
        · exact (inductionHypothesis later).imp_left (List.mem_cons_of_mem _)

theorem mem_or_mem_of_mem_update {entry : κ × α} (member : entry ∈ update entries additions) :
    entry ∈ entries ∨ entry ∈ additions := by
  induction additions generalizing entries with
  | nil => exact Or.inl member
  | cons addition rest inductionHypothesis =>
      rcases inductionHypothesis member with earlier | later
      · rcases mem_or_eq_of_mem_put earlier with before | written
        · exact Or.inl before
        · exact Or.inr (written ▸ List.mem_cons_self)
      · exact Or.inr (List.mem_cons_of_mem _ later)

/-- What is found after writing was written, or was there before. -/
theorem mem_or_lookUp?_of_update (found : lookUp? (update entries additions) key = some value) :
    (key, value) ∈ additions ∨ lookUp? entries key = some value := by
  induction additions generalizing entries with
  | nil => exact Or.inr found
  | cons addition rest inductionHypothesis =>
      rcases addition with ⟨written, content⟩
      rcases inductionHypothesis found with later | earlier
      · exact Or.inl (List.mem_cons_of_mem _ later)
      · by_cases same : written = key
        · subst same
          rw [lookUp?_put_self] at earlier
          exact Or.inl (Option.some.inj earlier ▸ List.mem_cons_self)
        · rw [lookUp?_put_of_ne _ _ same] at earlier
          exact Or.inr earlier

theorem isSome_lookUp?_update (present : (lookUp? entries key).isSome) :
    (lookUp? (update entries additions) key).isSome := by
  induction additions generalizing entries with
  | nil => exact present
  | cons addition rest inductionHypothesis =>
      refine inductionHypothesis ?_
      by_cases same : addition.1 = key
      · rw [← same, lookUp?_put_self]
        rfl
      · rw [lookUp?_put_of_ne _ _ same]
        exact present

theorem isSome_lookUp?_update_of_mem (written : key ∈ additions.map Prod.fst) :
    (lookUp? (update entries additions) key).isSome := by
  induction additions generalizing entries with
  | nil => cases written
  | cons addition rest inductionHypothesis =>
      rcases List.mem_cons.mp written with rfl | later
      · rw [update, List.foldl_cons]
        refine isSome_lookUp?_update ?_
        rw [lookUp?_put_self]
        rfl
      · exact inductionHypothesis later

/-- Under a new key the entry is written behind the others. -/
theorem put_of_not_mem (absent : key ∉ keys entries) :
    put entries key value = entries ++ [(key, value)] := by
  induction entries with
  | nil => rfl
  | cons entry rest inductionHypothesis =>
      rcases entry with ⟨known, old⟩
      rw [keys, List.map_cons, List.mem_cons, not_or] at absent
      rw [put, if_neg (Ne.symm absent.1), inductionHypothesis absent.2, List.cons_append]

theorem lookUp?_append (first second : Entries κ α) (key : κ) :
    lookUp? (first ++ second) key = (lookUp? first key).or (lookUp? second key) := by
  induction first with
  | nil => rfl
  | cons entry rest inductionHypothesis =>
      rw [List.cons_append, lookUp?, lookUp?, inductionHypothesis]
      split <;> rfl

/-- Of several values that are written under a key the last one is found. -/
theorem lookUp?_update (entries additions : Entries κ α) (key : κ) :
    lookUp? (update entries additions) key =
      (lookUp? additions.reverse key).or (lookUp? entries key) := by
  induction additions generalizing entries with
  | nil => rfl
  | cons addition rest inductionHypothesis =>
      have onward : update entries (addition :: rest) =
          update (put entries addition.1 addition.2) rest := rfl
      rw [onward, inductionHypothesis, List.reverse_cons, lookUp?_append, Option.or_assoc]
      refine congrArg (Option.or _) ?_
      by_cases same : addition.1 = key
      · rw [← same, lookUp?_put_self, lookUp?, if_pos rfl]
        rfl
      · rw [lookUp?_put_of_ne _ _ same, lookUp?, if_neg same]
        rfl

/-! ## Distinct keys -/

theorem nodup_keys_put (distinct : (keys entries).Nodup) :
    (keys (put entries key value)).Nodup := by
  rw [keys_put]
  split
  · exact distinct
  · rename_i fresh
    refine List.nodup_append.mpr ⟨distinct, List.pairwise_singleton _ _, ?_⟩
    intro known member other isKey same
    rw [List.mem_singleton.mp isKey] at same
    exact fresh (same ▸ member)

theorem lookUp?_eq_none_of_not_mem (absent : key ∉ keys entries) : lookUp? entries key = none := by
  cases found : lookUp? entries key with
  | none => rfl
  | some value =>
      exact absurd (List.mem_map_of_mem (mem_of_lookUp?_eq_some found)) absent

/-- Among distinct keys the order of the entries does not matter. -/
theorem lookUp?_reverse (distinct : (keys entries).Nodup) (key : κ) :
    lookUp? entries.reverse key = lookUp? entries key := by
  induction entries with
  | nil => rfl
  | cons entry rest inductionHypothesis =>
      rcases entry with ⟨known, value⟩
      rcases List.nodup_cons.mp distinct with ⟨apart, restDistinct⟩
      rw [List.reverse_cons, lookUp?_append, inductionHypothesis restDistinct, lookUp?, lookUp?,
        lookUp?]
      by_cases same : known = key
      · subst same
        rw [lookUp?_eq_none_of_not_mem apart, if_pos rfl]
        rfl
      · rw [if_neg same, if_neg same]
        exact Option.or_none

theorem nodup_keys_update (distinct : (keys entries).Nodup)
    (additions : Entries κ α) : (keys (update entries additions)).Nodup := by
  induction additions generalizing entries with
  | nil => exact distinct
  | cons addition rest inductionHypothesis =>
      exact inductionHypothesis (nodup_keys_put distinct)

/-- Among distinct keys an entry is the only one with its key. -/
theorem filter_key_of_mem (distinct : (keys entries).Nodup) {entry : κ × α}
    (member : entry ∈ entries) : entries.filter (fun other => other.1 = entry.1) = [entry] := by
  induction entries with
  | nil => cases member
  | cons first rest inductionHypothesis =>
      rcases List.nodup_cons.mp distinct with ⟨apart, restDistinct⟩
      rw [List.filter_cons]
      rcases List.mem_cons.mp member with rfl | later
      · have absent : rest.filter (fun other => other.1 = entry.1) = [] := by
          rw [List.filter_eq_nil_iff]
          intro other listed sameKey
          have found : other.1 = entry.1 := of_decide_eq_true sameKey
          have known : other.1 ∈ keys rest := List.mem_map_of_mem listed
          exact apart (found ▸ known)
        rw [absent, if_pos (decide_eq_true rfl)]
      · have known : entry.1 ∈ keys rest := List.mem_map_of_mem later
        have different : ¬ first.1 = entry.1 := fun same => apart (same ▸ known)
        rw [if_neg (by rw [decide_eq_false different]; exact Bool.false_ne_true)]
        exact inductionHypothesis restDistinct later

/-- Among distinct keys the written one is there once, with the written value. -/
theorem filter_put_self (distinct : (keys entries).Nodup) :
    (put entries key value).filter (fun entry => entry.1 = key) = [(key, value)] :=
  filter_key_of_mem (nodup_keys_put distinct)
    (mem_of_lookUp?_eq_some (lookUp?_put_self entries key value))

end Entries
end ComponentCompiler

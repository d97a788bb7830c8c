import Mathlib.Data.List.Forall2
import QueryComposer.Value.Key

namespace QueryComposer.Association

/-!
# Mappings that are written pair by pair

Whatever a mapping holds was written into it. Renaming all keys of a mapping changes nothing else,
as long as the new names are the same keys exactly if the old ones are. Mappings that have the same
keys and differ in their values are read and written side by side.
-/

section Finding

variable {κ : Type} {α : Type} [BEq κ]

/-- What is found under a key is the value of a pair with the same key. -/
theorem exists_mem_of_get?
    {pairs : List (κ × α)}
    {key : κ}
    {value : α}
    (found : get? pairs key = some value) :
    ∃ other, (other, value) ∈ pairs ∧ (other == key) = true := by
  induction pairs with
  | nil =>
      cases found
  | cons first rest inductionHypothesis =>
      rcases first with ⟨other, old⟩
      rw [get?] at found
      split at found
      · next same =>
          cases found
          exact ⟨other, List.mem_cons_self, same⟩
      · obtain ⟨another, member, same⟩ := inductionHypothesis found
        exact ⟨another, List.mem_cons_of_mem _ member, same⟩

theorem mem_of_get?
    [LawfulBEq κ]
    {pairs : List (κ × α)}
    {key : κ}
    {value : α}
    (found : get? pairs key = some value) :
    (key, value) ∈ pairs := by
  obtain ⟨other, member, same⟩ := exists_mem_of_get? found
  rwa [← eq_of_beq same]

/-- A key that occurs has a value. -/
theorem exists_get?_of_mem
    [LawfulBEq κ]
    {pairs : List (κ × α)}
    {key : κ}
    (member : key ∈ pairs.map (·.1)) :
    ∃ value, get? pairs key = some value := by
  induction pairs with
  | nil =>
      cases member
  | cons pair rest inductionHypothesis =>
      rcases pair with ⟨other, value⟩
      rw [get?]
      by_cases same : other = key
      · exact ⟨value, by simp [same]⟩
      · rw [if_neg (by simpa using same)]
        apply inductionHypothesis
        rcases List.mem_cons.mp member with isFirst | inRest
        · exact absurd isFirst.symm same
        · exact inRest

/-- Nothing is found under a key exactly if no pair has the same key. -/
theorem get?_eq_none_iff
    {pairs : List (κ × α)}
    {key : κ} :
    get? pairs key = none ↔ ∀ pair ∈ pairs, ¬ (pair.1 == key) = true := by
  induction pairs with
  | nil =>
      simp [get?]
  | cons first rest inductionHypothesis =>
      rcases first with ⟨other, old⟩
      rw [get?, List.forall_mem_cons, ← inductionHypothesis]
      split
      · next same =>
          simp [same]
      · next different =>
          simp [different]

end Finding

section Members

variable {κ : Type} {α : Type} [BEq κ] [LawfulBEq κ]

/-- A pair of a mapping was there before or has just been written. -/
theorem mem_put
    {pairs : List (κ × α)}
    {key : κ}
    {value : α}
    {pair : κ × α}
    (member : pair ∈ put pairs key value) :
    pair ∈ pairs ∨ pair = (key, value) := by
  induction pairs with
  | nil =>
      exact .inr (List.mem_singleton.mp member)
  | cons first rest inductionHypothesis =>
      rcases first with ⟨other, old⟩
      rw [put] at member
      split at member
      · next same =>
          rcases List.mem_cons.mp member with isFirst | inRest
          · right
            rw [isFirst, eq_of_beq same]
          · exact .inl (List.mem_cons_of_mem _ inRest)
      · rcases List.mem_cons.mp member with isFirst | inRest
        · left
          rw [isFirst]
          exact List.mem_cons_self
        · rcases inductionHypothesis inRest with before | written
          · exact .inl (List.mem_cons_of_mem _ before)
          · exact .inr written

theorem mem_merge
    {pairs updates : List (κ × α)}
    {pair : κ × α}
    (member : pair ∈ merge pairs updates) :
    pair ∈ pairs ∨ pair ∈ updates := by
  induction updates generalizing pairs with
  | nil =>
      exact .inl member
  | cons update rest inductionHypothesis =>
      rcases inductionHypothesis member with there | inRest
      · rcases mem_put there with before | written
        · exact .inl before
        · right
          rw [written]
          exact List.mem_cons_self
      · exact .inr (List.mem_cons_of_mem _ inRest)

theorem mem_ofPairs
    {pairs : List (κ × α)}
    {pair : κ × α}
    (member : pair ∈ ofPairs pairs) :
    pair ∈ pairs := by
  rcases mem_merge member with nowhere | written
  · cases nowhere
  · exact written

end Members

section Append

variable {κ : Type} {α : Type} [BEq κ]

theorem get?_append
    (pairs others : List (κ × α))
    (key : κ) :
    get? (pairs ++ others) key = (get? pairs key).or (get? others key) := by
  induction pairs with
  | nil =>
      rfl
  | cons first rest inductionHypothesis =>
      rw [List.cons_append, get?, get?]
      split
      · rfl
      · exact inductionHypothesis

/-- A new key goes to the end. -/
theorem put_of_absent
    {pairs : List (κ × α)}
    {key : κ}
    (absent : get? pairs key = none)
    (value : α) :
    put pairs key value = pairs ++ [(key, value)] := by
  induction pairs with
  | nil =>
      rfl
  | cons first rest inductionHypothesis =>
      rw [get?] at absent
      rw [put]
      split at absent
      · cases absent
      · next different =>
          rw [if_neg different, inductionHypothesis absent]
          rfl

theorem key_mem_put
    {pairs : List (κ × α)}
    {key written : κ}
    {value : α}
    (member : key ∈ (put pairs written value).map (·.1)) :
    key ∈ pairs.map (·.1) ∨ key = written := by
  induction pairs with
  | nil =>
      exact .inr (List.mem_singleton.mp member)
  | cons first rest inductionHypothesis =>
      rcases first with ⟨other, old⟩
      rw [put] at member
      split at member
      · exact .inl member
      · rw [List.map_cons, List.mem_cons] at member ⊢
        rcases member with isFirst | inRest
        · exact .inl (.inl isFirst)
        · exact (inductionHypothesis inRest).imp_left .inr

/-- Every key of a mapping was there before or has been written. -/
theorem key_mem_merge
    {pairs updates : List (κ × α)}
    {key : κ}
    (member : key ∈ (merge pairs updates).map (·.1)) :
    key ∈ pairs.map (·.1) ∨ key ∈ updates.map (·.1) := by
  induction updates generalizing pairs with
  | nil =>
      exact .inl member
  | cons update rest inductionHypothesis =>
      rw [List.map_cons, List.mem_cons]
      rcases inductionHypothesis member with written | inRest
      · rcases key_mem_put written with before | isUpdate
        · exact .inl before
        · exact .inr (.inl isUpdate)
      · exact .inr (.inr inRest)

end Append

section Rewriting

variable {κ : Type} {α : Type} [BEq κ] [PartialEquivBEq κ]

/-- A key that has been written has its new value, and the other ones have their old values. -/
theorem get?_put
    (pairs : List (κ × α))
    (written key : κ)
    (value : α) :
    get? (put pairs written value) key =
      if written == key then some value else get? pairs key := by
  induction pairs with
  | nil =>
      rfl
  | cons first rest inductionHypothesis =>
      rcases first with ⟨other, old⟩
      rw [put]
      by_cases same : (other == written) = true
      · rw [if_pos same, get?, get?, BEq.congr_left same]
        split <;> rfl
      · rw [if_neg same, get?, get?, inductionHypothesis]
        by_cases named : (written == key) = true
        · have apart : ¬ (other == key) = true :=
            fun isKey => same (BEq.trans isKey (BEq.symm named))
          simp only [if_pos named, if_neg apart]
        · simp only [if_neg named]

/-- After merging, a key has the value that was written last, or else its old one. -/
theorem get?_merge_reverse
    (pairs updates : List (κ × α))
    (key : κ) :
    get? (merge pairs updates) key = (get? updates.reverse key).or (get? pairs key) := by
  induction updates generalizing pairs with
  | nil =>
      rfl
  | cons update rest inductionHypothesis =>
      rcases update with ⟨other, value⟩
      have merged := inductionHypothesis (put pairs other value)
      change get? (merge (put pairs other value) rest) key = _
      rw [merged, List.reverse_cons, get?_append, Option.or_assoc, get?_put, get?, get?]
      split <;> rfl

/-- A mapping holds what was written last for a key. -/
theorem get?_ofPairs
    (pairs : List (κ × α))
    (key : κ) :
    get? (ofPairs pairs) key = get? pairs.reverse key := by
  rw [ofPairs, get?_merge_reverse, get?, Option.or_none]

end Rewriting

section Distinct

variable {κ : Type} {α : Type} [BEq κ] [LawfulBEq κ]

/-- No key occurs twice. -/
def Distinct : List (κ × α) → Prop
  | [] => True
  | (key, _) :: rest => get? rest key = none ∧ Distinct rest

/-- Writing a pair into distinct keys keeps them distinct. -/
theorem distinct_put
    {pairs : List (κ × α)}
    (distinct : Distinct pairs)
    (key : κ)
    (value : α) :
    Distinct (put pairs key value) := by
  induction pairs with
  | nil =>
      exact ⟨rfl, trivial⟩
  | cons first rest inductionHypothesis =>
      rcases first with ⟨other, old⟩
      rw [put]
      split
      · exact distinct
      · next different =>
          have apart : key ≠ other := fun same => different (by simp [same])
          refine ⟨?_, inductionHypothesis distinct.2⟩
          rw [get?_put_of_ne rest key other value apart]
          exact distinct.1

theorem distinct_ofPairs (pairs : List (κ × α)) : Distinct (ofPairs pairs) := by
  suffices merges : ∀ before : List (κ × α), Distinct before → Distinct (merge before pairs) from
    merges [] trivial
  induction pairs with
  | nil =>
      exact fun _ distinct => distinct
  | cons pair rest inductionHypothesis =>
      exact fun _ distinct => inductionHypothesis _ (distinct_put distinct pair.1 pair.2)

/-- After merging distinct keys, each of them has its new value and the others their old one. -/
theorem get?_merge
    (pairs : List (κ × α))
    {updates : List (κ × α)}
    (distinct : Distinct updates)
    (key : κ) :
    get? (merge pairs updates) key = (get? updates key).or (get? pairs key) := by
  induction updates generalizing pairs with
  | nil =>
      rfl
  | cons update rest inductionHypothesis =>
      rcases update with ⟨other, value⟩
      have merged := inductionHypothesis (put pairs other value) distinct.2
      rw [get?]
      by_cases same : other = key
      · subst same
        rw [if_pos (beq_self_eq_true other)]
        rw [distinct.1, get?_put_self] at merged
        exact merged
      · rw [if_neg (by simpa using same)]
        rw [get?_put_of_ne pairs other key value same] at merged
        exact merged

/-- A key that is distinct from those after it is not among those before it. -/
theorem get?_eq_none_of_distinct
    {pairs rest : List (κ × α)}
    {key : κ}
    {value : α}
    (distinct : Distinct (pairs ++ (key, value) :: rest)) :
    get? pairs key = none := by
  induction pairs with
  | nil =>
      rfl
  | cons first others inductionHypothesis =>
      rcases first with ⟨other, old⟩
      have absent : get? (others ++ (key, value) :: rest) other = none := distinct.1
      rw [get?_append, Option.or_eq_none_iff, get?] at absent
      rw [get?, if_neg]
      · exact inductionHypothesis distinct.2
      · intro same
        rw [eq_of_beq same, if_pos (beq_self_eq_true key)] at absent
        cases absent.2

/-- Mappings without a common key are merged by writing one behind the other. -/
theorem merge_of_distinct
    {pairs updates : List (κ × α)}
    (distinct : Distinct (pairs ++ updates)) :
    merge pairs updates = pairs ++ updates := by
  induction updates generalizing pairs with
  | nil =>
      exact (List.append_nil pairs).symm
  | cons update rest inductionHypothesis =>
      rcases update with ⟨key, value⟩
      have written := put_of_absent (get?_eq_none_of_distinct distinct) value
      have same : pairs ++ (key, value) :: rest = (pairs ++ [(key, value)]) ++ rest := by
        rw [List.append_assoc, List.singleton_append]
      rw [same, ← written] at distinct ⊢
      exact inductionHypothesis distinct

end Distinct

section Keys

variable {κ : Type} {α : Type} [BEq κ] [LawfulBEq κ]

/-- Writing a key adds it at the end, unless it is there. -/
theorem keys_put
    (pairs : List (κ × α))
    (key : κ)
    (value : α) :
    (put pairs key value).map (·.1) =
      if key ∈ pairs.map (·.1) then pairs.map (·.1) else pairs.map (·.1) ++ [key] := by
  induction pairs with
  | nil =>
      rfl
  | cons first rest inductionHypothesis =>
      rcases first with ⟨other, old⟩
      rw [put]
      by_cases same : other = key
      · simp [same]
      · have apart : ¬ (other == key) = true := by simpa using same
        rw [if_neg apart, List.map_cons, inductionHypothesis, List.map_cons]
        by_cases there : key ∈ rest.map (·.1)
        · rw [if_pos there, if_pos (List.mem_cons_of_mem _ there)]
        · have new : key ∉ other :: rest.map (·.1) := by
            rw [List.mem_cons, not_or]
            exact ⟨Ne.symm same, there⟩
          rw [if_neg there, if_neg new, List.cons_append]

/-- Merging adds the new keys in the order in which they first occur. -/
theorem keys_merge (pairs updates : List (κ × α)) :
    (merge pairs updates).map (·.1) =
      pairs.map (·.1) ++ ((updates.map (·.1)).filter (· ∉ pairs.map (·.1))).eraseDups := by
  induction updates generalizing pairs with
  | nil =>
      exact (List.append_nil _).symm
  | cons update rest inductionHypothesis =>
      rcases update with ⟨key, value⟩
      have merged := inductionHypothesis (put pairs key value)
      rw [keys_put] at merged
      change (merge (put pairs key value) rest).map (·.1) = _
      rw [merged, List.map_cons]
      by_cases there : key ∈ pairs.map (·.1)
      · rw [if_pos there, List.filter_cons_of_neg (by simpa using there)]
      · rw [if_neg there, List.filter_cons_of_pos (by simpa using there), List.eraseDups_cons,
          List.filter_filter, List.append_assoc, List.singleton_append]
        congr 3
        apply List.filter_congr
        intro other _
        rw [Bool.eq_iff_iff, Bool.and_eq_true, decide_eq_true_eq, decide_eq_true_eq,
          List.mem_append, List.mem_singleton, not_or, Bool.not_eq_true', beq_eq_false_iff_ne]
        exact and_comm

/-- A mapping has the keys that were written, in the order in which they first occur. -/
theorem keys_ofPairs (pairs : List (κ × α)) :
    (ofPairs pairs).map (·.1) = (pairs.map (·.1)).eraseDups := by
  rw [ofPairs, keys_merge]
  simp

/-- Under a key that occurs once its own value is found. -/
theorem get?_of_mem
    {pairs : List (κ × α)}
    (once : (pairs.map (·.1)).Nodup)
    {pair : κ × α}
    (member : pair ∈ pairs) :
    get? pairs pair.1 = some pair.2 := by
  induction pairs with
  | nil =>
      cases member
  | cons first rest inductionHypothesis =>
      rcases first with ⟨other, old⟩
      rw [List.map_cons, List.nodup_cons] at once
      rw [get?]
      rcases List.mem_cons.mp member with isFirst | inRest
      · rw [isFirst, if_pos (beq_self_eq_true other)]
      · have apart : other ≠ pair.1 := by
          intro same
          apply once.1
          rw [same]
          exact List.mem_map.mpr ⟨pair, inRest, rfl⟩
        rw [if_neg (by simpa using apart)]
        exact inductionHypothesis once.2 inRest

end Keys

section Nonempty

variable {κ : Type} {α : Type} [BEq κ]

/-- What has been written into is not empty. -/
theorem put_ne_nil
    (pairs : List (κ × α))
    (key : κ)
    (value : α) :
    put pairs key value ≠ [] := by
  cases pairs with
  | nil =>
      simp [put]
  | cons first rest =>
      rcases first with ⟨other, old⟩
      rw [put]
      split <;> simp

theorem merge_ne_nil
    {pairs updates : List (κ × α)}
    (given : pairs ≠ [] ∨ updates ≠ []) :
    merge pairs updates ≠ [] := by
  induction updates generalizing pairs with
  | nil =>
      simpa [merge] using given
  | cons update rest inductionHypothesis =>
      exact inductionHypothesis (.inl (put_ne_nil pairs update.1 update.2))

end Nonempty

section Renaming

variable
  {κ κ' : Type}
  {α : Type}
  [BEq κ]
  [BEq κ']
  {rename : κ → κ'}
  (same : ∀ key other, (rename key == rename other) = (key == other))

include same

theorem get?_map
    (pairs : List (κ × α))
    (key : κ) :
    get? (pairs.map (Prod.map rename id)) (rename key) = get? pairs key := by
  induction pairs with
  | nil =>
      rfl
  | cons first rest inductionHypothesis =>
      rcases first with ⟨other, old⟩
      rw [List.map_cons, Prod.map, get?, get?, same, inductionHypothesis, id]

theorem put_map
    (pairs : List (κ × α))
    (key : κ)
    (value : α) :
    put (pairs.map (Prod.map rename id)) (rename key) value =
      (put pairs key value).map (Prod.map rename id) := by
  induction pairs with
  | nil =>
      rfl
  | cons first rest inductionHypothesis =>
      rcases first with ⟨other, old⟩
      rw [List.map_cons, Prod.map, put, put, same]
      split
      · rfl
      · rw [inductionHypothesis]
        rfl

theorem merge_map (pairs updates : List (κ × α)) :
    merge (pairs.map (Prod.map rename id)) (updates.map (Prod.map rename id)) =
      (merge pairs updates).map (Prod.map rename id) := by
  induction updates generalizing pairs with
  | nil =>
      rfl
  | cons update rest inductionHypothesis =>
      have written := inductionHypothesis (put pairs update.1 update.2)
      rw [← put_map same] at written
      exact written

/-- A mapping is written in the same way with other names for its keys. -/
theorem ofPairs_map (pairs : List (κ × α)) :
    ofPairs (pairs.map (Prod.map rename id)) = (ofPairs pairs).map (Prod.map rename id) :=
  merge_map same [] pairs

end Renaming

section Corresponding

variable {κ : Type} {α β : Type} [BEq κ] {related : α → β → Prop}

/-- The same keys in the same order, with related values. -/
def Corresponds
    (related : α → β → Prop)
    (pairs : List (κ × α))
    (pairs' : List (κ × β)) : Prop :=
  List.Forall₂ (fun pair pair' => pair.1 = pair'.1 ∧ related pair.2 pair'.2) pairs pairs'

theorem get?_corresponds
    {pairs : List (κ × α)}
    {pairs' : List (κ × β)}
    (corresponding : Corresponds related pairs pairs')
    (key : κ) :
    Option.Rel related (get? pairs key) (get? pairs' key) := by
  induction corresponding with
  | nil =>
      exact .none
  | @cons pair pair' rest rest' first _ inductionHypothesis =>
      rcases pair with ⟨other, value⟩
      rcases pair' with ⟨other', value'⟩
      obtain ⟨sameKey, values⟩ := first
      dsimp only at sameKey values
      subst sameKey
      rw [get?, get?]
      split
      · exact .some values
      · exact inductionHypothesis

theorem put_corresponds
    {pairs : List (κ × α)}
    {pairs' : List (κ × β)}
    (corresponding : Corresponds related pairs pairs')
    (key : κ)
    {value : α}
    {value' : β}
    (values : related value value') :
    Corresponds related (put pairs key value) (put pairs' key value') := by
  induction corresponding with
  | nil =>
      exact .cons ⟨rfl, values⟩ .nil
  | @cons pair pair' rest rest' first others inductionHypothesis =>
      rcases pair with ⟨other, old⟩
      rcases pair' with ⟨other', old'⟩
      obtain ⟨sameKey, olds⟩ := first
      dsimp only at sameKey olds
      subst sameKey
      rw [put, put]
      split
      · exact .cons ⟨rfl, values⟩ others
      · exact .cons ⟨rfl, olds⟩ inductionHypothesis

theorem merge_corresponds
    {pairs updates : List (κ × α)}
    {pairs' updates' : List (κ × β)}
    (corresponding : Corresponds related pairs pairs')
    (corresponds : Corresponds related updates updates') :
    Corresponds related (merge pairs updates) (merge pairs' updates') := by
  induction corresponds generalizing pairs pairs' with
  | nil =>
      exact corresponding
  | @cons update update' rest rest' first _ inductionHypothesis =>
      obtain ⟨sameKey, values⟩ := first
      have written := inductionHypothesis (put_corresponds corresponding update.1 values)
      unfold merge at written ⊢
      rw [List.foldl_cons, List.foldl_cons, ← sameKey]
      exact written

/-- Mappings that are written from corresponding pairs correspond. -/
theorem ofPairs_corresponds
    {pairs : List (κ × α)}
    {pairs' : List (κ × β)}
    (corresponds : Corresponds related pairs pairs') :
    Corresponds related (ofPairs pairs) (ofPairs pairs') :=
  merge_corresponds .nil corresponds

end Corresponding

end QueryComposer.Association

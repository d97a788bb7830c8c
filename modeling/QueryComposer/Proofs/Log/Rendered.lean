import QueryComposer.Log.Event
import QueryComposer.Proofs.Association

namespace QueryComposer.Log

/-!
# Events that can be written

Writing an event fails only over a key inside of a field that names no member. So an event can be
written whose fields hold no mappings and are plain data as they stand.
-/

/-- A value that can be written as it stands: it is plain data, and no mapping to be redacted. -/
def Writable (value : Value) : Prop :=
  Redaction.redactValue value = .ok value ∧ ∃ json, Json.ofValue value = .ok json

theorem writable_text (s : String) : Writable (.text s) :=
  ⟨rfl, .text s, rfl⟩

theorem writable_int (n : Int) : Writable (.int n) :=
  ⟨rfl, .int n, rfl⟩

/-- A list of texts is plain data as it stands. -/
theorem writable_texts
    {values : List Value}
    (areTexts : ∀ value ∈ values, ∃ s, value = .text s) :
    Writable (.list values) := by
  have written : ∃ members, Json.ofValues values = .ok members := by
    induction values with
    | nil =>
        exact ⟨[], rfl⟩
    | cons value rest inductionHypothesis =>
        obtain ⟨s, rfl⟩ := areTexts value List.mem_cons_self
        obtain ⟨members, writtenRest⟩ :=
          inductionHypothesis fun other member => areTexts other (List.mem_cons_of_mem _ member)
        refine ⟨.text s :: members, ?_⟩
        rw [Json.ofValues, writtenRest]
        rfl
  obtain ⟨members, written⟩ := written
  refine ⟨rfl, .array members, ?_⟩
  rw [Json.ofValue, written]
  rfl

/-- Redacting writable values keeps their keys and leaves them writable. -/
theorem redactPairs_of_writable
    {fields : List (String × Value)}
    (writable : ∀ field ∈ fields, Writable field.2) :
    ∃ shown : List (String × Value),
      Redaction.redactPairs (fields.map fun (name, value) => (.text name, value)) =
          .ok (shown.map fun (name, value) => (.text name, value)) ∧
        ∀ field ∈ shown, Writable field.2 := by
  induction fields with
  | nil =>
      exact ⟨[], rfl, by simp⟩
  | cons field rest inductionHypothesis =>
      rcases field with ⟨name, value⟩
      have first := writable (name, value) List.mem_cons_self
      obtain ⟨shown, redacted, stillWritable⟩ :=
        inductionHypothesis fun field member => writable field (List.mem_cons_of_mem _ member)
      have written : ∀ kept, Writable kept →
          ∀ field ∈ (name, kept) :: shown, Writable field.2 := by
        intro kept keptWritable field member
        rcases List.mem_cons.mp member with isFirst | inRest
        · rw [isFirst]
          exact keptWritable
        · exact stillWritable field inRest
      by_cases sensitive : Redaction.isSensitive name = true
      · refine ⟨(name, .text Redaction.mask) :: shown, ?_, written _ (writable_text _)⟩
        rw [List.map_cons, Redaction.redactPairs, if_pos sensitive, redacted]
        rfl
      · refine ⟨(name, value) :: shown, ?_, written _ first⟩
        rw [List.map_cons, Redaction.redactPairs, if_neg sensitive, first.1, redacted]
        rfl

/-- Writable values have names and values as members of an object. -/
theorem ofPairs_of_writable
    {fields : List (String × Value)}
    (writable : ∀ field ∈ fields, Writable field.2) :
    ∃ members,
      Json.ofPairs (fields.map fun (name, value) => (.text name, value)) = .ok members := by
  induction fields with
  | nil =>
      exact ⟨[], rfl⟩
  | cons field rest inductionHypothesis =>
      rcases field with ⟨name, value⟩
      obtain ⟨_, json, written⟩ := writable (name, value) List.mem_cons_self
      obtain ⟨members, writtenRest⟩ :=
        inductionHypothesis fun field member => writable field (List.mem_cons_of_mem _ member)
      refine ⟨(name, json) :: members, ?_⟩
      rw [List.map_cons, Json.ofPairs, written, writtenRest]
      rfl

/-- An event whose fields are writable can be written. -/
theorem Event.render?_of_writable
    {event : Event}
    (writable : ∀ field ∈ event.fields, Writable field.2) :
    ∃ written, event.render? = .ok written := by
  have all : ∀ field ∈ event.allFields, Writable field.2 := by
    intro field member
    rcases Association.mem_merge member with own | member
    · exact writable field own
    · rcases List.mem_cons.mp member with isLevel | member
      · rw [isLevel]
        exact writable_text _
      · rw [List.mem_singleton.mp member]
        exact writable_text _
  obtain ⟨shown, redacted, stillWritable⟩ := redactPairs_of_writable all
  obtain ⟨members, written⟩ := ofPairs_of_writable stillWritable
  refine ⟨⟨event.level, members⟩, ?_⟩
  rw [Event.render?, redacted]
  change (Json.ofPairs _ >>= _) = _
  rw [written]
  rfl

end QueryComposer.Log

import QueryComposer.Proofs.Log.Rendered
import QueryComposer.Proofs.Success

namespace QueryComposer

/-!
# Mappings that can be logged

What is logged is redacted and then turned into plain data. Redaction goes into mappings inside of
mappings and finds its way by texts, so that every key it meets has to be one; a key inside of a
list is not met by it and only has to name a member. `Redaction.isLoggable` tells the values that
can be logged from all others.
-/

namespace Json

/-- The key can name a member of an object. -/
def namesMember : Value → Bool
  | .text _
  | .int _
  | .bool _
  | .null
  | .float _ => true
  | _ => false

theorem exists_memberName_iff (key : Value) :
    (∃ name, memberName key = .ok name) ↔ namesMember key = true := by
  cases key with
  | bool b =>
      cases b <;> simp [memberName, namesMember]
  | _ =>
      simp [memberName, namesMember]

mutual

/-- Every key in the value, however deep, can name a member. -/
def isPlain : Value → Bool
  | .list items
  | .tuple items => areAllPlain items
  | .map pairs => hasPlainPairs pairs
  | _ => true

def areAllPlain : List Value → Bool
  | [] => true
  | value :: rest => isPlain value && areAllPlain rest

def hasPlainPairs : List (Value × Value) → Bool
  | [] => true
  | (key, value) :: rest => namesMember key && isPlain value && hasPlainPairs rest

end

/-- Changing the plain data of a value does not change whether there is any. -/
theorem exists_map_iff
    {α β : Type}
    {computed : Except Error α}
    {change : α → β} :
    (∃ result, computed.map change = .ok result) ↔ ∃ result, computed = .ok result := by
  cases computed <;> simp [Except.map]

mutual

/-- Exactly the values whose keys all name members are plain data. -/
theorem exists_ofValue_iff (value : Value) :
    (∃ json, ofValue value = .ok json) ↔ isPlain value = true := by
  cases value with
  | list items
  | tuple items =>
      rw [ofValue, isPlain, exists_map_iff]
      exact exists_ofValues_iff items
  | map pairs =>
      rw [ofValue, isPlain, exists_map_iff]
      exact exists_ofPairs_iff pairs
  | _ =>
      simp [ofValue, isPlain]

theorem exists_ofValues_iff :
    ∀ values : List Value, (∃ items, ofValues values = .ok items) ↔ areAllPlain values = true
  | [] => by
      simp [ofValues, areAllPlain]
  | value :: rest => by
      rw [areAllPlain, Bool.and_eq_true, ← exists_ofValue_iff value, ← exists_ofValues_iff rest,
        ofValues]
      constructor
      · rintro ⟨items, written⟩
        obtain ⟨first, writtenFirst, written⟩ := Success.bind_eq_ok_iff.mp written
        obtain ⟨others, writtenOthers, _⟩ := Success.bind_eq_ok_iff.mp written
        exact ⟨⟨first, writtenFirst⟩, ⟨others, writtenOthers⟩⟩
      · rintro ⟨⟨first, writtenFirst⟩, ⟨others, writtenOthers⟩⟩
        rw [writtenFirst, writtenOthers]
        exact ⟨_, rfl⟩

theorem exists_ofPairs_iff :
    ∀ pairs : List (Value × Value),
      (∃ members, ofPairs pairs = .ok members) ↔ hasPlainPairs pairs = true
  | [] => by
      simp [ofPairs, hasPlainPairs]
  | (key, value) :: rest => by
      rw [hasPlainPairs, Bool.and_eq_true, Bool.and_eq_true, ← exists_memberName_iff key,
        ← exists_ofValue_iff value, ← exists_ofPairs_iff rest, ofPairs]
      constructor
      · rintro ⟨members, written⟩
        obtain ⟨name, named, written⟩ := Success.bind_eq_ok_iff.mp written
        obtain ⟨first, writtenFirst, written⟩ := Success.bind_eq_ok_iff.mp written
        obtain ⟨others, writtenOthers, _⟩ := Success.bind_eq_ok_iff.mp written
        exact ⟨⟨⟨name, named⟩, ⟨first, writtenFirst⟩⟩, ⟨others, writtenOthers⟩⟩
      · rintro ⟨⟨⟨name, named⟩, ⟨first, writtenFirst⟩⟩, ⟨others, writtenOthers⟩⟩
        rw [named, writtenFirst, writtenOthers]
        exact ⟨_, rfl⟩

end

end Json

namespace Redaction

mutual

/-- The value can be logged: redaction meets texts as keys only, and what it leaves is plain. -/
def isLoggable : Value → Bool
  | .map pairs => hasLoggablePairs pairs
  | value => Json.isPlain value

def hasLoggablePairs : List (Value × Value) → Bool
  | [] => true
  | (.text key, value) :: rest => (isSensitive key || isLoggable value) && hasLoggablePairs rest
  | _ => false

end

/-- What a redacted pair shows: the mask under a sensitive key, else the redacted value. -/
def shownOf
    (key : String)
    (value : Value) :
    Except Error Value :=
  if isSensitive key then .ok (.text mask) else redactValue value

theorem redactPairs_cons_text
    (key : String)
    (value : Value)
    (rest : List (Value × Value)) :
    redactPairs ((.text key, value) :: rest) = do
      let shown ← shownOf key value
      let others ← redactPairs rest
      return (.text key, shown) :: others := by
  rw [redactPairs, shownOf]
  split <;> rfl

mutual

/-- What has been redacted stays as it is when it is redacted again. -/
theorem redactValue_of_redacted
    {value shown : Value}
    (redacted : redactValue value = .ok shown) :
    redactValue shown = .ok shown := by
  cases value with
  | map pairs =>
      rw [redactValue] at redacted
      obtain ⟨others, redactedPairs, rfl⟩ := Success.map_eq_ok_iff.mp redacted
      rw [redactValue, redactPairs_of_redacted redactedPairs]
      rfl
  | _ =>
      cases redacted
      rfl

theorem redactPairs_of_redacted :
    ∀ {pairs shown : List (Value × Value)},
      redactPairs pairs = .ok shown → redactPairs shown = .ok shown
  | [], shown, redacted => by
      cases redacted
      rfl
  | (key, value) :: rest, shown, redacted => by
      cases key with
      | text key =>
          rw [redactPairs_cons_text] at redacted
          obtain ⟨first, shownFirst, redacted⟩ := Success.bind_eq_ok_iff.mp redacted
          obtain ⟨others, redactedRest, made⟩ := Success.bind_eq_ok_iff.mp redacted
          cases made
          have again : shownOf key first = .ok first := by
            unfold shownOf at shownFirst ⊢
            split at shownFirst
            · next sensitive =>
                cases shownFirst
                rw [if_pos sensitive]
            · next ordinary =>
                rw [if_neg ordinary]
                exact redactValue_of_redacted shownFirst
          rw [redactPairs_cons_text, again, redactPairs_of_redacted redactedRest]
          rfl
      | _ =>
          cases redacted

end

mutual

/-- A value can be logged exactly if it can be redacted and written as plain data after that. -/
theorem isLoggable_iff (value : Value) :
    isLoggable value = true ↔
      ∃ shown json, redactValue value = .ok shown ∧ Json.ofValue shown = .ok json := by
  cases value with
  | map pairs =>
      rw [isLoggable, hasLoggablePairs_iff pairs, redactValue]
      constructor
      · rintro ⟨shown, members, redacted, written⟩
        refine ⟨.map shown, .object members, ?_, ?_⟩
        · rw [redacted]
          rfl
        · rw [Json.ofValue, written]
          rfl
      · rintro ⟨shown, json, redacted, written⟩
        obtain ⟨others, redactedPairs, rfl⟩ := Success.map_eq_ok_iff.mp redacted
        rw [Json.ofValue] at written
        obtain ⟨members, writtenPairs, _⟩ := Success.map_eq_ok_iff.mp written
        exact ⟨others, members, redactedPairs, writtenPairs⟩
  | _ =>
      simp [isLoggable, redactValue, ← Json.exists_ofValue_iff]

theorem hasLoggablePairs_iff :
    ∀ pairs : List (Value × Value),
      hasLoggablePairs pairs = true ↔
        ∃ shown members, redactPairs pairs = .ok shown ∧ Json.ofPairs shown = .ok members
  | [] => by
      simp [hasLoggablePairs, redactPairs, Json.ofPairs]
  | (key, value) :: rest => by
      cases key with
      | text key =>
          have first :
              (isSensitive key || isLoggable value) = true ↔
                ∃ shown json, shownOf key value = .ok shown ∧ Json.ofValue shown = .ok json := by
            unfold shownOf
            split
            · next sensitive =>
                simp [sensitive, Json.ofValue]
            · next ordinary =>
                rw [Bool.or_eq_true, or_iff_right ordinary]
                exact isLoggable_iff value
          rw [hasLoggablePairs, Bool.and_eq_true, first, hasLoggablePairs_iff rest,
            redactPairs_cons_text]
          constructor
          · rintro ⟨⟨shown, json, shownFirst, written⟩, others, members, redacted, writtenOthers⟩
            refine ⟨(.text key, shown) :: others, (key, json) :: members, ?_, ?_⟩
            · rw [shownFirst, redacted]
              rfl
            · rw [Json.ofPairs, written, writtenOthers]
              rfl
          · rintro ⟨all, members, redacted, written⟩
            obtain ⟨shown, shownFirst, redacted⟩ := Success.bind_eq_ok_iff.mp redacted
            obtain ⟨others, redactedRest, made⟩ := Success.bind_eq_ok_iff.mp redacted
            cases made
            rw [Json.ofPairs] at written
            obtain ⟨name, _, written⟩ := Success.bind_eq_ok_iff.mp written
            obtain ⟨json, writtenFirst, written⟩ := Success.bind_eq_ok_iff.mp written
            obtain ⟨more, writtenOthers, _⟩ := Success.bind_eq_ok_iff.mp written
            exact ⟨⟨shown, json, shownFirst, writtenFirst⟩, others, more, redactedRest,
              writtenOthers⟩
      | _ =>
          simp [hasLoggablePairs, redactPairs]

end

end Redaction

/-- An event can be written exactly if its fields can be logged. -/
theorem Log.Event.exists_render?_iff (event : Log.Event) :
    (∃ written, event.render? = .ok written) ↔
      Redaction.hasLoggablePairs
        (event.allFields.map fun (name, value) => (Value.text name, value)) = true := by
  rw [Redaction.hasLoggablePairs_iff]
  unfold render?
  constructor
  · rintro ⟨written, rendered⟩
    obtain ⟨shown, redacted, rendered⟩ := Success.bind_eq_ok_iff.mp rendered
    obtain ⟨members, written, _⟩ := Success.bind_eq_ok_iff.mp rendered
    exact ⟨shown, members, redacted, written⟩
  · rintro ⟨shown, members, redacted, written⟩
    refine ⟨⟨event.level, members⟩, ?_⟩
    refine Success.bind_eq_ok_iff.mpr ⟨shown, redacted, ?_⟩
    exact Success.bind_eq_ok_iff.mpr ⟨members, written, rfl⟩

end QueryComposer

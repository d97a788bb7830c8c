import QueryComposer.Driver.Document
import QueryComposer.Driver.Packaged
import QueryComposer.Proofs.Association
import QueryComposer.Proofs.Success

namespace QueryComposer.Driver

/-!
# Names of loaded drivers

A driver of a document is found under the key of its entry. Its own name is that key as well,
unless the entry has a field that gives it another one.
-/

open Schema

/-- The entry of a driver in a document: its fields, which have not been checked. -/
abbrev RawEntry :=
  List (String × Value)

/-- The entries of a document, each under its key. -/
def entriesOf (content : Value) : Checked (List (String × RawEntry)) :=
  match if content.isTruthy then content else .map [] with
  | .map fields => checkField fields "drivers" (checkNonemptyMap (checkMap .ok)) none
  | _ => defect (.notDocument "DriverRegistryFile")

/-- A document has this entry under the key. -/
def HasEntry
    (text key : String)
    (entry : RawEntry) : Prop :=
  ∃ content entries,
    Yaml.read text = .ok content ∧
      entriesOf content = .ok entries ∧
      Association.get? entries key = some entry

/-- The entry gives itself no name but its key. -/
def KeepsName
    (key : String)
    (entry : RawEntry) : Prop :=
  ∀ value, Association.get? entry "name" = some value → checkText value = .ok key

/-- A part is accepted under a step exactly if it is accepted. -/
theorem under_eq_ok_iff
    {α : Type}
    {step : Step}
    {checked : Checked α}
    {result : α} :
    under step checked = .ok result ↔ checked = .ok result :=
  Success.mapError_eq_ok_iff

/-- A required field is accepted exactly if it is there and its value is accepted. -/
theorem checkField_eq_ok_iff
    {α : Type}
    {fields : List (Value × Value)}
    {name : String}
    {check : Value → Checked α}
    {result : α} :
    checkField fields name check none = .ok result ↔
      ∃ value, Association.get? fields (.text name) = some value ∧ check value = .ok result := by
  unfold checkField
  rw [under_eq_ok_iff]
  cases Association.get? fields (.text name) <;> simp [defect]

/-- Mappings are accepted exactly if their pairs are. -/
theorem checkMap_eq_ok_iff
    {α : Type}
    {check : Value → Checked α}
    {value : Value}
    {results : List (String × α)} :
    checkMap check value = .ok results ↔
      ∃ pairs checked,
        value = .map pairs ∧
          checkPairs check pairs = .ok checked ∧
          Association.ofPairs checked = results := by
  cases value with
  | map pairs =>
      rw [checkMap, Success.map_eq_ok_iff]
      constructor
      · rintro ⟨checked, accepted, made⟩
        exact ⟨pairs, checked, rfl, accepted, made⟩
      · rintro ⟨_, checked, same, accepted, made⟩
        cases same
        exact ⟨checked, accepted, made⟩
  | _ =>
      simp [checkMap, defect]

/-- Every value of an accepted mapping is accepted. -/
theorem exists_of_mem_of_checkPairs
    {α : Type}
    {check : Value → Checked α}
    {pairs : List (Value × Value)}
    {results : List (String × α)}
    (checked : checkPairs check pairs = .ok results)
    {result : String × α}
    (member : result ∈ results) :
    ∃ value, check value = .ok result.2 := by
  induction pairs generalizing results with
  | nil =>
      cases checked
      cases member
  | cons pair rest inductionHypothesis =>
      rcases pair with ⟨key, value⟩
      unfold checkPairs at checked
      dsimp only at checked
      split at checked
      · next name first others _ checkedValue checkedRest =>
          cases checked
          rcases List.mem_cons.mp member with isFirst | inRest
          · rw [isFirst]
            exact ⟨value, under_eq_ok_iff.mp checkedValue⟩
          · exact inductionHypothesis checkedRest inRest
      · cases checked

/-- The fields of an accepted entry have distinct names. -/
theorem distinct_of_entriesOf
    {content : Value}
    {entries : List (String × RawEntry)}
    (given : entriesOf content = .ok entries)
    {key : String}
    {entry : RawEntry}
    (found : Association.get? entries key = some entry) :
    Association.Distinct entry := by
  unfold entriesOf at given
  split at given
  · obtain ⟨value, _, checked⟩ := checkField_eq_ok_iff.mp given
    obtain ⟨pairs, mapped, made⟩ := Success.bind_eq_ok_iff.mp checked
    split at made
    · cases made
    · cases made
      obtain ⟨_, results, _, accepted, rfl⟩ := checkMap_eq_ok_iff.mp mapped
      have member := Association.mem_ofPairs (Association.mem_of_get? found)
      obtain ⟨raw, inner⟩ := exists_of_mem_of_checkPairs accepted member
      obtain ⟨_, fields, _, _, made⟩ := checkMap_eq_ok_iff.mp inner
      dsimp only at made
      rw [← made]
      exact Association.distinct_ofPairs fields
  · cases given

/-- The drivers of an accepted document are its checked entries. -/
theorem checkEntries_of_load
    {text : String}
    {registry : Registry}
    (loaded : load text = .ok registry) :
    ∃ content entries,
      Yaml.read text = .ok content ∧
        entriesOf content = .ok entries ∧
        checkEntries entries = .ok registry.drivers := by
  obtain ⟨content, read, checked⟩ := Success.bind_eq_ok_iff.mp loaded
  have accepted := Success.mapError_eq_ok_iff.mp checked
  unfold checkDocument at accepted
  dsimp only at accepted
  split at accepted
  · next fields shape =>
      split at accepted
      · next baseDefaults entries _ given =>
          obtain ⟨drivers, checkedEntries, made⟩ := Success.bind_eq_ok_iff.mp accepted
          cases made
          refine ⟨content, entries, Success.mapError_eq_ok_iff.mp read, ?_, checkedEntries⟩
          unfold entriesOf
          rw [shape]
          exact given
      · cases accepted
  · cases accepted

/-- The driver that is found under a key is the checked entry of that key. -/
theorem find?_of_checkEntries
    {entries : List (String × RawEntry)}
    {drivers : List (String × Driver)}
    (checked : checkEntries entries = .ok drivers)
    {key : String}
    {driver : Driver}
    (found : Association.get? drivers key = some driver) :
    ∃ entry,
      Association.get? entries key = some entry ∧ checkEntry key entry = .ok driver := by
  induction entries generalizing drivers with
  | nil =>
      cases checked
      cases found
  | cons first rest inductionHypothesis =>
      rcases first with ⟨other, entry⟩
      rw [checkEntries] at checked
      obtain ⟨firstDriver, checkedFirst, checked⟩ := Success.bind_eq_ok_iff.mp checked
      obtain ⟨others, checkedRest, made⟩ := Success.bind_eq_ok_iff.mp checked
      cases made
      rw [Association.get?] at found ⊢
      by_cases same : (other == key) = true
      · rw [if_pos same] at found ⊢
        cases found
        rw [← eq_of_beq same]
        exact ⟨entry, rfl, checkedFirst⟩
      · rw [if_neg same] at found ⊢
        exact inductionHypothesis checkedRest found

/-- A driver has the name that its entry gives, or else the key of the entry. -/
theorem checkText_name_of_checkEntry
    {key : String}
    {entry : RawEntry}
    (distinct : Association.Distinct entry)
    {driver : Driver}
    (checked : checkEntry key entry = .ok driver) :
    checkText ((Association.get? entry "name").getD (.text key)) = .ok driver.name := by
  have renamed :
      Association.merge [(Value.text "name", Value.text key)]
          (entry.map fun field => (.text field.1, field.2)) =
        (Association.merge [("name", Value.text key)] entry).map (Prod.map .text id) := by
    rw [← Association.merge_map Value.text_beq_text]
    rfl
  have named :
      Association.get?
          (Association.merge [(Value.text "name", Value.text key)]
            (entry.map fun field => (.text field.1, field.2)))
          (.text "name") =
        some ((Association.get? entry "name").getD (.text key)) := by
    rw [renamed, Association.get?_map Value.text_beq_text, Association.get?_merge _ distinct]
    cases Association.get? entry "name" <;> rfl
  unfold checkEntry at checked
  dsimp only at checked
  split at checked
  · simp only [Success.bind_eq_ok_iff] at checked
    obtain ⟨name, given, _, -, _, -, _, -, _, -, _, -, _, -, _, -, _, -, made⟩ := checked
    cases made
    obtain ⟨value, found, accepted⟩ := checkField_eq_ok_iff.mp given
    rw [named] at found
    cases found
    exact accepted
  · cases checked

/-- Every name of a registry finds a driver. -/
theorem exists_find?_of_mem_names
    {registry : Registry}
    {name : String}
    (known : name ∈ registry.names) :
    ∃ driver, registry.find? name = some driver :=
  Association.exists_get?_of_mem known

end QueryComposer.Driver

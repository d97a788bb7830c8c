import QueryComposer.Proofs.Association
import QueryComposer.Proofs.Statement.Equality
import QueryComposer.Statement.Upsert

namespace QueryComposer.Statement

/-!
# Updates in place of insertions

An insertion can be replaced by an update if every key column of the row has a value and another
column is left to assign. Then the update assigns the other columns, and its condition is that
the key columns have their values.
-/

/-- The columns of a row without operators; of two keys for one column the later one counts. -/
def plainColumns (row : Row) : List (String × Value) :=
  Association.ofPairs (row.map (Prod.map Filter.columnOf id))

/-- Stripping the keys of a row gives its plain columns. -/
theorem plainRow_toPairs (row : Row) :
    plainRow (toPairs row) = .ok (toPairs (plainColumns row)) := by
  have written :
      Association.ofPairs (toPairs (row.map (Prod.map Filter.columnOf id))) =
        toPairs (plainColumns row) :=
    Association.ofPairs_map Value.text_beq_text _
  rw [← written]
  refine Success.bind_eq_ok_iff.mpr
    ⟨toPairs (row.map (Prod.map Filter.columnOf id)), Success.mapM_eq_ok_iff.mpr ?_, rfl⟩
  rw [toPairs, toPairs, List.map_map, List.forall₂_map_left_iff, List.forall₂_map_right_iff]
  exact List.forall₂_same.mpr fun _ _ => rfl

/-- A text key finds what its name does, and no other key finds anything. -/
theorem get?_toPairs
    (plain : List (String × Value))
    (key value : Value) :
    Association.get? (toPairs plain) key = some value ↔
      ∃ name, key = .text name ∧ Association.get? plain name = some value := by
  have ofText : ∀ name,
      Association.get? (toPairs plain) (.text name) = Association.get? plain name :=
    Association.get?_map Value.text_beq_text plain
  constructor
  · intro found
    obtain ⟨other, member, same⟩ := Association.exists_mem_of_get? found
    obtain ⟨⟨name, _⟩, _, written⟩ := List.mem_map.mp member
    cases written
    have isText := (Value.text_beq_iff name key).mp same
    rw [isText, ofText] at found
    exact ⟨name, isText, found⟩
  · rintro ⟨name, rfl, found⟩
    rw [ofText, found]

/-- Every one of the keys has a value in the row that is not null. -/
def HasKeys
    (plain : List (String × Value))
    (keys : List Value) : Prop :=
  ∀ key ∈ keys, ∃ name value,
    key = .text name ∧ Association.get? plain name = some value ∧ value ≠ .null

/-- The values of keys that the row has are found, in the order of the keys. -/
theorem keyValues_of_hasKeys
    {plain : List (String × Value)}
    {keys : List Value}
    (has : HasKeys plain keys) :
    ∃ found : List (String × Value),
      keys = found.map (.text ·.1) ∧
        (∀ pair ∈ found, Association.get? plain pair.1 = some pair.2) ∧
        keyValues (toPairs plain) keys = .ok (some (toPairs found)) := by
  induction keys with
  | nil =>
      exact ⟨[], rfl, by simp, rfl⟩
  | cons key rest inductionHypothesis =>
      obtain ⟨found, named, values, computed⟩ :=
        inductionHypothesis fun other member => has other (List.mem_cons_of_mem _ member)
      obtain ⟨name, value, rfl, here, present⟩ := has key List.mem_cons_self
      refine ⟨(name, value) :: found, by rw [named]; rfl, ?_, ?_⟩
      · intro pair member
        rcases List.mem_cons.mp member with isFirst | inRest
        · rw [isFirst]
          exact here
        · exact values pair inRest
      · rw [keyValues, (get?_toPairs plain _ value).mpr ⟨name, rfl, here⟩, computed]
        cases value with
        | null =>
            exact absurd rfl present
        | _ =>
            rfl

/-- Without a value for one of the keys nothing is found; a key that is none cannot be looked up. -/
theorem keyValues_of_not_hasKeys
    {plain : List (String × Value)}
    {keys : List Value}
    (lacks : ¬ HasKeys plain keys) :
    keyValues (toPairs plain) keys = .ok none ∨
      (∃ key ∈ keys, key.isHashable = false) ∧
        ∃ cause, keyValues (toPairs plain) keys = .error (.misuse cause) := by
  induction keys with
  | nil =>
      exact absurd (by simp [HasKeys]) lacks
  | cons key rest inductionHypothesis =>
      unfold keyValues
      split
      · next unhashable =>
          exact .inr ⟨⟨key, List.mem_cons_self, by simpa using unhashable⟩, _, rfl⟩
      · split
        · exact .inl rfl
        · exact .inl rfl
        · next value present found =>
            obtain ⟨name, isText, here⟩ := (get?_toPairs plain key value).mp found
            have lacksRest : ¬ HasKeys plain rest := by
              intro has
              apply lacks
              intro other member
              rcases List.mem_cons.mp member with isFirst | inRest
              · exact ⟨name, value, isFirst.trans isText, here, present⟩
              · exact has other inRest
            rcases inductionHypothesis lacksRest with
              nothing | ⟨⟨other, member, none⟩, cause, failed⟩
            · left
              rw [nothing]
              rfl
            · right
              refine ⟨⟨other, List.mem_cons_of_mem _ member, none⟩, cause, ?_⟩
              rw [failed]
              rfl

/-- A key of the filter of an update. -/
def equalityKey (name : String) : Value :=
  .text (name ++ " " ++ Filter.defaultOperator)

theorem equalityKey_beq
    (name other : String) :
    (equalityKey name == equalityKey other) = (name == other) := by
  rw [equalityKey, equalityKey, Value.text_beq_text, Bool.eq_iff_iff, beq_iff_eq, beq_iff_eq]
  constructor
  · intro same
    have characters := congrArg String.toList same
    simp only [String.toList_append] at characters
    exact String.toList_inj.mp (List.append_cancel_right (List.append_cancel_right characters))
  · rintro rfl
    rfl

/-- The filter of an update has one entry for each of the different key columns. -/
theorem parse_keyFilter
    {found : List (String × Value)}
    (bare : ∀ pair ∈ found, Filter.Bare pair.1) :
    Filter.parse (keyFilter (toPairs found)) =
      .ok ((Association.ofPairs found).map entryOf) := by
  have parses :
      ∀ conditions : List (String × Value), (∀ pair ∈ conditions, Filter.Bare pair.1) →
        Filter.parsePairs (conditions.map (Prod.map equalityKey id)) =
          .ok (conditions.map entryOf) := by
    intro conditions bare
    induction conditions with
    | nil =>
        rfl
    | cons pair rest inductionHypothesis =>
        have others := inductionHypothesis fun other member =>
          bare other (List.mem_cons_of_mem _ member)
        have first : Filter.Predicate.ofKey (pair.1 ++ " " ++ Filter.defaultOperator) pair.2 =
            .equal pair.1 pair.2 := by
          rw [Filter.Predicate.ofKey,
            Filter.splitKey_append_operator (bare pair List.mem_cons_self)]
          rfl
        rw [List.map_cons, Prod.map, equalityKey, Filter.parsePairs, others, id, first]
        rfl
  have written :
      keyFilter (toPairs found) =
        .map ((Association.ofPairs found).map (Prod.map equalityKey id)) := by
    rw [← Association.ofPairs_map equalityKey_beq, keyFilter, toPairs, List.map_map]
    rfl
  rw [written]
  exact parses _ fun pair member => bare pair (Association.mem_ofPairs member)

/-- The text of an update that assigns columns in the rows that other columns find. -/
def updateText
    (quoted : String → String)
    (target : String)
    (settings conditions : List (String × Value)) :
    String :=
  "UPDATE " ++ target ++
    " SET " ++ ",".intercalate (settings.map (equality quoted)) ++
    " WHERE " ++ ("(" ++ " AND ".intercalate (conditions.map (equality quoted)) ++ ")")

/-- A filter with entries is accepted where one is demanded. -/
theorem requireFilter_of_parse
    {filters : Value}
    {entries : List Filter.Entry}
    (parsed : Filter.parse filters = .ok entries)
    (nonempty : entries ≠ []) :
    requireFilter filters = .ok () := by
  have notEmpty : Filter.isEmpty filters = .ok false := by
    unfold Filter.isEmpty
    split
    · cases parsed
    · rw [parsed, Except.map, List.isEmpty_eq_false_iff.mpr nonempty]
  unfold requireFilter
  rw [notEmpty]
  rfl

section Update

variable
  {delimiter : String}
  {quoted : String → String}
  {table : Value}
  {target : String}
  {settings found : List (String × Value)}

/-- The update of plain columns is composed, and binds their values and then those of the keys. -/
theorem update_keyFilter
    (isTarget : Identifier.quote delimiter table = .ok target)
    (names : ∀ pair ∈ settings, Names delimiter quoted pair.1)
    (namesKeys : ∀ pair ∈ found, Names delimiter quoted pair.1)
    (scalars : ∀ pair ∈ found, pair.2.isScalar = true)
    (nonempty : settings ≠ [])
    (nonemptyKeys : found ≠ []) :
    update delimiter table (.map (toPairs settings)) (keyFilter (toPairs found)) =
      .ok ⟨updateText quoted target settings (Association.ofPairs found),
        settings.map (·.2) ++ (Association.ofPairs found).map (·.2)⟩ := by
  have parsed := parse_keyFilter fun pair member => (namesKeys pair member).bare
  have conditions : Association.ofPairs found ≠ [] := Association.merge_ne_nil (.inr nonemptyKeys)
  have given : (Value.map (toPairs settings)).isTruthy = true := by
    cases settings with
    | nil =>
        exact absurd rfl nonempty
    | cons _ _ =>
        rfl
  have required := requireFilter_of_parse parsed (by simpa using conditions)
  have assigned := assignments_outcome names []
  have compiled := compile_outcome parsed conditions
    (fun pair member => namesKeys pair (Association.mem_ofPairs member))
    (fun pair member => scalars pair (Association.mem_ofPairs member))
    (settings.map (·.2))
  rw [List.nil_append] at assigned
  unfold update composed
  refine Success.map_eq_ok_iff.mpr ⟨(_, _), (Binding.collect_eq_ok_iff _ _ _).mpr ?_, rfl⟩
  rw [given, if_neg (by simp), required, pairsOf, isTarget]
  rw [Binding.outcome_bind_of_ok (Binding.outcome_lift _ _),
    Binding.outcome_bind_of_ok (Binding.outcome_lift _ _),
    Binding.outcome_bind_of_ok assigned,
    Binding.outcome_bind_of_ok compiled,
    Binding.outcome_bind_of_ok (Binding.outcome_lift _ _)]
  rfl

end Update

/-- A row that an update can find and change: it has all the keys, and a column that is no key. -/
def Replaceable
    (row : Row)
    (keys : List Value) : Prop :=
  HasKeys (plainColumns row) keys ∧ ∃ pair ∈ plainColumns row, Value.text pair.1 ∉ keys

/-- The columns of a row that an update assigns. -/
def settingsOf
    (row : Row)
    (keys : List Value) :
    List (String × Value) :=
  (plainColumns row).filter fun pair => !keys.any (· == .text pair.1)

/-- What takes the place of an insertion depends on the values of the keys. -/
theorem upsertUpdate_eq
    (delimiter : String)
    (table : Value)
    (row : Row)
    (keys : List Value) :
    upsertUpdate delimiter table (.map (toPairs row)) (.list keys) = do
      match ← keyValues (toPairs (plainColumns row)) keys with
      | none => return none
      | some found =>
          if (settingsOf row keys).isEmpty then
            return none
          else
            return some
              (← update delimiter table (.map (toPairs (settingsOf row keys))) (keyFilter found)) := by
  have assigned :
      (toPairs (plainColumns row)).filter (fun pair => !keys.any (· == pair.1)) =
        toPairs (settingsOf row keys) := by
    rw [toPairs, List.filter_map]
    rfl
  have empty :
      (toPairs (settingsOf row keys)).isEmpty = (settingsOf row keys).isEmpty :=
    List.isEmpty_map
  unfold upsertUpdate
  rw [pairsOf, ← assigned, ← empty, ← assigned]
  change (plainRow (toPairs row) >>= _) = _
  rw [plainRow_toPairs]
  rfl

/-- A plain column is among text keys exactly if it is a key. -/
theorem any_beq_text_iff
    {keys : List Value}
    (texts : ∀ key ∈ keys, ∃ name, key = .text name)
    (column : String) :
    keys.any (· == .text column) = true ↔ Value.text column ∈ keys := by
  rw [List.any_eq_true]
  constructor
  · rintro ⟨key, member, same⟩
    obtain ⟨name, rfl⟩ := texts key member
    rw [(Value.text_beq_iff _ _).mp same]
    exact member
  · intro member
    exact ⟨_, member, (Value.text_beq_iff _ _).mpr rfl⟩

/-- Something is left to assign exactly if a column is no key. -/
theorem settingsOf_ne_nil_iff
    {row : Row}
    {keys : List Value}
    (texts : ∀ key ∈ keys, ∃ name, key = .text name) :
    settingsOf row keys ≠ [] ↔ ∃ pair ∈ plainColumns row, Value.text pair.1 ∉ keys := by
  have kept : ∀ column : String,
      (!keys.any (· == .text column)) = true ↔ Value.text column ∉ keys := by
    intro column
    rw [Bool.not_eq_true', ← Bool.not_eq_true, any_beq_text_iff texts]
  rw [settingsOf, ne_eq, List.filter_eq_nil_iff]
  simp only [kept, not_forall, not_not, exists_prop]

theorem texts_of_hasKeys
    {plain : List (String × Value)}
    {keys : List Value}
    (has : HasKeys plain keys) :
    ∀ key ∈ keys, ∃ name, key = .text name := by
  intro key member
  obtain ⟨name, _, isText, _⟩ := has key member
  exact ⟨name, isText⟩

/-- The columns of a row that are named are named without their operators too. -/
theorem forall_plainColumns
    {row : Row}
    (holds : String → Value → Prop)
    (each : ∀ pair ∈ row, holds (Filter.columnOf pair.1) pair.2) :
    ∀ pair ∈ plainColumns row, holds pair.1 pair.2 := by
  intro pair member
  obtain ⟨given, inRow, rfl⟩ := List.mem_map.mp (Association.mem_ofPairs member)
  exact each given inRow

section Outcomes

variable
  {delimiter : String}
  {quoted : String → String}
  {table : Value}
  {target : String}
  {row : Row}
  {keys : List Value}

/-- A row that can be replaced has an update: keys find it, and its other columns are assigned. -/
theorem upsertUpdate_of_replaceable
    (isTarget : Identifier.quote delimiter table = .ok target)
    (names : ∀ pair ∈ row, Names delimiter quoted (Filter.columnOf pair.1))
    (scalars :
      ∀ pair ∈ plainColumns row, Value.text pair.1 ∈ keys → pair.2.isScalar = true)
    (nonempty : keys ≠ [])
    (replaceable : Replaceable row keys) :
    ∃ found : List (String × Value),
      keys = found.map (.text ·.1) ∧
        (∀ pair ∈ found, Association.get? (plainColumns row) pair.1 = some pair.2) ∧
        upsertUpdate delimiter table (.map (toPairs row)) (.list keys) =
          .ok (some
            ⟨updateText quoted target (settingsOf row keys) (Association.ofPairs found),
              (settingsOf row keys).map (·.2) ++ (Association.ofPairs found).map (·.2)⟩) := by
  obtain ⟨has, other⟩ := replaceable
  obtain ⟨found, areKeys, values, computed⟩ := keyValues_of_hasKeys has
  have inPlain : ∀ pair ∈ found, pair ∈ plainColumns row :=
    fun pair member => Association.mem_of_get? (values pair member)
  have namesPlain : ∀ pair ∈ plainColumns row, Names delimiter quoted pair.1 :=
    forall_plainColumns (fun column _ => Names delimiter quoted column) names
  have left : settingsOf row keys ≠ [] := (settingsOf_ne_nil_iff (texts_of_hasKeys has)).mpr other
  have namesSettings : ∀ pair ∈ settingsOf row keys, Names delimiter quoted pair.1 :=
    fun pair member => namesPlain pair (List.mem_of_mem_filter member)
  have composedUpdate :=
    update_keyFilter isTarget namesSettings
      (fun pair member => namesPlain pair (inPlain pair member))
      (fun pair member => scalars pair (inPlain pair member) (by
        rw [areKeys]
        exact List.mem_map_of_mem member))
      left
      (by
        rintro rfl
        exact nonempty areKeys)
  refine ⟨found, areKeys, values, ?_⟩
  rw [upsertUpdate_eq, computed]
  change (if (settingsOf row keys).isEmpty = true then _ else _) = _
  rw [if_neg (by simpa using left), composedUpdate]
  rfl

/-- A row that cannot be replaced has no update; a key may be none that can be looked up. -/
theorem upsertUpdate_of_not_replaceable
    (lacks : ¬ Replaceable row keys) :
    upsertUpdate delimiter table (.map (toPairs row)) (.list keys) = .ok none ∨
      (∃ key ∈ keys, key.isHashable = false) ∧
        ∃ cause,
          upsertUpdate delimiter table (.map (toPairs row)) (.list keys) =
            .error (.misuse cause) := by
  rw [upsertUpdate_eq]
  by_cases has : HasKeys (plainColumns row) keys
  · left
    obtain ⟨found, _, _, computed⟩ := keyValues_of_hasKeys has
    have nothingLeft : (settingsOf row keys).isEmpty = true := by
      rw [List.isEmpty_iff]
      by_contra left
      exact lacks ⟨has, (settingsOf_ne_nil_iff (texts_of_hasKeys has)).mp left⟩
    rw [computed]
    change (if (settingsOf row keys).isEmpty = true then _ else _) = _
    rw [if_pos nothingLeft]
    rfl
  · rcases keyValues_of_not_hasKeys has with nothing | ⟨unhashable, cause, failed⟩
    · left
      rw [nothing]
      rfl
    · right
      refine ⟨unhashable, cause, ?_⟩
      rw [failed]
      rfl

end Outcomes

end QueryComposer.Statement

import Mathlib.Data.List.Nodup
import QueryComposer.Proofs.Statement.Accepted

namespace QueryComposer.Statement

/-!
# How an update divides a row

The update in place of an insertion divides the columns of a row: those that are no keys are
assigned, and those that are keys stand in its condition. If the keys of the row are for different
columns, then every column comes in exactly one of the two places, with the value that the
insertion binds to it.
-/

/-- The columns that the keys of a row are for, with their values. -/
def strippedRow (row : Row) : List (String × Value) :=
  row.map (Prod.map Filter.columnOf id)

/-- The value that a row gives to a column; of several keys for one column the last one counts. -/
def valueOf?
    (row : Row)
    (column : String) :
    Option Value :=
  Association.get? (strippedRow row).reverse column

/-- A key column is missing in the row, or its value is null. -/
def LacksKey
    (row : Row)
    (keys : List String) : Prop :=
  ∃ key ∈ keys, valueOf? row key = none ∨ valueOf? row key = some .null

/-- Every column of the row is a key column. -/
def OnlyKeys
    (row : Row)
    (keys : List String) : Prop :=
  ∀ pair ∈ strippedRow row, pair.1 ∈ keys

/--
The columns of a row that are no keys are to be assigned, in the order of the row, and the different
key columns are the condition, in the order of the keys. Each has the value that the row gives it.
-/
structure Divides
    (row : Row)
    (keys : List String)
    (settings conditions : List (String × Value)) : Prop where
  assigned :
    settings.map (·.1) = ((strippedRow row).map (·.1)).eraseDups.filter (· ∉ keys)
  found :
    conditions.map (·.1) = keys.eraseDups
  values :
    ∀ pair ∈ settings ++ conditions, valueOf? row pair.1 = some pair.2

/-- Nothing is repeated in what remains of a list without its repetitions. -/
theorem nodup_eraseDups (names : List String) : names.eraseDups.Nodup := by
  cases names with
  | nil =>
      exact List.nodup_nil
  | cons name rest =>
      rw [List.eraseDups_cons, List.nodup_cons]
      constructor
      · simp [List.mem_eraseDups]
      · exact nodup_eraseDups (rest.filter fun other => !other == name)
termination_by names.length
decreasing_by
  exact Nat.lt_succ_of_le (List.length_filter_le _ _)

namespace Divides

variable
  {row : Row}
  {keys : List String}
  {settings conditions : List (String × Value)}

/-- No column is assigned twice, stands in the condition twice, or does both. -/
theorem nodup (divides : Divides row keys settings conditions) :
    ((settings ++ conditions).map (·.1)).Nodup := by
  rw [List.map_append, divides.assigned, divides.found]
  refine List.Nodup.append ((nodup_eraseDups _).filter _) (nodup_eraseDups _) ?_
  intro column isAssigned isKey
  have noKey := (List.mem_filter.mp isAssigned).2
  exact absurd (List.mem_eraseDups.mp isKey) (by simpa using noKey)

/-- Every column of the row is assigned or stands in the condition. -/
theorem mem_columns
    (divides : Divides row keys settings conditions)
    {column : String}
    (member : column ∈ (strippedRow row).map (·.1)) :
    column ∈ (settings ++ conditions).map (·.1) := by
  rw [List.map_append, List.mem_append, divides.assigned, divides.found]
  by_cases isKey : column ∈ keys
  · exact .inr (List.mem_eraseDups.mpr isKey)
  · exact .inl (List.mem_filter.mpr ⟨List.mem_eraseDups.mpr member, by simpa using isKey⟩)

/-- If the columns of a row are different, then they are divided without a loss. -/
theorem perm
    (divides : Divides row keys settings conditions)
    (different : ((strippedRow row).map (·.1)).Nodup) :
    (settings ++ conditions).Perm (strippedRow row) := by
  have given : ∀ pair ∈ strippedRow row, valueOf? row pair.1 = some pair.2 := by
    intro pair member
    apply Association.get?_of_mem
    · rwa [List.map_reverse, List.nodup_reverse]
    · exact List.mem_reverse.mpr member
  rw [List.perm_ext_iff_of_nodup divides.nodup.of_map different.of_map]
  intro pair
  constructor
  · intro member
    exact List.mem_reverse.mp (Association.mem_of_get? (divides.values pair member))
  · intro member
    obtain ⟨other, inEither, same⟩ :=
      List.mem_map.mp (divides.mem_columns (List.mem_map_of_mem member))
    have value := (divides.values other inEither).symm.trans (same ▸ given pair member)
    rw [← Prod.ext same (Option.some.inj value)]
    exact inEither

end Divides

/-- What an insertion binds to the columns of a row, in whatever order it names them. -/
theorem perm_bound
    {row : Row}
    (different : ((strippedRow row).map (·.1)).Nodup)
    {order : List String}
    (sameKeys : order.Perm (columns row)) :
    ((order.map Filter.columnOf).zip (Database.rowValues order row)).Perm (strippedRow row) := by
  have once : (row.map (·.1)).Nodup := by
    have mapped : (strippedRow row).map (·.1) = (row.map (·.1)).map Filter.columnOf := by
      rw [strippedRow, List.map_map, List.map_map]
      rfl
    rw [mapped] at different
    exact different.of_map
  have bound : (columns row).map
      (fun key => (Filter.columnOf key, (Association.get? row key).getD .null)) =
        strippedRow row := by
    rw [columns, List.map_map, strippedRow]
    apply List.map_congr_left
    intro pair member
    have value := Association.get?_of_mem once member
    simp [value, Prod.map]
  rw [Database.rowValues, List.zip_map', ← bound]
  exact sameKeys.map _

/-- The text of an insertion of a row with the given keys. -/
def insertText
    (quoted : String → String)
    (target : String)
    (order : List String) :
    String :=
  "INSERT INTO " ++ target ++
    " (" ++ ",".intercalate (order.map fun key => quoted (Filter.columnOf key)) ++
    ") VALUES (" ++ placeholders order.length ++ ")"

section Texts

variable
  {delimiter : String}
  {quoted : String → String}
  {table : Value}
  {target : String}

/-- An insertion names the columns that its keys are for. -/
theorem insert_eq
    (isTarget : Identifier.quote delimiter table = .ok target)
    {order : List String}
    (quotes :
      ∀ key ∈ order,
        Identifier.quote delimiter (.text (Filter.columnOf key)) =
          .ok (quoted (Filter.columnOf key)))
    (nonempty : order ≠ []) :
    insert delimiter table (.list (order.map .text)) = .ok (insertText quoted target order) := by
  have given : (Value.list (order.map .text)).isTruthy = true := by
    simpa [Value.isTruthy] using nonempty
  have texts : (order.map Value.text).mapM checkColumn = .ok order := by
    rw [Success.mapM_eq_ok_iff, List.forall₂_map_left_iff]
    exact List.forall₂_same.mpr fun _ _ => rfl
  have quotedEach :
      (order.map fun name => Value.text (Filter.columnOf name)).mapM (Identifier.quote delimiter) =
        .ok (order.map fun key => quoted (Filter.columnOf key)) := by
    rw [Success.mapM_eq_ok_iff, List.forall₂_map_left_iff, List.forall₂_map_right_iff]
    exact List.forall₂_same.mpr quotes
  unfold insert
  rw [given, if_neg (by simp)]
  refine Success.bind_eq_ok_iff.mpr ⟨_, rfl, ?_⟩
  refine Success.bind_eq_ok_iff.mpr ⟨order, texts, ?_⟩
  refine Success.bind_eq_ok_iff.mpr ⟨_, Success.bind_eq_ok_iff.mpr ⟨_, quotedEach, rfl⟩, ?_⟩
  exact Success.bind_eq_ok_iff.mpr ⟨target, isTarget, rfl⟩

end Texts

/-- The plain columns of a row have the values that the row gives them. -/
theorem get?_plainColumns
    (row : Row)
    (column : String) :
    Association.get? (plainColumns row) column = valueOf? row column :=
  Association.get?_ofPairs _ _

/-- The plain columns of a row are its columns, in the order in which they first occur. -/
theorem columns_plainColumns (row : Row) :
    (plainColumns row).map (·.1) = ((strippedRow row).map (·.1)).eraseDups :=
  Association.keys_ofPairs _

theorem valueOf?_of_mem
    {row : Row}
    {pair : String × Value}
    (member : pair ∈ plainColumns row) :
    valueOf? row pair.1 = some pair.2 := by
  rw [← get?_plainColumns]
  apply Association.get?_of_mem _ member
  rw [columns_plainColumns]
  exact nodup_eraseDups _

/-- A row can be replaced exactly if it lacks no key and has another column. -/
theorem replaceable_iff
    (row : Row)
    (keys : List String) :
    Replaceable row (keys.map .text) ↔ ¬ (LacksKey row keys ∨ OnlyKeys row keys) := by
  have has : HasKeys (plainColumns row) (keys.map .text) ↔ ¬ LacksKey row keys := by
    unfold HasKeys LacksKey
    rw [List.forall_mem_map]
    push Not
    refine forall₂_congr fun key _ => ?_
    constructor
    · rintro ⟨name, value, same, found, present⟩
      cases same
      rw [get?_plainColumns] at found
      rw [found]
      exact ⟨by simp, by simpa using present⟩
    · rintro ⟨given, present⟩
      obtain ⟨value, found⟩ := Option.ne_none_iff_exists'.mp given
      refine ⟨key, value, rfl, (get?_plainColumns row key).trans found, ?_⟩
      rintro rfl
      exact present found
  have other :
      (∃ pair ∈ plainColumns row, Value.text pair.1 ∉ keys.map .text) ↔
        ¬ OnlyKeys row keys := by
    have named : ∀ pairs : List (String × Value),
        (∃ pair ∈ pairs, pair.1 ∉ keys) ↔ ∃ column ∈ pairs.map (·.1), column ∉ keys := by
      intro pairs
      simp
    have isKey : ∀ column : String, Value.text column ∈ keys.map .text ↔ column ∈ keys := by
      intro column
      simp
    unfold OnlyKeys
    push Not
    simp only [isKey]
    rw [named, named, columns_plainColumns]
    simp only [List.mem_eraseDups]
  rw [Replaceable, has, other, not_or]

/-- Key columns are the same ones in whatever way they are listed. -/
theorem upsertUpdate_of_members
    {argument : Value}
    {keys : List Value}
    (listed : members argument = .ok keys)
    (delimiter : String)
    (table row : Value) :
    upsertUpdate delimiter table row argument = upsertUpdate delimiter table row (.list keys) := by
  have listedAgain : members (.list keys) = .ok keys := rfl
  rw [upsertUpdate, upsertUpdate, listed, listedAgain]

/-- The update of a row that can be replaced divides the row. -/
theorem exists_divides
    {delimiter : String}
    {quoted : String → String}
    {table : Value}
    {target : String}
    {row : Row}
    {keys : List String}
    (isTarget : Identifier.quote delimiter table = .ok target)
    (names : ∀ pair ∈ row, Names delimiter quoted (Filter.columnOf pair.1))
    (scalars : ∀ key ∈ keys, ∀ value, valueOf? row key = some value → value.isScalar = true)
    (nonempty : keys ≠ [])
    (replaceable : Replaceable row (keys.map .text)) :
    ∃ settings conditions,
      Divides row keys settings conditions ∧
        upsertUpdate delimiter table (.map (toPairs row)) (.list (keys.map .text)) =
          .ok (some
            ⟨updateText quoted target settings conditions,
              settings.map (·.2) ++ conditions.map (·.2)⟩) := by
  have scalarsPlain :
      ∀ pair ∈ plainColumns row, Value.text pair.1 ∈ keys.map .text → pair.2.isScalar = true := by
    intro pair member isKey
    exact scalars pair.1 (by simpa using isKey) pair.2 (valueOf?_of_mem member)
  obtain ⟨found, areKeys, values, composed⟩ :=
    upsertUpdate_of_replaceable isTarget names scalarsPlain (by simpa using nonempty) replaceable
  refine ⟨settingsOf row (keys.map .text), Association.ofPairs found, ⟨?_, ?_, ?_⟩, composed⟩
  · have kept : ∀ column : String,
        (!(keys.map Value.text).any (· == .text column)) = decide (column ∉ keys) := by
      intro column
      rw [Bool.eq_iff_iff, Bool.not_eq_true', ← Bool.not_eq_true,
        any_beq_text_iff (by simp), decide_eq_true_eq]
      simp
    rw [settingsOf, ← columns_plainColumns, List.filter_map]
    congr 1
    exact List.filter_congr fun pair _ => kept pair.1
  · have named : keys = found.map (·.1) := by
      have texts : keys.map Value.text = (found.map (·.1)).map Value.text := by
        rw [areKeys, List.map_map]
        rfl
      exact List.map_injective_iff.mpr (fun _ _ => Value.text.inj) texts
    rw [Association.keys_ofPairs, named]
  · intro pair member
    rcases List.mem_append.mp member with isSetting | isCondition
    · exact valueOf?_of_mem (List.mem_of_mem_filter isSetting)
    · rw [← get?_plainColumns]
      exact values pair (Association.mem_ofPairs isCondition)

/--
There is no update in place of the insertion of a row exactly if the row lacks a key column, or has
no other column. Otherwise the update divides the row: it assigns the columns that are no keys, its
condition is that the key columns have their values, and it binds the values in this order. If the
columns of the row are different, then assignments and condition together are what the insertion
says, in whatever order it names the columns: no value is lost, and none comes twice.
-/
theorem upsertUpdate_divides
    {delimiter target : String}
    {table argument : Value}
    {row : Row}
    {keys : List String}
    (isTarget : Identifier.quote delimiter table = .ok target)
    (quotable :
      ∀ pair ∈ strippedRow row, ∃ text, Identifier.quote delimiter (.text pair.1) = .ok text)
    (listed : members argument = .ok (keys.map .text))
    (nonempty : keys ≠ [])
    (scalars : ∀ key ∈ keys, ∀ value, valueOf? row key = some value → value.isScalar = true) :
    (upsertUpdate delimiter table (.map (toPairs row)) argument = .ok none ↔
        LacksKey row keys ∨ OnlyKeys row keys) ∧
      (¬ (LacksKey row keys ∨ OnlyKeys row keys) →
        ∃ settings conditions,
          Divides row keys settings conditions ∧
            upsertUpdate delimiter table (.map (toPairs row)) argument =
              .ok (some
                ⟨updateText (quotedColumn delimiter) target settings conditions,
                  settings.map (·.2) ++ conditions.map (·.2)⟩) ∧
            (((strippedRow row).map (·.1)).Nodup →
              ∀ order : List String, order.Perm (columns row) →
                insert delimiter table (.list (order.map .text)) =
                    .ok (insertText (quotedColumn delimiter) target order) ∧
                  (settings ++ conditions).Perm
                    ((order.map Filter.columnOf).zip (Database.rowValues order row)))) := by
  have names : ∀ pair ∈ row,
      Names delimiter (quotedColumn delimiter) (Filter.columnOf pair.1) := by
    intro pair member
    obtain ⟨text, accepted⟩ := quotable _ (List.mem_map_of_mem member)
    exact names_of_quote accepted
  have divides := exists_divides isTarget names scalars nonempty
  rw [upsertUpdate_of_members listed, ← not_iff_not, ← replaceable_iff]
  refine ⟨⟨?_, ?_⟩, ?_⟩
  · intro composed
    by_contra lacks
    rcases upsertUpdate_of_not_replaceable lacks with nothing | ⟨⟨key, isKey, unhashable⟩, _⟩
    · exact composed nothing
    · obtain ⟨name, _, rfl⟩ := List.mem_map.mp isKey
      cases unhashable
  · intro replaceable nothing
    obtain ⟨_, _, _, composed⟩ := divides replaceable
    rw [composed] at nothing
    cases nothing
  · intro replaceable
    obtain ⟨settings, conditions, isDivided, composed⟩ := divides replaceable
    refine ⟨settings, conditions, isDivided, composed, ?_⟩
    intro different order sameKeys
    refine ⟨?_, (isDivided.perm different).trans (perm_bound different sameKeys).symm⟩
    apply insert_eq isTarget
    · intro key member
      obtain ⟨pair, inRow, rfl⟩ := List.mem_map.mp (sameKeys.mem_iff.mp member)
      exact (names pair inRow).quotes
    · rintro rfl
      obtain ⟨_, pair, member, _⟩ := replaceable
      have noKeys := sameKeys.symm.eq_nil
      rw [columns, List.map_eq_nil_iff] at noKeys
      subst noKeys
      cases member

/-- A row whose keys carry operators and blanks, with a key column that is listed twice. -/
theorem upsertUpdate_divides_decorated :
    let row : Row := [("id  +=", .int 1), ("content", .list []), (" author ", .text "joe")]
    let keys := ["author", "id", "author"]
    ∃ target,
      Identifier.quote "\"" (.text "guestbook") = .ok target ∧
        (∀ pair ∈ strippedRow row, ∃ text, Identifier.quote "\"" (.text pair.1) = .ok text) ∧
        (∀ key ∈ keys, ∀ value, valueOf? row key = some value → value.isScalar = true) ∧
        ∃ settings conditions,
          Divides row keys settings conditions ∧
            upsertUpdate "\"" (.text "guestbook") (.map (toPairs row)) (.list (keys.map .text)) =
              .ok (some
                ⟨updateText (quotedColumn "\"") target settings conditions,
                  settings.map (·.2) ++ conditions.map (·.2)⟩) ∧
            (settings ++ conditions).Perm
              (((columns row).map Filter.columnOf).zip (Database.rowValues (columns row) row)) := by
  intro row keys
  have stripped :
      strippedRow row = [("id", .int 1), ("content", .list []), ("author", .text "joe")] := by
    rfl
  have isTarget : Identifier.quote "\"" (.text "guestbook") = .ok "\"guestbook\"" := by
    rfl
  have quotable :
      ∀ pair ∈ strippedRow row, ∃ text, Identifier.quote "\"" (.text pair.1) = .ok text := by
    rw [stripped]
    simp only [List.forall_mem_cons, List.not_mem_nil, false_implies, implies_true, and_true]
    exact ⟨⟨"\"id\"", rfl⟩, ⟨"\"content\"", rfl⟩, ⟨"\"author\"", rfl⟩⟩
  have author : valueOf? row "author" = some (.text "joe") := by
    rfl
  have identity : valueOf? row "id" = some (.int 1) := by
    rfl
  have given : ∀ key ∈ keys, ∃ value,
      valueOf? row key = some value ∧ value.isScalar = true ∧ value ≠ .null := by
    simp only [keys, List.forall_mem_cons, List.not_mem_nil, false_implies, implies_true,
      and_true]
    exact ⟨⟨_, author, rfl, by simp⟩, ⟨_, identity, rfl, by simp⟩, ⟨_, author, rfl, by simp⟩⟩
  have scalars : ∀ key ∈ keys, ∀ value, valueOf? row key = some value → value.isScalar = true := by
    intro key member value found
    obtain ⟨known, foundKnown, scalar, _⟩ := given key member
    rw [foundKnown] at found
    cases found
    exact scalar
  have replaceable : ¬ (LacksKey row keys ∨ OnlyKeys row keys) := by
    rintro (⟨key, member, missing | null⟩ | only)
    · obtain ⟨known, foundKnown, _⟩ := given key member
      rw [foundKnown] at missing
      cases missing
    · obtain ⟨known, foundKnown, _, present⟩ := given key member
      rw [foundKnown] at null
      exact present (Option.some.inj null)
    · have isKey := only ("content", .list []) (by simp [stripped])
      exact absurd isKey (by decide)
  have listed : members (.list (keys.map .text)) = .ok (keys.map .text) := by
    rfl
  obtain ⟨_, divides⟩ := upsertUpdate_divides isTarget quotable listed (by decide) scalars
  obtain ⟨settings, conditions, isDivided, composed, whole⟩ := divides replaceable
  have different : ((strippedRow row).map (·.1)).Nodup := by
    rw [stripped]
    decide
  obtain ⟨_, perm⟩ := whole different (columns row) (.refl _)
  exact ⟨_, isTarget, quotable, scalars, settings, conditions, isDivided, composed, perm⟩

end QueryComposer.Statement

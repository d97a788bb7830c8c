import QueryComposer.Proofs.Table.Respelled
import QueryComposer.Statement.Select
import QueryComposer.Statement.Upsert

namespace QueryComposer.Statement

/-!
# Spelling does not matter

Statements of filters, assignments and tables that differ in spelling only are composed alike, or
refused for the same reason: `composed_however_spelled`.
-/

open Filter (RespelledPair RespelledPairs)

/-- An operator that conditions or assignments know. -/
def Recognised (operator : String) : Prop :=
  operator ∈ Filter.operators ∨ (arithmetic? operator).isSome = true

theorem ascii_of_recognised
    {operator : String}
    (recognised : Recognised operator) :
    ∀ c ∈ operator.toList, c.toNat < 128 := by
  apply Text.ascii_of_all
  rcases recognised with compares | assigns
  · have all : (Filter.operators.all (·.toList.all fun c => c.toNat < 128)) = true := by
      decide
    exact List.all_eq_true.mp all operator compares
  · unfold arithmetic? at assigns
    split at assigns
    · decide
    · decide
    · decide
    · cases assigns

/-- Assignments of the same values under keys that are spelled in one way or another. -/
inductive RespelledValues : Value → Value → Prop where
  | same (values : Value) :
      RespelledValues values values
  | map
      {pairs pairs' : List (Value × Value)}
      (respelled : RespelledPairs pairs pairs') :
      RespelledValues (.map pairs) (.map pairs')

section Composing

variable (delimiter : String)

theorem assignment_of_respelled
    {pair pair' : Value × Value}
    (respelled : RespelledPair pair pair') :
    assignment delimiter pair = assignment delimiter pair' := by
  cases respelled with
  | same =>
      rfl
  | respelled value spells spells' =>
      have checked : ∀ name : String, Binding.lift (checkColumn (.text name)) = pure name :=
        fun _ => rfl
      unfold assignment
      dsimp only
      rw [checked, checked, pure_bind, pure_bind, spells.splitKey_congr spells']

theorem assignments_of_respelled
    {pairs pairs' : List (Value × Value)}
    (respelled : RespelledPairs pairs pairs') :
    assignments delimiter pairs = assignments delimiter pairs' := by
  induction respelled with
  | nil =>
      rfl
  | cons first _ inductionHypothesis =>
      rw [assignments, assignments, assignment_of_respelled delimiter first, inductionHypothesis]

theorem requireFilter_of_respelled
    {filters filters' : Value}
    (respelled : Filter.Respelled filters filters') :
    requireFilter filters = requireFilter filters' := by
  rw [requireFilter, requireFilter, Filter.isEmpty_of_respelled respelled]

/-- Updates are composed alike, however their keys are spelled. -/
theorem update_of_respelled
    (table : Value)
    {values values' filters filters' : Value}
    (respelledValues : RespelledValues values values')
    (respelledFilters : Filter.Respelled filters filters') :
    update delimiter table values filters = update delimiter table values' filters' := by
  unfold update
  rw [requireFilter_of_respelled respelledFilters,
    Filter.compile_of_respelled delimiter respelledFilters]
  cases respelledValues with
  | same =>
      rfl
  | @map pairs pairs' respelled =>
      have sameTruth : (Value.map pairs).isTruthy = (Value.map pairs').isTruthy := by
        simp only [Value.isTruthy, Filter.isEmpty_eq_of_respelled respelled]
      have lifted : ∀ pairs, Binding.lift (pairsOf (.map pairs)) = pure pairs := fun _ => rfl
      simp only [sameTruth, lifted, pure_bind, assignments_of_respelled delimiter respelled]

theorem plainRow_of_respelled
    {pairs pairs' : List (Value × Value)}
    (respelled : RespelledPairs pairs pairs') :
    plainRow pairs = plainRow pairs' := by
  unfold plainRow
  dsimp only
  congr 1
  refine mapM_eq_of_forall₂ (respelled.imp fun pair pair' first => ?_)
  cases first with
  | same =>
      rfl
  | respelled value spells spells' =>
      dsimp only
      rw [Filter.splitAnyKey, Filter.splitAnyKey, spells.splitKey_congr spells']

/-- Updates in place of insertions are composed alike, however the columns are spelled. -/
theorem upsertUpdate_of_respelled
    (table keys : Value)
    {row row' : Value}
    (respelled : RespelledValues row row') :
    upsertUpdate delimiter table row keys = upsertUpdate delimiter table row' keys := by
  cases respelled with
  | same =>
      rfl
  | map respelled =>
      have given : ∀ pairs, pairsOf (.map pairs) = pure pairs := fun _ => rfl
      unfold upsertUpdate
      rw [given, given, pure_bind, pure_bind, plainRow_of_respelled respelled]

/-- Deletions are composed alike, however the keys of their filters are spelled. -/
theorem delete_of_respelled
    (table : Value)
    {filters filters' : Value}
    (respelled : Filter.Respelled filters filters') :
    delete delimiter table filters = delete delimiter table filters' := by
  unfold delete
  rw [requireFilter_of_respelled respelled, Filter.compile_of_respelled delimiter respelled]

/-- Selections are composed alike, however their tables and their filters are spelled. -/
theorem select_of_respelled
    (columns order : Value)
    {tables tables' filters filters' : Value}
    (respelledTables : Table.Respelled tables tables')
    (respelledFilters : Filter.Respelled filters filters') :
    select delimiter columns tables filters order =
      select delimiter columns tables' filters' order := by
  unfold select whereClause
  rw [Table.compile_of_respelled delimiter respelledTables,
    Filter.isEmpty_of_respelled respelledFilters,
    Filter.compile_of_respelled delimiter respelledFilters]

end Composing

/--
Spelling does not matter. A key that decorates a word with a known operator is split into the word
and the operator. Any key that is not blank is split into a word, which is a key of its own for the
usual operator, and an operator with single spaces. A join keyword names its join, and so does
every variant of it. Statements whose filters, assignments and tables differ in such spelling only
are the same.
-/
theorem composed_however_spelled :
    (∀ key column operator : String,
      Text.Word column.toList →
      Recognised operator →
      Filter.Decorates key column operator →
      Filter.KeySpells key column operator ∧ Filter.splitKey key = (column, operator)) ∧
      (∀ key : String,
        (∃ c ∈ key.toList, Text.isBlank c = false) →
        Text.Word (Filter.splitKey key).1.toList ∧
          Text.Tidy (Filter.splitKey key).2.toList ∧
          Filter.splitKey (Filter.splitKey key).1 =
            ((Filter.splitKey key).1, Filter.defaultOperator)) ∧
      (∀ join : Table.Join,
        Table.Join.ofToken? join.keyword = some join ∧
          ∀ token : String,
            Text.Variant token.toList join.keyword.toList →
            join.Spells token ∧ Table.Join.ofToken? token = some join) ∧
      (∀ (delimiter : String) (filters filters' : Value),
        Filter.Respelled filters filters' →
        Filter.compile delimiter filters = Filter.compile delimiter filters' ∧
          (∀ table, delete delimiter table filters = delete delimiter table filters') ∧
          (∀ table values values',
            RespelledValues values values' →
            update delimiter table values filters = update delimiter table values' filters' ∧
              ∀ keys,
                upsertUpdate delimiter table values keys =
                  upsertUpdate delimiter table values' keys) ∧
          ∀ columns tables tables' order,
            Table.Respelled tables tables' →
            Table.compile delimiter tables = Table.compile delimiter tables' ∧
              select delimiter columns tables filters order =
                select delimiter columns tables' filters' order) := by
  refine ⟨fun key column operator isWord recognised decorates => ?_, fun key worded => ?_,
    fun join => ⟨join.ofToken?_keyword, fun token variant => ?_⟩,
    fun delimiter filters filters' respelled => ?_⟩
  · have spells := Filter.keySpells_of_decorates isWord (ascii_of_recognised recognised) decorates
    exact ⟨spells, spells.splitKey_eq⟩
  · obtain ⟨isWord, bare⟩ := Filter.columnOf_of_worded worded
    exact ⟨isWord, (Filter.keySpells_of_splitKey isWord rfl).tidy, bare⟩
  · have spells := Table.Join.spells_of_variant variant
    exact ⟨spells, Table.Join.ofToken?_eq_some_iff.mpr spells⟩
  · refine ⟨Filter.compile_of_respelled delimiter respelled,
      fun table => delete_of_respelled delimiter table respelled,
      fun table values values' respelledValues => ⟨?_, fun keys => ?_⟩,
      fun columns tables tables' order respelledTables => ⟨?_, ?_⟩⟩
    · exact update_of_respelled delimiter table respelledValues respelled
    · exact upsertUpdate_of_respelled delimiter table keys respelledValues
    · exact Table.compile_of_respelled delimiter respelledTables
    · exact select_of_respelled delimiter columns order respelledTables respelled

/-- Filters, assignments and tables whose keys and keywords are written plainly. -/
def plainFilters : List Value :=
  [.map [(.text "g.name NOT LIKE", .text "a%"), (.text "id", .int 1)]]

def plainValues : List (Value × Value) :=
  [(.text "visits +=", .int 1)]

def plainTables : List Value :=
  [.text "LEFT OUTER JOIN", .map [(.text "a", .map [(.text "g.id", .text "a.id")])]]

/-- The same with blanks and capital letters at will. -/
def oddFilters : List Value :=
  [.map [(.text "\t g.name\u2003noT \u3000likE\n", .text "a%"), (.text "id\n=", .int 1)]]

def oddValues : List (Value × Value) :=
  [(.text " visits \u00a0+= ", .int 1)]

def oddTables : List Value :=
  [.text " left\n outer\u00a0Join ", .map [(.text "a", .map [(.text " g.id", .text "a.id")])]]

/-- A decorated key, a variant of a keyword, and two statements of the same in odd spelling. -/
theorem composed_however_spelled_odd :
    Filter.splitKey "\t g.name\u2003noT \u3000likE\n" = ("g.name", "NOT LIKE") ∧
      Filter.splitKey (Filter.splitKey "\t g.name\u2003noT \u3000likE\n").1 = ("g.name", "=") ∧
      Table.Join.ofToken? " left\n outer\u00a0Join " = some .leftOuter ∧
      update "\"" (.text "g") (.map plainValues) (.list plainFilters) =
        update "\"" (.text "g") (.map oddValues) (.list oddFilters) ∧
      select "\"" (.text "id") (.list (.text "g" :: plainTables)) (.list plainFilters) .null =
        select "\"" (.text "id") (.list (.text "g" :: oddTables)) (.list oddFilters) .null := by
  have blank : ∀ s : List Char, s.all Text.isBlank = true → Text.Blank s :=
    fun _ all => List.all_eq_true.mp all
  have spaced : ∀ (word gap : List Char) (words : List (List Char)) (rest : List Char),
      word ≠ [] →
      word.all (!Text.isBlank ·) = true →
      gap ≠ [] →
      gap.all Text.isBlank = true →
      Text.Spaced words rest →
      Text.Spaced (word :: words) (word ++ gap ++ rest) :=
    fun _ _ _ _ nonempty solid apart blankGap =>
      .cons (Text.word_of_all nonempty solid) (blank _ blankGap) apart
  have samePair : ∀ {key key' : String} {value : Value},
      (Filter.splitKey key').1.toList ≠ [] →
      (Filter.splitKey key').1.toList.all (!Text.isBlank ·) = true →
      Filter.splitKey key = Filter.splitKey key' →
      RespelledPair (.text key, value) (.text key', value) :=
    fun nonempty solid split => .of_splitKey (Text.word_of_all nonempty solid) split _
  have isColumn : Text.Word "g.name".toList := Text.word_of_all (by decide) (by decide)
  have twoWords : Text.Spaced ["noT".toList, "likE".toList] "noT \u3000likE".toList :=
    spaced "noT".toList [' ', '\u3000'] _ _ (by decide) (by decide) (by decide) (by decide)
      (.single (Text.word_of_all (by decide) (by decide)))
  have notLike : Text.Variant "noT \u3000likE\n".toList "NOT LIKE".toList :=
    ⟨[], _, _, ['\n'], blank _ (by decide), twoWords, blank _ (by decide), by decide, by decide⟩
  have decorates :
      Filter.Decorates "\t g.name\u2003noT \u3000likE\n" "g.name" "NOT LIKE" :=
    ⟨['\t', ' '], ['\u2003'], _, blank _ (by decide), blank _ (by decide), by decide, notLike,
      by decide⟩
  have threeWords :
      Text.Spaced ["left".toList, "outer".toList, "Join".toList]
        "left\n outer\u00a0Join".toList :=
    spaced "left".toList ['\n', ' '] _ _ (by decide) (by decide) (by decide) (by decide)
      (spaced "outer".toList ['\u00a0'] _ _ (by decide) (by decide) (by decide) (by decide)
        (.single (Text.word_of_all (by decide) (by decide))))
  have leftOuter :
      Text.Variant " left\n outer\u00a0Join ".toList Table.Join.leftOuter.keyword.toList :=
    ⟨[' '], _, _, [' '], blank _ (by decide), threeWords, blank _ (by decide), by decide,
      by decide⟩
  have named := composed_however_spelled.1 _ _ _ isColumn (.inl (by decide)) decorates
  have again := composed_however_spelled.2.1 "\t g.name\u2003noT \u3000likE\n" ⟨'g', by decide⟩
  have joins := (composed_however_spelled.2.2.1 .leftOuter).2 _ leftOuter
  have compared :
      RespelledPair (.text "g.name NOT LIKE", .text "a%")
        (.text "\t g.name\u2003noT \u3000likE\n", .text "a%") :=
    .of_splitKey again.1 (by decide +kernel) _
  have equal : RespelledPair (.text "id", .int 1) (.text "id\n=", .int 1) :=
    samePair (by decide +kernel) (by decide +kernel) (by decide +kernel)
  have added : RespelledPair (.text "visits +=", .int 1) (.text " visits \u00a0+= ", .int 1) :=
    samePair (by decide +kernel) (by decide +kernel) (by decide +kernel)
  have joined : RespelledPair (.text "g.id", .text "a.id") (.text " g.id", .text "a.id") :=
    samePair (by decide +kernel) (by decide +kernel) (by decide +kernel)
  have filters : Filter.Respelled (.list plainFilters) (.list oddFilters) :=
    .list (.cons (.map (.cons compared (.cons equal .nil))) .nil)
  have values : RespelledValues (.map plainValues) (.map oddValues) :=
    .map (.cons added .nil)
  have keyword := Table.Join.ofToken?_eq_some_iff.mp Table.Join.leftOuter.ofToken?_keyword
  have tables :
      Table.Respelled (.list (.text "g" :: plainTables)) (.list (.text "g" :: oddTables)) :=
    .list _ (.cons (.keyword keyword joins.1)
      (.cons (.tables (.cons (.conditions _ (.cons joined .nil)) .nil)) .nil))
  obtain ⟨_, _, updates, selects⟩ := composed_however_spelled.2.2.2 "\"" _ _ filters
  refine ⟨named.2, ?_, joins.2, (updates _ _ _ values).1, (selects _ _ _ _ tables).2⟩
  rw [again.2.2, named.2]
  rfl

end QueryComposer.Statement
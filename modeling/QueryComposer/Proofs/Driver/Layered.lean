import QueryComposer.Driver.Keywords
import QueryComposer.Proofs.Association
import QueryComposer.Proofs.Value.Key

namespace QueryComposer.Driver

/-!
# Layers of connection parameters

A parameter has the value that the caller gives it, or else the driver, or else the registry; a
null counts as given. What the parameters come to is said keyword by keyword: `Holds` names the
value that a keyword has if it is no option, and options have theirs in any case.
-/

open Association (get? put merge)

section Names

/-- The value that was written last under a key. -/
def last?
    (pairs : List (Value × Value))
    (key : Value) :
    Option Value :=
  get? pairs.reverse key

/-- Under a key there is what was written last, or else what was there before. -/
theorem get?_merge_last
    (pairs updates : List (Value × Value))
    (key : Value) :
    get? (merge pairs updates) key = (last? updates key).or (get? pairs key) :=
  Association.get?_merge_reverse pairs updates key

theorem last?_cons
    (other value : Value)
    (rest : List (Value × Value))
    (key : Value) :
    last? ((other, value) :: rest) key =
      (last? rest key).or (if other == key then some value else none) := by
  unfold last?
  rw [List.reverse_cons, Association.get?_append, get?, get?]

theorem last?_eq_none_iff
    {pairs : List (Value × Value)}
    {key : Value} :
    last? pairs key = none ↔ get? pairs key = none := by
  unfold last?
  simp only [Association.get?_eq_none_iff, List.mem_reverse]

end Names

section Keywords

/-- Parameters are told by a connection string. -/
def HasDsn (params : List (Value × Value)) : Prop :=
  (parameter params "dsn").isTruthy = true

/-- No parameter that is given goes to the keyword. -/
def Unused
    (params : List (Value × Value))
    (keywords : List (String × String))
    (keyword : String) : Prop :=
  ∀ pair ∈ keywords, pair.2 = keyword → parameter params pair.1 = .null

/-- The parameter is given and goes to the keyword, and none of those behind it does. -/
def GoesTo
    (params : List (Value × Value))
    (keywords : List (String × String))
    (name keyword : String) : Prop :=
  parameter params name ≠ .null ∧
    ∃ before after, keywords = before ++ (name, keyword) :: after ∧ Unused params after keyword

/-- A password is given, and this is the keyword for it. -/
def PasswordGoesTo
    (params : List (Value × Value))
    (keywords : List (String × String))
    (keyword : String) : Prop :=
  get? keywords "password" = some keyword ∧ parameter params "password" ≠ .null

/-- What a keyword holds that is no option. -/
inductive Holds
    (driver : Driver)
    (params : List (Value × Value)) :
    String → Value → Prop where
  | parameter
      {name keyword : String}
      (apart : ¬ HasDsn params)
      (goes : GoesTo params driver.keywords name keyword) :
      Holds driver params keyword (parameter params name)
  | dsn
      {keyword : String}
      (given : HasDsn params)
      (accepted : driver.dsnKeyword = some keyword)
      (free : ¬ PasswordGoesTo params driver.keywords keyword) :
      Holds driver params keyword (parameter params "dsn")
  | password
      {keyword : String}
      (given : HasDsn params)
      (goes : PasswordGoesTo params driver.keywords keyword) :
      Holds driver params keyword (parameter params "password")

variable
  {driver : Driver}
  {params : List (Value × Value)}
  {keywords rest : List (String × String)}
  {name keyword : String}
  {value : Value}

/-- The parameters that are given, each under its keyword. -/
def parameterPairs
    (params : List (Value × Value))
    (keywords : List (String × String)) :
    List (Value × Value) :=
  keywords.filterMap fun (name, keyword) =>
    match parameter params name with
    | .null => none
    | value => some (.text keyword, value)

theorem parameterPairs_cons_of_null
    (missing : parameter params name = .null) :
    parameterPairs params ((name, keyword) :: rest) = parameterPairs params rest := by
  unfold parameterPairs
  rw [List.filterMap_cons_none]
  simp only [missing]

theorem parameterPairs_cons_of_ne_null
    (given : parameter params name ≠ .null) :
    parameterPairs params ((name, keyword) :: rest) =
      (.text keyword, parameter params name) :: parameterPairs params rest := by
  unfold parameterPairs
  rw [List.filterMap_cons_some]
  dsimp only
  split
  · next missing =>
      exact absurd missing given
  · rfl

/-- Nothing is written under a keyword exactly if no parameter goes to it. -/
theorem last?_parameterPairs_eq_none_iff :
    last? (parameterPairs params keywords) (.text keyword) = none ↔
      Unused params keywords keyword := by
  induction keywords with
  | nil =>
      simp [parameterPairs, last?, get?, Unused]
  | cons first rest inductionHypothesis =>
      rcases first with ⟨name, other⟩
      unfold Unused
      rw [List.forall_mem_cons]
      by_cases missing : parameter params name = .null
      · rw [parameterPairs_cons_of_null missing, inductionHypothesis]
        simp only [missing, implies_true, true_and, Unused]
      · rw [parameterPairs_cons_of_ne_null missing, last?_cons, Option.or_eq_none_iff,
          inductionHypothesis, Value.text_beq_text, and_comm]
        simp [missing, Unused]

/-- A parameter goes to a keyword in front of others, or it is one of these. -/
theorem goesTo_cons_iff
    {other target : String} :
    GoesTo params ((other, target) :: rest) name keyword ↔
      GoesTo params rest name keyword ∨
        (other = name ∧ target = keyword ∧
          parameter params name ≠ .null ∧ Unused params rest keyword) := by
  constructor
  · rintro ⟨given, before, after, split, unused⟩
    cases before with
    | nil =>
        cases split
        exact .inr ⟨rfl, rfl, given, unused⟩
    | cons first before =>
        cases split
        exact .inl ⟨given, before, after, rfl, unused⟩
  · rintro (⟨given, before, after, rfl, unused⟩ | ⟨rfl, rfl, given, unused⟩)
    · exact ⟨given, (other, target) :: before, after, rfl, unused⟩
    · exact ⟨given, [], rest, rfl, unused⟩

/-- Under a keyword there is the last parameter of those that go to it. -/
theorem last?_parameterPairs_eq_some_iff :
    last? (parameterPairs params keywords) (.text keyword) = some value ↔
      ∃ name, GoesTo params keywords name keyword ∧ parameter params name = value := by
  induction keywords with
  | nil =>
      simp [parameterPairs, last?, get?, GoesTo]
  | cons first rest inductionHypothesis =>
      rcases first with ⟨other, target⟩
      simp only [goesTo_cons_iff, or_and_right, exists_or, ← inductionHypothesis]
      by_cases missing : parameter params other = .null
      · rw [parameterPairs_cons_of_null missing]
        constructor
        · exact .inl
        · rintro (following | ⟨_, ⟨rfl, _, given, _⟩, _⟩)
          · exact following
          · exact absurd missing given
      · rw [parameterPairs_cons_of_ne_null missing, last?_cons, Option.or_eq_some_iff,
          last?_parameterPairs_eq_none_iff, Value.text_beq_text]
        apply or_congr_right
        constructor
        · rintro ⟨unused, written⟩
          by_cases same : (target == keyword) = true
          · rw [if_pos same] at written
            cases written
            exact ⟨other, ⟨rfl, eq_of_beq same, missing, unused⟩, rfl⟩
          · rw [if_neg same] at written
            cases written
        · rintro ⟨_, ⟨rfl, rfl, _, unused⟩, rfl⟩
          exact ⟨unused, if_pos (beq_self_eq_true target)⟩

/-- Some parameter goes to a keyword exactly if one that is given is mapped to it. -/
theorem exists_goesTo_iff :
    (∃ name, GoesTo params keywords name keyword) ↔
      ∃ name, (name, keyword) ∈ keywords ∧ parameter params name ≠ .null := by
  constructor
  · rintro ⟨name, given, before, after, rfl, _⟩
    exact ⟨name, by simp, given⟩
  · rintro ⟨name, member, given⟩
    cases found : last? (parameterPairs params keywords) (.text keyword) with
    | none =>
        exact absurd (last?_parameterPairs_eq_none_iff.mp found _ member rfl) given
    | some value =>
        obtain ⟨last, goes, _⟩ := last?_parameterPairs_eq_some_iff.mp found
        exact ⟨last, goes⟩

/-- A password goes to a keyword exactly if that is written for it. -/
theorem get?_passwordKeywords_eq_some_iff :
    get? (passwordKeywords keywords params) (.text keyword) = some value ↔
      PasswordGoesTo params keywords keyword ∧ parameter params "password" = value := by
  unfold passwordKeywords PasswordGoesTo
  split
  · next unmapped =>
      simp [unmapped, get?]
  · next missing _ =>
      simp [missing, get?]
  · next mapped given =>
      have present : parameter params "password" ≠ .null := given
      simp [mapped, present, get?]

/-- Every key is a text. -/
def TextKeyed (pairs : List (Value × Value)) : Prop :=
  ∀ key ∈ pairs.map (·.1), ∃ keyword, key = .text keyword

theorem textKeyed_merge
    {pairs updates : List (Value × Value)}
    (before : TextKeyed pairs)
    (written : TextKeyed updates) :
    TextKeyed (merge pairs updates) :=
  fun key member => (Association.key_mem_merge member).elim (before key) (written key)

/-- The keywords hold what they are to hold if there are no options. -/
structure Filled
    (driver : Driver)
    (params base : List (Value × Value)) : Prop where
  textKeyed :
    TextKeyed base
  holds :
    ∀ (keyword : String) (value : Value),
      get? base (.text keyword) = some value ↔ Holds driver params keyword value

theorem filled_parameterKeywords
    (apart : ¬ HasDsn params) :
    Filled driver params (parameterKeywords driver.keywords params) where
  textKeyed := by
    refine textKeyed_merge (by simp [TextKeyed]) fun key member => ?_
    obtain ⟨pair, written, rfl⟩ := List.mem_map.mp member
    obtain ⟨⟨name, keyword⟩, _, made⟩ := List.mem_filterMap.mp written
    dsimp only at made
    split at made
    · cases made
    · cases made
      exact ⟨keyword, rfl⟩
  holds := by
    intro keyword value
    have written : get? (parameterKeywords driver.keywords params) (.text keyword) =
        last? (parameterPairs params driver.keywords) (.text keyword) :=
      (get?_merge_last [] _ _).trans (Option.or_none)
    rw [written, last?_parameterPairs_eq_some_iff]
    constructor
    · rintro ⟨name, goes, rfl⟩
      exact .parameter apart goes
    · rintro (⟨_, goes⟩ | ⟨given, _, _⟩ | ⟨given, _⟩)
      · exact ⟨_, goes, rfl⟩
      · exact absurd given apart
      · exact absurd given apart

theorem textKeyed_passwordKeywords : TextKeyed (passwordKeywords keywords params) := by
  unfold passwordKeywords TextKeyed
  split <;> simp

theorem last?_passwordKeywords :
    last? (passwordKeywords keywords params) (.text keyword) =
      get? (passwordKeywords keywords params) (.text keyword) := by
  unfold passwordKeywords last?
  split <;> rfl

theorem filled_dsnKeywords
    (given : HasDsn params)
    {target : String}
    (accepted : driver.dsnKeyword = some target) :
    Filled driver params
      (merge [(.text target, parameter params "dsn")]
        (passwordKeywords driver.keywords params)) where
  textKeyed := textKeyed_merge (by simp [TextKeyed]) textKeyed_passwordKeywords
  holds := by
    intro keyword value
    rw [get?_merge_last, last?_passwordKeywords]
    by_cases goes : PasswordGoesTo params driver.keywords keyword
    · rw [get?_passwordKeywords_eq_some_iff.mpr ⟨goes, rfl⟩, Option.some_or, Option.some_inj]
      constructor
      · rintro rfl
        exact .password given goes
      · rintro (⟨apart, _⟩ | ⟨_, _, free⟩ | _)
        · exact absurd given apart
        · exact absurd goes free
        · rfl
    · have unwritten : get? (passwordKeywords driver.keywords params) (.text keyword) = none := by
        rw [Option.eq_none_iff_forall_ne_some]
        intro password found
        exact goes (get?_passwordKeywords_eq_some_iff.mp found).1
      rw [unwritten, Option.none_or, get?, get?, Value.text_beq_text]
      constructor
      · intro found
        split at found
        · next same =>
            cases found
            exact .dsn given (accepted.trans (congrArg some (eq_of_beq same))) goes
        · cases found
      · rintro (⟨apart, _⟩ | ⟨_, meant, _⟩ | ⟨_, goesTo⟩)
        · exact absurd given apart
        · cases accepted.symm.trans meant
          exact if_pos (beq_self_eq_true target)
        · exact absurd goesTo goes

/-- No keyword holds a null unless it is an option. -/
theorem Holds.ne_null
    (holds : Holds driver params keyword value) :
    value ≠ .null := by
  cases holds with
  | parameter _ goes =>
      exact goes.1
  | dsn given _ _ =>
      intro isNull
      rw [HasDsn, isNull] at given
      cases given
  | password _ goes =>
      exact goes.2

/-- A keyword beside a connection string is the one for that or the one for the password. -/
theorem exists_holds_iff_of_hasDsn
    (given : HasDsn params) :
    (∃ value, Holds driver params keyword value) ↔
      driver.dsnKeyword = some keyword ∨ PasswordGoesTo params driver.keywords keyword := by
  constructor
  · rintro ⟨_, ⟨apart, _⟩ | ⟨_, accepted, _⟩ | ⟨_, goes⟩⟩
    · exact absurd given apart
    · exact .inl accepted
    · exact .inr goes
  · intro meant
    by_cases goes : PasswordGoesTo params driver.keywords keyword
    · exact ⟨_, .password given goes⟩
    · exact ⟨_, .dsn given (meant.resolve_right goes) goes⟩

theorem exists_holds_iff_of_not_hasDsn
    (apart : ¬ HasDsn params) :
    (∃ value, Holds driver params keyword value) ↔
      ∃ name, (name, keyword) ∈ driver.keywords ∧ parameter params name ≠ .null := by
  rw [← exists_goesTo_iff]
  constructor
  · rintro ⟨_, ⟨_, goes⟩ | ⟨given, _, _⟩ | ⟨given, _⟩⟩
    · exact ⟨_, goes⟩
    · exact absurd given apart
    · exact absurd given apart
  · rintro ⟨name, goes⟩
    exact ⟨_, .parameter apart goes⟩

end Keywords

section Connecting

variable
  {driver : Driver}
  {params given : List (Value × Value)}

/-- The driver is given a connection string and has no keyword for it. -/
def RefusesDsn
    (driver : Driver)
    (params : List (Value × Value)) : Prop :=
  HasDsn params ∧ driver.dsnKeyword = none

/--
The keywords hold the options, and besides them exactly what the parameters come to: the connection
string and the password beside it, or else each parameter that is given and has a keyword, of which
the last one counts if several have the same.
-/
structure Passes
    (driver : Driver)
    (params given keywords : List (Value × Value)) : Prop where
  options :
    ∀ key value : Value, last? given key = some value → get? keywords key = some value
  others :
    ∀ key value : Value,
      get? given key = none →
      (get? keywords key = some value ↔
        ∃ keyword, key = .text keyword ∧ Holds driver params keyword value)
  besideDsn :
    HasDsn params →
    ∀ keyword : String,
      get? given (.text keyword) = none →
      ((∃ value, get? keywords (.text keyword) = some value) ↔
        driver.dsnKeyword = some keyword ∨ PasswordGoesTo params driver.keywords keyword)
  withoutDsn :
    ¬ HasDsn params →
    ∀ keyword : String,
      get? given (.text keyword) = none →
      ((∃ value, get? keywords (.text keyword) = some value) ↔
        ∃ name, (name, keyword) ∈ driver.keywords ∧ parameter params name ≠ .null)
  notNull :
    ∀ key : Value, get? given key = none → get? keywords key ≠ some .null

theorem passes_of_filled
    {base : List (Value × Value)}
    (filled : Filled driver params base)
    (given : List (Value × Value)) :
    Passes driver params given (merge base given) := by
  have unchanged :
      ∀ key : Value, get? given key = none → get? (merge base given) key = get? base key := by
    intro key absent
    rw [get?_merge_last, last?_eq_none_iff.mpr absent, Option.none_or]
  have others :
      ∀ key value : Value,
        get? given key = none →
        (get? (merge base given) key = some value ↔
          ∃ keyword, key = .text keyword ∧ Holds driver params keyword value) := by
    intro key value absent
    rw [unchanged key absent]
    constructor
    · intro found
      obtain ⟨other, member, same⟩ := Association.exists_mem_of_get? found
      obtain ⟨keyword, rfl⟩ := filled.textKeyed other (List.mem_map_of_mem (f := (·.1)) member)
      rw [Value.text_beq_iff] at same
      subst same
      exact ⟨keyword, rfl, (filled.holds keyword value).mp found⟩
    · rintro ⟨keyword, rfl, holds⟩
      exact (filled.holds keyword value).mpr holds
  refine ⟨?_, others, ?_, ?_, ?_⟩
  · intro key value found
    rw [get?_merge_last, found, Option.some_or]
  · intro hasDsn keyword absent
    simp only [unchanged _ absent, filled.holds]
    exact exists_holds_iff_of_hasDsn hasDsn
  · intro apart keyword absent
    simp only [unchanged _ absent, filled.holds]
    exact exists_holds_iff_of_not_hasDsn apart
  · intro key absent found
    obtain ⟨_, _, holds⟩ := (others key .null absent).mp found
    exact holds.ne_null rfl

/-- The keywords are refused exactly if there is a connection string and no keyword for it. -/
theorem connectKeywords_cases
    (driver : Driver)
    (params : List (Value × Value))
    {options : Value}
    (passed : optionPairs options = .ok given) :
    (RefusesDsn driver params ∧
        connectKeywords driver params options = .error (.argument (.dsn driver.name))) ∨
      (¬ RefusesDsn driver params ∧
        ∃ keywords,
          connectKeywords driver params options = .ok keywords ∧
            Passes driver params given keywords) := by
  unfold connectKeywords
  dsimp only
  by_cases hasDsn : HasDsn params
  · rw [HasDsn] at hasDsn
    rw [if_pos hasDsn, dsnKeywords, passed]
    cases accepted : driver.dsnKeyword with
    | none =>
        exact .inl ⟨⟨hasDsn, accepted⟩, rfl⟩
    | some target =>
        refine .inr ⟨?_, _, rfl, passes_of_filled (filled_dsnKeywords hasDsn accepted) given⟩
        rintro ⟨_, refused⟩
        rw [accepted] at refused
        cases refused
  · rw [HasDsn] at hasDsn
    rw [if_neg hasDsn, passed]
    exact .inr ⟨fun refuses => hasDsn refuses.1, _, rfl,
      passes_of_filled (filled_parameterKeywords hasDsn) given⟩

/--
The keywords of a connection are layered. Each merged parameter is the caller's, or else the
driver's, or else the registry's, nulls included. The keywords are refused as an invalid argument
exactly if there is a connection string and the driver has no keyword for it; otherwise they are
the options and, besides them, exactly what the merged parameters come to.
-/
theorem connectKeywords_layered
    {registry : Registry}
    {name params options : Value}
    {driver : Driver}
    {pairs given : List (Value × Value)}
    (known : registry.get name = .ok driver)
    (updates : Registry.updatesOf params = .ok pairs)
    (passed : optionPairs options = .ok given) :
    ∃ merged,
      registry.mergedParams name params = .ok merged ∧
        (∀ parameter : Value,
          get? merged parameter =
            (last? pairs parameter).or
              ((last? (Registry.settingPairs driver.defaults) parameter).or
                (get? (Registry.settingPairs registry.baseDefaults) parameter))) ∧
        ((∃ error,
            connectKeywords driver merged options = .error error ∧
              error.kind? = some .invalidArgument) ↔
          RefusesDsn driver merged) ∧
        (¬ RefusesDsn driver merged →
          ∃ keywords,
            connectKeywords driver merged options = .ok keywords ∧
              Passes driver merged given keywords) := by
  refine ⟨registry.layered driver pairs, ?_, ?_, ?_⟩
  · rw [Registry.mergedParams, known, updates]
    rfl
  · intro parameter
    rw [Registry.layered, get?_merge_last, get?_merge_last]
  · rcases connectKeywords_cases driver (registry.layered driver pairs) passed with
      ⟨refuses, failed⟩ | ⟨accepts, keywords, made, passes⟩
    · exact ⟨⟨fun _ => refuses, fun _ => ⟨_, failed, rfl⟩⟩, fun accepts => absurd refuses accepts⟩
    · refine ⟨⟨?_, fun refuses => absurd refuses accepts⟩, fun _ => ⟨keywords, made, passes⟩⟩
      rintro ⟨error, failed, _⟩
      rw [made] at failed
      cases failed

/-- A driver that has one keyword for two parameters. -/
def sharing : Driver where
  name := "db"
  module := "dbapi"
  quoteMark := .double
  paramStyle := .qmark
  beginStatement := "BEGIN"
  autocommit := .method
  dsnKeyword := some "dsn"
  defaults := [("host", .text "localhost"), ("port", .int 5432)]
  keywords := [("address", "server"), ("host", "server"), ("port", "port")]

/-- A registry with no other driver. -/
def sharingRegistry : Registry where
  drivers := [("db", sharing)]
  baseDefaults := [("dsn", .null), ("address", .text "remote"), ("host", .null)]

/-- A host that is null leaves its keyword to the address, and an option takes that of the port. -/
theorem connectKeywords_layered_sharing :
    sharingRegistry.get (.text "db") = .ok sharing ∧
      Registry.updatesOf (.map [(.text "host", .null)]) = .ok [(.text "host", .null)] ∧
      optionPairs (.map [(.text "port", .null)]) = .ok [(.text "port", .null)] ∧
      ∃ merged keywords,
        sharingRegistry.mergedParams (.text "db") (.map [(.text "host", .null)]) = .ok merged ∧
          sharing.connectKeywords merged (.map [(.text "port", .null)]) = .ok keywords ∧
          Passes sharing merged [(.text "port", .null)] keywords := by
  have known : sharingRegistry.get (.text "db") = .ok sharing := by
    rfl
  have updates :
      Registry.updatesOf (.map [(.text "host", .null)]) = .ok [(.text "host", .null)] := by
    rfl
  have passed : optionPairs (.map [(.text "port", .null)]) = .ok [(.text "port", .null)] := by
    rfl
  obtain ⟨merged, merges, _, _, connects⟩ := connectKeywords_layered known updates passed
  have accepts : ¬ RefusesDsn sharing merged := by
    rintro ⟨_, refused⟩
    cases refused
  obtain ⟨keywords, made, passes⟩ := connects accepts
  exact ⟨known, updates, passed, merged, keywords, merges, made, passes⟩

/-- The address goes to the keyword that it shares, and the option is passed as it is. -/
example :
    (sharingRegistry.mergedParams (.text "db") (.map [(.text "host", .null)]) >>= fun merged =>
      sharing.connectKeywords merged (.map [(.text "port", .null)])) =
      .ok [(.text "server", .text "remote"), (.text "port", .null)] := by
  rfl

end Connecting

end QueryComposer.Driver

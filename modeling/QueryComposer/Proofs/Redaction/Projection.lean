import QueryComposer.Proofs.Connection.Opening
import QueryComposer.Proofs.Redaction.Masked

namespace QueryComposer.Redaction

/-!
# Redaction is a projection

What is masked has no influence on what is shown: mappings that differ only in the values of
sensitive keys are redacted to the same. And what has been redacted once is not changed by being
redacted again, wherever it stands, so that the event of a connection, whose keywords are redacted
before they are logged, shows them as they are after the first time.
-/

open Connection.Host (connectedEvent loggerName)

section Secrets

mutual

/-- The values are the same but for what sensitive keys hold. -/
inductive SameButSecrets : Value → Value → Prop where
  | same (value : Value) :
      SameButSecrets value value
  | mapping
      {pairs pairs' : List (Value × Value)}
      (each : SamePairsButSecrets pairs pairs') :
      SameButSecrets (.map pairs) (.map pairs')

/-- The mappings have the same keys, and the same values but for what sensitive keys hold. -/
inductive SamePairsButSecrets : List (Value × Value) → List (Value × Value) → Prop where
  | nil :
      SamePairsButSecrets [] []
  | secret
      {key : String}
      {rest rest' : List (Value × Value)}
      (sensitive : isSensitive key = true)
      (value value' : Value)
      (following : SamePairsButSecrets rest rest') :
      SamePairsButSecrets ((.text key, value) :: rest) ((.text key, value') :: rest')
  | shared
      {value value' : Value}
      {rest rest' : List (Value × Value)}
      (key : Value)
      (first : SameButSecrets value value')
      (following : SamePairsButSecrets rest rest') :
      SamePairsButSecrets ((key, value) :: rest) ((key, value') :: rest')

end

mutual

theorem redactValue_eq :
    ∀ {value value' : Value},
      SameButSecrets value value' →
      redactValue value = redactValue value'
  | _, _, .same _ =>
      rfl
  | _, _, .mapping each => by
      rw [redactValue, redactValue, redactPairs_eq each]

/-- Mappings that are the same but for secrets are redacted to the same. -/
theorem redactPairs_eq :
    ∀ {pairs pairs' : List (Value × Value)},
      SamePairsButSecrets pairs pairs' →
      redactPairs pairs = redactPairs pairs'
  | _, _, .nil =>
      rfl
  | _, _, .secret sensitive _ _ following => by
      rw [redactPairs_cons_text, redactPairs_cons_text, shownOf, shownOf, if_pos sensitive,
        if_pos sensitive, redactPairs_eq following]
  | _, _, .shared key first following => by
      cases key with
      | text key =>
          rw [redactPairs_cons_text, redactPairs_cons_text, shownOf, shownOf,
            redactValue_eq first, redactPairs_eq following]
      | _ =>
          rfl

end

end Secrets

section Nesting

/-- A field of a mapping, with the pairs that stand before and after it. -/
structure Field where
  before : List (Value × Value)
  name : String
  after : List (Value × Value)

namespace Field

/-- The mapping that has the given one in its field. -/
def around
    (field : Field)
    (pairs : List (Value × Value)) :
    List (Value × Value) :=
  field.before ++ (.text field.name, .map pairs) :: field.after

end Field

/-- A mapping in a field of a mapping, which is in a field of another one, and so on. -/
def nested
    (fields : List Field)
    (pairs : List (Value × Value)) :
    List (Value × Value) :=
  fields.foldl (fun inner field => field.around inner) pairs

theorem redactPairs_append (pairs others : List (Value × Value)) :
    redactPairs (pairs ++ others) = do
      let shown ← redactPairs pairs
      let shownOthers ← redactPairs others
      return shown ++ shownOthers := by
  induction pairs with
  | nil =>
      rw [List.nil_append, redactPairs]
      exact (bind_pure _).symm
  | cons pair rest inductionHypothesis =>
      rcases pair with ⟨key, value⟩
      cases key with
      | text key =>
          rw [List.cons_append, redactPairs_cons_text, redactPairs_cons_text, inductionHypothesis]
          simp only [bind_assoc, pure_bind, List.cons_append]
      | _ =>
          rfl

/-- In a field, a mapping is redacted as it is on its own, unless the field is masked. -/
theorem redactPairs_around
    (field : Field)
    (pairs : List (Value × Value)) :
    redactPairs (field.around pairs) = do
      let before ← redactPairs field.before
      let shown ← shownOf field.name (.map pairs)
      let after ← redactPairs field.after
      return before ++ (.text field.name, shown) :: after := by
  rw [Field.around, redactPairs_append, redactPairs_cons_text]
  simp only [bind_assoc, pure_bind]

/-- Mappings that are redacted to the same are so in the fields of other mappings too. -/
theorem redactPairs_nested
    {pairs pairs' : List (Value × Value)}
    (same : redactPairs pairs = redactPairs pairs')
    (fields : List Field) :
    redactPairs (nested fields pairs) = redactPairs (nested fields pairs') := by
  induction fields generalizing pairs pairs' with
  | nil =>
      exact same
  | cons field rest inductionHypothesis =>
      apply inductionHypothesis
      rw [redactPairs_around, redactPairs_around, shownOf, shownOf, redactValue, redactValue, same]

end Nesting

section Connecting

/-- The event of a connection as it is written, with the keywords as plain data. -/
def connectedRecord
    (driver : Driver)
    (keywords : List (String × Json)) :
    Log.Record :=
  ⟨.info, [
    ("driver", .text driver.name),
    ("connect_args", .object keywords),
    ("event", .text "db.connected"),
    ("level", .text "info"),
    ("logger", .text loggerName)]⟩

/-- The field of a connection's event that the keywords stand in. -/
def connectField (driver : Driver) : Field :=
  ⟨[(.text "driver", .text driver.name)],
    "connect_args",
    [(.text "event", .text "db.connected"),
      (.text "level", .text "info"),
      (.text "logger", .text loggerName)]⟩

/-- The event of a connection shows the redacted keywords. -/
theorem render?_connectedEvent
    (driver : Driver)
    {keywords shown : List (Value × Value)}
    (redacted : redactPairs keywords = .ok shown) :
    (connectedEvent driver keywords).render? =
      (Json.ofPairs shown).map (connectedRecord driver) := by
  have ordinary :
      ∀ name ∈ ["driver", "connect_args", "event", "level", "logger"],
        isSensitive name = false := by
    decide +kernel
  have redactedFields :
      redactPairs ((connectField driver).around keywords) =
        .ok ((connectField driver).around shown) := by
    rw [redactPairs_around]
    simp [connectField, Field.around, shownOf, redactPairs, redactValue, redacted, ordinary]
    rfl
  have plainFields :
      Json.ofPairs ((connectField driver).around shown) =
        (Json.ofPairs shown).map fun members => (connectedRecord driver members).members := by
    simp only [connectField, Field.around, List.cons_append, List.nil_append, Json.ofPairs,
      Json.memberName, Json.ofValue]
    cases Json.ofPairs shown <;> rfl
  change (redactPairs ((connectField driver).around keywords) >>= _) = _
  rw [redactedFields]
  change (Json.ofPairs _ >>= _) = _
  rw [plainFields]
  cases Json.ofPairs shown <;> rfl

end Connecting

/--
What has been redacted is settled: redacting it again changes nothing, and in the fields of other
mappings it is shown as the whole mapping would be. So the event of a connection shows the keywords
as they are after the first time, whether or not they are redacted before.
-/
structure Settled
    (pairs shown : List (Value × Value)) : Prop where
  again :
    redact (.map shown) = .ok shown
  nested :
    ∀ fields : List Field,
      redact (.map (nested fields shown)) = redact (.map (nested fields pairs))
  kept :
    ∀ (field : Field) (before after : List (Value × Value)),
      redact (.map field.before) = .ok before →
      redact (.map field.after) = .ok after →
      redact (.map (field.around shown)) =
        .ok (before ++
          (.text field.name, if isSensitive field.name then .text mask else .map shown) :: after)
  logged :
    ∀ driver : Driver,
      (connectedEvent driver shown).render? = (Json.ofPairs shown).map (connectedRecord driver) ∧
        (connectedEvent driver pairs).render? = (Json.ofPairs shown).map (connectedRecord driver)

theorem settled_of_redacted
    {pairs shown : List (Value × Value)}
    (redacted : redactPairs pairs = .ok shown) :
    Settled pairs shown where
  again := redactPairs_of_redacted redacted
  nested := redactPairs_nested ((redactPairs_of_redacted redacted).trans redacted.symm)
  kept := by
    intro field before after redactedBefore redactedAfter
    change redactPairs field.before = .ok before at redactedBefore
    change redactPairs field.after = .ok after at redactedAfter
    change redactPairs (field.around shown) = _
    rw [redactPairs_around, redactedBefore, redactedAfter, shownOf, redactValue,
      redactPairs_of_redacted redacted]
    split <;> rfl
  logged := by
    intro driver
    exact ⟨render?_connectedEvent driver (redactPairs_of_redacted redacted),
      render?_connectedEvent driver redacted⟩

/--
Redaction is a projection that shows nothing of what is masked. Mappings that are the same but for
what sensitive keys hold are redacted to the same; and if the keys of one of them are texts, at any
depth, then both are redacted, and what has been redacted is settled.
-/
theorem redact_projects
    {pairs pairs' : List (Value × Value)}
    (same : SamePairsButSecrets pairs pairs') :
    redact (.map pairs) = redact (.map pairs') ∧
      (PairsKeyed (fun _ => True) pairs →
        ∃ shown,
          redact (.map pairs) = .ok shown ∧ Settled pairs shown ∧ Settled pairs' shown) := by
  have equal : redactPairs pairs = redactPairs pairs' := redactPairs_eq same
  refine ⟨equal, fun keyed => ?_⟩
  obtain ⟨shown, redacted, _⟩ := redactPairs_shows (fun _ _ => Iff.rfl) pairs keyed
  exact ⟨shown, redacted, settled_of_redacted redacted,
    settled_of_redacted (equal.symm.trans redacted)⟩

/-- Connection parameters with a token, and with a password inside of a mapping. -/
def secretParameters (password token : Value) : List (Value × Value) :=
  [(.text "host", .text "db"),
    (.text "options", .map [(.text "Password", password), (.text "port", .int 1)]),
    (.text "access_token", token)]

/-- A password may be any value, a mapping with other keys than texts included. -/
theorem redact_projects_secretParameters :
    SamePairsButSecrets
        (secretParameters (.text "hunter2") .null)
        (secretParameters .null (.map [(.int 1, .text "one")])) ∧
      PairsKeyed (fun _ => True) (secretParameters (.text "hunter2") .null) ∧
      ∃ shown,
        redact (.map (secretParameters (.text "hunter2") .null)) = .ok shown ∧
          Settled (secretParameters (.text "hunter2") .null) shown ∧
          Settled (secretParameters .null (.map [(.int 1, .text "one")])) shown := by
  have same :
      SamePairsButSecrets
        (secretParameters (.text "hunter2") .null)
        (secretParameters .null (.map [(.int 1, .text "one")])) := by
    apply SamePairsButSecrets.shared _ (.same _)
    apply SamePairsButSecrets.shared _
    · apply SameButSecrets.mapping
      apply SamePairsButSecrets.secret (by decide +kernel)
      exact .shared _ (.same _) .nil
    · exact .secret (by decide +kernel) _ _ .nil
  have keyed : PairsKeyed (fun _ => True) (secretParameters (.text "hunter2") .null) := by
    simp only [secretParameters, PairsKeyed, Keyed, and_true]
  exact ⟨same, keyed, (redact_projects same).2 keyed⟩

end QueryComposer.Redaction

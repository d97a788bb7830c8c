import QueryComposer.Proofs.Filter.Acceptable
import QueryComposer.Proofs.Filter.Effective

namespace QueryComposer.Filter

/-!
# How filters are traversed

`visits` lists what the compilation of a filter comes across, from left to right and into nested
filters: conditions, and whatever has to be refused where it stands. Compiling `Follows` the
visits: the acceptable conditions before the first other visit bind their values, and that visit
is the error, if there is one.
-/

/-- What the compilation of a filter comes across. -/
inductive Visit where
  | test (p : Predicate)
  /-- Something that cannot stand where it does. -/
  | refusal (cause : FilterError)

namespace Visit

/-- The visit is one of a condition that can be compiled. -/
def Acceptable : Visit → Prop
  | .test p => p.Acceptable
  | .refusal _ => False

/-- The error is the one with which the visit is refused. -/
def RefusedWith
    (delimiter : String)
    (error : Error) :
    Visit →
    Prop
  | .test p => ∀ bound, (compilePredicate delimiter p).outcome bound = (.error error, bound)
  | .refusal cause => error = .filter cause

end Visit

mutual

/-- The visits of one entry that follows no other. -/
def visitsOf : Entry → List Visit
  | .predicate p => [.test p]
  | .connective _ => [.refusal .leadingConnective]
  | .group [] => [.refusal .emptyGroup]
  | .group (first :: rest) => visitsOf first ++ visitsAfter rest
  | .stray value => [.refusal (.strayEntry value.typeName)]

/-- The visits of entries that follow another one; connectives among them are passed over. -/
def visitsAfter : List Entry → List Visit
  | [] => []
  | .connective _ :: rest => visitsAfter rest
  | entry :: rest => visitsOf entry ++ visitsAfter rest

end

/-- The visits of the entries of a whole filter. -/
def visits : List Entry → List Visit
  | [] => [.refusal .empty]
  | entries => visitsOf (.group entries)

/-- Entries that are no connectives are visited before the others. -/
theorem visitsAfter_cons
    {entry : Entry}
    (noConnective : ∀ c, entry ≠ .connective c)
    (rest : List Entry) :
    visitsAfter (entry :: rest) = visitsOf entry ++ visitsAfter rest := by
  cases entry with
  | connective c =>
      exact absurd rfl (noConnective c)
  | _ =>
      rw [visitsAfter]
      simp

/-- All visits are passed, or the first one that is not acceptable is refused. -/
inductive Passed
    (delimiter : String)
    (bound : List Value)
    {α : Type} :
    List Visit →
    Except Error α × List Value →
    Prop where
  | all
      (passed : List Predicate)
      (acceptable : ∀ p ∈ passed, p.Acceptable)
      (result : α) :
      Passed delimiter bound
        (passed.map .test)
        (.ok result, bound ++ passed.flatMap Predicate.boundValues)
  | upTo
      (passed : List Predicate)
      (failing : Visit)
      (later : List Visit)
      {error : Error}
      (acceptable : ∀ p ∈ passed, p.Acceptable)
      (unacceptable : ¬ failing.Acceptable)
      (raised : failing.RefusedWith delimiter error) :
      Passed delimiter bound
        (passed.map .test ++ failing :: later)
        (.error error, bound ++ passed.flatMap Predicate.boundValues)

/-- The composition passes the visits one after the other, whatever is bound before. -/
def Follows
    (delimiter : String)
    (visits : List Visit)
    {α : Type}
    (composition : Binding α) : Prop :=
  ∀ bound, Passed delimiter bound visits (composition.outcome bound)

namespace Follows

variable {delimiter : String} {α β : Type}

theorem pure (result : α) : Follows delimiter [] (Pure.pure result : Binding α) := by
  intro bound
  have nothing : Passed delimiter bound [] (.ok result, bound ++ []) :=
    .all [] (by simp) result
  simpa using nothing

/-- A refusal is the only visit of a composition that is refused at once. -/
theorem throw (cause : FilterError) :
    Follows delimiter [.refusal cause] (MonadExcept.throw (.filter cause) : Binding α) := by
  intro bound
  have refused : (Visit.refusal cause).RefusedWith delimiter (.filter cause) := rfl
  simpa using Passed.upTo [] (.refusal cause) [] (by simp) (by simp [Visit.Acceptable]) refused

/-- A condition is the only visit of its own compilation. -/
theorem test (p : Predicate) :
    Follows delimiter [.test p] (compilePredicate delimiter p) := by
  intro bound
  rcases compilePredicate_cases delimiter p with
    ⟨acceptable, text, _, compiled⟩ | ⟨unacceptable, error, refused⟩
  · rw [compiled]
    simpa using Passed.all [p] (by simpa using acceptable) text
  · rw [refused]
    simpa using Passed.upTo [] (.test p) [] (by simp) unacceptable refused

/-- Two steps pass their visits one after the other, as far as none is refused. -/
theorem bind
    {first : Binding α}
    {next : α → Binding β}
    {visits more : List Visit}
    (opening : Follows delimiter visits first)
    (closing : ∀ result, Follows delimiter more (next result)) :
    Follows delimiter (visits ++ more) (first >>= next) := by
  intro bound
  rw [Binding.outcome_bind]
  have before := opening bound
  generalize first.outcome bound = outcome at before
  cases before with
  | all passed acceptable result =>
      have after := closing result (bound ++ passed.flatMap Predicate.boundValues)
      dsimp only
      generalize (next result).outcome _ = last at after
      cases after with
      | all following acceptableMore last =>
          have both : ∀ p ∈ passed ++ following, p.Acceptable :=
            List.forall_mem_append.mpr ⟨acceptable, acceptableMore⟩
          simpa [List.append_assoc] using Passed.all _ both last
      | upTo following failing later acceptableMore unacceptable raised =>
          have both : ∀ p ∈ passed ++ following, p.Acceptable :=
            List.forall_mem_append.mpr ⟨acceptable, acceptableMore⟩
          simpa [List.append_assoc] using Passed.upTo _ failing later both unacceptable raised
  | upTo passed failing later acceptable unacceptable raised =>
      simpa [List.append_assoc] using
        Passed.upTo passed failing (later ++ more) acceptable unacceptable raised

/-- What only changes the result passes no visit of its own. -/
theorem bind_pure
    {first : Binding α}
    {visits : List Visit}
    (opening : Follows delimiter visits first)
    (change : α → β) :
    Follows delimiter visits (first >>= fun result => Pure.pure (change result)) := by
  rw [← List.append_nil visits]
  exact opening.bind fun result => .pure (change result)

end Follows

mutual

/-- Compiling one entry follows its visits. -/
theorem compileEntry_follows
    (delimiter : String) :
    ∀ entry : Entry, Follows delimiter (visitsOf entry) (compileEntry delimiter entry)
  | .predicate p => by
      rw [compileEntry, visitsOf]
      exact .test p
  | .connective _ => by
      rw [compileEntry, visitsOf]
      exact .throw _
  | .group [] => by
      rw [compileEntry, visitsOf]
      exact .throw _
  | .group (first :: rest) => by
      rw [compileEntry, visitsOf, compileEntries_cons delimiter (.inl rfl)]
      · apply Follows.bind_pure
        apply (compileEntry_follows delimiter first).bind
        intro text
        exact (compileEntries_follows delimiter .and rest).bind_pure _
      · simp
  | .stray _ => by
      rw [compileEntry, visitsOf]
      exact .throw _

/-- Compiling entries that follow another one follows their visits. -/
theorem compileEntries_follows
    (delimiter : String)
    (lead : Connective) :
    ∀ entries : List Entry,
      Follows delimiter (visitsAfter entries) (compileEntries delimiter (some lead) entries)
  | [] => by
      rw [compileEntries, visitsAfter]
      exact .pure ""
  | entry :: rest => by
      by_cases isConnective : ∃ c, entry = .connective c
      · obtain ⟨c, rfl⟩ := isConnective
        rw [compileEntries, visitsAfter]
        exact compileEntries_follows delimiter c rest
      · have noConnective := not_exists.mp isConnective
        rw [compileEntries_cons delimiter (.inr noConnective), visitsAfter_cons noConnective]
        apply (compileEntry_follows delimiter entry).bind
        intro text
        exact (compileEntries_follows delimiter .and rest).bind_pure _

end

/-- Compiling a filter that is parsed follows the visits of its entries. -/
theorem compileGroup_follows
    (delimiter : String)
    (entries : List Entry) :
    Follows delimiter (visits entries) (compileGroup delimiter entries) := by
  cases entries with
  | nil =>
      exact .throw .empty
  | cons first rest =>
      have grouped := compileEntry_follows delimiter (.group (first :: rest))
      rw [compileEntry] at grouped
      · exact grouped
      · simp

section Order

/-- The conditions that are visited before the first refusal. -/
def leading : List Visit → List Predicate
  | [] => []
  | .test p :: rest => p :: leading rest
  | .refusal _ :: _ => []

/-- There is no refusal among the visits. -/
def Unrefused (visits : List Visit) : Prop :=
  ∀ cause, .refusal cause ∉ visits

/-- The visits show the conditions in their order, all of them unless one visit is refused. -/
structure Shows
    (visits : List Visit)
    (predicates : List Predicate) : Prop where
  ordered : leading visits <+: predicates
  complete : Unrefused visits → leading visits = predicates

theorem leading_append_of_unrefused
    {visits : List Visit}
    (unrefused : Unrefused visits)
    (more : List Visit) :
    leading (visits ++ more) = leading visits ++ leading more := by
  induction visits with
  | nil =>
      rfl
  | cons visit rest inductionHypothesis =>
      cases visit with
      | test p =>
          have following := inductionHypothesis
            fun cause member => unrefused cause (List.mem_cons_of_mem _ member)
          simp [leading, following]
      | refusal cause =>
          exact absurd List.mem_cons_self (unrefused cause)

theorem leading_append_of_refusal
    {visits : List Visit}
    {cause : FilterError}
    (refused : .refusal cause ∈ visits)
    (more : List Visit) :
    leading (visits ++ more) = leading visits := by
  induction visits with
  | nil =>
      cases refused
  | cons visit rest inductionHypothesis =>
      cases visit with
      | test p =>
          have inRest : .refusal cause ∈ rest := by simpa using refused
          simp [leading, inductionHypothesis inRest]
      | refusal other =>
          rfl

theorem leading_map_test (passed : List Predicate) : leading (passed.map .test) = passed := by
  induction passed with
  | nil =>
      rfl
  | cons p rest inductionHypothesis =>
      simp [leading, inductionHypothesis]

theorem unrefused_map_test (passed : List Predicate) : Unrefused (passed.map .test) := by
  intro cause member
  simp at member

namespace Shows

theorem refusal
    (cause : FilterError)
    (predicates : List Predicate) :
    Shows [.refusal cause] predicates where
  ordered := List.nil_prefix
  complete unrefused := absurd List.mem_cons_self (unrefused cause)

theorem append
    {visits more : List Visit}
    {predicates others : List Predicate}
    (opening : Shows visits predicates)
    (closing : Shows more others) :
    Shows (visits ++ more) (predicates ++ others) := by
  by_cases refused : ∃ cause, .refusal cause ∈ visits
  · obtain ⟨cause, member⟩ := refused
    constructor
    · rw [leading_append_of_refusal member]
      exact opening.ordered.trans (List.prefix_append _ _)
    · intro unrefused
      exact absurd (List.mem_append_left more member) (unrefused cause)
  · have unrefused : Unrefused visits := not_exists.mp refused
    constructor
    · rw [leading_append_of_unrefused unrefused, opening.complete unrefused]
      exact (List.prefix_append_right_inj predicates).mpr closing.ordered
    · intro unrefusedAll
      rw [leading_append_of_unrefused unrefused, opening.complete unrefused, closing.complete]
      exact fun cause member => unrefusedAll cause (List.mem_append_right visits member)

end Shows

mutual

/-- The visits of an entry show its conditions. -/
theorem visitsOf_shows :
    ∀ entry : Entry, Shows (visitsOf entry) (predicatesOf entry.toValue)
  | .predicate p => by
      rw [visitsOf, Entry.toValue, predicatesOf]
      exact ⟨List.prefix_refl _, fun _ => rfl⟩
  | .connective _ => by
      rw [visitsOf]
      exact .refusal _ _
  | .group [] => by
      rw [visitsOf]
      exact .refusal _ _
  | .group (first :: rest) => by
      rw [visitsOf, Entry.toValue, predicatesOf, Entry.toValues, predicatesOfAll]
      exact (visitsOf_shows first).append (visitsAfter_shows rest)
  | .stray _ => by
      rw [visitsOf]
      exact .refusal _ _

/-- The visits of entries that follow another one show their conditions. -/
theorem visitsAfter_shows :
    ∀ entries : List Entry,
      Shows (visitsAfter entries) (predicatesOfAll (Entry.toValues entries))
  | [] => by
      rw [visitsAfter]
      exact ⟨List.prefix_refl _, fun _ => rfl⟩
  | entry :: rest => by
      rw [Entry.toValues, predicatesOfAll]
      by_cases isConnective : ∃ c, entry = .connective c
      · obtain ⟨c, rfl⟩ := isConnective
        have nothing : predicatesOf (Entry.connective c).toValue = [] := by
          simp [Entry.toValue, predicatesOf]
        rw [visitsAfter, nothing]
        exact visitsAfter_shows rest
      · rw [visitsAfter_cons (not_exists.mp isConnective)]
        exact (visitsOf_shows entry).append (visitsAfter_shows rest)

end

/-- The visits of a parsed filter show the conditions of its literal. -/
theorem visits_shows
    {filters : Value}
    {entries : List Entry}
    (parsed : parse filters = .ok entries) :
    Shows (visits entries) (predicatesOf filters) := by
  cases entries with
  | nil =>
      exact .refusal _ _
  | cons first rest =>
      rw [← predicatesOfAll_of_parse parsed]
      have shown := visitsOf_shows (.group (first :: rest))
      rwa [Entry.toValue, predicatesOf] at shown

end Order

end QueryComposer.Filter

import Mathlib.Data.List.Forall2
import Mathlib.Data.List.Induction

/-!
# Deterministic machines and their runs

A deterministic machine moves from state to state and answers every input with
an output.  A run is determined by its start state and its inputs; its events
record every step together with the states around it.  The induction rules
below carry an invariant along a run.  The second one lets both the invariant
and the side condition of a step depend on the whole history of the run.
-/

namespace Transition

/-- A deterministic machine: an input yields the next state and an output. -/
structure Machine (σ ι ο : Type*) where
  step : σ → ι → σ × ο

/-- One step of a run, with the states on both sides of it. -/
structure Event (σ ι ο : Type*) where
  before : σ
  input : ι
  output : ο
  after : σ

/-- Every event meets a condition that may look at the events before it. -/
def Guarded {ε : Type*} (guard : List ε → ε → Prop) (events : List ε) : Prop :=
  ∀ past event rest, events = past ++ event :: rest → guard past event

/-- A condition on a run is inherited by the part of the run already done. -/
theorem Guarded.of_append {ε : Type*}
    {guard : List ε → ε → Prop} {events later : List ε}
    (guarded : Guarded guard (events ++ later)) :
    Guarded guard events := by
  intro past event rest equal
  apply guarded past event (rest ++ later)
  rw [equal, List.append_assoc, List.cons_append]

/-- The condition holds of the step that comes last. -/
theorem Guarded.last {ε : Type*}
    {guard : List ε → ε → Prop} {events : List ε} {event : ε}
    (guarded : Guarded guard (events ++ [event])) :
    guard events event :=
  guarded events event [] rfl

theorem Guarded.nil {ε : Type*} {guard : List ε → ε → Prop} :
    Guarded guard [] := by
  intro past event rest split
  exact absurd split (by simp)

/-- A condition that holds of all but the last event and of the last event
holds of all. -/
theorem Guarded.concat {ε : Type*}
    {guard : List ε → ε → Prop} {events : List ε} {event : ε}
    (guarded : Guarded guard events) (last : guard events event) :
    Guarded guard (events ++ [event]) := by
  intro past other rest split
  induction rest using List.reverseRecOn with
  | nil =>
      obtain ⟨same, final⟩ := List.append_inj' split rfl
      cases final
      rwa [← same]
  | append_singleton rest tail _ =>
      rw [← List.cons_append, ← List.append_assoc] at split
      exact guarded past other rest (List.append_inj' split rfl).1

/-- A condition that does not look at the history holds of every event. -/
theorem guarded_const_iff {ε : Type*} {condition : ε → Prop}
    {events : List ε} :
    Guarded (fun _ event => condition event) events ↔
      ∀ event ∈ events, condition event := by
  constructor
  · intro guarded event member
    obtain ⟨past, rest, split⟩ := List.append_of_mem member
    exact guarded past event rest split
  · intro all past event rest split
    apply all
    rw [split]
    exact List.mem_append_right past List.mem_cons_self

/-- The last event that meets a condition, if there is one, has a property. -/
def LastMeets {ε : Type*} (condition property : ε → Prop) (events : List ε) :
    Prop :=
  ∀ past event rest, events = past ++ event :: rest → condition event →
    (∀ later ∈ rest, ¬condition later) → property event

theorem LastMeets.nil {ε : Type*} {condition property : ε → Prop} :
    LastMeets condition property [] := by
  intro past event rest split
  exact absurd split (by simp)

/-- One more event either is the last one to meet the condition or leaves the
last one as it is. -/
theorem lastMeets_concat_iff {ε : Type*} {condition property : ε → Prop}
    {events : List ε} {event : ε} :
    LastMeets condition property (events ++ [event]) ↔
      (condition event → property event) ∧
        (¬condition event → LastMeets condition property events) := by
  constructor
  · intro last
    constructor
    · intro met
      exact last events event [] rfl met fun later member =>
        absurd member List.not_mem_nil
    · intro unmet past earlier rest split met others
      apply last past earlier (rest ++ [event])
      · rw [split, List.append_assoc, List.cons_append]
      · exact met
      · intro later member
        rcases List.mem_append.mp member with before | isLast
        · exact others later before
        · rw [List.mem_singleton.mp isLast]
          exact unmet
  · rintro ⟨ofMet, ofUnmet⟩ past earlier rest split met others
    induction rest using List.reverseRecOn with
    | nil =>
        obtain ⟨-, final⟩ := List.append_inj' split rfl
        cases final
        exact ofMet met
    | append_singleton rest tail _ =>
        rw [← List.cons_append, ← List.append_assoc] at split
        obtain ⟨same, final⟩ := List.append_inj' split rfl
        cases final
        apply ofUnmet (others event (by simp)) past earlier rest same met
        intro later member
        exact others later (List.mem_append_left _ member)

/-- Where the elements of two lists are partners in their order, every element
has a partner. -/
theorem exists_of_forall₂ {α β : Type*} {related : α → β → Prop} {xs : List α}
    {ys : List β} (all : List.Forall₂ related xs ys) {y : β}
    (member : y ∈ ys) : ∃ x ∈ xs, related x y := by
  induction all with
  | nil => exact absurd member List.not_mem_nil
  | cons one _ inductionHypothesis =>
      rcases List.mem_cons.mp member with rfl | later
      · exact ⟨_, List.mem_cons_self, one⟩
      · obtain ⟨x, found, one⟩ := inductionHypothesis later
        exact ⟨x, List.mem_cons_of_mem _ found, one⟩

/-- What holds of any two elements of one list in their order holds of their
partners in a form of its own. -/
theorem pairwise_of_forall₂ {α β : Type*} {related : α → β → Prop}
    {holds : α → α → Prop} {apart : β → β → Prop} {xs : List α} {ys : List β}
    (all : List.Forall₂ related xs ys) (pairwise : ys.Pairwise apart)
    (transfer : ∀ x x' y y', related x y → related x' y' → apart y y' →
      holds x x') : xs.Pairwise holds := by
  induction all with
  | nil => exact List.Pairwise.nil
  | @cons x y xs ys one others inductionHypothesis =>
      obtain ⟨first, rest⟩ := List.pairwise_cons.mp pairwise
      refine List.pairwise_cons.mpr ⟨?_, inductionHypothesis rest⟩
      intro x' member
      obtain ⟨y', found, other⟩ :=
        exists_of_forall₂ (List.Forall₂.flip others) member
      exact transfer x x' y y' one other (first y' found)

namespace Machine

variable {σ ι ο : Type*} (machine : Machine σ ι ο)

/-- The step that an input causes in a state. -/
def event (state : σ) (input : ι) : Event σ ι ο where
  before := state
  input := input
  output := (machine.step state input).2
  after := (machine.step state input).1

/-- The steps of the run over a list of inputs. -/
def events : σ → List ι → List (Event σ ι ο)
  | _, [] => []
  | state, input :: inputs =>
      machine.event state input ::
        events (machine.step state input).1 inputs

/-- The state in which the run over a list of inputs ends. -/
def final : σ → List ι → σ
  | state, [] => state
  | state, input :: inputs => final (machine.step state input).1 inputs

@[simp] theorem events_nil (state : σ) : machine.events state [] = [] := rfl

@[simp] theorem final_nil (state : σ) : machine.final state [] = state := rfl

@[simp] theorem final_append (state : σ) (first second : List ι) :
    machine.final state (first ++ second) =
      machine.final (machine.final state first) second := by
  induction first generalizing state with
  | nil => rfl
  | cons input inputs inductionHypothesis =>
      simp only [List.cons_append, final]
      exact inductionHypothesis _

@[simp] theorem events_append (state : σ) (first second : List ι) :
    machine.events state (first ++ second) =
      machine.events state first ++
        machine.events (machine.final state first) second := by
  induction first generalizing state with
  | nil => rfl
  | cons input inputs inductionHypothesis =>
      simp only [List.cons_append, events, final, List.cons.injEq, true_and]
      exact inductionHypothesis _

/-- The steps of a run have the inputs of the run. -/
theorem input_mem_of_mem {state : σ} {inputs : List ι} {event : Event σ ι ο}
    (member : event ∈ machine.events state inputs) : event.input ∈ inputs := by
  induction inputs generalizing state with
  | nil => exact absurd member List.not_mem_nil
  | cons input inputs inductionHypothesis =>
      rcases List.mem_cons.mp member with first | later
      · rw [first]
        exact List.mem_cons_self
      · exact List.mem_cons_of_mem _ (inductionHypothesis later)

theorem map_input_events (state : σ) (inputs : List ι) :
    (machine.events state inputs).map Event.input = inputs := by
  induction inputs generalizing state with
  | nil => rfl
  | cons input inputs inductionHypothesis =>
      rw [events, List.map_cons, inductionHypothesis]
      rfl

/-- The last step of a run starts in the state the run had reached. -/
theorem events_concat (state : σ) (inputs : List ι) (input : ι) :
    machine.events state (inputs ++ [input]) =
      machine.events state inputs ++
        [machine.event (machine.final state inputs) input] := by
  rw [events_append]
  rfl

theorem final_concat (state : σ) (inputs : List ι) (input : ι) :
    machine.final state (inputs ++ [input]) =
      (machine.step (machine.final state inputs) input).1 := by
  rw [final_append]
  rfl

/-- A state some run from `start` ends in. -/
def Reachable (start state : σ) : Prop :=
  ∃ inputs, machine.final start inputs = state

theorem Reachable.refl (start : σ) : machine.Reachable start start :=
  ⟨[], rfl⟩

variable {machine}

theorem Reachable.step {start state : σ}
    (reachable : machine.Reachable start state) (input : ι) :
    machine.Reachable start (machine.step state input).1 := by
  obtain ⟨inputs, rfl⟩ := reachable
  exact ⟨inputs ++ [input], machine.final_concat start inputs input⟩

theorem Reachable.trans {first second third : σ}
    (toSecond : machine.Reachable first second)
    (toThird : machine.Reachable second third) :
    machine.Reachable first third := by
  obtain ⟨inputs, rfl⟩ := toSecond
  obtain ⟨more, rfl⟩ := toThird
  exact ⟨inputs ++ more, machine.final_append first inputs more⟩

/-- A property of the start state that every step keeps holds in every
reachable state. -/
theorem Reachable.invariant (inv : σ → Prop) {start state : σ}
    (reachable : machine.Reachable start state)
    (initial : inv start)
    (keep : ∀ state input, inv state → inv (machine.step state input).1) :
    inv state := by
  obtain ⟨inputs, rfl⟩ := reachable
  induction inputs using List.reverseRecOn with
  | nil => exact initial
  | append_singleton inputs input inductionHypothesis =>
      rw [final_concat]
      exact keep _ _ inductionHypothesis

/-- Some run whose inputs show a given list leads from one state to another. -/
def Course {α : Type*} (machine : Machine σ ι ο) (shows : ι → List α)
    (first : σ) (shown : List α) (second : σ) : Prop :=
  ∃ inputs, inputs.flatMap shows = shown ∧ machine.final first inputs = second

namespace Course

variable {α : Type*} {shows : ι → List α} {first second third : σ}
  {shown more : List α}

theorem refl (state : σ) : machine.Course shows state [] state :=
  ⟨[], rfl, rfl⟩

theorem trans (toSecond : machine.Course shows first shown second)
    (toThird : machine.Course shows second more third) :
    machine.Course shows first (shown ++ more) third := by
  obtain ⟨inputs, rfl, rfl⟩ := toSecond
  obtain ⟨others, rfl, rfl⟩ := toThird
  exact ⟨inputs ++ others, List.flatMap_append,
    machine.final_append first inputs others⟩

/-- What shows nothing may follow unseen. -/
theorem extend (toSecond : machine.Course shows first shown second)
    (toThird : machine.Course shows second [] third) :
    machine.Course shows first shown third := by
  rw [← List.append_nil shown]
  exact toSecond.trans toThird

/-- One step shows what its input shows. -/
theorem step (state : σ) (input : ι) :
    machine.Course shows state (shows input) (machine.step state input).1 :=
  ⟨[input], List.flatMap_singleton shows input, rfl⟩

theorem reachable (course : machine.Course shows first shown second) :
    machine.Reachable first second := by
  obtain ⟨inputs, -, reached⟩ := course
  exact ⟨inputs, reached⟩

/-- If a part of another machine's state takes a course in each of its steps,
and both show the same, then it does so in every run. -/
theorem of_run {σ' ι' ο' : Type*} {outer : Machine σ' ι' ο'} {part : σ' → σ}
    {shows' : ι' → List α} {inv : σ' → Prop}
    (keep : ∀ state input, inv state → inv (outer.step state input).1)
    (matched : ∀ state input, inv state →
      machine.Course shows (part state) (shows' input)
        (part (outer.step state input).1))
    {start : σ'} (initial : inv start) (inputs : List ι') :
    machine.Course shows (part start) (inputs.flatMap shows')
      (part (outer.final start inputs)) := by
  induction inputs generalizing start with
  | nil => exact refl (part start)
  | cons input inputs inductionHypothesis =>
      rw [List.flatMap_cons]
      exact (matched start input initial).trans
        (inductionHypothesis (keep start input initial))

end Course

/-- If a machine matches every step of another one that meets a condition, it
matches every run whose steps all meet it. -/
theorem simulation
    {σ' ι' ο' : Type*} {abstracted : Machine σ' ι' ο'}
    {related : σ → σ' → Prop} {translate : ι' → ι} {allowed : σ' → ι' → Prop}
    (matched : ∀ state state' input, related state state' →
      allowed state' input →
        related (machine.step state (translate input)).1
          (abstracted.step state' input).1)
    {state : σ} {state' : σ'} (start : related state state')
    (inputs : List ι')
    (all : ∀ event ∈ abstracted.events state' inputs,
      allowed event.before event.input) :
    related (machine.final state (inputs.map translate))
      (abstracted.final state' inputs) := by
  induction inputs generalizing state state' with
  | nil => exact start
  | cons input inputs inductionHypothesis =>
      rw [events, List.forall_mem_cons] at all
      exact inductionHypothesis (matched _ _ _ start all.1) all.2

/-- If two machines answer every input alike and stay related, they answer every
run alike. -/
theorem bisimulation
    {σ' : Type*} {other : Machine σ' ι ο} {related : σ → σ' → Prop}
    (matched : ∀ state state' input, related state state' →
      (machine.step state input).2 = (other.step state' input).2 ∧
        related (machine.step state input).1 (other.step state' input).1)
    {state : σ} {state' : σ'} (start : related state state')
    (inputs : List ι) :
    (machine.events state inputs).map Event.output =
        (other.events state' inputs).map Event.output ∧
      related (machine.final state inputs) (other.final state' inputs) := by
  induction inputs generalizing state state' with
  | nil => exact ⟨rfl, start⟩
  | cons input inputs inductionHypothesis =>
      obtain ⟨same, stays⟩ := matched state state' input start
      obtain ⟨outputs, ends⟩ := inductionHypothesis stays
      refine ⟨?_, ends⟩
      rw [events, events, List.map_cons, List.map_cons, outputs]
      exact congrArg (· :: _) same

/-- If a machine matches every step of another one, by an input that may depend
on the state there, it matches every run.  The relation may look at the history
of both runs, and what holds of each step of the matching run is collected. -/
theorem historySimulation
    {σ' ι' ο' : Type*} {abstracted : Machine σ' ι' ο'}
    {related : List (Event σ ι ο) → List (Event σ' ι' ο') → σ → σ' → Prop}
    {translate : σ' → ι' → ι} {allowed : σ' → ι' → Prop}
    {guard : List (Event σ ι ο) → Event σ ι ο → Prop}
    (matched : ∀ past past' state state' input,
      related past past' state state' → allowed state' input →
        related (past ++ [machine.event state (translate state' input)])
            (past' ++ [abstracted.event state' input])
            (machine.step state (translate state' input)).1
            (abstracted.step state' input).1 ∧
          guard past (machine.event state (translate state' input)))
    {state : σ} {state' : σ'} (start : related [] [] state state')
    (inputs : List ι')
    (all : ∀ event ∈ abstracted.events state' inputs,
      allowed event.before event.input) :
    let run := (abstracted.events state' inputs).map fun event =>
      translate event.before event.input
    related (machine.events state run) (abstracted.events state' inputs)
        (machine.final state run) (abstracted.final state' inputs) ∧
      Guarded guard (machine.events state run) := by
  dsimp only
  induction inputs using List.reverseRecOn with
  | nil => exact ⟨start, .nil⟩
  | append_singleton inputs input inductionHypothesis =>
      rw [events_concat] at all ⊢
      obtain ⟨reached, guarded⟩ := inductionHypothesis fun event member =>
        all event (List.mem_append_left _ member)
      obtain ⟨next, last⟩ :=
        matched _ _ _ _ input reached
          (all (abstracted.event (abstracted.final state' inputs) input)
            (List.mem_append_right _ List.mem_cons_self))
      rw [List.map_append, List.map_singleton, events_concat, final_concat,
        final_concat]
      exact ⟨next, guarded.concat last⟩

/-- An invariant that every step keeps under a condition holds at the end of
every run whose steps all meet the condition. -/
theorem guardedInvariant {inv : σ → Prop} {guard : Event σ ι ο → Prop}
    (keep : ∀ state input, inv state → guard (machine.event state input) →
      inv (machine.step state input).1)
    {start : σ} (initial : inv start) (inputs : List ι)
    (guarded : ∀ event ∈ machine.events start inputs, guard event) :
    inv (machine.final start inputs) := by
  induction inputs generalizing start with
  | nil => exact initial
  | cons input inputs inductionHypothesis =>
      obtain ⟨first, others⟩ := List.forall_mem_cons.mp guarded
      exact inductionHypothesis (keep start input initial first) others

/-- What every guarded step establishes under the invariant holds of every step
of a guarded run. -/
theorem forall_guarded {inv : σ → Prop} {guard goal : Event σ ι ο → Prop}
    (keep : ∀ state input, inv state → guard (machine.event state input) →
      inv (machine.step state input).1)
    (establish : ∀ state input, inv state → guard (machine.event state input) →
      goal (machine.event state input))
    {start : σ} (initial : inv start) (inputs : List ι)
    (guarded : ∀ event ∈ machine.events start inputs, guard event) :
    ∀ event ∈ machine.events start inputs, goal event := by
  induction inputs generalizing start with
  | nil => simp [events]
  | cons input inputs inductionHypothesis =>
      obtain ⟨first, others⟩ := List.forall_mem_cons.mp guarded
      exact List.forall_mem_cons.mpr
        ⟨establish start input initial first,
          inductionHypothesis (keep start input initial first) others⟩

/-- If a good state stays good precisely under a condition on the step, then the
states after the watched steps of a run are good precisely if all steps meet the
condition.  A step that is not watched always meets it. -/
theorem good_iff_guarded {inv good : σ → Prop}
    {allowed watched guard : Event σ ι ο → Prop}
    (unwatched : ∀ event, ¬watched event → guard event)
    (keep : ∀ state input, inv state → allowed (machine.event state input) →
      inv (machine.step state input).1)
    (step : ∀ state input, inv state → good state →
      allowed (machine.event state input) →
        (good (machine.step state input).1 ↔ guard (machine.event state input)))
    {start : σ} (invariant : inv start) (initial : good start)
    (inputs : List ι)
    (admissible : ∀ event ∈ machine.events start inputs, allowed event) :
    (∀ event ∈ machine.events start inputs, watched event →
        good event.after) ↔
      ∀ event ∈ machine.events start inputs, guard event := by
  induction inputs generalizing start with
  | nil => simp [events]
  | cons input inputs inductionHypothesis =>
      rw [events, List.forall_mem_cons] at admissible
      obtain ⟨first, others⟩ := admissible
      rw [events, List.forall_mem_cons, List.forall_mem_cons]
      have here :
          (watched (machine.event start input) →
              good (machine.step start input).1) ↔
            guard (machine.event start input) := by
        rw [step start input invariant initial first]
        refine ⟨fun seen => ?_, fun met _ => met⟩
        by_cases watches : watched (machine.event start input)
        · exact seen watches
        · exact unwatched _ watches
      change (_ → good (machine.step start input).1) ∧ _ ↔ _
      rw [here]
      refine and_congr_right fun met => ?_
      exact inductionHypothesis (keep start input invariant first)
        ((step start input invariant initial first).mpr met) others

/-- What only some steps clear holds as long as none of them is taken. -/
theorem holds_while {inv holds : σ → Prop} {clears : Event σ ι ο → Prop}
    (keep : ∀ state input, inv state → inv (machine.step state input).1)
    (kept : ∀ state input, inv state → holds state →
      ¬clears (machine.event state input) → holds (machine.step state input).1)
    {start : σ} (invariant : inv start) (held : holds start)
    {inputs : List ι} {done rest : List (Event σ ι ο)}
    (split : machine.events start inputs = done ++ rest)
    (unclear : ∀ event ∈ done, ¬clears event) :
    ∀ event ∈ done, holds event.after := by
  induction done generalizing start inputs with
  | nil => simp
  | cons event done inductionHypothesis =>
      obtain ⟨first, others⟩ := List.forall_mem_cons.mp unclear
      cases inputs with
      | nil => cases split
      | cons input inputs =>
          obtain ⟨rfl, later⟩ := List.cons.inj split
          have next := kept start input invariant held first
          exact List.forall_mem_cons.mpr
            ⟨next, inductionHypothesis (keep start input invariant) next later
              others⟩

/-- A run goes on after each of its steps. -/
theorem events_after {start : σ} {inputs : List ι} {inv : σ → Prop}
    (keep : ∀ state input, inv state → inv (machine.step state input).1)
    (invariant : inv start) {past rest : List (Event σ ι ο)}
    {event : Event σ ι ο}
    (split : machine.events start inputs = past ++ event :: rest) :
    inv event.before ∧ event = machine.event event.before event.input ∧
      ∃ later, machine.events event.after later = rest := by
  induction past generalizing start inputs with
  | nil =>
      cases inputs with
      | nil => cases split
      | cons input inputs =>
          obtain ⟨rfl, later⟩ := List.cons.inj split
          exact ⟨invariant, rfl, inputs, later⟩
  | cons first past inductionHypothesis =>
      cases inputs with
      | nil => cases split
      | cons input inputs =>
          obtain ⟨-, later⟩ := List.cons.inj split
          exact inductionHypothesis (keep start input invariant) later

/-- Where an invariant holds, every step sets a condition, clears it or leaves
it alone.  Then the condition holds after a run if some step set it that no
later step cleared, or if it held at the start and no step cleared it. -/
theorem latch_iff
    {inv holds : σ → Prop} {sets clears : Event σ ι ο → Prop}
    (keep : ∀ state input, inv state → inv (machine.step state input).1)
    (step : ∀ state input, inv state →
      (holds (machine.step state input).1 ↔
        sets (machine.event state input) ∨
          (holds state ∧ ¬clears (machine.event state input))))
    {start : σ} (invariant : inv start) (inputs : List ι) :
    holds (machine.final start inputs) ↔
      (∃ past event rest,
        machine.events start inputs = past ++ event :: rest ∧ sets event ∧
          ∀ later ∈ rest, ¬clears later) ∨
      (holds start ∧ ∀ event ∈ machine.events start inputs, ¬clears event) := by
  induction inputs generalizing start with
  | nil => simp [final, events]
  | cons input inputs inductionHypothesis =>
      rw [final, events, inductionHypothesis (keep start input invariant),
        step start input invariant]
      constructor
      · rintro (⟨past, event, rest, split, set, kept⟩ |
          ⟨set | ⟨held, unclear⟩, kept⟩)
        · refine Or.inl ⟨machine.event start input :: past, event, rest, ?_, set,
            kept⟩
          rw [split, List.cons_append]
        · exact Or.inl ⟨[], _, _, rfl, set, kept⟩
        · exact Or.inr ⟨held, List.forall_mem_cons.mpr ⟨unclear, kept⟩⟩
      · rintro (⟨past, event, rest, split, set, kept⟩ | ⟨held, kept⟩)
        · cases past with
          | nil =>
              obtain ⟨same, others⟩ := List.cons.inj split
              rw [same, others]
              exact Or.inr ⟨Or.inl set, kept⟩
          | cons first past =>
              obtain ⟨-, others⟩ := List.cons.inj split
              exact Or.inl ⟨past, event, rest, others, set, kept⟩
        · rw [List.forall_mem_cons] at kept
          exact Or.inr ⟨Or.inr ⟨held, kept.1⟩, kept.2⟩

/-- An invariant over history and state that every guarded step keeps holds
at the end of every guarded run. -/
theorem historyInvariant
    {guard : List (Event σ ι ο) → Event σ ι ο → Prop}
    {inv : List (Event σ ι ο) → σ → Prop}
    {start : σ}
    (initial : inv [] start)
    (keep : ∀ past state input, inv past state →
      guard past (machine.event state input) →
        inv (past ++ [machine.event state input])
          (machine.step state input).1)
    (inputs : List ι)
    (guarded : Guarded guard (machine.events start inputs)) :
    inv (machine.events start inputs) (machine.final start inputs) := by
  induction inputs using List.reverseRecOn with
  | nil => exact initial
  | append_singleton inputs input inductionHypothesis =>
      rw [events_concat] at guarded ⊢
      rw [final_concat]
      exact keep _ _ _ (inductionHypothesis guarded.of_append) guarded.last

/-- What every guarded step establishes under the history invariant holds at
every step of a guarded run. -/
theorem guarded_events
    {guard : List (Event σ ι ο) → Event σ ι ο → Prop}
    {inv : List (Event σ ι ο) → σ → Prop}
    {goal : List (Event σ ι ο) → Event σ ι ο → Prop}
    {start : σ}
    (initial : inv [] start)
    (keep : ∀ past state input, inv past state →
      guard past (machine.event state input) →
        inv (past ++ [machine.event state input])
          (machine.step state input).1)
    (establish : ∀ past state input, inv past state →
      guard past (machine.event state input) →
        goal past (machine.event state input))
    (inputs : List ι)
    (guarded : Guarded guard (machine.events start inputs)) :
    Guarded goal (machine.events start inputs) := by
  induction inputs using List.reverseRecOn with
  | nil => exact .nil
  | append_singleton inputs input inductionHypothesis =>
      rw [events_concat] at guarded ⊢
      refine (inductionHypothesis guarded.of_append).concat ?_
      exact establish _ _ _
        (historyInvariant initial keep inputs guarded.of_append) guarded.last

end Machine

end Transition

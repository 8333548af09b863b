import Mathlib.Data.List.Nodup
import Mathlib.Data.List.Pairwise
import Macsec.Foundation.Machine

/-!
# Numbers that are used up

Some steps of a machine use a number under a tag, such as a counter value under
a key.  A state holds certain tags and remembers which numbers are spent under
each of them.  If every used number is spent from then on, and a tag that was
used before is only held where it was held all the time, then no number is used
twice under a tag.
-/

namespace Transition

/-- If nothing is reported twice, what two steps report is different. -/
theorem eq_of_nodup_filterMap {ε ν : Type*} {report : ε → Option ν}
    {events : List ε} (distinct : (events.filterMap report).Nodup)
    {first second : ε} (inFirst : first ∈ events) (inSecond : second ∈ events)
    {reported : ν} (one : report first = some reported)
    (two : report second = some reported) : first = second := by
  have : Std.Symm fun first second : ε => ∀ used, report first = some used →
      ∀ again, report second = some again → used ≠ again :=
    ⟨fun first second apart used reports again rereports same =>
      apart again rereports used reports same.symm⟩
  by_contra different
  exact (List.pairwise_filterMap.mp distinct).forall inFirst inSecond different
    reported one reported two rfl

/-- No two elements of a list report the same. -/
def Once {ε ν : Type*} (reports : ε → ν → Prop) (events : List ε) : Prop :=
  events.Pairwise fun first second =>
    ∀ reported, reports first reported → ¬reports second reported

section Once

variable {ε ν : Type*} {reports : ε → ν → Prop} {events : List ε}

theorem Once.of_nodup {report : ε → Option ν}
    (distinct : (events.filterMap report).Nodup)
    (reported : ∀ event number, reports event number →
      report event = some number) : Once reports events := by
  refine (List.pairwise_filterMap.mp distinct).imp ?_
  intro first second apart number one two
  exact apart number (reported first number one) number
    (reported second number two) rfl

theorem Once.eq (once : Once reports events) {first second : ε}
    (inFirst : first ∈ events) (inSecond : second ∈ events) {number : ν}
    (one : reports first number) (two : reports second number) :
    first = second := by
  have : Std.Symm fun first second : ε => ∀ reported,
      reports first reported → ¬reports second reported :=
    ⟨fun first second apart reported again before =>
      apart reported before again⟩
  by_contra different
  exact once.forall inFirst inSecond different number one two

end Once

/-- An account of the numbers that the steps of a machine use. -/
structure Ledger (σ ι ο κ ν : Type*) where
  use : Event σ ι ο → Option (κ × ν)
  holds : σ → κ → Prop
  spent : σ → κ → ν → Prop

namespace Ledger

variable {σ ι ο κ ν : Type*} (ledger : Ledger σ ι ο κ ν)

/-- The numbers that some steps used, with their tags. -/
def uses (events : List (Event σ ι ο)) : List (κ × ν) :=
  events.filterMap ledger.use

/-- Some number was used under the tag. -/
def Used (events : List (Event σ ι ο)) (tag : κ) : Prop :=
  ∃ number, (tag, number) ∈ ledger.uses events

/-- A step uses a number of a tag it holds that is not spent yet, and what was
spent under a tag stays so unless the tag is given up for good. -/
structure Fair (past : List (Event σ ι ο)) (event : Event σ ι ο) : Prop where
  takes : ∀ tag number, ledger.use event = some (tag, number) →
    ledger.holds event.before tag ∧ ¬ledger.spent event.before tag number ∧
      ledger.spent event.after tag number
  carries : ∀ tag, ledger.Used past tag → ledger.holds event.after tag →
    ledger.holds event.before tag ∧
      ∀ number, ledger.spent event.before tag number →
        ledger.spent event.after tag number

/-- No number was used twice, and those of the tags still held are spent. -/
structure Balanced (past : List (Event σ ι ο)) (state : σ) : Prop where
  distinct : (ledger.uses past).Nodup
  spent : ∀ tag number, (tag, number) ∈ ledger.uses past →
    ledger.holds state tag → ledger.spent state tag number

variable {ledger} {past : List (Event σ ι ο)} {event : Event σ ι ο}

theorem uses_concat :
    ledger.uses (past ++ [event]) =
      ledger.uses past ++ (ledger.use event).toList := by
  unfold uses
  rw [List.filterMap_append]
  cases result : ledger.use event with
  | none => simp [result]
  | some used => simp [result]

/-- A use was made before or is made in the last step. -/
theorem mem_uses_concat {tag : κ} {number : ν} :
    (tag, number) ∈ ledger.uses (past ++ [event]) ↔
      (tag, number) ∈ ledger.uses past ∨
        ledger.use event = some (tag, number) := by
  rw [uses_concat, List.mem_append, Option.mem_toList]

/-- A fair step keeps the ledger balanced. -/
theorem Balanced.step (balanced : ledger.Balanced past event.before)
    (fair : ledger.Fair past event) :
    ledger.Balanced (past ++ [event]) event.after := by
  constructor
  · rw [uses_concat, List.nodup_append]
    refine ⟨balanced.distinct, ?_, ?_⟩
    · cases ledger.use event with
      | none => exact List.nodup_nil
      | some used => exact List.nodup_singleton used
    · rintro ⟨tag, number⟩ earlier _ now rfl
      obtain ⟨held, unspent, -⟩ :=
        fair.takes tag number (Option.mem_toList.mp now)
      exact unspent (balanced.spent tag number earlier held)
  · intro tag number used held
    rcases mem_uses_concat.mp used with earlier | now
    · obtain ⟨heldBefore, kept⟩ := fair.carries tag ⟨number, earlier⟩ held
      exact kept number (balanced.spent tag number earlier heldBefore)
    · exact (fair.takes tag number now).2.2

/-- In a run of fair steps no number is used twice under a tag. -/
theorem nodup_uses {machine : Machine σ ι ο} {start : σ} {inputs : List ι}
    (fair : Guarded ledger.Fair (machine.events start inputs)) :
    (ledger.uses (machine.events start inputs)).Nodup := by
  have initial : ledger.Balanced [] start :=
    ⟨List.nodup_nil, fun _ _ none => absurd none List.not_mem_nil⟩
  refine (Machine.historyInvariant initial ?_ inputs fair).distinct
  intro past state input balanced fair
  exact balanced.step fair

/-- Every number that is not above a spent one is spent. -/
def Closed [LT ν] (ledger : Ledger σ ι ο κ ν) (event : Event σ ι ο) : Prop :=
  ∀ tag high low, ledger.spent event.before tag high → ¬high < low →
    ledger.spent event.before tag low

/-- If only numbers above the spent ones are left, the numbers that are used
under a tag grow. -/
theorem pairwise_uses [LT ν] {machine : Machine σ ι ο} {start : σ}
    {inputs : List ι}
    (fair : Guarded ledger.Fair (machine.events start inputs))
    (closed : ∀ event ∈ machine.events start inputs, ledger.Closed event) :
    (ledger.uses (machine.events start inputs)).Pairwise
      fun first second => first.1 = second.1 → first.2 < second.2 := by
  have initial : ledger.Balanced [] start ∧
      (ledger.uses ([] : List (Event σ ι ο))).Pairwise
        fun first second => first.1 = second.1 → first.2 < second.2 :=
    ⟨⟨List.nodup_nil, fun _ _ none => absurd none List.not_mem_nil⟩,
      List.Pairwise.nil⟩
  refine (@Machine.historyInvariant σ ι ο machine
    (fun past event => ledger.Fair past event ∧ ledger.Closed event)
    (fun past state => ledger.Balanced past state ∧
      (ledger.uses past).Pairwise
        fun first second => first.1 = second.1 → first.2 < second.2)
    start initial ?_ inputs ?_).2
  · rintro past state input ⟨balanced, grows⟩ ⟨fair, closed⟩
    refine ⟨balanced.step fair, ?_⟩
    rw [uses_concat, List.pairwise_append]
    refine ⟨grows, ?_, ?_⟩
    · cases ledger.use (machine.event state input) with
      | none => exact List.Pairwise.nil
      | some used => exact List.pairwise_singleton _ _
    · rintro ⟨tag, earlier⟩ used ⟨same, number⟩ now rfl
      obtain ⟨held, unspent, -⟩ :=
        fair.takes tag number (Option.mem_toList.mp now)
      by_contra above
      exact unspent (closed tag earlier number
        (balanced.spent tag earlier used held) above)
  · intro past event rest split
    refine ⟨fair past event rest split, closed event ?_⟩
    rw [split]
    exact List.mem_append_right past List.mem_cons_self

end Ledger

end Transition

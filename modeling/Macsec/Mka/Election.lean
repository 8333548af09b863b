import Mathlib.Data.List.Lex
import Macsec.Mka.Invariant

/-!
# Key Server election

Two participants that know each other's priority and channel identifier elect
a Key Server each on its own.  The election is meant to follow a total order:
the priority first, then the channel identifier in lexicographic order.  The
tie-break tests the sign of a comparison that only reports whether two buffers
differ, so equal priorities elect nobody.
-/

namespace Macsec

namespace Mka

/-- Two participants hold valid records of each other. -/
structure Mirrored (a b : Participant) : Prop where
  validAtA : a.peer.valid = true
  validAtB : b.peer.valid = true
  priorityAtA : a.peer.keyServerPriority = b.keyServerPriority
  priorityAtB : b.peer.keyServerPriority = a.keyServerPriority
  sciAtA : a.peer.sci = b.localSci
  sciAtB : b.peer.sci = a.localSci

/-- The order the election is meant to follow. -/
def Precedes (a b : Participant) : Prop :=
  a.keyServerPriority < b.keyServerPriority ∨
    (a.keyServerPriority = b.keyServerPriority ∧ a.localSci.1 < b.localSci.1)

/-- Of two participants exactly the one that precedes wins the election. -/
structure OneWinner (a b : Participant) : Prop where
  exactlyOne : a.localWinsKeyServer = !b.localWinsKeyServer
  winner : a.localWinsKeyServer = true ↔ Precedes a b

theorem Mirrored.symm {a b : Participant} (mirrored : Mirrored a b) :
    Mirrored b a where
  validAtA := mirrored.validAtB
  validAtB := mirrored.validAtA
  priorityAtA := mirrored.priorityAtB
  priorityAtB := mirrored.priorityAtA
  sciAtA := mirrored.sciAtB
  sciAtB := mirrored.sciAtA

/-- The tie-break never decides in favour of the local participant. -/
theorem not_compare_neg (buf1 buf2 : Bytes) : ¬compare buf1 buf2 < 0 :=
  Int.not_lt.mpr (compare_nonneg buf1 buf2)

/-- Against a recorded peer only a lower priority wins. -/
theorem localWinsKeyServer_iff
    {ctx : Participant} (valid : ctx.peer.valid = true) :
    ctx.localWinsKeyServer = true ↔
      ctx.keyServerPriority < ctx.peer.keyServerPriority := by
  rw [Participant.localWinsKeyServer, if_neg (by simp [valid])]
  split
  next lower => exact ⟨fun _ => lower, fun _ => rfl⟩
  next notLower =>
      split
      next =>
          exact ⟨fun wins => Bool.noConfusion wins,
            fun lower => absurd lower notLower⟩
      next =>
          rw [decide_eq_true_iff]
          exact ⟨fun negative => absurd negative (not_compare_neg _ _),
            fun lower => absurd lower notLower⟩

/-- Two mirrored participants have exactly one winner, the one the order
prefers, precisely if their priorities differ. -/
theorem oneWinner_iff_priorities_differ
    (a b : Participant)
    (mirrored : Mirrored a b) :
    OneWinner a b ↔ a.keyServerPriority ≠ b.keyServerPriority := by
  have winsA := localWinsKeyServer_iff mirrored.validAtA
  have winsB := localWinsKeyServer_iff mirrored.validAtB
  rw [mirrored.priorityAtA] at winsA
  rw [mirrored.priorityAtB] at winsB
  constructor
  · intro oneWinner equal
    rw [equal] at winsA winsB
    have nobody :
        a.localWinsKeyServer = false ∧ b.localWinsKeyServer = false := by
      simpa only [UInt8.lt_irrefl, iff_false, Bool.not_eq_true] using
        And.intro winsA winsB
    have exactlyOne := oneWinner.exactlyOne
    rw [nobody.1, nobody.2] at exactlyOne
    cases exactlyOne
  · intro differ
    have opposite :
        a.keyServerPriority < b.keyServerPriority ↔
          ¬b.keyServerPriority < a.keyServerPriority := by
      rw [UInt8.not_lt]
      exact ⟨UInt8.le_of_lt, fun notAbove =>
        UInt8.lt_of_le_of_ne notAbove differ⟩
    refine ⟨?_, ?_⟩
    · rw [Bool.eq_iff_iff, Bool.not_eq_true', ← Bool.not_eq_true, winsA, winsB,
        opposite]
    · rw [winsA, Precedes]
      simp only [differ, false_and, or_false]

/-- A participant with a priority that recorded a peer with another one. -/
def acquainted (sci peerSci : Octets 8) (priority peerPriority : UInt8) :
    Participant :=
  { Participant.cleared with
    localSci := sci
    keyServerPriority := priority
    peer :=
      { Peer.cleared with
        valid := true
        sci := peerSci
        keyServerPriority := peerPriority } }

/-- Participants with different priorities have one winner. -/
theorem oneWinner_of_priorities_ten_and_twenty :
    OneWinner
      (acquainted (Octets.ofNat 8 1) (Octets.ofNat 8 2) 10 20)
      (acquainted (Octets.ofNat 8 2) (Octets.ofNat 8 1) 20 10) :=
  (oneWinner_iff_priorities_differ _ _ ⟨rfl, rfl, rfl, rfl, rfl, rfl⟩).mpr
    (by decide)

/-- Participants with equal priorities have no winner, although their channel
identifiers differ. -/
theorem not_forall_oneWinner :
    ¬∀ a b : Participant,
      Mirrored a b → a.localSci ≠ b.localSci → OneWinner a b := by
  intro alwaysOneWinner
  have oneWinner :=
    alwaysOneWinner
      (acquainted (Octets.ofNat 8 1) (Octets.ofNat 8 2) 10 10)
      (acquainted (Octets.ofNat 8 2) (Octets.ofNat 8 1) 10 10)
      ⟨rfl, rfl, rfl, rfl, rfl, rfl⟩ (by decide)
  exact absurd oneWinner.exactlyOne (by decide)

end Mka

end Macsec

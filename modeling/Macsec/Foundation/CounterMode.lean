import Mathlib.Data.List.Basic

/-!
# Key derivation in counter mode

A stream of blocks is numbered by a counter, and a key is the beginning of the
stream.  The input that a block is computed from consists of the counter, a
label, a separator, a context and the length of the key.  If labels do not
contain the separator and lengths are of one size, no two requests share an
input.
-/

namespace CounterMode

variable {ω : Type*}

/-- The first blocks of a stream. -/
def stream (block : Nat → List ω) (count : Nat) : List ω :=
  (List.range count).flatMap block

/-- The input for a block. -/
def input (separator counter : ω) (label context length : List ω) : List ω :=
  counter :: (label ++ separator :: (context ++ length))

theorem stream_succ (block : Nat → List ω) (count : Nat) :
    stream block (count + 1) =
      block 0 ++ stream (fun index => block (index + 1)) count := by
  unfold stream
  rw [List.range_succ_eq_map, List.flatMap_cons, List.flatMap_map]

/-- The beginning of a stream is made of a beginning of its first block and a
beginning of the others. -/
theorem take_stream_succ {block : Nat → List ω} {width : Nat}
    (size : (block 0).length = width) (count wanted : Nat) :
    (stream block (count + 1)).take wanted =
      (block 0).take (min wanted width) ++
        (stream (fun index => block (index + 1)) count).take
          (wanted - min wanted width) := by
  rw [stream_succ, List.take_append, size]
  congr 1
  · rw [List.take_eq_take_iff, size]
    omega
  · congr 1
    omega

/-- What is in front of the first separator is determined. -/
theorem append_separator_inj {separator : ω} {first second : List ω}
    {rest other : List ω} (inFirst : separator ∉ first)
    (inSecond : separator ∉ second)
    (same : first ++ separator :: rest = second ++ separator :: other) :
    first = second ∧ rest = other := by
  induction first generalizing second with
  | nil =>
      cases second with
      | nil => exact ⟨rfl, (List.cons.inj same).2⟩
      | cons head tail =>
          rw [← (List.cons.inj same).1] at inSecond
          exact absurd List.mem_cons_self inSecond
  | cons head tail inductionHypothesis =>
      cases second with
      | nil =>
          rw [(List.cons.inj same).1] at inFirst
          exact absurd List.mem_cons_self inFirst
      | cons head' tail' =>
          obtain ⟨sameHead, sameTail⟩ := List.cons.inj same
          obtain ⟨tails, rests⟩ :=
            inductionHypothesis (fun member => inFirst (.tail _ member))
              (fun member => inSecond (.tail _ member)) sameTail
          exact ⟨by rw [sameHead, tails], rests⟩

/-- An input determines what it was made of. -/
theorem input_inj {separator counter number : ω}
    {label name context subject length size : List ω}
    (inLabel : separator ∉ label) (inName : separator ∉ name)
    (sizes : length.length = size.length)
    (same : input separator counter label context length =
      input separator number name subject size) :
    counter = number ∧ label = name ∧ context = subject ∧ length = size := by
  obtain ⟨counters, rest⟩ := List.cons.inj same
  obtain ⟨labels, behind⟩ := append_separator_inj inLabel inName rest
  obtain ⟨contexts, lengths⟩ := List.append_inj' behind sizes
  exact ⟨counters, labels, contexts, lengths⟩

end CounterMode

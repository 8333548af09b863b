import Macsec.Foundation.Octets

/-!
# Shared definitions

Return codes, the constant-time comparison and the byte-order helpers that all
layers of the stack use.
-/

namespace Macsec

/-- The return codes of the stack. -/
inductive Err
  | ok
  | param
  | buffer
  | crypto
  | state
  | replay
  | unsupported
  | auth
  | timeout
  | notReady
  | busy
  deriving DecidableEq, Repr

/-- Accumulate the differences of two buffers of one length.  The result is
zero exactly on equal buffers and never negative. -/
def compare (buf1 buf2 : Bytes) : Int :=
  ((List.zipWith (· ^^^ ·) buf1 buf2).foldl (· ||| ·) 0).toNat

theorem compare_nonneg (buf1 buf2 : Bytes) : 0 ≤ compare buf1 buf2 :=
  Int.natCast_nonneg _

/-- The accumulator is zero only if it was zero and all differences are. -/
theorem foldl_or_eq_zero (start : UInt8) (bytes : Bytes) :
    bytes.foldl (· ||| ·) start = 0 ↔
      start = 0 ∧ ∀ octet ∈ bytes, octet = 0 := by
  induction bytes generalizing start with
  | nil => simp
  | cons octet bytes inductionHypothesis =>
      rw [List.foldl_cons, inductionHypothesis, List.forall_mem_cons,
        UInt8.or_eq_zero_iff, and_assoc]

/-- On buffers of one length the comparison decides equality. -/
theorem compare_eq_zero
    {buf1 buf2 : Bytes} (sameLength : buf1.length = buf2.length) :
    compare buf1 buf2 = 0 ↔ buf1 = buf2 := by
  rw [compare, Int.natCast_eq_zero, ← UInt8.toNat_zero, UInt8.toNat_inj,
    foldl_or_eq_zero]
  induction buf1 generalizing buf2 with
  | nil =>
      have empty : buf2 = [] := List.length_eq_zero_iff.mp sameLength.symm
      simp [empty]
  | cons octet1 buf1 inductionHypothesis =>
      cases buf2 with
      | nil => simp at sameLength
      | cons octet2 buf2 =>
          have tail := inductionHypothesis (Nat.succ.inj sameLength)
          simp only [true_and] at tail
          rw [List.zipWith_cons_cons, List.forall_mem_cons,
            UInt8.xor_eq_zero_iff, tail, List.cons.injEq]
          simp only [true_and]

@[simp] theorem compare_octets_eq_zero {n : Nat} (left right : Octets n) :
    compare left.1 right.1 = 0 ↔ left = right := by
  rw [compare_eq_zero (left.2.trans right.2.symm), Subtype.ext_iff]

/-! ## Byte order -/

/-- Read a 16-bit big-endian number. -/
def rdBe16 (bytes : Bytes) (offset : Nat) : UInt16 :=
  UInt16.ofNat (Bytes.ofBigEndian (bytes.slice offset 2).1)

/-- Read a 32-bit big-endian number. -/
def rdBe32 (bytes : Bytes) (offset : Nat) : UInt32 :=
  UInt32.ofNat (Bytes.ofBigEndian (bytes.slice offset 4).1)

/-- The big-endian octets of a 16-bit number. -/
def wrBe16 (value : UInt16) : Octets 2 :=
  Octets.ofNat 2 value.toNat

/-- The big-endian octets of a 32-bit number. -/
def wrBe32 (value : UInt32) : Octets 4 :=
  Octets.ofNat 4 value.toNat

/-- A 16-bit number is read back from where it was written. -/
theorem rdBe16_eq
    {bytes : Bytes} {offset : Nat} {value : UInt16}
    (written : bytes.slice offset 2 = wrBe16 value) :
    rdBe16 bytes offset = value := by
  rw [rdBe16, written, wrBe16, Octets.ofNat,
    Bytes.ofBigEndian_bigEndian_of_lt value.toNat_lt, UInt16.ofNat_toNat]

/-- A 32-bit number is read back from where it was written. -/
theorem rdBe32_eq
    {bytes : Bytes} {offset : Nat} {value : UInt32}
    (written : bytes.slice offset 4 = wrBe32 value) :
    rdBe32 bytes offset = value := by
  rw [rdBe32, written, wrBe32, Octets.ofNat,
    Bytes.ofBigEndian_bigEndian_of_lt value.toNat_lt, UInt32.ofNat_toNat]

/-! ## Flag sets -/

/-- Whether a flag set contains any of the given flags. -/
def hasFlag (flags mask : UInt32) : Bool :=
  flags &&& mask != 0

@[simp] theorem hasFlag_zero (mask : UInt32) : hasFlag 0 mask = false := by
  simp [hasFlag]

/-- Adding flags to a set. -/
@[simp] theorem hasFlag_or (flags more mask : UInt32) :
    hasFlag (flags ||| more) mask =
      (hasFlag flags mask || hasFlag more mask) := by
  have distributes :
      (flags ||| more) &&& mask = (flags &&& mask) ||| (more &&& mask) := by
    apply UInt32.eq_of_toBitVec_eq
    ext index
    simp only [UInt32.toBitVec_and, UInt32.toBitVec_or, BitVec.getElem_and,
      BitVec.getElem_or, Bool.and_or_distrib_right]
  rw [Bool.eq_iff_iff]
  simp only [hasFlag, distributes, bne_iff_ne, ne_eq, UInt32.or_eq_zero_iff,
    Bool.or_eq_true, not_and_or]

/-- A union of flags is absent if and only if each part is. -/
theorem hasFlag_or_mask (flags first second : UInt32) :
    hasFlag flags (first ||| second) =
      (hasFlag flags first || hasFlag flags second) := by
  have swap (mask : UInt32) : hasFlag flags mask = hasFlag mask flags := by
    rw [hasFlag, hasFlag, UInt32.and_comm]
  rw [swap, hasFlag_or, swap first, swap second]

/-! ## Checks -/

/-- A check does not yield a value that neither of its outcomes is. -/
theorem ite_ne {α : Type*} {c : Prop} [Decidable c] {first rest bad : α}
    (onTrue : first ≠ bad) (onFalse : rest ≠ bad) :
    (if c then first else rest) ≠ bad := by
  by_cases holds : c
  · rw [if_pos holds]
    exact onTrue
  · rw [if_neg holds]
    exact onFalse

end Macsec

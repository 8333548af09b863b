import Mathlib.Data.Fintype.EquivFin
import Mathlib.Data.List.TakeDrop
import Mathlib.Data.List.Basic
import Mathlib.Data.UInt
import Mathlib.Algebra.Order.Ring.Nat
import Mathlib.Tactic.Ring

/-!
# Octet strings

Byte buffers are lists of octets, and fixed-size arrays are lists that carry
their length.  Reading past the end of a buffer yields zero octets, so that
every read is total; code that checks its bounds never observes them.
-/

/-- A byte buffer. -/
abbrev Bytes := List UInt8

/-- An array of exactly `n` octets. -/
abbrev Octets (n : Nat) := { bytes : Bytes // bytes.length = n }

namespace Octets

/-- The all-zero array. -/
def zero (n : Nat) : Octets n :=
  ⟨List.replicate n 0, List.length_replicate⟩

/-- Octetwise exclusive or. -/
def xor {n : Nat} (left right : Octets n) : Octets n :=
  ⟨List.zipWith (· ^^^ ·) left.1 right.1, by
    rw [List.length_zipWith, left.2, right.2, Nat.min_self]⟩

/-- The octet at an index. -/
def get {n : Nat} (octets : Octets n) (index : Nat) : UInt8 :=
  octets.1.getD index 0

/-- Replace the octet at an index. -/
def set {n : Nat} (octets : Octets n) (index : Nat) (octet : UInt8) :
    Octets n :=
  ⟨octets.1.set index octet, by rw [List.length_set, octets.2]⟩

/-- Join two arrays. -/
def append {n m : Nat} (left : Octets n) (right : Octets m) : Octets (n + m) :=
  ⟨left.1 ++ right.1, by rw [List.length_append, left.2, right.2]⟩

instance (n : Nat) : Inhabited (Octets n) := ⟨zero n⟩

end Octets

namespace Bytes

/-- The octet at an index. -/
def octetAt (bytes : Bytes) (index : Nat) : UInt8 :=
  bytes.getD index 0

/-- The `n` octets from an offset on. -/
def slice (bytes : Bytes) (offset n : Nat) : Octets n :=
  ⟨(bytes.drop offset).takeD n 0, List.takeD_length _ _ _⟩

/-- Overwrite a buffer from an offset on. -/
def overlay (bytes : Bytes) (offset : Nat) (data : Bytes) : Bytes :=
  bytes.take offset ++ data ++ bytes.drop (offset + data.length)

/-- The big-endian rendering of a number in `width` octets. -/
def bigEndian : (width : Nat) → Nat → Bytes
  | 0, _ => []
  | width + 1, value =>
      UInt8.ofNat (value / 256 ^ width) :: bigEndian width value

/-- The number a byte string denotes in big-endian order. -/
def ofBigEndian (bytes : Bytes) : Nat :=
  bytes.foldl (fun value octet => value * 256 + octet.toNat) 0

/-! ## Reading inside a concatenation -/

@[simp] theorem octetAt_cons_zero (octet : UInt8) (rest : Bytes) :
    octetAt (octet :: rest) 0 = octet := rfl

@[simp] theorem octetAt_cons_succ
    (octet : UInt8) (rest : Bytes) (index : Nat) :
    octetAt (octet :: rest) (index + 1) = octetAt rest index := rfl

/-- Reading behind a prefix reads the remainder. -/
theorem octetAt_append_right
    (front back : Bytes) (index : Nat) :
    octetAt (front ++ back) (front.length + index) = octetAt back index := by
  rw [octetAt, octetAt, List.getD_eq_getElem?_getD,
    List.getD_eq_getElem?_getD,
    List.getElem?_append_right (Nat.le_add_right _ _),
    Nat.add_sub_cancel_left]

theorem octetAt_append_left
    (front back : Bytes) {index : Nat} (inFront : index < front.length) :
    octetAt (front ++ back) index = octetAt front index := by
  simp [octetAt, List.getD_eq_getElem?_getD,
    List.getElem?_append_left inFront]

/-- Slicing behind a prefix slices the remainder. -/
theorem slice_append_right
    (front back : Bytes) (offset n : Nat) :
    slice (front ++ back) (front.length + offset) n = slice back offset n := by
  have remainder :
      (front ++ back).drop (front.length + offset) = back.drop offset := by
    rw [← List.drop_drop, List.drop_left]
  simp only [slice, remainder]

/-- The slice that starts a buffer with a string of its length. -/
theorem slice_append_self
    {n : Nat} (field : Octets n) (back : Bytes) :
    slice (field.1 ++ back) 0 n = field := by
  apply Subtype.ext
  simp only [slice, List.drop_zero]
  exact List.takeD_left' field.2

/-- A field is read back from where it was placed. -/
theorem slice_at
    {n offset : Nat} {front : Bytes} (field : Octets n) (back : Bytes)
    (placed : front.length = offset) :
    slice (front ++ (field.1 ++ back)) offset n = field := by
  rw [← placed, ← Nat.add_zero front.length, slice_append_right,
    slice_append_self]

theorem octetAt_at
    {offset : Nat} {front : Bytes} (octet : UInt8) (back : Bytes)
    (placed : front.length = offset) :
    octetAt (front ++ octet :: back) offset = octet := by
  rw [← placed, ← Nat.add_zero front.length, octetAt_append_right]
  rfl

/-- Reading beyond a field reads the remainder. -/
theorem slice_beyond
    {n offset : Nat} (field : Octets n) (back : Bytes) (width : Nat)
    (beyond : n ≤ offset) :
    slice (field.1 ++ back) offset width =
      slice back (offset - n) width := by
  have behind := slice_append_right field.1 back (offset - n) width
  rwa [field.2, Nat.add_sub_cancel' beyond] at behind

theorem octetAt_beyond
    {n offset : Nat} (field : Octets n) (back : Bytes)
    (beyond : n ≤ offset) :
    octetAt (field.1 ++ back) offset = octetAt back (offset - n) := by
  have behind := octetAt_append_right field.1 back (offset - n)
  rwa [field.2, Nat.add_sub_cancel' beyond] at behind

theorem slice_cons_succ
    (octet : UInt8) (back : Bytes) (offset width : Nat) :
    slice (octet :: back) (offset + 1) width = slice back offset width := rfl

/-- A slice in front of a suffix does not see the suffix. -/
theorem slice_append_left
    (front back : Bytes) {offset n : Nat}
    (inFront : offset + n ≤ front.length) :
    slice (front ++ back) offset n = slice front offset n := by
  apply Subtype.ext
  have short : n ≤ (front.drop offset).length := by
    rw [List.length_drop]
    omega
  have inside : offset ≤ front.length := by omega
  simp only [slice, List.drop_append_of_le_length inside]
  rw [List.takeD_eq_take _ short, List.takeD_eq_take,
    List.take_append_of_le_length short]
  rw [List.length_append]
  omega

@[simp] theorem slice_zero_length (bytes : Bytes) (offset : Nat) :
    (slice bytes offset 0).1 = [] := rfl

/-- A slice that fits is a plain segment of the buffer. -/
theorem slice_val
    (bytes : Bytes) {offset n : Nat} (fits : offset + n ≤ bytes.length) :
    (slice bytes offset n).1 = (bytes.drop offset).take n := by
  apply List.takeD_eq_take
  rw [List.length_drop]
  omega

/-- Zeros behind a string are read where the string ends. -/
theorem takeD_append_zeros (bytes : Bytes) (zeros count : Nat) :
    (bytes ++ List.replicate zeros 0).takeD count 0 = bytes.takeD count 0 := by
  induction count generalizing bytes zeros with
  | zero => rfl
  | succ count inductionHypothesis =>
      cases bytes with
      | nil =>
          cases zeros with
          | zero => rfl
          | succ zeros =>
              have rest := inductionHypothesis [] zeros
              rw [List.nil_append] at rest
              rw [List.nil_append, List.replicate_succ, List.takeD_succ,
                List.takeD_succ, List.tail_cons, rest]
              rfl
      | cons octet bytes =>
          rw [List.cons_append, List.takeD_succ, List.takeD_succ,
            List.tail_cons, List.tail_cons, inductionHypothesis]
          rfl

/-! ## Overwriting -/

/-- Overwriting the start of a buffer. -/
theorem overlay_zero (bytes data : Bytes) :
    overlay bytes 0 data = data ++ bytes.drop data.length := by
  simp [overlay]

theorem take_overlay_zero (bytes data : Bytes) :
    (overlay bytes 0 data).take data.length = data := by
  rw [overlay_zero, List.take_left']
  rfl

/-- Overwriting the start of a buffer twice with the same octets. -/
theorem overlay_zero_overlay_zero (bytes data : Bytes) :
    overlay (overlay bytes 0 data) 0 data = overlay bytes 0 data := by
  rw [overlay_zero, overlay_zero, List.drop_left]

/-- Writing an octet and then the ones behind it. -/
theorem overlay_set
    {out : Bytes} {count : Nat} (inside : count < out.length)
    (written : UInt8) (bytes : Bytes) :
    overlay (out.set count written) (count + 1) bytes =
      overlay out count (written :: bytes) := by
  have taken :
      (out.set count written).take (count + 1) =
        out.take count ++ [written] := by
    rw [List.take_succ_eq_append_getElem (by rwa [List.length_set]),
      List.getElem_set_self, List.take_set_of_le (Nat.le_refl count)]
  rw [overlay, overlay, taken, List.length_cons,
    List.drop_set_of_lt (by omega), List.append_assoc (out.take count),
    List.singleton_append, Nat.add_right_comm, Nat.add_assoc]

/-! ## Big-endian numbers -/

@[simp] theorem length_bigEndian (width value : Nat) :
    (bigEndian width value).length = width := by
  induction width with
  | zero => rfl
  | succ width inductionHypothesis =>
      rw [bigEndian, List.length_cons, inductionHypothesis]

/-- Folding from a start value shifts that value to the left. -/
theorem foldl_bigEndian (start width value : Nat) :
    (bigEndian width value).foldl
        (fun value octet => value * 256 + octet.toNat) start =
      start * 256 ^ width + value % 256 ^ width := by
  induction width generalizing start with
  | zero => simp [bigEndian, Nat.mod_one]
  | succ width inductionHypothesis =>
      have octet :
          (UInt8.ofNat (value / 256 ^ width)).toNat =
            value / 256 ^ width % 256 :=
        UInt8.toNat_ofNat'
      have split :
          value % 256 ^ (width + 1) =
            256 ^ width * (value / 256 ^ width % 256) +
              value % 256 ^ width := by
        rw [pow_succ, Nat.mod_mul, Nat.add_comm]
      rw [bigEndian, List.foldl_cons, inductionHypothesis, octet, split]
      ring

theorem ofBigEndian_bigEndian (width value : Nat) :
    ofBigEndian (bigEndian width value) = value % 256 ^ width := by
  rw [ofBigEndian, foldl_bigEndian, Nat.zero_mul, Nat.zero_add]

/-- A number that fits survives the big-endian rendering. -/
theorem ofBigEndian_bigEndian_of_lt
    {width value : Nat} (fits : value < 256 ^ width) :
    ofBigEndian (bigEndian width value) = value := by
  rw [ofBigEndian_bigEndian, Nat.mod_eq_of_lt fits]

/-- A byte string of `n` octets denotes a number below `256 ^ n`. -/
theorem ofBigEndian_lt (bytes : Bytes) :
    ofBigEndian bytes < 256 ^ bytes.length := by
  induction bytes using List.reverseRecOn with
  | nil => exact Nat.one_pos
  | append_singleton bytes octet inductionHypothesis =>
      have small : octet.toNat < 256 := octet.toNat_lt
      rw [ofBigEndian, List.foldl_append, List.foldl_cons, List.foldl_nil,
        ← ofBigEndian, List.length_append, List.length_singleton, pow_succ]
      omega

/-- The octets of a number do not depend on what lies above them. -/
theorem bigEndian_add_mul (width high value : Nat) :
    bigEndian width (high * 256 ^ width + value) = bigEndian width value := by
  induction width generalizing high with
  | zero => rfl
  | succ width inductionHypothesis =>
      have shift :
          high * 256 ^ (width + 1) + value =
            high * 256 * 256 ^ width + value := by
        ring
      have octet :
          UInt8.ofNat ((high * 256 * 256 ^ width + value) / 256 ^ width) =
            UInt8.ofNat (value / 256 ^ width) := by
        rw [Nat.mul_comm (high * 256),
          Nat.mul_add_div (Nat.pow_pos (by decide))]
        apply UInt8.toNat_inj.mp
        rw [UInt8.toNat_ofNat', UInt8.toNat_ofNat']
        omega
      rw [bigEndian, bigEndian, shift, inductionHypothesis, octet]

/-- Folding a byte string from a start value shifts that value to the left. -/
theorem foldl_eq_add (start : Nat) (bytes : Bytes) :
    bytes.foldl (fun value octet => value * 256 + octet.toNat) start =
      start * 256 ^ bytes.length + ofBigEndian bytes := by
  induction bytes generalizing start with
  | nil => simp [ofBigEndian]
  | cons octet bytes inductionHypothesis =>
      rw [ofBigEndian, List.foldl_cons, List.foldl_cons, inductionHypothesis,
        inductionHypothesis (0 * 256 + octet.toNat), List.length_cons]
      ring

/-- The number of a byte string with one more octet in front of it. -/
theorem ofBigEndian_cons (octet : UInt8) (bytes : Bytes) :
    ofBigEndian (octet :: bytes) =
      octet.toNat * 256 ^ bytes.length + ofBigEndian bytes := by
  rw [ofBigEndian, List.foldl_cons, foldl_eq_add, Nat.zero_mul, Nat.zero_add]

/-- The number of a byte string with one more octet behind it. -/
theorem ofBigEndian_concat (bytes : Bytes) (octet : UInt8) :
    ofBigEndian (bytes ++ [octet]) = ofBigEndian bytes * 256 + octet.toNat := by
  rw [ofBigEndian, List.foldl_append]
  rfl

/-- A byte string is the rendering of the number it denotes. -/
theorem bigEndian_ofBigEndian (bytes : Bytes) :
    bigEndian bytes.length (ofBigEndian bytes) = bytes := by
  induction bytes with
  | nil => rfl
  | cons octet bytes inductionHypothesis =>
      have first :
          (octet.toNat * 256 ^ bytes.length + ofBigEndian bytes) /
              256 ^ bytes.length =
            octet.toNat := by
        rw [Nat.mul_comm, Nat.mul_add_div (Nat.pow_pos (by decide)),
          Nat.div_eq_of_lt (ofBigEndian_lt bytes), Nat.add_zero]
      rw [ofBigEndian_cons, List.length_cons, bigEndian, first,
        bigEndian_add_mul, inductionHypothesis, UInt8.ofNat_toNat]

end Bytes

namespace Octets

/-- The big-endian array of a number. -/
def ofNat (n value : Nat) : Octets n :=
  ⟨Bytes.bigEndian n value, Bytes.length_bigEndian n value⟩

/-- There are finitely many arrays of a length. -/
instance (n : Nat) : Finite (Octets n) := by
  have small (octets : Octets n) : Bytes.ofBigEndian octets.1 < 256 ^ n := by
    have fits := Bytes.ofBigEndian_lt octets.1
    rwa [octets.2] at fits
  let number (octets : Octets n) : Fin (256 ^ n) := ⟨_, small octets⟩
  apply Finite.of_injective number
  intro left right same
  have numbers :
      Bytes.ofBigEndian left.1 = Bytes.ofBigEndian right.1 :=
    congrArg Fin.val same
  have leftRendered := Bytes.bigEndian_ofBigEndian left.1
  have rightRendered := Bytes.bigEndian_ofBigEndian right.1
  rw [left.2] at leftRendered
  rw [right.2] at rightRendered
  apply Subtype.ext
  rw [← leftRendered, ← rightRendered, numbers]

/-- The two halves of a joined array. -/
theorem slice_append_left {n m : Nat} (left : Octets n) (right : Octets m) :
    (left.append right).1.slice 0 n = left :=
  Bytes.slice_append_self left right.1

theorem slice_append_right {n m : Nat} (left : Octets n) (right : Octets m) :
    (left.append right).1.slice n m = right := by
  have behind := Bytes.slice_append_right left.1 right.1 0 m
  rw [left.2, Nat.add_zero] at behind
  have whole := Bytes.slice_append_self right []
  rw [List.append_nil] at whole
  exact behind.trans whole

/-- An array is the concatenation of its parts. -/
theorem append_slices {n m : Nat} (octets : Octets (n + m)) :
    (octets.1.slice 0 n).append (octets.1.slice n m) = octets := by
  have size := octets.2
  apply Subtype.ext
  change (octets.1.slice 0 n).1 ++ (octets.1.slice n m).1 = octets.1
  rw [Bytes.slice_val _ (by omega), Bytes.slice_val _ (by omega),
    List.drop_zero]
  have rest : (octets.1.drop n).take m = octets.1.drop n := by
    apply List.take_of_length_le
    rw [List.length_drop]
    omega
  rw [rest, List.take_append_drop]

/-- The octet behind a prefix of an array, and the array with another octet
there. -/
theorem get_set_behind
    {n index : Nat} {front back : Bytes} {octet : UInt8} {block : Octets n}
    (place : front.length = index)
    (content : block.1 = front ++ octet :: back) :
    block.get index = octet ∧
      ∀ other, (block.set index other).1 = front ++ other :: back := by
  constructor
  · have found := Bytes.octetAt_at octet back place
    rw [← content] at found
    exact found
  · intro other
    change block.1.set index other = _
    rw [content, ← place]
    simp

theorem xor_comm {n : Nat} (left right : Octets n) :
    left.xor right = right.xor left := by
  apply Subtype.ext
  exact List.zipWith_comm_of_comm UInt8.xor_comm

/-- Masking twice with the same array changes nothing. -/
theorem xor_xor_cancel {n : Nat} (mask data : Octets n) :
    mask.xor (mask.xor data) = data := by
  obtain ⟨mask, maskLength⟩ := mask
  obtain ⟨data, dataLength⟩ := data
  apply Subtype.ext
  simp only [xor]
  induction mask generalizing data n with
  | nil =>
      cases data with
      | nil => rfl
      | cons octet data => simp at maskLength dataLength; omega
  | cons head mask inductionHypothesis =>
      cases data with
      | nil => rfl
      | cons octet data =>
          simp only [List.length_cons] at maskLength dataLength
          simp only [List.zipWith_cons_cons, List.cons.injEq]
          constructor
          · rw [← UInt8.xor_assoc, UInt8.xor_self, UInt8.zero_xor]
          · exact inductionHypothesis (n := n - 1) (by omega) _ (by omega)

end Octets

/-! ## Index types -/

instance neZero_four : NeZero 4 :=
  ⟨by decide⟩

instance neZero_sixteen : NeZero 16 :=
  ⟨by decide⟩

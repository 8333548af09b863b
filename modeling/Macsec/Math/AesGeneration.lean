import Macsec.Math.AesTables

/-!
# The generated tables

The logarithms are those to the base three, the last one entered for each octet.
With them inverses and products are looked up correctly, and every entry of the
tables is written, whatever they held before.
-/

namespace Macsec

namespace Aes

/-! ## Entering values -/

theorem get_set {α : Type*} {n : Nat} (table : Vector α n) (i j : Fin n)
    (value : α) :
    (table.set i value).get j = if i = j then value else table.get j := by
  change (table.set i value)[j.val] = if i = j then value else table[j.val]
  rw [Vector.getElem_set]
  simp only [Fin.ext_iff]

theorem get_ofFn {α : Type*} {n : Nat} (f : Fin n → α) (i : Fin n) :
    (Vector.ofFn f).get i = f i :=
  Vector.getElem_ofFn i.isLt

/-- An entry that no index enters is kept. -/
theorem enter_get_of_ne {α : Type} {n : Nat} (place : Fin n → Fin n)
    (entry : Fin n → α) (indices : List (Fin n)) (table : Vector α n)
    {j : Fin n} (apart : ∀ i ∈ indices, place i ≠ j) :
    (enter place entry indices table).get j = table.get j := by
  induction indices generalizing table with
  | nil => rfl
  | cons index indices inductionHypothesis =>
      have others : ∀ i ∈ indices, place i ≠ j := fun i inside =>
        apart i (List.mem_cons_of_mem _ inside)
      have kept :=
        inductionHypothesis (table.set (place index) (entry index)) others
      rw [get_set, if_neg (apart index List.mem_cons_self)] at kept
      exact kept

/-- With different places for different indices every entry stays. -/
theorem enter_get {α : Type} {n : Nat} {place : Fin n → Fin n}
    (injective : Function.Injective place) (entry : Fin n → α)
    {indices : List (Fin n)} (table : Vector α n) {i : Fin n}
    (inside : i ∈ indices) :
    (enter place entry indices table).get (place i) = entry i := by
  induction indices generalizing table with
  | nil => cases inside
  | cons index indices inductionHypothesis =>
      by_cases later : i ∈ indices
      · exact inductionHypothesis _ later
      · obtain rfl : i = index := by
          simpa [later] using inside
        have apart : ∀ k ∈ indices, place k ≠ place i := by
          intro k among same
          exact later (injective same ▸ among)
        have kept :=
          enter_get_of_ne place entry indices (table.set (place i) (entry i))
            apart
        rw [get_set, if_pos rfl] at kept
        exact kept

/-! ## Logarithms -/

/-- The powers below `count` have been entered, with a logarithm for each of
them. -/
structure Logs.Entered (count : Nat) (logs : Logs) : Prop where
  pow :
    ∀ i : Fin 256, i.val < count →
      logs.pow.get i = multiplyByThree^[i.val] 1
  log :
    ∀ i < count,
      (logs.log.get (multiplyByThree^[i] 1).toFin).toNat < count ∧
        multiplyByThree^[(logs.log.get (multiplyByThree^[i] 1).toFin).toNat] 1 =
          multiplyByThree^[i] 1

/-- One power more. -/
theorem Logs.Entered.enter {logs : Logs} (index : Fin 256)
    (entered : logs.Entered index.val) :
    (logs.enter index (multiplyByThree^[index.val] 1)).Entered
      (index.val + 1) := by
  constructor
  · intro i small
    rw [Logs.enter, get_set]
    split
    next same => rw [same]
    next other =>
      apply entered.pow
      have apart : i.val ≠ index.val := fun same => other (Fin.ext same).symm
      omega
  · intro i small
    rw [Logs.enter, get_set]
    split
    next same =>
      have powers := UInt8.toFin_inj.mp same
      exact ⟨Nat.lt_succ_self _, powers⟩
    next other =>
      have apart : i ≠ index.val := by
        rintro rfl
        exact other rfl
      obtain ⟨below, power⟩ := entered.log i (by omega)
      exact ⟨by omega, power⟩

/-- The loop enters the powers one after the other. -/
theorem entered_genLogs {indices : List (Fin 256)} {count : Nat} {logs : Logs}
    (counted : indices.map Fin.val = List.range' count indices.length)
    (entered : logs.Entered count) :
    (genLogs indices (multiplyByThree^[count] 1) logs).Entered
      (count + indices.length) := by
  induction indices generalizing count logs with
  | nil => exact entered
  | cons index indices inductionHypothesis =>
      rw [List.map_cons, List.length_cons, List.range'_succ] at counted
      obtain ⟨first, rest⟩ := List.cons.inj counted
      subst first
      have later := inductionHypothesis rest (entered.enter index)
      rw [Function.iterate_succ_apply'] at later
      rw [List.length_cons, genLogs, Nat.add_comm indices.length,
        ← Nat.add_assoc]
      exact later

/-- The logarithms of the table generation. -/
theorem entered_all (logs : Logs) :
    (genLogs (List.finRange 256) 1 logs).Entered 256 := by
  have counted :
      (List.finRange 256).map Fin.val =
        List.range' 0 (List.finRange 256).length := by
    rw [List.length_finRange, ← List.range_eq_range', List.map_coe_finRange_eq_range]
  have start : logs.Entered 0 := by
    constructor
    · intro i small
      exact absurd small (Nat.not_lt_zero _)
    · intro i small
      exact absurd small (Nat.not_lt_zero _)
  have entered := entered_genLogs counted start
  rw [List.length_finRange] at entered
  exact entered

theorem Logs.Entered.element_pow {logs : Logs} (entered : logs.Entered 256)
    (i : Fin 256) : element (logs.pow.get i) = generator ^ i.val := by
  rw [entered.pow i i.isLt, element_iterate]

/-- The logarithm of a nonzero octet. -/
theorem Logs.Entered.generator_log {logs : Logs} (entered : logs.Entered 256)
    {b : UInt8} (nonzero : b ≠ 0) :
    generator ^ (logs.log.get b.toFin).toNat = element b := by
  obtain ⟨i, small, rfl⟩ := exists_iterate nonzero
  obtain ⟨-, power⟩ := entered.log i (by omega)
  rw [← element_iterate, power]

/-- The inverse by logarithms. -/
theorem Logs.Entered.inverse {logs : Logs} (entered : logs.Entered 256)
    {b : UInt8} (nonzero : b ≠ 0) :
    logs.pow.get
        (Fin.ofNat 256 (255 - (logs.log.get b.toFin).toNat)) =
      inverse b := by
  have small : (logs.log.get b.toFin).toNat < 256 := UInt8.toNat_lt _
  have exponent :
      (Fin.ofNat 256 (255 - (logs.log.get b.toFin).toNat)).val =
        255 - (logs.log.get b.toFin).toNat :=
    Nat.mod_eq_of_lt (by omega)
  apply eq_inverse
  apply element_injective
  rw [element_multiply, entered.element_pow, exponent,
    ← entered.generator_log nonzero, ← pow_add,
    Nat.add_sub_cancel' (by omega), generator_pow, element_one]

/-- The product by logarithms. -/
theorem Logs.Entered.mul {logs : Logs} (entered : logs.Entered 256)
    (x y : UInt8) : mul logs x y = multiply x y := by
  apply element_injective
  rw [element_multiply, Aes.mul]
  split
  next nonzero =>
    rw [Bool.and_eq_true, bne_iff_ne, bne_iff_ne] at nonzero
    have exponent (n : Nat) : (Fin.ofNat 256 (n % 255)).val = n % 255 :=
      Nat.mod_eq_of_lt (by omega)
    rw [entered.element_pow, exponent, ← orderOf_generator, pow_mod_orderOf,
      pow_add, entered.generator_log nonzero.1,
      entered.generator_log nonzero.2]
  next zero =>
    rw [element_zero]
    by_cases first : x = 0
    · rw [first, element_zero, zero_mul]
    · have second : y = 0 := by
        simpa [first] using zero
      rw [second, element_zero, mul_zero]

/-! ## Generated S-boxes -/

theorem genForwardSBox_get {logs : Logs} (entered : logs.Entered 256)
    (table : Vector UInt8 256) (b : UInt8) :
    (genForwardSBox logs table).get b.toFin = Spec.sBox b := by
  rw [genForwardSBox]
  by_cases zero : b = 0
  · have apart : ∀ i ∈ (List.finRange 256).tail, id i ≠ (0 : UInt8).toFin := by
      decide +kernel
    rw [zero, enter_get_of_ne id _ _ _ apart]
    change (table.set (0 : Fin 256) 0x63).get 0 = _
    rw [get_set, if_pos rfl]
    decide +kernel
  · have inside : b.toFin ∈ (List.finRange 256).tail := by
      have split : List.finRange 256 = 0 :: (List.finRange 256).tail := by
        decide +kernel
      have among := List.mem_finRange b.toFin
      rw [split] at among
      cases List.mem_cons.mp among with
      | inl first => exact absurd (UInt8.toFin_inj.mp first) zero
      | inr later => exact later
    have entry := enter_get Function.injective_id
      (fun index =>
        substitute
          (logs.pow.get (Fin.ofNat 256 (255 - (logs.log.get index).toNat))))
      (table.set 0 0x63) inside
    rw [id] at entry
    rw [entry, entered.inverse zero, substitute_eq, Spec.sBox]

theorem genReverseSBox_get {forwardSBox : Vector UInt8 256}
    (forward : ∀ b : UInt8, forwardSBox.get b.toFin = Spec.sBox b)
    (table : Vector UInt8 256) (b : UInt8) :
    (genReverseSBox forwardSBox table).get b.toFin = Spec.invSBox b := by
  have places (index : Fin 256) :
      (forwardSBox.get index).toFin = (Spec.sBox (UInt8.ofFin index)).toFin :=
    congrArg UInt8.toFin (forward (UInt8.ofFin index))
  have injective :
      Function.Injective fun index => (forwardSBox.get index).toFin := by
    intro i j same
    simp only [places] at same
    have octets := congrArg Spec.invSBox (UInt8.toFin_inj.mp same)
    rw [invSBox_sBox, invSBox_sBox] at octets
    exact congrArg UInt8.toFin octets
  have entry :=
    enter_get injective UInt8.ofFin table
      (List.mem_finRange (Spec.invSBox b).toFin)
  have place :
      (forwardSBox.get (Spec.invSBox b).toFin).toFin = b.toFin := by
    rw [forward, sBox_invSBox]
  rw [place, UInt8.ofFin_toFin] at entry
  rw [genReverseSBox, entry]

/-! ## Generated words -/

/-- Rotating by one octet repeatedly. -/
theorem rotated_eq (r : Fin 4) (word : BitVec 32) :
    rotated r word = rotl word r := by
  have octets (n : Nat) (s : Fin 4) :
      byte ((rotl · 1)^[n] word) s = byte word (s - Fin.ofNat 4 n) := by
    induction n generalizing s with
    | zero => rw [Function.iterate_zero, id, Fin.ofNat_zero, sub_zero]
    | succ n inductionHypothesis =>
        rw [Function.iterate_succ_apply', byte_rotl, inductionHypothesis]
        congr 1
        apply Fin.ext
        simp only [Fin.sub_def, Fin.ofNat]
        omega
  apply word_ext
  intro s
  rw [rotated, octets, byte_rotl, Fin.ofNat_val_eq_self]

theorem reverseWord_eq {logs : Logs} (entered : logs.Entered 256) (b : UInt8) :
    reverseWord logs b = columnWord Spec.invMixPolynomial b := by
  rw [reverseWord, entered.mul, entered.mul, entered.mul, entered.mul]
  rfl

/-- The round constants are entered one after the other. -/
theorem genRcon_get {indices : List (Fin 10)} {count : Nat}
    {rcon : Vector (BitVec 32) 10}
    (counted : indices.map Fin.val = List.range' count indices.length)
    (entered : ∀ i : Fin 10, i.val < count →
      rcon.get i = (xtime^[i.val] 1).toBitVec.setWidth 32)
    (i : Fin 10) (small : i.val < count + indices.length) :
    (genRcon indices (xtime^[count] 1) rcon).get i =
      (xtime^[i.val] 1).toBitVec.setWidth 32 := by
  induction indices generalizing count rcon with
  | nil => exact entered i small
  | cons index indices inductionHypothesis =>
      rw [List.map_cons, List.length_cons, List.range'_succ] at counted
      obtain ⟨first, rest⟩ := List.cons.inj counted
      subst first
      rw [List.length_cons] at small
      have next :
          ∀ i : Fin 10, i.val < index.val + 1 →
            (rcon.set index
              ((xtime^[index.val] 1).toBitVec.setWidth 32)).get i =
                (xtime^[i.val] 1).toBitVec.setWidth 32 := by
        intro i small
        rw [get_set]
        split
        next same => rw [same]
        next other =>
          apply entered
          have apart : i.val ≠ index.val := fun same => other (Fin.ext same).symm
          omega
      have later := inductionHypothesis rest next (by omega)
      rw [Function.iterate_succ_apply'] at later
      exact later

theorem byte_setWidth (b : UInt8) :
    byte (b.toBitVec.setWidth 32) = ![b, 0, 0, 0] := by
  funext r
  have placed := byte_placed b 0 r
  rw [show 8 * (0 : Fin 4).val = 0 by rfl, BitVec.shiftLeft_zero] at placed
  rw [placed]
  fin_cases r <;> rfl

/-! ## All tables -/

/-- The generated tables are correct. -/
theorem correct_genTables (logs : Logs) (tables : Tables) :
    (genTables logs tables).Correct := by
  have entered := entered_all logs
  have forward (b : UInt8) :
      (genTables logs tables).forwardSBox.get b.toFin = Spec.sBox b := by
    simp only [genTables]
    exact genForwardSBox_get entered tables.forwardSBox b
  have reverse (b : UInt8) :
      (genTables logs tables).reverseSBox.get b.toFin = Spec.invSBox b := by
    simp only [genTables] at forward ⊢
    exact genReverseSBox_get forward tables.reverseSBox b
  constructor
  · exact forward
  · intro r b
    have entry :=
      enter_get Function.injective_id
        (fun index =>
          rotated r
            (forwardWord ((genTables logs tables).forwardSBox.get index)))
        (tables.forwardTables.get r) (List.mem_finRange b.toFin)
    rw [id, forward, rotated_eq, forwardWord_eq] at entry
    rw [← entry, genTables, get_ofFn]
  · exact reverse
  · intro r b
    have entry :=
      enter_get Function.injective_id
        (fun index =>
          rotated r
            (reverseWord (genLogs (List.finRange 256) 1 logs)
              ((genTables logs tables).reverseSBox.get index)))
        (tables.reverseTables.get r) (List.mem_finRange b.toFin)
    rw [id, reverse, rotated_eq, reverseWord_eq entered] at entry
    rw [← entry, genTables, get_ofFn]
  · intro i
    have entry :=
      @genRcon_get (List.finRange 10) 0 tables.rcon (by decide)
        (fun i small => absurd small (Nat.not_lt_zero _)) i (by simp)
    rw [Function.iterate_zero, id] at entry
    rw [genTables, entry, byte_setWidth, Spec.rcon, Nat.add_sub_cancel]

/-! ## The static variables -/

/-- The tables are constants, or have been generated if they are said to have
been. -/
structure Shared.Valid (config : Config) (shared : Shared) : Prop where
  correct :
    config.romTables ∨ shared.initDone → shared.tables.Correct

theorem Shared.valid_start (config : Config) :
    (Shared.start config).Valid config := by
  constructor
  intro available
  cases available with
  | inl rom =>
      rw [Shared.start, if_pos rom]
      exact correct_tablesRom
  | inr done => cases done

/-- After the preparation the tables are correct, and they stay so. -/
theorem Shared.Valid.prepare {config : Config} {shared : Shared}
    (valid : shared.Valid config) (logs : Logs) :
    (shared.prepare config logs).Valid config ∧
      (shared.prepare config logs).tables.Correct := by
  rw [Shared.prepare]
  split
  next available =>
    rw [Bool.or_eq_true] at available
    exact ⟨valid, valid.correct available⟩
  next =>
    have correct := correct_genTables logs shared.tables
    exact ⟨⟨fun _ => correct⟩, correct⟩

end Aes

end Macsec

import Macsec.Mka.Operations
import Macsec.Mka.Wire

/-!
# Malformed MKPDUs

An MKPDU is malformed if its Basic Parameter Set is, or if a parameter set that
its receiver reads is: one that a scan reaches and that overruns the others, the
first Distributed SAK, or the first SAK Use.  A scan starts at the Basic
Parameter Set, goes on behind each set that it is not about, and reads nothing
of a frame of fewer than 90 octets, so what is never reached cannot be
malformed.  The parsers refuse just these frames.
-/

namespace Macsec

namespace Mka

/-! ## Layout -/

/-- Where the parameter sets end and the integrity check value begins. -/
def setsEnd (frame : Bytes) : Nat :=
  14 + 4 + (rdBe16 frame 16).toNat - icvLen

/-- The Basic Parameter Set of a frame is malformed: the frame or its EAPOL body
is too short, or the set lacks fields, names a connectivity association by too
many octets or reaches into the integrity check value. -/
def BasicMalformed (frame : Bytes) : Prop :=
  frame.length < 66 ∨
    frame.length < 18 + (rdBe16 frame 16).toNat ∨
    (rdBe16 frame 16).toNat < 32 + icvLen ∨
    bodyLenAt frame basicOffset < 28 ∨
    28 + caNameMaxLen < bodyLenAt frame basicOffset ∨
    setsEnd frame < 22 + bodyLenAt frame basicOffset

/-- A scan for a type of parameter set reaches a position. -/
inductive Reaches (frame : Bytes) (type : UInt8) : Nat → Prop
  | basic : Reaches frame type basicOffset
  | behind {pos : Nat}
      (reached : Reaches frame type pos)
      (other : pos = basicOffset ∨ frame.octetAt pos ≠ type)
      (fits : pos + 4 + bodyLenAt frame pos ≤ setsEnd frame) :
      Reaches frame type (pos + 4 + bodyLenAt frame pos)

/-- The parameter set at a position reaches into the integrity check value. -/
def Overruns (frame : Bytes) (pos : Nat) : Prop :=
  pos + 4 ≤ setsEnd frame ∧ setsEnd frame < pos + 4 + bodyLenAt frame pos

/-- The first parameter set of a type stands at a position. -/
structure FirstSet (frame : Bytes) (type : UInt8) (pos : Nat) : Prop where
  reached : Reaches frame type pos
  notBasic : pos ≠ basicOffset
  fits : pos + 4 + bodyLenAt frame pos ≤ setsEnd frame
  same : frame.octetAt pos = type

/-- The Distributed SAK at a position has another size than that of a wrapped
SAK, has no key number, or does not unwrap. -/
def SakMalformed (aes : BlockCipher) (crypto : MkaCrypto.Ctx) (frame : Bytes)
    (pos : Nat) : Prop :=
  (bodyLenAt frame pos ≠ 28 ∧ bodyLenAt frame pos ≠ 44) ∨
    rdBe32 frame (pos + 4) = 0 ∨
    ∃ ret, MkaCrypto.unwrapSak aes crypto
      (frame.slice (pos + 8) (bodyLenAt frame pos - 4)).1 32 = .error ret

/-- A frame is malformed in what its receiver reads of it. -/
inductive Malformed (aes : BlockCipher) (crypto : MkaCrypto.Ctx)
    (frame : Bytes) : Prop
  | basic (malformed : BasicMalformed frame)
  | overrun {type : UInt8} {pos : Nat}
      (scanned : type = paramDistributedSak ∨ type = paramSakUse)
      (long : 90 ≤ frame.length)
      (reached : Reaches frame type pos)
      (overruns : Overruns frame pos)
  | distributedSak {pos : Nat}
      (long : 90 ≤ frame.length)
      (first : FirstSet frame paramDistributedSak pos)
      (malformed : SakMalformed aes crypto frame pos)
  | sakUse {pos : Nat}
      (long : 90 ≤ frame.length)
      (first : FirstSet frame paramSakUse pos)
      (short : bodyLenAt frame pos < 40)

variable {aes : BlockCipher} {crypto : MkaCrypto.Ctx} {frame : Bytes}
  {type : UInt8} {pos : Nat}

/-! ## The Basic Parameter Set -/

/-- A check fails by itself or leaves what comes after it to fail. -/
theorem check_fails_iff {α : Type} {c : Prop} [Decidable c] {ret : Err}
    {rest : Except Err α} :
    (∃ failed, (if c then .error ret else rest) = .error failed) ↔
      c ∨ ∃ failed, rest = .error failed := by
  by_cases holds : c
  · rw [if_pos holds]
    exact iff_of_true ⟨ret, rfl⟩ (.inl holds)
  · rw [if_neg holds, or_iff_right holds]

/-- The Basic Parameter Set does not parse exactly if it is malformed. -/
theorem parseBasic_fails_iff (isMka : isEapolMka frame = true) :
    (∃ ret, parseBasic frame = .error ret) ↔ BasicMalformed frame := by
  obtain ⟨-, ethertype, type⟩ :
      18 ≤ frame.length ∧ rdBe16 frame 12 = ethertypeEapol ∧
        frame.octetAt 15 = eapolTypeMka := by
    simpa [isEapolMka] using isMka
  have icv : icvLen = 16 := rfl
  have name : caNameMaxLen = 32 := rfl
  unfold parseBasic BasicMalformed setsEnd
  dsimp only [readBasic]
  simp only [check_fails_iff, ethertype, type, ne_eq, not_true_eq_false,
    false_or, reduceCtorEq, exists_false, or_false]
  omega

/-! ## Scans -/

/-- The visit of a scan for a type of parameter set. -/
def visitOf {ρ : Type} (type : UInt8) (read : UInt8 → Nat → Nat → ρ)
    (visited flags : UInt8) (bodyPos bodyLen : Nat) : Option ρ :=
  if visited = type then some (read flags bodyPos bodyLen) else none

section Scan

variable {ρ : Type} {overflow done : ρ} {read : UInt8 → Nat → Nat → ρ}

/-- A scan gets to every position that it reaches. -/
theorem walk_of_reaches (reached : Reaches frame type pos) :
    walk frame (setsEnd frame) overflow done (visitOf type read) basicOffset =
      walk frame (setsEnd frame) overflow done (visitOf type read) pos := by
  induction reached with
  | basic => rfl
  | @behind pos _ other fits inductionHypothesis =>
      rw [inductionHypothesis, walk, if_pos (by omega)]
      dsimp only
      rw [if_neg (by omega)]
      by_cases basic : pos = basicOffset
      · rw [if_pos basic]
      · rw [if_neg basic, visitOf, if_neg (other.resolve_left basic)]

theorem walk_of_overruns (overruns : Overruns frame pos) :
    walk frame (setsEnd frame) overflow done (visitOf type read) pos =
      overflow := by
  rw [walk, if_pos overruns.1]
  exact if_pos overruns.2

theorem walk_of_firstSet (first : FirstSet frame type pos) :
    walk frame (setsEnd frame) overflow done (visitOf type read) pos =
      read (frame.octetAt (pos + 1)) (pos + 4) (bodyLenAt frame pos) := by
  have fits := first.fits
  rw [walk, if_pos (by omega)]
  dsimp only
  rw [if_neg (by omega), if_neg first.notBasic, visitOf, if_pos first.same]

/-- A scan stops at the end of the parameter sets, at one that overruns them or
at the first one that it is about. -/
theorem exists_stop (reached : Reaches frame type pos) :
    ∃ stop, Reaches frame type stop ∧
      (setsEnd frame < stop + 4 ∨ Overruns frame stop ∨
        FirstSet frame type stop) := by
  induction left : setsEnd frame - pos using Nat.strong_induction_on
    generalizing pos with
  | _ left inductionHypothesis =>
    by_cases ends : setsEnd frame < pos + 4
    · exact ⟨pos, reached, .inl ends⟩
    by_cases fits : pos + 4 + bodyLenAt frame pos ≤ setsEnd frame
    · by_cases other : pos = basicOffset ∨ frame.octetAt pos ≠ type
      · exact inductionHypothesis _ (by omega) (reached.behind other fits) rfl
      · obtain ⟨notBasic, same⟩ := not_or.mp other
        exact ⟨pos, reached, .inr (.inr
          ⟨reached, notBasic, fits, Classical.not_not.mp same⟩)⟩
    · exact ⟨pos, reached, .inr (.inl ⟨by omega, by omega⟩)⟩

end Scan

/-- A scan fails exactly on a set that it reaches and that overruns the others,
and on a first set of its type that it cannot read. -/
theorem scanFails_walk_iff {α : Type}
    (read : UInt8 → Nat → Nat → Except Err α) :
    scanFails (walk frame (setsEnd frame) (.error .buffer) (.error .notReady)
        (visitOf type read) basicOffset) = true ↔
      (∃ pos, Reaches frame type pos ∧ Overruns frame pos) ∨
        ∃ pos, FirstSet frame type pos ∧
          scanFails (read (frame.octetAt (pos + 1)) (pos + 4)
            (bodyLenAt frame pos)) = true := by
  constructor
  · intro fails
    obtain ⟨stop, reached, ends | overruns | first⟩ :=
      exists_stop (@Reaches.basic frame type)
    · rw [walk_of_reaches reached, walk, if_neg (by omega)] at fails
      exact Bool.noConfusion fails
    · exact .inl ⟨stop, reached, overruns⟩
    · rw [walk_of_reaches reached, walk_of_firstSet first] at fails
      exact .inr ⟨stop, first, fails⟩
  · rintro (⟨pos, reached, overruns⟩ | ⟨pos, first, fails⟩)
    · rw [walk_of_reaches reached, walk_of_overruns overruns]
      rfl
    · rw [walk_of_reaches first.reached, walk_of_firstSet first]
      exact fails

/-! ## What the scans read -/

/-- A key unwrap that fails is an error. -/
theorem aesKwUnwrap_error {kek wrapped : Bytes} {plainMaxLen : Nat} {ret : Err}
    (failed : MkaCrypto.aesKwUnwrap aes kek wrapped plainMaxLen = .error ret) :
    ret ≠ .ok ∧ ret ≠ .notReady := by
  unfold MkaCrypto.aesKwUnwrap at failed
  dsimp only at failed
  split_ifs at failed
  all_goals
    cases failed
    exact ⟨Err.noConfusion, Err.noConfusion⟩

/-- A SAK unwraps to a supported size or not at all, which is an error. -/
theorem unwrapSak_cases (wrapped : Bytes) (sakMaxLen : Nat) :
    (∃ ret, MkaCrypto.unwrapSak aes crypto wrapped sakMaxLen = .error ret ∧
        ret ≠ .ok ∧ ret ≠ .notReady) ∨
      ∃ sak, MkaCrypto.unwrapSak aes crypto wrapped sakMaxLen = .ok sak ∧
        sakLenValid sak.length = true := by
  unfold MkaCrypto.unwrapSak
  split
  next => exact .inl ⟨_, rfl, Err.noConfusion, Err.noConfusion⟩
  next =>
      split
      next => exact .inl ⟨_, rfl, Err.noConfusion, Err.noConfusion⟩
      next =>
          cases unwraps :
            MkaCrypto.aesKwUnwrap aes crypto.keys.kek wrapped sakMaxLen with
          | error ret => exact .inl ⟨_, rfl, aesKwUnwrap_error unwraps⟩
          | ok sak =>
              dsimp only
              cases size : MkaCrypto.keyLenValid sak.length with
              | false => exact .inl ⟨_, rfl, Err.noConfusion, Err.noConfusion⟩
              | true => exact .inr ⟨sak, rfl, size⟩

/-- Reading a Distributed SAK fails exactly if it is malformed. -/
theorem scanFails_readDistributedSak_iff (flags : UInt8) :
    scanFails (readDistributedSak aes crypto frame flags (pos + 4)
        (bodyLenAt frame pos)) = true ↔
      SakMalformed aes crypto frame pos := by
  unfold readDistributedSak SakMalformed
  dsimp only
  split
  next short => exact iff_of_true rfl (.inl (by omega))
  next =>
      split
      next numbered =>
          split
          next odd => exact iff_of_true rfl (.inl (by omega))
          next wrapped =>
              rw [or_iff_right (by omega), or_iff_right numbered]
              rcases @unwrapSak_cases aes crypto
                  (frame.slice (pos + 4 + 4) (bodyLenAt frame pos - 4)).1 32
                with ⟨ret, fails, refused⟩ | ⟨sak, unwraps, size⟩
              · rw [fails]
                exact iff_of_true (scanFails_iff.mpr ⟨ret, rfl, refused⟩)
                  ⟨ret, rfl⟩
              · rw [unwraps]
                dsimp only
                rw [dif_pos size]
                refine iff_of_false Bool.noConfusion ?_
                rintro ⟨ret, fails⟩
                cases fails
      next unnumbered =>
          exact iff_of_true rfl
            (.inr (.inl (Classical.not_not.mp unnumbered)))

/-- Reading SAK Use fails exactly if it is too short. -/
theorem scanFails_readSakUse_iff (flags : UInt8) :
    scanFails (readSakUse frame flags (pos + 4) (bodyLenAt frame pos)) = true ↔
      bodyLenAt frame pos < 40 := by
  unfold readSakUse
  split
  next short => exact iff_of_true rfl short
  next long => exact iff_of_false Bool.noConfusion long

/-! ## The parsers -/

theorem paramSetsEnd_of_not_basicMalformed (basic : ¬BasicMalformed frame) :
    paramSetsEnd frame = some (setsEnd frame) := by
  unfold BasicMalformed at basic
  unfold paramSetsEnd setsEnd
  dsimp only
  rw [if_neg (by omega), if_neg (by omega)]

theorem scanDistributedSak_eq (long : 90 ≤ frame.length)
    (ends : paramSetsEnd frame = some (setsEnd frame)) :
    scanDistributedSak aes crypto frame =
      walk frame (setsEnd frame) (.error .buffer) (.error .notReady)
        (visitOf paramDistributedSak (readDistributedSak aes crypto frame))
        basicOffset := by
  rw [scanDistributedSak, if_neg (Nat.not_lt.mpr long), ends]
  rfl

theorem scanSakUse_eq (long : 90 ≤ frame.length)
    (ends : paramSetsEnd frame = some (setsEnd frame)) :
    scanSakUse frame =
      walk frame (setsEnd frame) (.error .buffer) (.error .notReady)
        (visitOf paramSakUse (readSakUse frame)) basicOffset := by
  rw [scanSakUse, if_neg (Nat.not_lt.mpr long), ends]
  rfl

/-- The parsers refuse exactly the malformed frames. -/
theorem malformed_iff (isMka : isEapolMka frame = true) :
    Malformed aes crypto frame ↔
      (∃ ret, parseBasic frame = .error ret) ∨
        scanFails (scanDistributedSak aes crypto frame) = true ∨
        scanFails (scanSakUse frame) = true := by
  rw [parseBasic_fails_iff isMka]
  by_cases basic : BasicMalformed frame
  · exact iff_of_true (.basic basic) (.inl basic)
  rw [or_iff_right basic]
  by_cases long : 90 ≤ frame.length
  · have ends := paramSetsEnd_of_not_basicMalformed basic
    rw [scanDistributedSak_eq long ends, scanSakUse_eq long ends,
      scanFails_walk_iff, scanFails_walk_iff]
    simp only [scanFails_readDistributedSak_iff, scanFails_readSakUse_iff]
    constructor
    · rintro (malformed | ⟨rfl | rfl, -, reached, overruns⟩ |
        ⟨-, first, malformed⟩ | ⟨-, first, short⟩)
      · exact absurd malformed basic
      · exact .inl (.inl ⟨_, reached, overruns⟩)
      · exact .inr (.inl ⟨_, reached, overruns⟩)
      · exact .inl (.inr ⟨_, first, malformed⟩)
      · exact .inr (.inr ⟨_, first, short⟩)
    · rintro ((⟨pos, reached, overruns⟩ | ⟨pos, first, malformed⟩) |
        ⟨pos, reached, overruns⟩ | ⟨pos, first, short⟩)
      · exact .overrun (.inl rfl) long reached overruns
      · exact .distributedSak long first malformed
      · exact .overrun (.inr rfl) long reached overruns
      · exact .sakUse long first short
  · rw [scanDistributedSak, scanSakUse, if_pos (Nat.not_le.mp long),
      if_pos (Nat.not_le.mp long)]
    refine iff_of_false ?_ (by rintro (fails | fails) <;> cases fails)
    rintro (malformed | ⟨-, enough, -, -⟩ | ⟨enough, -, -⟩ | ⟨enough, -, -⟩)
    · exact basic malformed
    all_goals exact long enough

end Mka

end Macsec

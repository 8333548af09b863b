import Macsec.Mka.Authentication

/-!
# Frames laid out set by set

A participant may put any parameter sets behind its Basic Parameter Set.  The
receiver reads the Basic Parameter Set back, a walk over the parameter sets
visits them in the order in which they were written, and the integrity check
value verifies.
-/

namespace Macsec

namespace Mka

/-! ## Walking over written parameter sets -/

/-- A parameter set behind the Basic Parameter Set. -/
structure ParamSet where
  type : UInt8
  flags : UInt8
  body : Bytes

/-- The octets of a parameter set. -/
def ParamSet.encode (set : ParamSet) : Bytes :=
  paramSet set.type set.flags 0 set.body

theorem length_paramSet (type flags lenFlags : UInt8) (body : Bytes) :
    (paramSet type flags lenFlags body).length = 4 + body.length := by
  rw [paramSet, List.length_append]
  rfl

/-- The fields of a parameter set that was written somewhere in a frame. -/
theorem paramSet_fields {frame front back : Bytes} {pos : Nat}
    {type flags lenFlags : UInt8} {body : Bytes}
    (written : frame = front ++ (paramSet type flags lenFlags body ++ back))
    (placed : front.length = pos)
    (clear : lenFlags &&& 0x0F = 0) (short : body.length < 256) :
    frame.octetAt pos = type ∧ frame.octetAt (pos + 1) = flags ∧
      bodyLenAt frame pos = body.length := by
  subst placed
  have high : UInt8.ofNat (body.length / 256) &&& 0x0F = 0 := by
    rw [Nat.div_eq_of_lt short]
    rfl
  have third : frame.octetAt (front.length + 2) = lenFlags := by
    rw [written, Bytes.octetAt_append_right]
    change lenFlags ||| (UInt8.ofNat (body.length / 256) &&& 0x0F) = lenFlags
    rw [high, UInt8.or_zero]
  have fourth :
      frame.octetAt (front.length + 3) = UInt8.ofNat body.length := by
    rw [written, Bytes.octetAt_append_right]
    rfl
  refine ⟨?_, ?_, ?_⟩
  · rw [written, ← Nat.add_zero front.length, Bytes.octetAt_append_right]
    rfl
  · rw [written, Bytes.octetAt_append_right]
    rfl
  · rw [bodyLenAt, third, fourth, clear, UInt8.toNat_ofNat',
      Nat.mod_eq_of_lt short]
    exact Nat.zero_add _

/-- Reading behind the head of a written set reads its body. -/
theorem slice_body {frame before after : Bytes} {set : ParamSet}
    (written : frame = before ++ (set.encode ++ after)) (offset n : Nat) :
    frame.slice (before.length + 4 + offset) n =
      Bytes.slice (set.body ++ after) offset n := by
  subst written
  rw [Nat.add_assoc, Bytes.slice_append_right, Nat.add_comm 4 offset]
  rfl

variable {ρ : Type} {frame : Bytes} {finish : Nat} {overflow done : ρ}
  {visit : UInt8 → UInt8 → Nat → Nat → Option ρ}

/-- A walk that has reached the end. -/
theorem walk_finish {pos : Nat} (ended : finish ≤ pos) :
    walk frame finish overflow done visit pos = done := by
  rw [walk, if_neg (by omega)]

/-- A walk over one written set. -/
theorem walk_paramSet {front back : Bytes} {pos : Nat}
    {type flags lenFlags : UInt8} {body : Bytes}
    (written : frame = front ++ (paramSet type flags lenFlags body ++ back))
    (placed : front.length = pos)
    (clear : lenFlags &&& 0x0F = 0) (short : body.length < 256)
    (inside : pos + 4 + body.length ≤ finish) :
    walk frame finish overflow done visit pos =
      if pos = basicOffset then
        walk frame finish overflow done visit (pos + 4 + body.length)
      else
        match visit type flags (pos + 4) body.length with
        | some result => result
        | none =>
            walk frame finish overflow done visit (pos + 4 + body.length) := by
  obtain ⟨rfl, rfl, sameLen⟩ := paramSet_fields written placed clear short
  rw [walk, if_pos (by omega)]
  dsimp only
  rw [sameLen]
  exact if_neg (by omega)

/-- A walk over written sets yields what the first visit yields that yields
anything. -/
theorem walk_sets {read : ParamSet → Option ρ} (sets : List ParamSet)
    {front back : Bytes} {pos : Nat}
    (written : frame = front ++ (sets.flatMap ParamSet.encode ++ back))
    (placed : front.length = pos) (beyond : basicOffset < pos)
    (short : ∀ set ∈ sets, set.body.length < 256)
    (reads : ∀ set ∈ sets, ∀ before after : Bytes,
      frame = before ++ (set.encode ++ after) →
        visit set.type set.flags (before.length + 4) set.body.length =
          read set)
    (finishes : finish = pos + (sets.flatMap ParamSet.encode).length) :
    walk frame finish overflow done visit pos =
      (sets.findSome? read).getD done := by
  induction sets generalizing front pos with
  | nil =>
      rw [List.flatMap_nil, List.length_nil] at finishes
      exact walk_finish (by omega)
  | cons set sets inductionHypothesis =>
      rw [List.forall_mem_cons] at short reads
      rw [List.flatMap_cons, List.append_assoc] at written
      rw [List.flatMap_cons, List.length_append, ParamSet.encode,
        length_paramSet] at finishes
      have visited := reads.1 front _ written
      rw [placed] at visited
      rw [walk_paramSet written placed (by rfl) short.1 (by omega),
        if_neg (by omega), visited, List.findSome?_cons]
      cases read set with
      | some result => rfl
      | none =>
          have rest :
              frame =
                (front ++ set.encode) ++
                  (sets.flatMap ParamSet.encode ++ back) := by
            rw [written, List.append_assoc]
          refine inductionHypothesis rest ?_ (by omega) short.2 reads.2
            (by omega)
          rw [List.length_append, placed, ParamSet.encode, length_paramSet]
          omega

/-- The size of a set that may be absent. -/
theorem length_encode_if (present : Bool) (set : ParamSet) :
    ((if present = true then [set] else []).flatMap ParamSet.encode).length =
      if present = true then 4 + set.body.length else 0 := by
  cases present with
  | false => rfl
  | true =>
      rw [if_pos rfl, if_pos rfl, List.flatMap_singleton, ParamSet.encode,
        length_paramSet]

/-! ## The frame around the sets -/

/-- The length of a frame with given parameter sets in front of its integrity
check value. -/
def laidLen (ckn : Bytes) (sets : List ParamSet) : Nat :=
  50 + ckn.length + (sets.flatMap ParamSet.encode).length

/-- The sizes under which a frame can be laid out. -/
structure Laid (ckn : Bytes) (sets : List ParamSet) : Prop where
  cknFits : ckn.length ≤ caNameMaxLen
  short : ∀ set ∈ sets, set.body.length < 256
  frameFits : laidLen ckn sets + icvLen ≤ maxFrameLen

namespace Participant

variable {ctx : Participant}

/-- The Basic Parameter Set a participant announces itself with. -/
def basic (ctx : Participant) (ckn : Bytes) (icv : Octets 16) : Basic where
  dstMac := dstMac
  srcMac := ctx.localMac
  eapolVersion := eapolVersion2010
  eapolType := eapolTypeMka
  eapolLen := ctx.txMicLen ckn.length + icvLen - 18
  mkaVersion := versionId
  keyServerPriority := ctx.keyServerPriority
  keyServer := ctx.localKeyServer
  macsecDesired := ctx.macsecDesired
  macsecCapability := ctx.macsecCapability &&& 0x03
  bodyLen := 28 + ckn.length
  sci := ctx.localSci
  actorMi := ctx.localMi
  actorMn := ctx.localMn
  algorithmAgility := algorithmAgility
  cakName := ckn
  icv := icv

/-- The flags of the Basic Parameter Set leave room for the body length, and
each is read back. -/
theorem basicFlags_fields :
    ctx.basicFlags &&& 0x0F = 0 ∧
      (ctx.basicFlags &&& 0x80 != 0) = ctx.localKeyServer ∧
      (ctx.basicFlags &&& 0x40 != 0) = ctx.macsecDesired ∧
      ctx.basicFlags >>> 4 &&& 0x03 = ctx.macsecCapability &&& 0x03 := by
  have table : ∀ (low : Fin 4) (keyServer desired : Bool),
      let flags :=
        UInt8.ofNat low.1 <<< 4 ||| (if keyServer then 0x80 else 0) |||
          (if desired then 0x40 else 0)
      flags &&& 0x0F = 0 ∧ (flags &&& 0x80 != 0) = keyServer ∧
        (flags &&& 0x40 != 0) = desired ∧
        flags >>> 4 &&& 0x03 = UInt8.ofNat low.1 := by
    decide
  have small : (ctx.macsecCapability &&& 0x03).toNat < 4 := by
    rw [UInt8.toNat_and]
    exact Nat.and_lt_two_pow _ (by decide : (3 : Nat) < 2 ^ 2)
  have fields :=
    table ⟨_, small⟩ ctx.localKeyServer ctx.macsecDesired
  dsimp only at fields
  rw [UInt8.ofNat_toNat] at fields
  exact fields

/-- The Basic Parameter Set in front of given parameter sets. -/
def laidBasic (ctx : Participant) (ckn : Bytes) (sets : List ParamSet)
    (icv : Octets 16) : Basic :=
  { ctx.basic ckn icv with eapolLen := laidLen ckn sets + icvLen - 18 }

/-- The octets in front of the Basic Parameter Set. -/
def layHeader (ctx : Participant) (frameLen : Nat) : Bytes :=
  dstMac.1 ++ ctx.localMac.1 ++ (wrBe16 ethertypeEapol).1 ++
    [eapolVersion2010, eapolTypeMka] ++
    (wrBe16 (UInt16.ofNat (frameLen - 18))).1

/-- A frame with given parameter sets, in front of its integrity check
value. -/
def layFrame (ctx : Participant) (ckn : Bytes) (sets : List ParamSet) : Bytes :=
  ctx.layHeader (laidLen ckn sets + icvLen) ++
    (ctx.writeBasic ckn ++ sets.flatMap ParamSet.encode)

variable {ckn : Bytes} {sets : List ParamSet}

theorem length_layHeader (frameLen : Nat) :
    (ctx.layHeader frameLen).length = 18 := by
  rw [layHeader]
  simp only [List.length_append, dstMac.2, ctx.localMac.2, (wrBe16 _).2]
  rfl

/-- The size of the body of the Basic Parameter Set. -/
theorem length_basicBody (ckn : Bytes) :
    (ctx.localSci.1 ++ ctx.localMi.1 ++ (wrBe32 ctx.localMn).1 ++
      (wrBe32 algorithmAgility).1 ++ ckn).length = 28 + ckn.length := by
  simp only [List.length_append, ctx.localSci.2, ctx.localMi.2, (wrBe32 _).2]

/-- A frame, field by field. -/
theorem layFrame_fields (ckn : Bytes) (sets : List ParamSet) :
    ctx.layFrame ckn sets =
      dstMac.1 ++ (ctx.localMac.1 ++ ((wrBe16 ethertypeEapol).1 ++
        (eapolVersion2010 :: eapolTypeMka ::
          ((wrBe16 (UInt16.ofNat (laidLen ckn sets + icvLen - 18))).1 ++
            (versionId :: ctx.keyServerPriority ::
              (ctx.basicFlags |||
                (UInt8.ofNat ((28 + ckn.length) / 256) &&& 0x0F)) ::
              UInt8.ofNat (28 + ckn.length) ::
              (ctx.localSci.1 ++ (ctx.localMi.1 ++
                ((wrBe32 ctx.localMn).1 ++
                  ((wrBe32 algorithmAgility).1 ++ (ckn ++
                    sets.flatMap ParamSet.encode)))))))))) := by
  rw [layFrame, layHeader, writeBasic, paramSet, length_basicBody]
  simp only [List.append_assoc, List.cons_append, List.nil_append]

theorem length_layFrame (ckn : Bytes) (sets : List ParamSet) :
    (ctx.layFrame ckn sets).length = laidLen ckn sets := by
  rw [layFrame_fields, laidLen]
  simp only [List.length_append, List.length_cons, dstMac.2, ctx.localMac.2,
    (wrBe16 _).2, (wrBe32 _).2, ctx.localSci.2, ctx.localMi.2]
  omega

/-- The Basic Parameter Set is read back from a frame. -/
theorem readBasic_layFrame (laid : Laid ckn sets) (icv : Octets 16) :
    readBasic (ctx.layFrame ckn sets ++ icv.1) =
      ctx.laidBasic ckn sets icv := by
  have length := @length_layFrame ctx ckn sets
  have cknFits := laid.cknFits
  have frameFits := laid.frameFits
  have cknBound : caNameMaxLen = 32 := rfl
  have frameBound : maxFrameLen = 512 := rfl
  have icvBound : icvLen = 16 := rfl
  have least : 50 + ckn.length ≤ laidLen ckn sets := Nat.le_add_right _ _
  have shortBody : (28 + ckn.length) / 256 = 0 := by omega
  have lengthField :
      (UInt16.ofNat (laidLen ckn sets + icvLen - 18)).toNat =
        laidLen ckn sets + icvLen - 18 := by
    rw [UInt16.toNat_ofNat', Nat.mod_eq_of_lt (by omega)]
  obtain ⟨clear, keyServer, desired, capability⟩ := ctx.basicFlags_fields
  generalize whole : ctx.layFrame ckn sets ++ icv.1 = frame
  have icvField :
      frame.slice (18 + (laidLen ckn sets + icvLen - 18) - icvLen) 16 =
        icv := by
    have placed := Bytes.slice_at icv [] length
    rw [List.append_nil, whole] at placed
    rw [← placed]
    congr 1
    omega
  rw [layFrame_fields, shortBody] at whole
  simp only [List.append_assoc, List.cons_append] at whole
  obtain ⟨version, type, mkaVersion, priority, flags, bodyOctet⟩ :
      frame.octetAt 14 = eapolVersion2010 ∧ frame.octetAt 15 = eapolTypeMka ∧
        frame.octetAt 18 = versionId ∧
        frame.octetAt 19 = ctx.keyServerPriority ∧
        frame.octetAt 20 = ctx.basicFlags ∧
        frame.octetAt 21 = UInt8.ofNat (28 + ckn.length) := by
    rw [← whole]
    simp [Bytes.octetAt_beyond]
  obtain ⟨destination, source, eapolLen, sci, mi, mn, agility, cakName⟩ :
      frame.slice 0 6 = dstMac ∧ frame.slice 6 6 = ctx.localMac ∧
        frame.slice 16 2 =
          wrBe16 (UInt16.ofNat (laidLen ckn sets + icvLen - 18)) ∧
        frame.slice 22 8 = ctx.localSci ∧ frame.slice 30 12 = ctx.localMi ∧
        frame.slice 42 4 = wrBe32 ctx.localMn ∧
        frame.slice 46 4 = wrBe32 algorithmAgility ∧
        (frame.slice 50 ckn.length).1 = ckn := by
    have name (back : Bytes) :
        (Bytes.slice (ckn ++ back) 0 ckn.length).1 = ckn :=
      congrArg Subtype.val
        (Bytes.slice_append_self (⟨ckn, rfl⟩ : Octets ckn.length) back)
    rw [← whole]
    simp [Bytes.slice_beyond, Bytes.slice_cons_succ, Bytes.slice_append_self,
      name]
  have bodyLen : bodyLenAt frame basicOffset = 28 + ckn.length := by
    change (frame.octetAt 20 &&& 0x0F).toNat * 256 +
      (frame.octetAt 21).toNat = _
    rw [flags, clear, bodyOctet, UInt8.toNat_ofNat',
      Nat.mod_eq_of_lt (by omega)]
    exact Nat.zero_add _
  rw [readBasic, laidBasic, basic, bodyLen, rdBe16_eq eapolLen, lengthField,
    icvField, flags, destination, source, version, type, mkaVersion, priority,
    sci, mi, rdBe32_eq mn, rdBe32_eq agility, keyServer, desired, capability,
    Nat.add_sub_cancel_left, cakName]

/-- The headers of a frame pass the checks of the receiver. -/
theorem parse_layFrame (laid : Laid ckn sets) (icv : Octets 16) :
    isEapolMka (ctx.layFrame ckn sets ++ icv.1) = true ∧
      parseBasic (ctx.layFrame ckn sets ++ icv.1) =
        .ok (ctx.laidBasic ckn sets icv) ∧
      paramSetsEnd (ctx.layFrame ckn sets ++ icv.1) =
        some (laidLen ckn sets) := by
  have basic := @readBasic_layFrame ctx _ _ laid icv
  have icvBound : icvLen = 16 := rfl
  have length :
      (ctx.layFrame ckn sets ++ icv.1).length = laidLen ckn sets + icvLen := by
    rw [List.length_append, length_layFrame, icv.2]
    rfl
  have ethertype :
      rdBe16 (ctx.layFrame ckn sets ++ icv.1) 12 = ethertypeEapol := by
    apply rdBe16_eq
    rw [layFrame_fields]
    simp only [List.append_assoc]
    simp [Bytes.slice_beyond, Bytes.slice_append_self]
  generalize ctx.layFrame ckn sets ++ icv.1 = frame at *
  have type : frame.octetAt 15 = eapolTypeMka :=
    congrArg Basic.eapolType basic
  have eapolLen :
      (rdBe16 frame 16).toNat = laidLen ckn sets + icvLen - 18 :=
    congrArg Basic.eapolLen basic
  have cknFits := laid.cknFits
  have cknBound : caNameMaxLen = 32 := rfl
  have least : 50 + ckn.length ≤ laidLen ckn sets := Nat.le_add_right _ _
  refine ⟨?_, ?_, ?_⟩
  · rw [isEapolMka, if_neg (by omega), if_neg (by rw [ethertype]; simp), type]
    rfl
  · have type : (readBasic frame).eapolType = eapolTypeMka := by rw [basic]; rfl
    have eapolLen :
        (readBasic frame).eapolLen = laidLen ckn sets + icvLen - 18 := by
      rw [basic]; rfl
    have bodyLen : (readBasic frame).bodyLen = 28 + ckn.length := by
      rw [basic]; rfl
    rw [parseBasic,
      if_neg (show ¬frame.length < 14 + 4 + 4 + 28 + 16 by omega),
      if_neg (not_not.mpr ethertype), if_neg (not_not.mpr type), eapolLen,
      bodyLen, if_neg (by omega), if_neg (by omega), if_neg (by omega),
      if_neg (by omega), if_neg (by omega), if_neg (by omega), basic]
  · rw [paramSetsEnd, eapolLen, if_neg (by omega), if_neg (by omega)]
    congr 1
    omega

/-- A walk over a frame yields what the first parameter set yields that yields
anything. -/
theorem walk_layFrame (laid : Laid ckn sets) (icv : Octets 16)
    {read : ParamSet → Option ρ}
    (reads : ∀ set ∈ sets, ∀ before after : Bytes,
      ctx.layFrame ckn sets ++ icv.1 = before ++ (set.encode ++ after) →
        visit set.type set.flags (before.length + 4) set.body.length =
          read set) :
    walk (ctx.layFrame ckn sets ++ icv.1) (laidLen ckn sets) overflow done
        visit basicOffset =
      (sets.findSome? read).getD done := by
  have cknFits := laid.cknFits
  have cknBound : caNameMaxLen = 32 := rfl
  have body := @length_basicBody ctx ckn
  have size : laidLen ckn sets =
      50 + ckn.length + (sets.flatMap ParamSet.encode).length := rfl
  have whole :
      ctx.layFrame ckn sets ++ icv.1 =
        ctx.layHeader (laidLen ckn sets + icvLen) ++
          (ctx.writeBasic ckn ++
            (sets.flatMap ParamSet.encode ++ icv.1)) := by
    rw [layFrame]
    simp only [List.append_assoc]
  have behind :
      ctx.layFrame ckn sets ++ icv.1 =
        (ctx.layHeader (laidLen ckn sets + icvLen) ++ ctx.writeBasic ckn) ++
          (sets.flatMap ParamSet.encode ++ icv.1) := by
    rw [whole, List.append_assoc]
  have front :
      (ctx.layHeader (laidLen ckn sets + icvLen) ++
        ctx.writeBasic ckn).length = basicOffset + 4 + (28 + ckn.length) := by
    rw [List.length_append, length_layHeader, writeBasic, length_paramSet,
      body, Nat.add_assoc]
    rfl
  have offset : basicOffset = 18 := rfl
  rw [writeBasic] at whole
  rw [@walk_paramSet _ _ _ _ _ _ _ _ basicOffset _ _ _ _ whole
      (ctx.length_layHeader _) ctx.basicFlags_fields.1 (by omega) (by omega),
    if_pos rfl, body]
  exact walk_sets sets behind front (by omega) laid.short reads (by omega)

/-- The integrity check value of a frame covers what stands in front of it. -/
theorem covered_layFrame (ckn : Bytes) (sets : List ParamSet)
    (icv : Octets 16) :
    (ctx.laidBasic ckn sets icv).micLen = laidLen ckn sets ∧
      (Bytes.slice (ctx.layFrame ckn sets ++ icv.1) 0
        (ctx.laidBasic ckn sets icv).micLen).1 = ctx.layFrame ckn sets := by
  have size := @length_layFrame ctx ckn sets
  have icvBound : icvLen = 16 := rfl
  have least : 50 + ckn.length ≤ laidLen ckn sets := Nat.le_add_right _ _
  have micLen : (ctx.laidBasic ckn sets icv).micLen = laidLen ckn sets := by
    change 14 + 4 + (laidLen ckn sets + icvLen - 18) - icvLen = _
    omega
  refine ⟨micLen, ?_⟩
  rw [micLen, ← size]
  exact congrArg Subtype.val
    (Bytes.slice_append_self (⟨ctx.layFrame ckn sets, rfl⟩ : Octets _) icv.1)

/-- A frame carries the CMAC of its covered octets. -/
theorem verifies_layFrame {aes : BlockCipher} {receiver : Ctx}
    (keyed : receiver.crypto.Keyed) (laid : Laid ckn sets) {icv : Octets 16}
    (mic : MkaCrypto.cmac aes receiver.crypto.keys.ick
      (ctx.layFrame ckn sets) = .ok icv) :
    (verifyIcv aes receiver (ctx.layFrame ckn sets ++ icv.1)
      (ctx.laidBasic ckn sets icv)).1 = .ok := by
  obtain ⟨micLen, covered⟩ := ctx.covered_layFrame ckn sets icv
  have fits := laid.frameFits
  rw [verifyIcv_eq_ok_iff keyed (parse_layFrame laid icv).2.1, CarriesMic,
    covered, micLen]
  exact ⟨by omega, mic⟩

end Participant

/-- A frame with the CMAC of its covered octets is accepted by every other
participant with the same key, whichever parameter sets it carries. -/
theorem classify_layFrame {aes : BlockCipher} {receiver : Ctx}
    {sender : Participant} {ckn : Bytes} {sets : List ParamSet}
    (keyed : receiver.crypto.Keyed) (verifying : receiver.verifyIcv = true)
    (laid : Laid ckn sets) {icv : Octets 16}
    (mic : MkaCrypto.cmac aes receiver.crypto.keys.ick
      (sender.layFrame ckn sets) = .ok icv)
    (otherMac : sender.localMac ≠ receiver.localMac)
    (otherSci : sender.localSci ≠ receiver.localSci)
    (otherMi : sender.localMi ≠ receiver.localMi) :
    classify aes receiver (sender.layFrame ckn sets ++ icv.1) =
      .accepted
        (decode aes receiver.crypto receiver.localMi
          (sender.layFrame ckn sets ++ icv.1)
          (sender.laidBasic ckn sets icv)) := by
  obtain ⟨isMka, parsed, -⟩ := @Participant.parse_layFrame sender _ _ laid icv
  have foreign :
      isOwnFrame receiver.toParticipant (sender.laidBasic ckn sets icv) =
        false := by
    simp only [isOwnFrame, Participant.laidBasic, Participant.basic,
      Bool.or_eq_false_iff, beq_eq_false_iff_ne, ne_eq, compare_octets_eq_zero]
    exact ⟨⟨otherMac, otherSci⟩, otherMi⟩
  have verified :
      (authenticate aes receiver (sender.layFrame ckn sets ++ icv.1)
        (sender.laidBasic ckn sets icv)).1 = .ok :=
    (authenticate_fst verifying _ _).trans
      (Participant.verifies_layFrame keyed laid mic)
  rw [classify, isMka, if_neg (by decide), parsed]
  dsimp only
  rw [foreign, if_neg Bool.false_ne_true, verified]

end Mka

end Macsec

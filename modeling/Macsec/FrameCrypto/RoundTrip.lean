import Macsec.FrameCrypto.Frames

/-!
# Opening what was protected

A protected frame is a function of its key, its association number, its packet
number, its channel identifier and its plaintext; a frame opens under a key to
at most one payload, and a protected frame opens under its key to the payload
it was made from.  Both hold of a context whose GCM working context belongs to
the key that its records name.
-/

namespace Macsec

namespace FrameCrypto

/-! ## The GCM working context -/

/-- A GCM context that is set up for a key. -/
def KeyedFor (aes : BlockCipher) (gcm : Gcm.Ctx) (key : Bytes) : Prop :=
  Gcm.SameKey gcm (Gcm.keyed aes key)

/-- The GCM working context belongs to the key that the records name. -/
def Ctx.Cached (aes : BlockCipher) (ctx : Ctx) : Prop :=
  ctx.currentGcmKeyValid = true → KeyedFor aes ctx.gcm ctx.currentGcmKey

variable {aes : BlockCipher} {ctx : Ctx}

theorem keyBitsSupported_of_keyLenValid {key : Bytes}
    (size : keyLenValid key.length = true) :
    keyBitsSupported (key.length * 8) = true := by
  rcases (by simpa [keyLenValid] using size :
    key.length = 16 ∨ key.length = 32) with size | size
  · rw [size]
    rfl
  · rw [size]
    rfl

/-- Setting a key of a supported size succeeds. -/
theorem gcmSetKey_eq (cached : ctx.Cached aes) {key : Bytes}
    (size : keyLenValid key.length = true) :
    ∃ initialized gcm,
      gcmSetKey aes ctx key =
          (.ok,
            { toSaTable := ctx.toSaTable.withCache initialized key true
              gcm := gcm }) ∧
        KeyedFor aes gcm key := by
  unfold gcmSetKey
  split
  next hit =>
      rw [Bool.and_eq_true, Bool.and_eq_true, beq_iff_eq, beq_iff_eq] at hit
      have same := (compare_eq_zero hit.1.2).mp hit.2
      refine ⟨ctx.gcmInitialized, ctx.gcm, ?_, same ▸ cached hit.1.1⟩
      have records :
          ctx.toSaTable =
            ctx.toSaTable.withCache ctx.gcmInitialized key true := by
        rw [SaTable.withCache, ← same, ← hit.1.1]
      rw [← records]
  next =>
      dsimp only
      rw [Gcm.setKey_eq aes (keyBitsSupported_of_keyLenValid size)]
      exact ⟨true, _, rfl, Gcm.SameKey.refl _⟩

/-- The records of the key after it was set belong to the GCM context. -/
theorem gcmSetKey_cached (cached : ctx.Cached aes) (key : Bytes) :
    (gcmSetKey aes ctx key).2.Cached aes := by
  unfold gcmSetKey
  split
  next => exact cached
  next =>
      dsimp only
      split
      next gcm result =>
          intro _
          change Gcm.SameKey gcm (Gcm.keyed aes key)
          rw [Gcm.keyed, result]
          exact Gcm.SameKey.refl gcm
      next => exact fun valid => Bool.noConfusion valid

/-! ## Sealing and opening as functions of the key -/

/-- The frame that protects a plaintext. -/
def sealFrame (aes : BlockCipher) (key : Bytes) (an : Fin 4) (pn : UInt32)
    (sci : Octets 8) (plain : Bytes) : Bytes :=
  let header := aad (plain.slice 0 12) an (plain.drop 12).length pn sci
  let result :=
    Gcm.cryptAndTag aes (Gcm.keyed aes key) .encrypt (frameIv sci pn) header
      (plain.drop 12) icvLen
  header ++ result.output ++ result.tag

/-- A frame opens under a key to a payload. -/
def Opens (aes : BlockCipher) (key frame payload : Bytes) : Prop :=
  let result :=
    Gcm.authDecrypt aes (Gcm.keyed aes key)
      (frameIv (frameSci frame) (framePn frame)) (frame.slice 0 aadLen).1
      (frame.slice (frame.length - icvLen) icvLen).1
      (frame.slice aadLen (frame.length - aadLen - icvLen)).1
  result.1 = .ok ∧ result.2.2 = payload

theorem length_frameIv (sci : Octets 8) (pn : UInt32) :
    (frameIv sci pn).length = 12 := by
  rw [frameIv, List.length_append, sci.2, (wrBe32 pn).2]

/-- The GCM operation on a frame succeeds. -/
theorem sealed_ok (gcm : Gcm.Ctx) (sci : Octets 8) (pn : UInt32)
    (addresses : Octets 12) (an : Fin 4) {payload : Bytes}
    (short : payload.length ≤ maxPlainSize) :
    let result :=
      Gcm.cryptAndTag aes gcm .encrypt (frameIv sci pn)
        (aad addresses an payload.length pn sci) payload icvLen
    result.ret = .ok ∧ result.output.length = payload.length ∧
      result.tag.length = icvLen := by
  have bound : maxPlainSize = 1600 := rfl
  refine Gcm.cryptAndTag_ok aes gcm .encrypt ?_ ?_ ?_ (by omega) (by decide)
    (by decide)
  · rw [length_frameIv]
    decide
  · rw [length_frameIv]
    decide
  · rw [length_aad]
    decide

/-- Operations on frames depend on the key only. -/
theorem KeyedFor.cryptAndTag {gcm : Gcm.Ctx} {key : Bytes}
    (keyed : KeyedFor aes gcm key) (sci : Octets 8) (pn : UInt32)
    (addresses : Octets 12) (an : Fin 4) (payloadLen : Nat) (payload : Bytes) :
    Gcm.cryptAndTag aes gcm .encrypt (frameIv sci pn)
        (aad addresses an payloadLen pn sci) payload icvLen =
      Gcm.cryptAndTag aes (Gcm.keyed aes key) .encrypt (frameIv sci pn)
        (aad addresses an payloadLen pn sci) payload icvLen := by
  refine Gcm.SameKey.cryptAndTag aes gcm .encrypt ?_ ?_ ?_ keyed payload icvLen
  · rw [length_frameIv]
    decide
  · rw [length_frameIv]
    decide
  · rw [length_aad]
    decide

theorem KeyedFor.authDecrypt {gcm : Gcm.Ctx} {key : Bytes}
    (keyed : KeyedFor aes gcm key) (sci : Octets 8) (pn : UInt32)
    (header : Octets aadLen) (tag payload : Bytes) :
    Gcm.authDecrypt aes gcm (frameIv sci pn) header.1 tag payload =
      Gcm.authDecrypt aes (Gcm.keyed aes key) (frameIv sci pn) header.1 tag
        payload := by
  refine Gcm.SameKey.authDecrypt aes gcm ?_ ?_ ?_ keyed tag payload
  · rw [length_frameIv]
    decide
  · rw [length_frameIv]
    decide
  · rw [header.2]
    decide

/-- The layout of a protected frame. -/
theorem sealFrame_layout (key : Bytes) (an : Fin 4) (pn : UInt32)
    (sci : Octets 8) {plain : Bytes}
    (short : plain.length ≤ maxPlainSize) :
    let frame := sealFrame aes key an pn sci plain
    let result :=
      Gcm.cryptAndTag aes (Gcm.keyed aes key) .encrypt (frameIv sci pn)
        (aad (plain.slice 0 12) an (plain.drop 12).length pn sci)
        (plain.drop 12) icvLen
    frame.length = aadLen + (plain.length - 12) + icvLen ∧
      (frame.slice 0 aadLen).1 =
        aad (plain.slice 0 12) an (plain.drop 12).length pn sci ∧
      (frame.slice aadLen (frame.length - aadLen - icvLen)).1 =
        result.output ∧
      (frame.slice (frame.length - icvLen) icvLen).1 = result.tag := by
  have payloadShort : (plain.drop 12).length ≤ maxPlainSize := by
    rw [List.length_drop]
    omega
  obtain ⟨-, outputLength, tagLength⟩ :=
    @sealed_ok aes (Gcm.keyed aes key) sci pn (plain.slice 0 12) an
      _ payloadShort
  have headerLength :=
    length_aad (plain.slice 0 12) an (plain.drop 12).length pn sci
  have payloadLength : (plain.drop 12).length = plain.length - 12 :=
    List.length_drop
  dsimp only
  unfold sealFrame
  dsimp only at outputLength tagLength ⊢
  generalize Gcm.cryptAndTag aes (Gcm.keyed aes key) .encrypt (frameIv sci pn)
    (aad (plain.slice 0 12) an (plain.drop 12).length pn sci)
    (plain.drop 12) icvLen = result at outputLength tagLength ⊢
  generalize aad (plain.slice 0 12) an (plain.drop 12).length pn sci = header
    at headerLength ⊢
  obtain ⟨ret, gcm, output, tag⟩ := result
  dsimp only at outputLength tagLength ⊢
  rw [payloadLength] at outputLength
  have length :
      (header ++ output ++ tag).length =
        aadLen + (plain.length - 12) + icvLen := by
    rw [List.length_append, List.length_append, headerLength, outputLength,
      tagLength]
  refine ⟨length, ?_, ?_, ?_⟩
  · rw [List.append_assoc]
    exact congrArg Subtype.val
      (Bytes.slice_append_self (⟨header, headerLength⟩ : Octets aadLen)
        (output ++ tag))
  · have inside : (header ++ output ++ tag).length - aadLen - icvLen =
        output.length := by
      rw [length, outputLength]
      omega
    rw [inside, List.append_assoc]
    have behind :=
      Bytes.slice_append_right header (output ++ tag) 0 output.length
    rw [headerLength, Nat.add_zero] at behind
    rw [behind]
    exact congrArg Subtype.val
      (Bytes.slice_append_self (⟨output, rfl⟩ : Octets output.length) tag)
  · have start : (header ++ output ++ tag).length - icvLen =
        (header ++ output).length + 0 := by
      rw [length, List.length_append, headerLength, outputLength]
      omega
    rw [start, Bytes.slice_append_right]
    have whole :=
      Bytes.slice_append_self (⟨tag, tagLength⟩ : Octets icvLen) []
    rw [List.append_nil] at whole
    exact congrArg Subtype.val whole

/-- The addresses and the tag fields of a protected frame. -/
theorem sealFrame_fields (key : Bytes) (an : Fin 4) (pn : UInt32)
    (sci : Octets 8) (plain : Bytes) :
    frameSci (sealFrame aes key an pn sci plain) = sci ∧
      framePn (sealFrame aes key an pn sci plain) = pn ∧
      frameAn (sealFrame aes key an pn sci plain) = an ∧
      (sealFrame aes key an pn sci plain).slice 0 12 = plain.slice 0 12 := by
  unfold sealFrame
  dsimp only
  rw [List.append_assoc]
  refine ⟨frameSci_aad .., framePn_aad .., frameAn_aad .., ?_⟩
  simp only [aad, List.append_assoc]
  exact Bytes.slice_append_self (plain.slice 0 12) _

/-- A protected frame opens under its key to what it protects, and to nothing
else. -/
theorem opens_sealFrame (key : Bytes) (an : Fin 4) (pn : UInt32)
    (sci : Octets 8) {plain : Bytes} (short : plain.length ≤ maxPlainSize)
    (payload : Bytes) :
    Opens aes key (sealFrame aes key an pn sci plain) payload ↔
      payload = plain.drop 12 := by
  obtain ⟨-, header, ciphertext, tag⟩ :=
    @sealFrame_layout aes key an pn sci plain short
  obtain ⟨sameSci, samePn, -, -⟩ := @sealFrame_fields aes key an pn sci plain
  have payloadShort : (plain.drop 12).length ≤ maxPlainSize := by
    rw [List.length_drop]
    omega
  have opened :=
    Gcm.authDecrypt_cryptAndTag aes (Gcm.SameKey.refl (Gcm.keyed aes key))
      (@sealed_ok aes (Gcm.keyed aes key) sci pn (plain.slice 0 12) an
        _ payloadShort).1
  dsimp only at header ciphertext tag opened
  unfold Opens
  rw [header, ciphertext, tag, sameSci, samePn]
  dsimp only
  rw [opened.2]
  exact ⟨fun opens => opens.2.symm, fun same => ⟨opened.1, same.symm⟩⟩

/-- What a protected frame opens to under its key. -/
theorem payload_of_opens {key frame plain payload : Bytes} {an : Fin 4}
    {pn : UInt32} {sci : Octets 8}
    (form : frame = sealFrame aes key an pn sci plain)
    (short : plain.length ≤ maxPlainSize)
    (opens : Opens aes key frame payload) : payload = plain.drop 12 := by
  subst form
  exact (opens_sealFrame key an pn sci short payload).mp opens

/-- A frame cut behind its addresses and joined again. -/
theorem take_append_drop_addresses {plain : Bytes}
    (long : ethHdrLen ≤ plain.length) :
    (plain.slice 0 12).1 ++ plain.drop 12 = plain := by
  have inside : 0 + 12 ≤ plain.length := by
    have header : ethHdrLen = 14 := rfl
    omega
  rw [Bytes.slice_val plain inside, List.drop_zero, List.take_append_drop]

/-! ## Protecting -/

/-- The conditions under which a frame can be protected. -/
structure Sendable (table : SaTable) (plainLen secureMaxLen : Nat) :
    Prop where
  ready : readyTx table = true
  enabled : table.encrypt = true
  long : ethHdrLen ≤ plainLen
  short : plainLen ≤ maxPlainSize
  room : ethHdrLen + secTagLen + (plainLen - 12) + icvLen ≤ secureMaxLen

/-- The checks decide these conditions. -/
theorem encryptCheck_iff {table : SaTable} {plainLen secureMaxLen : Nat} :
    encryptCheck table plainLen secureMaxLen = .ok table.txSak.nextPn ↔
      Sendable table plainLen secureMaxLen := by
  have sizes :
      maxPlainSize = 1600 ∧ maxSecureSize = 1700 ∧ ethHdrLen = 14 ∧
        secTagLen = 14 ∧ icvLen = 16 :=
    ⟨rfl, rfl, rfl, rfl, rfl⟩
  unfold encryptCheck
  dsimp only
  constructor
  · intro checked
    split_ifs at checked with disabled notReady short long outLong room zero
    rw [Bool.not_eq_true', Bool.not_eq_false] at disabled notReady
    exact ⟨notReady, disabled, by omega, by omega, by omega⟩
  · intro sendable
    have ready := sendable.ready
    have enabled := sendable.enabled
    have long := sendable.long
    have short := sendable.short
    have room := sendable.room
    have nonzero : table.txSak.nextPn ≠ 0 := by
      simp only [readyTx, Bool.and_eq_true, bne_iff_ne] at ready
      exact ready.2
    rw [if_neg (by simp [enabled]), if_neg (by simp [ready]),
      if_neg (by omega), if_neg (by omega), if_neg (by omega),
      if_neg (by omega), if_neg nonzero]

theorem keyLenValid_of_readyTx {table : SaTable}
    (ready : readyTx table = true) :
    keyLenValid table.txSak.key.length = true := by
  simp only [readyTx, Bool.and_eq_true] at ready
  exact ready.1.2

/-- A frame that can be protected is, by the frame that its association
determines. -/
theorem encrypt_eq (cached : ctx.Cached aes) {plain : Bytes}
    {secureMaxLen : Nat}
    (sendable : Sendable ctx.toSaTable plain.length secureMaxLen) :
    (encrypt aes ctx plain secureMaxLen).1 = .ok ∧
      (encrypt aes ctx plain secureMaxLen).2.2 =
        sealFrame aes ctx.txSak.key ctx.txSak.an ctx.txSak.nextPn ctx.localSci
          plain := by
  obtain ⟨initialized, gcm, result, keyed⟩ :=
    gcmSetKey_eq cached (keyLenValid_of_readyTx sendable.ready)
  have payloadShort : (plain.drop 12).length ≤ maxPlainSize := by
    rw [List.length_drop]
    exact (Nat.sub_le _ _).trans sendable.short
  obtain ⟨ok, -, -⟩ :=
    @sealed_ok aes gcm ctx.localSci ctx.txSak.nextPn
      (plain.slice 0 12) ctx.txSak.an _ payloadShort
  unfold encrypt
  rw [encryptCheck_iff.mpr sendable]
  dsimp only
  rw [result]
  dsimp only [SaTable.withCache] at ok ⊢
  rw [if_neg (not_not_intro ok), keyed.cryptAndTag]
  exact ⟨rfl, rfl⟩

/-- Every protected frame is the frame that its association determines. -/
theorem encrypt_ok (cached : ctx.Cached aes) {plain : Bytes}
    {secureMaxLen : Nat}
    (ok : (encrypt aes ctx plain secureMaxLen).1 = .ok) :
    ethHdrLen ≤ plain.length ∧ plain.length ≤ maxPlainSize ∧
      (encrypt aes ctx plain secureMaxLen).2.2 =
        sealFrame aes ctx.txSak.key ctx.txSak.an ctx.txSak.nextPn ctx.localSci
          plain := by
  have sendable : Sendable ctx.toSaTable plain.length secureMaxLen := by
    rw [← encryptCheck_iff]
    revert ok
    unfold encrypt
    cases checked :
        encryptCheck ctx.toSaTable plain.length secureMaxLen with
    | error ret =>
        rintro rfl
        exact absurd checked (encryptCheck_ne_error_ok _ _ _)
    | ok pn =>
        intro _
        obtain ⟨-, rfl, -⟩ := encryptCheck_ok checked
        rfl
  exact ⟨sendable.long, sendable.short, (encrypt_eq cached sendable).2⟩

theorem encrypt_cached (cached : ctx.Cached aes) (plain : Bytes)
    (secureMaxLen : Nat) :
    (encrypt aes ctx plain secureMaxLen).2.1.Cached aes := by
  unfold encrypt
  cases encryptCheck ctx.toSaTable plain.length secureMaxLen with
  | error ret => exact cached
  | ok pn =>
      have set := gcmSetKey_cached cached ctx.txSak.key
      revert set
      dsimp only
      rcases gcmSetKey aes ctx ctx.txSak.key with ⟨ret, keyed⟩
      intro set
      cases ret with
      | ok =>
          dsimp only
          split
          next =>
              exact fun valid =>
                (Gcm.cryptAndTag_sameKey aes keyed.gcm _ _ _ _ _).trans
                  (set valid)
          next =>
              exact fun valid =>
                (Gcm.cryptAndTag_sameKey aes keyed.gcm _ _ _ _ _).trans
                  (set valid)
      | param | buffer | crypto | state | replay | unsupported | auth
      | timeout | notReady | busy => exact set

/-! ## Opening -/

/-- An association under which frames can be opened has a key of a supported
size. -/
theorem keyLenValid_of_readyRx {table : SaTable} {an : Fin 4}
    (ready : readyRx table an = true) :
    keyLenValid (table.rxSak an).key.length = true := by
  simp only [readyRx, Bool.and_eq_true] at ready
  exact ready.1.2

/-- Only a frame that passes the checks is accepted. -/
theorem decryptCheck_of_ok {secure plain : Bytes}
    (ok : (decrypt aes ctx secure plain).1 = .ok) :
    decryptCheck ctx.toSaTable secure plain.length = .ok := by
  revert ok
  unfold decrypt
  cases decryptCheck ctx.toSaTable secure plain.length with
  | ok => exact fun _ => rfl
  | param | buffer | crypto | state | replay | unsupported | auth | timeout
  | notReady | busy => exact fun ok => Err.noConfusion ok

/-- A payload is as long as the part of the frame it was opened from. -/
theorem length_of_opens {key frame payload : Bytes}
    (opens : Opens aes key frame payload) :
    payload.length = frame.length - aadLen - icvLen := by
  have length := Gcm.length_authDecrypt_of_ok aes opens.1
  rw [opens.2] at length
  exact length.trans
    (frame.slice aadLen (frame.length - aadLen - icvLen)).2

/-- What is passed on is the payload to which the frame opens under the key of
the association it selects, behind its addresses. -/
theorem decrypt_ok (cached : ctx.Cached aes) {secure plain : Bytes}
    (ok : (decrypt aes ctx secure plain).1 = .ok) :
    ∃ payload, Opens aes (ctx.rxSak (frameAn secure)).key secure payload ∧
      (decrypt aes ctx secure plain).2.2.1.take
          (decrypt aes ctx secure plain).2.2.2 =
        (secure.slice 0 12).1 ++ payload := by
  have checked := decryptCheck_of_ok ok
  obtain ⟨initialized, gcm, result, keyed⟩ :=
    gcmSetKey_eq cached (keyLenValid_of_readyRx (decryptCheck_ok checked).1)
  unfold decrypt at ok ⊢
  rw [checked] at ok ⊢
  dsimp only at ok ⊢
  rw [result] at ok ⊢
  dsimp only at ok ⊢
  rw [keyed.authDecrypt] at ok ⊢
  split at ok
  next => exact absurd ok Err.noConfusion
  next opened =>
      rw [if_neg opened]
      have opens :
          Opens aes (ctx.rxSak (frameAn secure)).key secure _ :=
        ⟨not_not.mp opened, rfl⟩
      refine ⟨_, opens, ?_⟩
      have whole :=
        congrArg (12 + ·) (length_of_opens opens)
      rw [← (secure.slice 0 12).2, ← List.length_append,
        (secure.slice 0 12).2] at whole
      dsimp only at whole ⊢
      rw [← whole]
      exact Bytes.take_overlay_zero _ _

/-- The length of the plaintext of an accepted frame. -/
theorem decrypt_len {secure plain : Bytes}
    (ok : (decrypt aes ctx secure plain).1 = .ok) :
    (decrypt aes ctx secure plain).2.2.2 =
      12 + (secure.length - aadLen - icvLen) := by
  revert ok
  unfold decrypt
  cases decryptCheck ctx.toSaTable secure plain.length with
  | ok =>
      dsimp only
      rcases gcmSetKey aes ctx (ctx.rxSak (frameAn secure)).key with
        ⟨ret, keyed⟩
      cases ret with
      | ok =>
          dsimp only
          split
          next => exact fun refused => Err.noConfusion refused
          next => exact fun _ => rfl
      | param | buffer | crypto | state | replay | unsupported | auth
      | timeout | notReady | busy => exact fun ok => Err.noConfusion ok
  | param | buffer | crypto | state | replay | unsupported | auth | timeout
  | notReady | busy => exact fun ok => Err.noConfusion ok

/-- A frame that passes the checks and opens is accepted. -/
theorem decrypt_of_opens (cached : ctx.Cached aes)
    {secure plain payload : Bytes}
    (checked : decryptCheck ctx.toSaTable secure plain.length = .ok)
    (opens : Opens aes (ctx.rxSak (frameAn secure)).key secure payload) :
    (decrypt aes ctx secure plain).1 = .ok := by
  obtain ⟨initialized, gcm, result, keyed⟩ :=
    gcmSetKey_eq cached (keyLenValid_of_readyRx (decryptCheck_ok checked).1)
  unfold decrypt
  rw [checked]
  dsimp only
  rw [result]
  dsimp only
  rw [keyed.authDecrypt, if_neg (not_not_intro opens.1)]

/-- The conditions under which a frame of a sender is acceptable. -/
structure Receivable (table : SaTable) (an : Fin 4) (pn : UInt32)
    (plainLen plainMaxLen : Nat) : Prop where
  ready : readyRx table an = true
  nonzero : pn ≠ 0
  fresh : replayCheck table (table.rxSak an) pn = .ok
  long : ethHdrLen ≤ plainLen
  short : plainLen ≤ maxPlainSize
  room : plainLen ≤ plainMaxLen

/-- The format checks of a protected frame. -/
structure WellFormed (secure : Bytes) (plainMaxLen : Nat) : Prop where
  short : secure.length ≤ maxSecureSize
  isMacsec : isMacsec secure = true
  long : aadLen + icvLen ≤ secure.length
  tci : secure.octetAt ethHdrLen &&& tciMask = tciBase
  pn : framePn secure ≠ 0
  fits : 12 + (secure.length - aadLen - icvLen) ≤ maxPlainSize
  room : 12 + (secure.length - aadLen - icvLen) ≤ plainMaxLen
  shortLen : secure.octetAt (ethHdrLen + 1) =
    shortLen (secure.length - aadLen - icvLen)

/-- A well-formed frame passes the checks if and only if its association is
ready and its packet number acceptable. -/
theorem decryptCheck_iff {table : SaTable} {secure : Bytes}
    {plainMaxLen : Nat} (wellFormed : WellFormed secure plainMaxLen) :
    decryptCheck table secure plainMaxLen = .ok ↔
      readyRx table (frameAn secure) = true ∧
        replayCheck table (table.rxSak (frameAn secure)) (framePn secure) =
          .ok := by
  refine ⟨fun checked => ?_, fun ⟨ready, accepts⟩ => ?_⟩
  · obtain ⟨ready, -, accepts⟩ := decryptCheck_ok checked
    exact ⟨ready, accepts⟩
  · obtain ⟨short, isMacsec, long, tci, pn, fits, room, shortLen⟩ := wellFormed
    unfold decryptCheck
    dsimp only
    rw [if_neg (by omega), isMacsec, ready, accepts, if_neg (by decide),
      if_neg (by omega), if_neg (not_not_intro tci), if_neg (by decide),
      if_neg pn, if_neg (by decide), if_neg (by omega), if_neg (by omega),
      if_neg (not_not_intro shortLen)]

/-- A protected frame with a packet number other than zero is well formed. -/
theorem wellFormed_sealFrame {key : Bytes} {an : Fin 4} {pn : UInt32}
    {sci : Octets 8} {plain : Bytes} {plainMaxLen : Nat} (nonzero : pn ≠ 0)
    (long : ethHdrLen ≤ plain.length) (short : plain.length ≤ maxPlainSize)
    (room : plain.length ≤ plainMaxLen) :
    WellFormed (sealFrame aes key an pn sci plain) plainMaxLen := by
  obtain ⟨length, -, -, -⟩ := @sealFrame_layout aes key an pn sci plain short
  obtain ⟨-, samePn, -, -⟩ := @sealFrame_fields aes key an pn sci plain
  have sizes :
      maxPlainSize = 1600 ∧ maxSecureSize = 1700 ∧ ethHdrLen = 14 ∧
        aadLen = 28 ∧ icvLen = 16 :=
    ⟨rfl, rfl, rfl, rfl, rfl⟩
  have payloadLen :
      (sealFrame aes key an pn sci plain).length - aadLen - icvLen =
        (plain.drop 12).length := by
    rw [length, List.length_drop]
    omega
  refine ⟨by omega, ?_, by omega, ?_, by rw [samePn]; exact nonzero, ?_, ?_,
    ?_⟩
  · rw [sealFrame, List.append_assoc]
    exact isMacsec_aad ..
  · rw [sealFrame, List.append_assoc, octetAt_aad]
    clear * -
    revert an
    decide
  · rw [payloadLen, List.length_drop]
    omega
  · rw [payloadLen, List.length_drop]
    omega
  · rw [payloadLen, sealFrame, List.append_assoc]
    exact octetAt_shortLen_aad ..

/-- A protected frame passes the checks of a receiver that finds its packet
number acceptable. -/
theorem decryptCheck_sealFrame {table : SaTable} {key : Bytes} {an : Fin 4}
    {pn : UInt32} {sci : Octets 8} {plain : Bytes} {plainMaxLen : Nat}
    (receivable : Receivable table an pn plain.length plainMaxLen) :
    decryptCheck table (sealFrame aes key an pn sci plain) plainMaxLen =
      .ok := by
  obtain ⟨ready, nonzero, fresh, long, short, room⟩ := receivable
  obtain ⟨-, samePn, sameAn, -⟩ := @sealFrame_fields aes key an pn sci plain
  rw [decryptCheck_iff (wellFormed_sealFrame nonzero long short room), samePn,
    sameAn]
  exact ⟨ready, fresh⟩

theorem decrypt_cached (cached : ctx.Cached aes) (secure plain : Bytes) :
    (decrypt aes ctx secure plain).2.1.Cached aes := by
  unfold decrypt
  cases decryptCheck ctx.toSaTable secure plain.length with
  | ok =>
      have set := gcmSetKey_cached cached (ctx.rxSak (frameAn secure)).key
      revert set
      dsimp only
      rcases gcmSetKey aes ctx (ctx.rxSak (frameAn secure)).key with
        ⟨ret, keyed⟩
      intro set
      cases ret with
      | ok =>
          dsimp only
          split
          next =>
              exact fun valid =>
                (Gcm.authDecrypt_sameKey aes keyed.gcm _ _ _ _).trans
                  (set valid)
          next =>
              unfold recordPn
              split
              next =>
                  exact fun valid =>
                    (Gcm.authDecrypt_sameKey aes keyed.gcm _ _ _ _).trans
                      (set valid)
              next =>
                  exact fun valid =>
                    (Gcm.authDecrypt_sameKey aes keyed.gcm _ _ _ _).trans
                      (set valid)
      | param | buffer | crypto | state | replay | unsupported | auth
      | timeout | notReady | busy => exact set
  | param | buffer | crypto | state | replay | unsupported | auth | timeout
  | notReady | busy => exact cached

end FrameCrypto

end Macsec

import Macsec.FrameCrypto.Defs

/-!
# Protected frames

What protecting and opening a frame does to the associations, and how the
SecTAG of a frame is read back.
-/

namespace Macsec

namespace FrameCrypto

/-! ## Reading the SecTAG back -/

section SecTag

variable (addresses : Octets 12) (an : Fin 4) (payloadLen : Nat) (pn : UInt32)
  (sci : Octets 8) (rest : Bytes)

theorem length_aad : (aad addresses an payloadLen pn sci).length = aadLen := by
  simp [aad, addresses.2, sci.2, (wrBe16 ethertype).2, (wrBe32 pn).2, aadLen,
    ethHdrLen, secTagLen]

/-- The part of the additional data in front of the packet number. -/
theorem aad_split :
    ∃ front : Bytes, front.length = 16 ∧
      aad addresses an payloadLen pn sci = front ++ ((wrBe32 pn).1 ++ sci.1) :=
  ⟨addresses.1 ++ (wrBe16 ethertype).1 ++
      [tciBase ||| UInt8.ofNat an.1, shortLen payloadLen],
    by simp [addresses.2, (wrBe16 ethertype).2],
    by simp only [aad, List.append_assoc]⟩

theorem framePn_aad :
    framePn (aad addresses an payloadLen pn sci ++ rest) = pn := by
  obtain ⟨front, length, split⟩ := aad_split addresses an payloadLen pn sci
  apply rdBe32_eq
  have behind :=
    Bytes.slice_append_right front ((wrBe32 pn).1 ++ (sci.1 ++ rest)) 0 4
  rw [length] at behind
  rw [split, List.append_assoc, List.append_assoc]
  exact behind.trans (Bytes.slice_append_self _ _)

theorem frameSci_aad :
    frameSci (aad addresses an payloadLen pn sci ++ rest) = sci := by
  obtain ⟨front, length, split⟩ := aad_split addresses an payloadLen pn sci
  have behind :=
    Bytes.slice_append_right (front ++ (wrBe32 pn).1) (sci.1 ++ rest) 0 8
  rw [List.length_append, length, (wrBe32 pn).2] at behind
  rw [frameSci, split]
  simp only [List.append_assoc] at behind ⊢
  exact behind.trans (Bytes.slice_append_self _ _)

/-- The octet with the association number. -/
theorem octetAt_aad :
    (aad addresses an payloadLen pn sci ++ rest).octetAt ethHdrLen =
      tciBase ||| UInt8.ofNat an.1 := by
  have behind :=
    Bytes.octetAt_append_right (addresses.1 ++ (wrBe16 ethertype).1)
      ((tciBase ||| UInt8.ofNat an.1) :: (shortLen payloadLen ::
        ((wrBe32 pn).1 ++ (sci.1 ++ rest)))) 0
  rw [List.length_append, addresses.2, (wrBe16 ethertype).2] at behind
  simp only [aad, List.append_assoc, List.cons_append, List.nil_append] at *
  exact behind

/-- The octet with the length of a short payload. -/
theorem octetAt_shortLen_aad :
    (aad addresses an payloadLen pn sci ++ rest).octetAt (ethHdrLen + 1) =
      shortLen payloadLen := by
  have behind :=
    Bytes.octetAt_append_right (addresses.1 ++ (wrBe16 ethertype).1)
      ((tciBase ||| UInt8.ofNat an.1) :: (shortLen payloadLen ::
        ((wrBe32 pn).1 ++ (sci.1 ++ rest)))) 1
  rw [List.length_append, addresses.2, (wrBe16 ethertype).2] at behind
  simp only [aad, List.append_assoc, List.cons_append, List.nil_append] at *
  exact behind

theorem isMacsec_aad :
    isMacsec (aad addresses an payloadLen pn sci ++ rest) = true := by
  have typed :
      rdBe16 (aad addresses an payloadLen pn sci ++ rest) 12 = ethertype := by
    apply rdBe16_eq
    have behind :=
      Bytes.slice_append_right addresses.1
        ((wrBe16 ethertype).1 ++ ([tciBase ||| UInt8.ofNat an.1,
          shortLen payloadLen] ++ ((wrBe32 pn).1 ++ (sci.1 ++ rest)))) 0 2
    rw [addresses.2, Nat.add_zero] at behind
    simp only [aad, List.append_assoc] at behind ⊢
    exact behind.trans (Bytes.slice_append_self _ _)
  have length := length_aad addresses an payloadLen pn sci
  have sizes : aadLen = 28 ∧ ethHdrLen = 14 := ⟨rfl, rfl⟩
  rw [isMacsec, typed, if_neg (by rw [List.length_append]; omega),
    beq_self_eq_true]

theorem frameAn_aad :
    frameAn (aad addresses an payloadLen pn sci ++ rest) = an := by
  rw [frameAn, octetAt_aad]
  revert an
  decide

end SecTag

/-! ## Effects on the associations -/

/-- The frame protection state with other records of the GCM key. -/
def SaTable.withCache (table : SaTable) (initialized : Bool) (key : Bytes)
    (valid : Bool) : SaTable :=
  { table with
    gcmInitialized := initialized
    currentGcmKey := key
    currentGcmKeyValid := valid }

/-- Setting the GCM key succeeds or fails, and leaves the associations
alone. -/
theorem gcmSetKey_cases (aes : BlockCipher) (ctx : Ctx) (key : Bytes) :
    ∃ keyed,
      (gcmSetKey aes ctx key = (.ok, keyed) ∨
        gcmSetKey aes ctx key = (.crypto, keyed)) ∧
      ∃ initialized cached valid,
        keyed.toSaTable = ctx.toSaTable.withCache initialized cached valid := by
  unfold gcmSetKey
  split
  next =>
      exact ⟨ctx, Or.inl rfl, ctx.gcmInitialized, ctx.currentGcmKey,
        ctx.currentGcmKeyValid, rfl⟩
  next =>
      dsimp only
      split
      next => exact ⟨_, Or.inl rfl, true, key, true, rfl⟩
      next => exact ⟨_, Or.inr rfl, true, [], false, rfl⟩

/-- The packet number after one was sent. -/
def followingPn (pn : UInt32) : UInt32 :=
  if pn = 0xFFFFFFFF then 0 else pn + 1

/-- A frame is protected only under a valid association whose packet numbers are
not exhausted. -/
theorem encryptCheck_ok {table : SaTable} {plainLen secureMaxLen : Nat}
    {pn : UInt32}
    (checked : encryptCheck table plainLen secureMaxLen = .ok pn) :
    table.txSak.valid = true ∧ pn = table.txSak.nextPn ∧ pn ≠ 0 := by
  unfold encryptCheck at checked
  dsimp only at checked
  split at checked
  next => cases checked
  next =>
      split at checked
      next => cases checked
      next ready =>
          split_ifs at checked with _ _ _ _ nonzero
          simp only [readyTx, Bool.not_eq_true', Bool.not_eq_false,
            Bool.and_eq_true] at ready
          cases checked
          exact ⟨ready.1.1, rfl, nonzero⟩

theorem encryptCheck_ne_error_ok (table : SaTable)
    (plainLen secureMaxLen : Nat) :
    encryptCheck table plainLen secureMaxLen ≠ .error .ok := by
  unfold encryptCheck
  intro checked
  dsimp only at checked
  split_ifs at checked
  all_goals cases checked

/-- Protecting a frame fails and leaves the associations alone, or uses up one
packet number of the transmit association. -/
theorem encrypt_cases (aes : BlockCipher) (ctx : Ctx) (plain : Bytes)
    (secureMaxLen : Nat) :
    ((encrypt aes ctx plain secureMaxLen).1 ≠ .ok ∧
      (encrypt aes ctx plain secureMaxLen).2.2 = [] ∧
      ∃ initialized cached valid,
        (encrypt aes ctx plain secureMaxLen).2.1.toSaTable =
          ctx.toSaTable.withCache initialized cached valid) ∨
    ((encrypt aes ctx plain secureMaxLen).1 = .ok ∧
      ctx.txSak.valid = true ∧ ctx.txSak.nextPn ≠ 0 ∧
      (∃ initialized cached valid,
        (encrypt aes ctx plain secureMaxLen).2.1.toSaTable =
          { ctx.toSaTable with
            txSak :=
              { ctx.txSak with
                nextPn := followingPn ctx.txSak.nextPn } }.withCache initialized
            cached valid) ∧
      ∃ rest,
        (encrypt aes ctx plain secureMaxLen).2.2 =
          aad (plain.slice 0 12) ctx.txSak.an (plain.drop 12).length
            ctx.txSak.nextPn ctx.localSci ++ rest) := by
  generalize outcome : encrypt aes ctx plain secureMaxLen = sent
  unfold encrypt at outcome
  cases checked :
      encryptCheck ctx.toSaTable plain.length secureMaxLen with
  | error ret =>
      rw [checked] at outcome
      subst outcome
      refine Or.inl ⟨?_, rfl, ctx.gcmInitialized, ctx.currentGcmKey,
        ctx.currentGcmKeyValid, rfl⟩
      rintro rfl
      exact encryptCheck_ne_error_ok _ _ _ checked
  | ok pn =>
      obtain ⟨valid, rfl, nonzero⟩ := encryptCheck_ok checked
      obtain ⟨keyed, result | result, initialized, cached, cacheValid, table⟩ :=
        gcmSetKey_cases aes ctx ctx.txSak.key
      · rw [checked] at outcome
        dsimp only at outcome
        rw [result] at outcome
        dsimp only at outcome
        split at outcome
        next =>
            subst outcome
            exact Or.inl ⟨Err.noConfusion, rfl, initialized, cached,
              cacheValid, table⟩
        next =>
            subst outcome
            refine Or.inr ⟨rfl, valid, nonzero, ⟨initialized, cached,
              cacheValid, ?_⟩, _, List.append_assoc _ _ _⟩
            dsimp only
            rw [table]
            rfl
      · rw [checked] at outcome
        dsimp only at outcome
        rw [result] at outcome
        subst outcome
        exact Or.inl ⟨Err.noConfusion, rfl, initialized, cached, cacheValid,
          table⟩

/-- A frame passes the checks only if its packet number is acceptable. -/
theorem decryptCheck_ok {table : SaTable} {secure : Bytes} {plainMaxLen : Nat}
    (checked : decryptCheck table secure plainMaxLen = .ok) :
    readyRx table (frameAn secure) = true ∧ framePn secure ≠ 0 ∧
      replayCheck table (table.rxSak (frameAn secure)) (framePn secure) =
        .ok := by
  have refused {c : Prop} [Decidable c] {ret rest : Err} (error : ret ≠ .ok)
      (checked : (if c then ret else rest) = .ok) : ¬c ∧ rest = .ok := by
    by_cases fails : c
    · rw [if_pos fails] at checked
      exact absurd checked error
    · rw [if_neg fails] at checked
      exact ⟨fails, checked⟩
  unfold decryptCheck at checked
  obtain ⟨-, checked⟩ := refused Err.noConfusion checked
  obtain ⟨-, checked⟩ := refused Err.noConfusion checked
  obtain ⟨-, checked⟩ := refused Err.noConfusion checked
  obtain ⟨-, checked⟩ := refused Err.noConfusion checked
  obtain ⟨ready, checked⟩ := refused Err.noConfusion checked
  obtain ⟨nonzero, checked⟩ := refused Err.noConfusion checked
  dsimp only at checked
  refine ⟨by simpa using ready, nonzero, ?_⟩
  by_contra replayed
  rw [if_pos replayed] at checked
  exact replayed checked

theorem isMacsec_of_decryptCheck_ok {table : SaTable} {secure : Bytes}
    {plainMaxLen : Nat}
    (checked : decryptCheck table secure plainMaxLen = .ok) :
    isMacsec secure = true := by
  unfold decryptCheck at checked
  by_cases long : secure.length > maxSecureSize
  · rw [if_pos long] at checked
    cases checked
  · rw [if_neg long] at checked
    cases isFrame : isMacsec secure with
    | true => rfl
    | false =>
        rw [isFrame, if_pos (by decide)] at checked
        cases checked

/-- Opening a frame fails and leaves the associations alone, or records its
packet number in the association it selects. -/
theorem decrypt_cases (aes : BlockCipher) (ctx : Ctx) (secure plain : Bytes) :
    ((decrypt aes ctx secure plain).1 ≠ .ok ∧
      ∃ initialized cached valid,
        (decrypt aes ctx secure plain).2.1.toSaTable =
          ctx.toSaTable.withCache initialized cached valid) ∨
    ((decrypt aes ctx secure plain).1 = .ok ∧
      readyRx ctx.toSaTable (frameAn secure) = true ∧ framePn secure ≠ 0 ∧
      replayCheck ctx.toSaTable (ctx.rxSak (frameAn secure))
        (framePn secure) = .ok ∧
      ∃ initialized cached valid,
        (decrypt aes ctx secure plain).2.1.toSaTable =
          { ctx.toSaTable with
            rxSak :=
              if ctx.replayProtect then
                Function.update ctx.rxSak (frameAn secure)
                  (replayCommit ctx.toSaTable (ctx.rxSak (frameAn secure))
                    (framePn secure))
              else
                ctx.rxSak }.withCache initialized cached valid) := by
  generalize outcome : decrypt aes ctx secure plain = opened
  unfold decrypt at outcome
  cases checked : decryptCheck ctx.toSaTable secure plain.length with
  | ok =>
      rw [checked] at outcome
      obtain ⟨ready, nonzero, accepted⟩ := decryptCheck_ok checked
      obtain ⟨keyed, result | result, initialized, cached, cacheValid, table⟩ :=
        gcmSetKey_cases aes ctx (ctx.rxSak (frameAn secure)).key
      · dsimp only at outcome
        rw [result] at outcome
        dsimp only at outcome
        split at outcome
        next =>
            subst outcome
            exact Or.inl ⟨Err.noConfusion, initialized, cached, cacheValid,
              table⟩
        next =>
            subst outcome
            refine Or.inr ⟨rfl, ready, nonzero, accepted, initialized, cached,
              cacheValid, ?_⟩
            obtain ⟨keyed, gcm⟩ := keyed
            dsimp only at table
            subst table
            unfold recordPn
            split
            next protect =>
                have kept : ctx.replayProtect = true := protect
                rw [if_pos kept]
                rfl
            next unprotected =>
                have kept : ¬ctx.replayProtect = true := unprotected
                rw [if_neg kept]
      · dsimp only at outcome
        rw [result] at outcome
        subst outcome
        exact Or.inl ⟨Err.noConfusion, initialized, cached, cacheValid, table⟩
  | param | buffer | crypto | state | replay | unsupported | auth | timeout
  | notReady | busy =>
      rw [checked] at outcome
      subst outcome
      exact Or.inl ⟨Err.noConfusion, ctx.gcmInitialized, ctx.currentGcmKey,
        ctx.currentGcmKeyValid, rfl⟩

/-! ## Keys -/

/-- Two associations hold the same key under the same AN. -/
def Sak.SameKey (before after : Sak) : Prop :=
  after.key = before.key ∧ after.an = before.an ∧ after.valid = before.valid

/-- All associations hold the same keys. -/
structure SaTable.SameKeys (before after : SaTable) : Prop where
  tx : before.txSak.SameKey after.txSak
  rx : ∀ an, (before.rxSak an).SameKey (after.rxSak an)

theorem SaTable.SameKeys.refl (table : SaTable) : table.SameKeys table where
  tx := ⟨rfl, rfl, rfl⟩
  rx _ := ⟨rfl, rfl, rfl⟩

theorem SaTable.SameKeys.trans {first second third : SaTable}
    (before : first.SameKeys second) (after : second.SameKeys third) :
    first.SameKeys third where
  tx :=
    ⟨after.tx.1.trans before.tx.1, after.tx.2.1.trans before.tx.2.1,
      after.tx.2.2.trans before.tx.2.2⟩
  rx an :=
    ⟨(after.rx an).1.trans (before.rx an).1,
      (after.rx an).2.1.trans (before.rx an).2.1,
      (after.rx an).2.2.trans (before.rx an).2.2⟩

/-- Recording a packet number keeps the key. -/
theorem sameKey_replayCommit (table : SaTable) (sak : Sak) (pn : UInt32) :
    sak.SameKey (replayCommit table sak pn) := by
  unfold replayCommit replayCommitStrict replayCommitBitmap
  dsimp only
  split_ifs
  all_goals exact ⟨rfl, rfl, rfl⟩

/-- Protecting a frame keeps all keys. -/
theorem sameKeys_encrypt (aes : BlockCipher) (ctx : Ctx) (plain : Bytes)
    (secureMaxLen : Nat) :
    ctx.toSaTable.SameKeys
      (encrypt aes ctx plain secureMaxLen).2.1.toSaTable := by
  rcases encrypt_cases aes ctx plain secureMaxLen with
    ⟨-, -, initialized, cached, valid, table⟩ |
    ⟨-, -, -, ⟨initialized, cached, valid, table⟩, -⟩
  · rw [table]
    exact ⟨⟨rfl, rfl, rfl⟩, fun _ => ⟨rfl, rfl, rfl⟩⟩
  · rw [table]
    exact ⟨⟨rfl, rfl, rfl⟩, fun _ => ⟨rfl, rfl, rfl⟩⟩

/-- Opening a frame keeps all keys. -/
theorem sameKeys_decrypt (aes : BlockCipher) (ctx : Ctx)
    (secure plain : Bytes) :
    ctx.toSaTable.SameKeys (decrypt aes ctx secure plain).2.1.toSaTable := by
  rcases decrypt_cases aes ctx secure plain with
    ⟨-, initialized, cached, valid, table⟩ |
    ⟨-, -, -, -, initialized, cached, valid, table⟩
  · rw [table]
    exact ⟨⟨rfl, rfl, rfl⟩, fun _ => ⟨rfl, rfl, rfl⟩⟩
  · rw [table]
    refine ⟨⟨rfl, rfl, rfl⟩, fun an => ?_⟩
    change (ctx.rxSak an).SameKey
      ((if ctx.replayProtect = true then _ else ctx.rxSak) an)
    split
    next =>
        by_cases selected : an = frameAn secure
        · subst selected
          rw [Function.update_self]
          exact sameKey_replayCommit _ _ _
        · rw [Function.update_of_ne selected]
          exact ⟨rfl, rfl, rfl⟩
    next => exact ⟨rfl, rfl, rfl⟩

end FrameCrypto

end Macsec

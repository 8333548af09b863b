import Macsec.FrameCrypto.Failures
import Macsec.FrameCrypto.Runs

/-!
# The cached GCM key

A context keeps its GCM working context from frame to frame and sets it up anew
only for another key.  A context that sets it up for every frame answers every
call alike.
-/

namespace Macsec

namespace FrameCrypto

/-! ## Protection under a given key setup -/

/-- Set the GCM context up for a key, whether it already is or not. -/
def gcmFreshKey (aes : BlockCipher) (ctx : Ctx) (key : Bytes) : Err × Ctx :=
  match Gcm.setKey aes Gcm.init key (key.length * 8) with
  | (.ok, gcm) => (.ok, { ctx with gcm := gcm })
  | (_, gcm) => (.crypto, { ctx with gcm := gcm })

/-- Protect a frame, with a given key setup. -/
def encryptWith (load : Ctx → Bytes → Err × Ctx) (aes : BlockCipher)
    (ctx : Ctx) (plain : Bytes) (secureMaxLen : Nat) : Err × Ctx × Bytes :=
  match encryptCheck ctx.toSaTable plain.length secureMaxLen with
  | .error ret => (ret, ctx, [])
  | .ok pn =>
      let secureData := plain.drop 12
      let header :=
        aad (plain.slice 0 12) ctx.txSak.an secureData.length pn ctx.localSci
      match load ctx ctx.txSak.key with
      | (.ok, ctx) =>
          let result :=
            Gcm.cryptAndTag aes ctx.gcm .encrypt (frameIv ctx.localSci pn)
              header secureData icvLen
          let ctx := { ctx with gcm := result.ctx }
          if result.ret ≠ .ok then
            (.crypto, ctx, [])
          else
            let nextPn := if pn = 0xFFFFFFFF then 0 else pn + 1
            (.ok, { ctx with txSak := { ctx.txSak with nextPn := nextPn } },
              header ++ result.output ++ result.tag)
      | (ret, ctx) => (ret, ctx, [])

/-- Open a frame, with a given key setup. -/
def decryptWith (load : Ctx → Bytes → Err × Ctx) (aes : BlockCipher)
    (ctx : Ctx) (secure plain : Bytes) : Err × Ctx × Bytes × Nat :=
  match decryptCheck ctx.toSaTable secure plain.length with
  | .ok =>
      let an := frameAn secure
      let pn := framePn secure
      let ciphertextLen := secure.length - aadLen - icvLen
      let ciphertext := (secure.slice aadLen ciphertextLen).1
      let icv := (secure.slice (secure.length - icvLen) icvLen).1
      match load ctx (ctx.rxSak an).key with
      | (.ok, ctx) =>
          let (ret, gcm, payload) :=
            Gcm.authDecrypt aes ctx.gcm (frameIv (frameSci secure) pn)
              (secure.slice 0 aadLen).1 icv ciphertext
          let ctx := { ctx with gcm := gcm }
          if ret ≠ .ok then
            (.auth, ctx,
              plain.overlay 0 (List.replicate (12 + ciphertextLen) 0), 0)
          else
            (.ok, recordPn ctx an pn,
              plain.overlay 0 ((secure.slice 0 12).1 ++ payload),
              12 + ciphertextLen)
      | (ret, ctx) =>
          (ret, ctx, plain.overlay 0 (List.replicate 12 0), 0)
  | ret => (ret, ctx, plain, 0)

/-- The functions of `frame_crypto.h` are these functions with the cached key
setup. -/
theorem with_gcmSetKey (aes : BlockCipher) :
    encryptWith (gcmSetKey aes) aes = encrypt aes ∧
      decryptWith (gcmSetKey aes) aes = decrypt aes :=
  ⟨rfl, rfl⟩

/-- The effect of a call without a cached key. -/
def performFresh (aes : BlockCipher) (ctx : Ctx) : Call → Ctx × (Err × Bytes)
  | .encrypt plain secureMaxLen =>
      let (ret, ctx, secure) :=
        encryptWith (gcmFreshKey aes) aes ctx plain secureMaxLen
      (ctx, (ret, secure))
  | .decrypt secure plain =>
      let (ret, ctx, plain, len) :=
        decryptWith (gcmFreshKey aes) aes ctx secure plain
      (ctx, (ret, plain.take len))
  | call => perform aes ctx call

/-- The machine that sets the key up for every frame. -/
def freshMachine (aes : BlockCipher) :
    Transition.Machine Ctx Call (Err × Bytes) where
  step := performFresh aes

variable {aes : BlockCipher} {ctx ctx' : Ctx}
  {load load' : Ctx → Bytes → Err × Ctx}

/-! ## Key setups that load the key -/

/-- A key setup that loads every key of a supported size and changes at most the
records of the key. -/
def Loads (aes : BlockCipher) (load : Ctx → Bytes → Err × Ctx) (ctx : Ctx) :
    Prop :=
  ∀ key, keyLenValid key.length = true →
    ∃ initialized cached valid gcm,
      load ctx key =
          (.ok,
            { toSaTable := ctx.toSaTable.withCache initialized cached valid
              gcm := gcm }) ∧
        KeyedFor aes gcm key

theorem loads_gcmSetKey (cached : ctx.Cached aes) :
    Loads aes (gcmSetKey aes) ctx := by
  intro key size
  obtain ⟨initialized, gcm, result⟩ := gcmSetKey_eq cached size
  exact ⟨initialized, key, true, gcm, result⟩

theorem loads_gcmFreshKey : Loads aes (gcmFreshKey aes) ctx := by
  intro key size
  refine ⟨ctx.gcmInitialized, ctx.currentGcmKey, ctx.currentGcmKeyValid,
    Gcm.keyed aes key, ?_, Gcm.SameKey.refl _⟩
  unfold gcmFreshKey
  rw [Gcm.setKey_eq aes (keyBitsSupported_of_keyLenValid size)]
  rfl

theorem SaTable.SameSas.refl (table : SaTable) : table.SameSas table :=
  ⟨table.gcmInitialized, table.currentGcmKey, table.currentGcmKeyValid, rfl⟩

/-- Frames are protected alike, whichever key setup loads the key. -/
theorem encryptWith_congr (loads : Loads aes load ctx)
    (loads' : Loads aes load' ctx')
    (same : ctx.toSaTable.SameSas ctx'.toSaTable) (plain : Bytes)
    (secureMaxLen : Nat) :
    let sealing := encryptWith load aes ctx plain secureMaxLen
    let sealing' := encryptWith load' aes ctx' plain secureMaxLen
    sealing.1 = sealing'.1 ∧ sealing.2.2 = sealing'.2.2 ∧
      sealing.2.1.toSaTable.SameSas sealing'.2.1.toSaTable := by
  obtain ⟨initialized, cached, valid, table⟩ := same
  have checks :
      encryptCheck ctx'.toSaTable plain.length secureMaxLen =
        encryptCheck ctx.toSaTable plain.length secureMaxLen := by
    rw [table]
    rfl
  dsimp only
  unfold encryptWith
  rw [checks]
  cases checked : encryptCheck ctx.toSaTable plain.length secureMaxLen with
  | error ret => exact ⟨rfl, rfl, initialized, cached, valid, table⟩
  | ok pn =>
      have size : keyLenValid ctx.txSak.key.length = true := by
        obtain ⟨-, rfl, -⟩ := encryptCheck_ok checked
        exact keyLenValid_of_readyTx (encryptCheck_iff.mp checked).ready
      obtain ⟨i₁, c₁, v₁, gcm, result, keyed⟩ := loads _ size
      have sameTx : ctx'.txSak = ctx.txSak := by
        rw [table]
        rfl
      have sameSci : ctx'.localSci = ctx.localSci := by
        rw [table]
        rfl
      rw [← sameTx] at size
      obtain ⟨i₂, c₂, v₂, gcm', result', keyed'⟩ := loads' _ size
      rw [sameTx] at result' keyed'
      dsimp only
      rw [sameTx, sameSci, result, result']
      dsimp only
      rw [show (ctx.toSaTable.withCache i₁ c₁ v₁).localSci = ctx.localSci from
          rfl, keyed.cryptAndTag]
      rw [show (ctx'.toSaTable.withCache i₂ c₂ v₂).localSci = ctx.localSci from
          sameSci, keyed'.cryptAndTag]
      split
      next => exact ⟨rfl, rfl, i₂, c₂, v₂, by rw [table]; rfl⟩
      next => exact ⟨rfl, rfl, i₂, c₂, v₂, by rw [table]; rfl⟩

/-- The replay state is updated alike. -/
theorem SaTable.SameSas.recordPn (same : ctx.toSaTable.SameSas ctx'.toSaTable)
    (an : Fin 4) (pn : UInt32) :
    (recordPn ctx an pn).toSaTable.SameSas
      (recordPn ctx' an pn).toSaTable := by
  obtain ⟨initialized, cached, valid, table⟩ := same
  have sameProtect : ctx'.replayProtect = ctx.replayProtect := by
    rw [table]
    rfl
  refine ⟨initialized, cached, valid, ?_⟩
  unfold FrameCrypto.recordPn
  rw [sameProtect]
  split
  next =>
      rw [table]
      rfl
  next => exact table

/-- Frames are opened alike, whichever key setup loads the key. -/
theorem decryptWith_congr (loads : Loads aes load ctx)
    (loads' : Loads aes load' ctx')
    (same : ctx.toSaTable.SameSas ctx'.toSaTable) (secure plain : Bytes) :
    let opening := decryptWith load aes ctx secure plain
    let opening' := decryptWith load' aes ctx' secure plain
    opening.1 = opening'.1 ∧ opening.2.2 = opening'.2.2 ∧
      opening.2.1.toSaTable.SameSas opening'.2.1.toSaTable := by
  obtain ⟨initialized, cached, valid, table⟩ := same
  have checks :
      decryptCheck ctx'.toSaTable secure plain.length =
        decryptCheck ctx.toSaTable secure plain.length := by
    rw [table]
    rfl
  dsimp only
  unfold decryptWith
  rw [checks]
  cases checked : decryptCheck ctx.toSaTable secure plain.length with
  | ok =>
      have size :
          keyLenValid (ctx.rxSak (frameAn secure)).key.length = true :=
        keyLenValid_of_readyRx (decryptCheck_ok checked).1
      obtain ⟨i₁, c₁, v₁, gcm, result, keyed⟩ := loads _ size
      have sameRx : ctx'.rxSak = ctx.rxSak := by
        rw [table]
        rfl
      rw [← sameRx] at size
      obtain ⟨i₂, c₂, v₂, gcm', result', keyed'⟩ := loads' _ size
      rw [sameRx] at result' keyed'
      dsimp only
      rw [sameRx, result, result']
      dsimp only
      rw [keyed.authDecrypt, keyed'.authDecrypt]
      split
      next => exact ⟨rfl, rfl, i₂, c₂, v₂, by rw [table]; rfl⟩
      next =>
          refine ⟨rfl, rfl, SaTable.SameSas.recordPn ?_ _ _⟩
          exact ⟨i₂, c₂, v₂, by rw [table]; rfl⟩
  | param | buffer | crypto | state | replay | unsupported | auth | timeout
  | notReady | busy => exact ⟨rfl, rfl, initialized, cached, valid, table⟩

/-! ## Runs -/

/-- The installation and removal of associations do not look at the records of
the key. -/
theorem Ctx.lift_congr (same : ctx.toSaTable.SameSas ctx'.toSaTable)
    {step : SaTable → Err × SaTable}
    (blind : ∀ table initialized cached valid,
      let stepped := step table
      let stepped' := step (table.withCache initialized cached valid)
      stepped.1 = stepped'.1 ∧ stepped.2.SameSas stepped'.2) :
    (ctx.lift step).2 = (ctx'.lift step).2 ∧
      (ctx.lift step).1.toSaTable.SameSas (ctx'.lift step).1.toSaTable := by
  obtain ⟨initialized, cached, valid, table⟩ := same
  obtain ⟨sameRet, sameSas⟩ := blind ctx.toSaTable initialized cached valid
  unfold Ctx.lift
  rw [table]
  exact ⟨congrArg (·, []) sameRet, sameSas⟩

/-- A context with a sound key cache holds the associations of another context.
-/
structure Mirrors (aes : BlockCipher) (ctx ctx' : Ctx) : Prop where
  sound : ctx.Sound aes
  same : ctx.toSaTable.SameSas ctx'.toSaTable

/-- A call is answered alike, and leaves alike associations, whether the key is
cached or not. -/
theorem perform_fresh (cached : ctx.Cached aes)
    (same : ctx.toSaTable.SameSas ctx'.toSaTable) (call : Call) :
    (perform aes ctx call).2 = (performFresh aes ctx' call).2 ∧
      (perform aes ctx call).1.toSaTable.SameSas
        (performFresh aes ctx' call).1.toSaTable := by
  cases call with
  | setTxSak sak =>
      refine Ctx.lift_congr same ?_
      intro table initialized cached valid
      unfold setTxSak
      split_ifs
      all_goals exact ⟨rfl, initialized, cached, valid, rfl⟩
  | setRxSak sak =>
      refine Ctx.lift_congr same ?_
      intro table initialized cached valid
      unfold setRxSak
      split_ifs
      all_goals exact ⟨rfl, initialized, cached, valid, rfl⟩
  | removeTxSak =>
      refine Ctx.lift_congr same ?_
      exact fun table initialized _ _ => ⟨rfl, initialized, [], false, rfl⟩
  | removeRxSak an =>
      refine Ctx.lift_congr same ?_
      exact fun table initialized _ _ => ⟨rfl, initialized, [], false, rfl⟩
  | protectReplay replayProtect replayWindow =>
      obtain ⟨initialized, records, valid, table⟩ := same
      refine ⟨rfl, initialized, records, valid, ?_⟩
      change
        { ctx'.toSaTable with
          replayProtect := replayProtect
          replayWindow := replayWindow } = _
      rw [table]
      rfl
  | encrypt plain secureMaxLen =>
      obtain ⟨sameRet, sameFrame, sameSas⟩ :=
        encryptWith_congr (loads_gcmSetKey cached) loads_gcmFreshKey same plain
          secureMaxLen
      rw [(with_gcmSetKey aes).1] at sameRet sameFrame sameSas
      exact ⟨Prod.ext sameRet sameFrame, sameSas⟩
  | decrypt secure plain =>
      obtain ⟨sameRet, samePlain, sameSas⟩ :=
        decryptWith_congr (loads_gcmSetKey cached) loads_gcmFreshKey same secure
          plain
      rw [(with_gcmSetKey aes).2] at sameRet samePlain sameSas
      refine ⟨Prod.ext sameRet ?_, sameSas⟩
      exact congrArg (fun opened => opened.1.take opened.2) samePlain

theorem Mirrors.perform (call : Call) (mirrors : Mirrors aes ctx ctx') :
    ((machine aes).step ctx call).2 = ((freshMachine aes).step ctx' call).2 ∧
      Mirrors aes ((machine aes).step ctx call).1
        ((freshMachine aes).step ctx' call).1 := by
  obtain ⟨sameAnswer, sameSas⟩ :=
    perform_fresh mirrors.sound.cached mirrors.same call
  exact ⟨sameAnswer, mirrors.sound.perform call, sameSas⟩

/-- The cached key is transparent: every sequence of calls gives the return
codes and frames, and leads to the associations, that it would if the key were
set up for every frame, and where the records of the key are valid the GCM
context is set up for the key they name. -/
theorem gcm_cache_transparent (aes : BlockCipher) (localSci : Octets 8)
    (calls : List Call) :
    let cached := (machine aes).final (init localSci) calls
    let fresh := (freshMachine aes).final (init localSci) calls
    ((machine aes).events (init localSci) calls).map
          Transition.Event.output =
        ((freshMachine aes).events (init localSci) calls).map
          Transition.Event.output ∧
      cached.toSaTable.SameSas fresh.toSaTable ∧
      (cached.currentGcmKeyValid = true →
        KeyedFor aes cached.gcm cached.currentGcmKey) := by
  have start : (init localSci).Sound aes :=
    ⟨fun valid => Bool.noConfusion valid, rfl⟩
  obtain ⟨outputs, mirrors⟩ :=
    Transition.Machine.bisimulation (fun _ _ call => Mirrors.perform call)
      ⟨start, SaTable.SameSas.refl _⟩ calls
  exact ⟨outputs, mirrors.same, mirrors.sound.cached⟩

end FrameCrypto

end Macsec

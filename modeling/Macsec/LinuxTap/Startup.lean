import Macsec.Api.Service
import Macsec.LinuxTap.Grammar
import Macsec.LinuxTap.Runs

/-!
# The start of the Linux TAP program

What the program accepts on its command line and in its configuration file is
enough for the context to be initialised.
-/

namespace Macsec

theorem Control.installStaticSak_ret {ctx : Control}
    (inRange : ctx.cfg.staticAn.toNat < 4)
    (valid : Mka.sakLenValid ctx.cfg.staticSak.length = true) :
    ctx.installStaticSak.1 = .ok := by
  rw [Control.installStaticSak, dif_pos inRange]
  dsimp only
  rw [Control.installRxSak_eq valid]
  dsimp only
  rw [Control.installTxSak_eq valid]

/-- A static SAK of a supported size is installed. -/
theorem init_static_ret {aes : BlockCipher} {cfg : Config}
    (mode : cfg.mode = .staticSak)
    (inRange : cfg.staticAn.toNat < 4)
    (valid : Mka.sakLenValid cfg.staticSak.length = true) (mi : Octets 12) :
    (init aes cfg mi).1 = .ok := by
  have installed : ((startCtx cfg).lift Control.installStaticSak).1 = .ok :=
    Control.installStaticSak_ret inRange valid
  unfold init
  dsimp only
  rw [show (startCtx cfg).cfg.mode = cfg.mode from rfl, mode]
  dsimp only
  split
  next => rfl
  next ret ctx failed result =>
    rw [result] at installed
    exact absurd installed failed

namespace LinuxTap

variable {aes : BlockCipher} {longBits : Nat}

/-- The last argument is a static SAK, or else it names a file that describes
the configuration. -/
inductive Configured (longBits : Nat) (argument : Option Bytes)
    (fopen : Bytes → Option File) (config : Config) : Prop
  | staticSak
      {digits : Bytes}
      (given : argument.getD configDefault = staticSakName ++ digits)
      (key : IsKey digits config.staticSak)
      (rest :
        config =
          { Config.unset with
            mode := .staticSak
            staticSak := config.staticSak })
  | mkaPsk
      {file : File}
      (other : ¬staticSakName <+: argument.getD configDefault)
      (opened : fopen (argument.getD configDefault) = some file)
      (described : Describes longBits file config)

theorem parseStaticSak_eq_some_iff {digits : Bytes} {config : Config} :
    parseStaticSak (staticSakName ++ digits) = some config ↔
      IsKey digits config.staticSak ∧
        config =
          { Config.unset with
            mode := .staticSak
            staticSak := config.staticSak } := by
  have key : ∀ {sak : Bytes}, IsKey digits sak ↔
      parseHex digits 32 = some sak ∧ keySized sak = true := by
    intro sak
    rw [← parseCak_eq_some_iff, parseCak, Option.filter_eq_some_iff]
    rfl
  unfold parseStaticSak
  rw [if_pos (List.prefix_append _ _), List.drop_left]
  cases parsed : parseHex digits 32 with
  | none => simp [key, parsed]
  | some sak =>
      cases sized : keySized sak with
      | true =>
          simp only [sized, if_true, Option.some.injEq, key, parsed]
          constructor
          · rintro rfl
            exact ⟨⟨rfl, sized⟩, rfl⟩
          · rintro ⟨⟨same, -⟩, rest⟩
            rw [rest, same]
      | false =>
          simp only [sized, Bool.false_eq_true, if_false, key, parsed]
          refine iff_of_false (by simp) ?_
          rintro ⟨⟨same, sized'⟩, -⟩
          rw [Option.some.inj same, sized'] at sized
          cases sized

/-- The configurations that the program starts with. -/
theorem configure_eq_some_iff (wide : 32 ≤ longBits) {argument : Option Bytes}
    {fopen : Bytes → Option File} {config : Config} :
    configure longBits argument fopen = some config ↔
      Configured longBits argument fopen config := by
  simp only [configure]
  split
  next starts =>
    obtain ⟨digits, given⟩ := starts
    rw [← given, parseStaticSak_eq_some_iff]
    constructor
    · rintro ⟨key, rest⟩
      exact .staticSak given.symm key rest
    · intro configured
      cases configured with
      | staticSak given' key rest =>
          rw [← given] at given'
          rw [List.append_cancel_left given']
          exact ⟨key, rest⟩
      | mkaPsk other => exact absurd ⟨digits, given⟩ other
  next other =>
    have loaded : ∀ opened,
        (loadConfig longBits opened).toOption = some config ↔
          loadConfig longBits opened = .ok config := by
      intro opened
      cases loadConfig longBits opened <;> simp [Except.toOption]
    rw [loaded, loadConfig_ok_iff wide]
    constructor
    · rintro ⟨file, opened, described⟩
      exact .mkaPsk other opened described
    · intro configured
      cases configured with
      | staticSak given => exact absurd ⟨_, given.symm⟩ other
      | mkaPsk _ opened described => exact ⟨_, opened, described⟩

/-- Every configuration that the program accepts is accepted by the stack. -/
theorem Configured.initialises {argument : Option Bytes}
    {fopen : Bytes → Option File} {config : Config}
    (configured : Configured longBits argument fopen config)
    (localMac : Octets 6) (mi : Octets 12) :
    (initMacsec aes localMac config mi).1 = .ok := by
  cases configured with
  | staticSak _ key rest =>
      have mode : config.mode = .staticSak := by rw [rest]
      refine init_static_ret ?_ ?_ ?_ mi
      · simp [macsecConfig, mode]
      · simp [macsecConfig]
      · simpa [macsecConfig, mode, Mka.sakLenValid] using key.2
  | mkaPsk _ _ described =>
      have mode : config.mode = .mkaPsk := by
        rw [described.rest]
        rfl
      obtain ⟨lines, -, ⟨_, _, _, _, -, -, cak, -⟩, ⟨_, _, _, _, -, -, ckn, -⟩,
        -⟩ := described.settings
      refine congrArg Prod.fst (init_eq ?_ ?_ ?_ ?_ mi)
      · simp [macsecConfig, mode]
      · simpa [macsecConfig, mode, MkaCrypto.keyLenValid] using cak.2
      · simpa [macsecConfig, mode, List.length_pos_iff] using ckn.2.1
      · simpa [macsecConfig, mode, cknMaxLen, MkaCrypto.cknMaxLen] using ckn.2.2

/-- The program starts precisely with a static SAK of a supported size or with a
file of the grammar, and then the stack is always initialised. -/
theorem starts_iff_configured (wide : 32 ≤ longBits) (argument : Option Bytes)
    (fopen : Bytes → Option File) (config : Config) :
    (configure longBits argument fopen = some config ↔
        Configured longBits argument fopen config) ∧
      (configure longBits argument fopen = some config →
        ∀ aes localMac mi, (initMacsec aes localMac config mi).1 = .ok) :=
  ⟨configure_eq_some_iff wide, fun accepted _ =>
    ((configure_eq_some_iff wide).mp accepted).initialises⟩

/-- The digits "00112233445566778899aabbccddeeff". -/
def sampleDigits : Bytes :=
  [0x30, 0x30, 0x31, 0x31, 0x32, 0x32, 0x33, 0x33, 0x34, 0x34, 0x35, 0x35,
    0x36, 0x36, 0x37, 0x37, 0x38, 0x38, 0x39, 0x39, 0x61, 0x61, 0x62, 0x62,
    0x63, 0x63, 0x64, 0x64, 0x65, 0x65, 0x66, 0x66]

/-- A file with a CAK and a CKN of these digits and the priority 20. -/
def sampleFile : File where
  octets :=
    (ConfigOption.mkaCak.name ++ sampleDigits) ++ 0x0A ::
      ((ConfigOption.mkaCkn.name ++ sampleDigits) ++ 0x0A ::
        (ConfigOption.mkaPriority.name ++ [0x32, 0x30]))
  failing := false

/-- The octets that the digits stand for. -/
def sampleKey : Bytes :=
  [0x00, 0x11, 0x22, 0x33, 0x44, 0x55, 0x66, 0x77, 0x88, 0x99, 0xAA, 0xBB, 0xCC,
    0xDD, 0xEE, 0xFF]

/-- What the sample file configures. -/
def sampleConfig : Config :=
  .ofSlots (some sampleKey) (some sampleKey) (some 20)

theorem sampleFile_describes : Describes 64 sampleFile sampleConfig := by
  have loads : Loads 64 .unset sampleFile.octets sampleConfig :=
    ⟨_, .line (by decide) (by decide) (by decide)
      (.line (by decide) (by decide) (by decide)
        (.last (by decide) (by decide))), rfl⟩
  exact ⟨rfl, (loads_ofSlots_iff (by decide)).mp loads, rfl⟩

/-- The program starts with the sample file. -/
theorem sampleFile_starts :
    configure 64 none (fun _ => some sampleFile) = some sampleConfig ∧
      ∀ aes localMac mi, (initMacsec aes localMac sampleConfig mi).1 = .ok := by
  obtain ⟨accepts, initialises⟩ := @starts_iff_configured 64 (by decide) none
    (fun _ => some sampleFile) sampleConfig
  have accepted :=
    accepts.mpr (.mkaPsk (by decide) rfl sampleFile_describes)
  exact ⟨accepted, initialises accepted⟩

end LinuxTap

end Macsec

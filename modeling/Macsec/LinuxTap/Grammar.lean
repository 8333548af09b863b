import Mathlib.Data.Int.ModEq
import Macsec.LinuxTap.Config

/-!
# The grammar of configuration files

Which files the Linux TAP program accepts, and what they mean.  The file is
divided into lines first.  Then each of the three settings is made by just one
line, with a value of the right form.
-/

namespace Macsec

namespace LinuxTap

/-! ## The grammar -/

/-- The lines of a file.  Each fits into the buffer, and all but the last one
end with a newline and have no NUL. -/
inductive Divides : (octets : Bytes) → (lines : List Bytes) → Prop
  | last
      {octets : Bytes}
      (plain : 0x0A ∉ octets)
      (fits : octets.length < configLineMax - 1) :
      Divides octets [cString octets]
  | line
      {body octets : Bytes} {lines : List Bytes}
      (plain : 0x0A ∉ body)
      (whole : 0 ∉ body)
      (fits : body.length < configLineMax - 1)
      (rest : Divides octets lines) :
      Divides (body ++ 0x0A :: octets) (body :: lines)

/-- A text of blanks. -/
def Blank (text : Bytes) : Prop :=
  ∀ c ∈ text, isSpace c = true

/-- A line that makes a setting has its name first and then its value, with
blanks around them, and may have a comment behind them. -/
def Assigns (option : ConfigOption) (line value : Bytes) : Prop :=
  Lines.Trimmed isSpace value ∧ 0x23 ∉ value ∧
    ∃ lead gap trail comment,
      line = lead ++ option.name ++ gap ++ value ++ trail ++ comment ∧
        Blank lead ∧ Blank gap ∧ Blank trail ∧
        (comment = [] ∨ comment.head? = some 0x23)

/-- Digits of a key of 16 or 32 octets. -/
def IsKey (text key : Bytes) : Prop :=
  Hex.Renders text key ∧ (key.length = 16 ∨ key.length = 32)

/-- Digits of a name of 1 to 32 octets. -/
def IsCkn (text ckn : Bytes) : Prop :=
  Hex.Renders text ckn ∧ 0 < ckn.length ∧ ckn.length ≤ cknMaxLen

/-- Digits of a number within the range of an `unsigned long`, which with its
sign is the priority modulo `2 ^ 32`. -/
def Amounts (longBits : Nat) (negative : Bool) (digits : Bytes)
    (priority : UInt8) : Prop :=
  digits ≠ [] ∧ (∀ c ∈ digits, isDigit c = true) ∧
    decimal digits < 2 ^ longBits ∧
    (if negative then -(decimal digits : Int) else decimal digits) ≡
      priority.toNat [ZMOD 2 ^ 32]

/-- A number with an optional sign. -/
def IsPriority (longBits : Nat) (text : Bytes) (priority : UInt8) : Prop :=
  ∃ lead sign digits, text = lead ++ sign ++ digits ∧ Blank lead ∧
    sign ∈ [[], [0x2B], [0x2D]] ∧
    Amounts longBits (sign == [0x2D]) digits priority

/-- The configuration that a file stands for. -/
structure Describes (longBits : Nat) (file : File) (config : Config) :
    Prop where
  intact : file.failing = false
  settings :
    ∃ lines, Divides file.octets lines ∧
      Lines.Declares (Assigns .mkaCak) IsKey lines config.cak ∧
      Lines.Declares (Assigns .mkaCkn) IsCkn lines config.ckn ∧
      Lines.Declares (Assigns .mkaPriority) (IsPriority longBits) lines
        config.mkaPriority
  rest :
    config =
      { Config.unset with
        cak := config.cak
        ckn := config.ckn
        mkaPriority := config.mkaPriority
        cakSet := true
        cknSet := true
        prioritySet := true }

/-! ## Values -/

theorem hexPairs_of_renders {text bytes : Bytes}
    (renders : Hex.Renders text bytes) : hexPairs text = some bytes := by
  induction renders with
  | nil => rfl
  | @cons first second high low text bytes denotesHigh denotesLow rest
      inductionHypothesis =>
      simp only [hexPairs, Hex.hexValue_of_denotes denotesHigh,
        Hex.hexValue_of_denotes denotesLow, inductionHypothesis,
        Option.map_some, Hex.octet_eq]

theorem renders_of_hexPairs {text bytes : Bytes} (even : text.length % 2 = 0)
    (read : hexPairs text = some bytes) : Hex.Renders text bytes := by
  induction text using List.twoStepInduction generalizing bytes with
  | nil =>
      obtain rfl := Option.some.inj read
      exact .nil
  | singleton => simp at even
  | cons_cons first second text inductionHypothesis _ =>
      rw [List.length_cons, List.length_cons, Nat.add_assoc,
        Nat.add_mod_right] at even
      unfold hexPairs at read
      split at read
      next high low readHigh readLow =>
          obtain ⟨rest, readRest, rfl⟩ := Option.map_eq_some_iff.mp read
          obtain ⟨highDigit, denotesHigh, rfl⟩ :=
            (Hex.hexValue_eq_some_iff first high).mp readHigh
          obtain ⟨lowDigit, denotesLow, rfl⟩ :=
            (Hex.hexValue_eq_some_iff second low).mp readLow
          rw [Hex.octet_eq]
          exact .cons denotesHigh denotesLow (inductionHypothesis even readRest)
      next => cases read

/-- Digits of at least one octet are read if there is room for all of them. -/
theorem parseHex_eq_some_iff {text bytes : Bytes} {outputCapacity : Nat} :
    parseHex text outputCapacity = some bytes ↔
      Hex.Renders text bytes ∧ 0 < bytes.length ∧
        bytes.length ≤ outputCapacity := by
  unfold parseHex
  constructor
  · intro read
    split at read
    next => cases read
    next shape =>
      split at read
      next => cases read
      next fits =>
        rw [not_or, not_not] at shape
        have renders := renders_of_hexPairs shape.2 read
        have length := renders.length_eq
        exact ⟨renders, by omega, by omega⟩
  · rintro ⟨renders, present, fits⟩
    have length := renders.length_eq
    rw [if_neg (by omega), if_neg (by omega)]
    exact hexPairs_of_renders renders

/-- A value that is cut to 32 bits is at most 255 precisely if it is an octet
modulo `2 ^ 32`. -/
theorem toUInt8_eq_iff (value : Nat) (priority : UInt8) :
    (¬UInt32.ofNat value > 255 ∧ (UInt32.ofNat value).toUInt8 = priority) ↔
      (value : Int) ≡ priority.toNat [ZMOD 2 ^ 32] := by
  have small := priority.toNat_lt
  have wrapped : (value : Int) ≡ priority.toNat [ZMOD 2 ^ 32] ↔
      value % 2 ^ 32 = priority.toNat := by
    unfold Int.ModEq
    omega
  have cut : (UInt32.ofNat value).toNat = value % 2 ^ 32 := UInt32.toNat_ofNat
  rw [wrapped, gt_iff_lt, UInt32.lt_iff_toNat_lt, ← UInt8.toNat_inj,
    UInt32.toNat_toUInt8, cut]
  change (¬255 < _ ∧ _) ↔ _
  omega

/-- Negation in an `unsigned long` is negation modulo `2 ^ 32` if that type has
32 bits or more. -/
theorem negated_modEq {longBits value : Nat} (wide : 32 ≤ longBits)
    (inRange : value < 2 ^ longBits) :
    (((2 ^ longBits - value) % 2 ^ longBits : Nat) : Int) ≡ -(value : Int)
      [ZMOD 2 ^ 32] := by
  have divides : (2 ^ 32 : Int) ∣ 2 ^ longBits := pow_dvd_pow 2 wide
  rw [Int.natCast_mod, Nat.cast_sub inRange.le]
  push_cast
  refine ((Int.mod_modEq _ _).of_dvd divides).trans ?_
  refine Int.modEq_iff_dvd.mpr ?_
  rw [show -(value : Int) - (2 ^ longBits - value) = -2 ^ longBits by omega]
  exact Int.dvd_neg.mpr divides

/-- A conversion of a text passes the checks of `parsePriority`. -/
def Conversion.Yields (conversion : Conversion) (text : Bytes)
    (priority : UInt8) : Prop :=
  ¬(conversion.outOfRange = true ∨ conversion.rest = text ∨
      conversion.rest ≠ [] ∨ UInt32.ofNat conversion.value > 255) ∧
    (UInt32.ofNat conversion.value).toUInt8 = priority

theorem parsePriority_eq_some_iff_yields {longBits : Nat} {text : Bytes}
    {priority : UInt8} :
    parsePriority longBits text = some priority ↔
      (strtoul longBits text).Yields text priority := by
  simp only [parsePriority, Conversion.Yields]
  split
  next rejected => simp [rejected]
  next fine => simp [fine]

/-- Behind the sign there must be digits to the end. -/
theorem convert_yields_iff {longBits : Nat} {negative : Bool}
    {text unsigned : Bytes} {priority : UInt8} (wide : 32 ≤ longBits)
    (part : unsigned.length ≤ text.length) :
    (convert longBits negative text unsigned).Yields text priority ↔
      Amounts longBits negative unsigned priority := by
  by_cases allDigits : ∀ c ∈ unsigned, isDigit c = true
  · have digits : unsigned.takeWhile isDigit = unsigned :=
      List.takeWhile_eq_self_iff.mpr allDigits
    have rest : unsigned.dropWhile isDigit = [] :=
      List.dropWhile_eq_nil_iff.mpr allDigits
    by_cases empty : unsigned = []
    · simp [Amounts, Conversion.Yields, convert, empty]
    · have present : text ≠ [] := by
        rintro rfl
        exact empty (List.length_eq_zero_iff.mp (Nat.le_zero.mp part))
      by_cases inRange : decimal unsigned < 2 ^ longBits
      · have value : convert longBits negative text unsigned =
            ⟨if negative then
                (2 ^ longBits - decimal unsigned) % 2 ^ longBits
              else
                decimal unsigned,
              false, []⟩ := by
          simp only [convert, digits, rest, empty, if_false,
            if_neg (Nat.not_le.mpr inRange)]
        have residue :
            ((convert longBits negative text unsigned).value : Int) ≡
                priority.toNat [ZMOD 2 ^ 32] ↔
              (if negative then -(decimal unsigned : Int) else
                decimal unsigned) ≡ priority.toNat [ZMOD 2 ^ 32] := by
          rw [value]
          cases negative with
          | false => rfl
          | true =>
              exact ⟨(negated_modEq wide inRange).symm.trans,
                (negated_modEq wide inRange).trans⟩
        rw [Amounts, ← residue, ← toUInt8_eq_iff]
        simp [Conversion.Yields, value, empty, present.symm, inRange]
        exact fun _ _ => allDigits
      · simp [Amounts, Conversion.Yields, convert, digits, rest, empty, inRange,
          Nat.not_lt.mp inRange]
  · have rejected :
        (convert longBits negative text unsigned).rest = text ∨
          (convert longBits negative text unsigned).rest ≠ [] := by
      have behind : unsigned.dropWhile isDigit ≠ [] :=
        fun none => allDigits (List.dropWhile_eq_nil_iff.mp none)
      simp only [convert]
      split
      · exact Or.inl rfl
      · split <;> exact Or.inr behind
    refine iff_of_false ?_ fun accepted => allDigits accepted.2.1
    rintro ⟨accepted, -⟩
    rcases rejected with same | left
    · exact accepted (.inr (.inl same))
    · exact accepted (.inr (.inr (.inl left)))

theorem not_isSpace_of_isDigit {c : UInt8} (digit : isDigit c = true) :
    isSpace c = false := by
  rw [Bool.eq_false_iff]
  intro space
  simp only [isSpace, isDigit, Bool.or_eq_true, beq_iff_eq, Bool.and_eq_true,
    decide_eq_true_eq, UInt8.le_iff_toNat_le] at space digit
  rcases space with rfl | space
  · exact absurd digit.1 (by decide)
  · have least : (0x30 : UInt8).toNat = 0x30 := rfl
    have most : (0x0D : UInt8).toNat = 0x0D := rfl
    omega

/-- What stands before a number is blank. -/
theorem dropWhile_number {lead sign digits : Bytes} (blank : Blank lead)
    (signed : sign ∈ [[], [0x2B], [0x2D]]) (present : digits ≠ [])
    (allDigits : ∀ c ∈ digits, isDigit c = true) :
    (lead ++ sign ++ digits).dropWhile isSpace = sign ++ digits := by
  rw [List.append_assoc, List.dropWhile_append_of_pos blank]
  simp only [List.mem_cons, List.not_mem_nil, or_false] at signed
  rcases signed with rfl | rfl | rfl
  · obtain ⟨first, digits, rfl⟩ := List.exists_cons_of_ne_nil present
    have noBlank :=
      not_isSpace_of_isDigit (allDigits first List.mem_cons_self)
    rw [List.nil_append, List.dropWhile_cons_of_neg (by simp [noBlank])]
  · rfl
  · rfl

/-- The sign that a number starts with. -/
def signOf (number : Bytes) : Bytes :=
  if number.head? = some 0x2D then
    [0x2D]
  else if number.head? = some 0x2B then
    [0x2B]
  else
    []

theorem signOf_mem (number : Bytes) :
    signOf number ∈ [[], [0x2B], [0x2D]] := by
  unfold signOf
  split
  next => simp
  next => split <;> simp

/-- A number is its sign and what follows it. -/
theorem signOf_append (number : Bytes) :
    signOf number ++ number.drop (signOf number).length = number := by
  unfold signOf
  split
  next minus =>
    obtain ⟨digits, rfl⟩ := List.head?_eq_some_iff.mp minus
    rfl
  next =>
    split
    next plus =>
      obtain ⟨digits, rfl⟩ := List.head?_eq_some_iff.mp plus
      rfl
    next => rfl

/-- No digit is taken for a sign. -/
theorem signOf_digits {sign digits : Bytes}
    (signed : sign ∈ [[], [0x2B], [0x2D]]) (present : digits ≠ [])
    (allDigits : ∀ c ∈ digits, isDigit c = true) :
    signOf (sign ++ digits) = sign := by
  simp only [List.mem_cons, List.not_mem_nil, or_false] at signed
  rcases signed with rfl | rfl | rfl
  · obtain ⟨first, digits, rfl⟩ := List.exists_cons_of_ne_nil present
    have digit := allDigits first List.mem_cons_self
    have noMinus : first ≠ 0x2D := by
      rintro rfl
      exact absurd digit (by decide)
    have noPlus : first ≠ 0x2B := by
      rintro rfl
      exact absurd digit (by decide)
    simp [signOf, noMinus, noPlus]
  · rfl
  · rfl

theorem strtoul_eq (longBits : Nat) (text : Bytes) :
    let number := text.dropWhile isSpace
    strtoul longBits text =
      convert longBits (signOf number == [0x2D]) text
        (number.drop (signOf number).length) := by
  intro number
  unfold strtoul signOf
  dsimp only
  split
  next =>
    rw [List.length_singleton, List.drop_one]
    rfl
  next =>
    split
    next =>
      rw [List.length_singleton, List.drop_one]
      rfl
    next => rfl

/-- The numbers that are accepted as a priority. -/
theorem parsePriority_eq_some_iff {longBits : Nat} {text : Bytes}
    {priority : UInt8} (wide : 32 ≤ longBits) :
    parsePriority longBits text = some priority ↔
      IsPriority longBits text priority := by
  have shorter :
      ((text.dropWhile isSpace).drop
        (signOf (text.dropWhile isSpace)).length).length ≤ text.length :=
    (List.drop_suffix _ _).length_le.trans
      (List.dropWhile_suffix _).length_le
  rw [parsePriority_eq_some_iff_yields, strtoul_eq,
    convert_yields_iff wide shorter]
  constructor
  · intro amounts
    refine ⟨text.takeWhile isSpace, signOf (text.dropWhile isSpace), _, ?_,
      fun c member => List.mem_takeWhile_imp member, signOf_mem _, amounts⟩
    rw [List.append_assoc, signOf_append, List.takeWhile_append_dropWhile]
  · rintro ⟨lead, sign, digits, rfl, blank, signed, amounts⟩
    rw [dropWhile_number blank signed amounts.1 amounts.2.1,
      signOf_digits signed amounts.1 amounts.2.1, List.drop_left]
    exact amounts

/-! ## Lines that make a setting -/

/-- The value that a line gives to an option, if it makes that setting. -/
def assigned (option : ConfigOption) (line : Bytes) : Option Bytes :=
  if option.name <+: lineText line then
    some (optionValue option (lineText line))
  else
    none

theorem ConfigOption.name_ne_nil (option : ConfigOption) :
    option.name ≠ [] := by
  cases option <;> decide

theorem ConfigOption.trimmed_name (option : ConfigOption) :
    Lines.Trimmed isSpace option.name := by
  cases option <;> exact ⟨by decide, by decide⟩

theorem ConfigOption.no_comment (option : ConfigOption) :
    0x23 ∉ option.name := by
  cases option <;> decide

theorem cString_of_notMem {line : Bytes} (whole : 0 ∉ line) :
    cString line = line := by
  refine List.takeWhile_eq_self_iff.mpr fun c member => ?_
  rw [bne_iff_ne]
  rintro rfl
  exact whole member

theorem no_comment_of_blank {text : Bytes} (blank : Blank text) :
    0x23 ∉ text :=
  fun member => absurd (blank 0x23 member) (by decide)

/-- What is left of a line without its comment. -/
theorem takeWhile_comment {text comment : Bytes} (plain : 0x23 ∉ text)
    (behind : comment = [] ∨ comment.head? = some 0x23) :
    (text ++ comment).takeWhile (· != 0x23) = text := by
  rw [List.takeWhile_append_of_pos]
  · rcases behind with rfl | starts
    · simp
    · obtain ⟨rest, rfl⟩ := List.head?_eq_some_iff.mp starts
      simp
  · intro c member
    rw [bne_iff_ne]
    rintro rfl
    exact plain member

theorem head?_dropWhile_comment (line : Bytes) :
    line.dropWhile (· != 0x23) = [] ∨
      (line.dropWhile (· != 0x23)).head? = some 0x23 := by
  cases rest : line.dropWhile (· != 0x23) with
  | nil => exact Or.inl rfl
  | cons first rest' =>
      have stops :=
        @List.head_dropWhile_not _ (· != 0x23) line (by simp [rest])
      simp only [rest, List.head_cons, bne_eq_false_iff_eq] at stops
      exact Or.inr (congrArg some stops)

/-- The lines that make a setting. -/
theorem assigned_eq_some_iff {option : ConfigOption} {line value : Bytes}
    (whole : 0 ∉ line) :
    assigned option line = some value ↔ Assigns option line value := by
  have text : lineText line = trim (line.takeWhile (· != 0x23)) := by
    rw [lineText, cString_of_notMem whole]
  rw [assigned, text]
  constructor
  · intro made
    split at made
    next starts =>
      obtain ⟨tail, named⟩ := starts
      obtain ⟨-, lead, trail, body, leads, trails⟩ :=
        Lines.trim_eq_iff.mp named.symm
      rw [← named, optionValue, List.drop_left] at made
      obtain ⟨trimmed, gap, trail', rfl, gaps, trails'⟩ :=
        Lines.trim_eq_iff.mp (Option.some.inj made)
      have plain : 0x23 ∉ value := by
        intro member
        have inBody : 0x23 ∈ line.takeWhile (· != 0x23) := by
          rw [body]
          simp [member]
        simpa using List.mem_takeWhile_imp inBody
      refine ⟨trimmed, plain, lead, gap, trail' ++ trail,
        line.dropWhile (· != 0x23), ?_, leads, gaps, ?_,
        head?_dropWhile_comment line⟩
      · calc
          line = line.takeWhile (· != 0x23) ++ line.dropWhile (· != 0x23) :=
            List.takeWhile_append_dropWhile.symm
          _ = _ := by
            rw [body]
            simp only [List.append_assoc]
      · exact List.forall_mem_append.mpr ⟨trails', trails⟩
    next => cases made
  · rintro ⟨trimmed, plain, lead, gap, trail, comment, rfl, leads, gaps, trails,
      behind⟩
    have noComment : 0x23 ∉ lead ++ option.name ++ gap ++ value ++ trail := by
      simp only [List.mem_append, not_or]
      exact ⟨⟨⟨⟨no_comment_of_blank leads, option.no_comment⟩,
        no_comment_of_blank gaps⟩, plain⟩, no_comment_of_blank trails⟩
    have core :
        trim (lead ++ option.name ++ gap ++ value ++ trail) =
          option.name ++ (gap ++ value ++ trail).rdropWhile isSpace := by
      calc
        trim (lead ++ option.name ++ gap ++ value ++ trail) =
            trim (lead ++ (option.name ++ (gap ++ value ++ trail)) ++ []) := by
          simp only [List.append_assoc, List.append_nil]
        _ = trim (option.name ++ (gap ++ value ++ trail)) :=
          Lines.trim_surrounded leads (by simp) _
        _ = _ :=
          Lines.trim_append_of_trimmed option.trimmed_name option.name_ne_nil _
    rw [takeWhile_comment noComment behind, core,
      if_pos (List.prefix_append _ _), optionValue, List.drop_left]
    refine congrArg some ?_
    exact (Lines.trim_rdropWhile _).trans
      ((Lines.trim_surrounded gaps trails value).trans
        (Lines.trim_of_trimmed trimmed))

/-! ## Settings -/

/-- The configuration in which some settings were made. -/
def Config.ofSlots (cak ckn : Option Bytes) (mkaPriority : Option UInt8) :
    Config where
  mode := .mkaPsk
  cak := cak.getD []
  ckn := ckn.getD []
  mkaPriority := mkaPriority.getD 0
  staticSak := []
  cakSet := cak.isSome
  cknSet := ckn.isSome
  prioritySet := mkaPriority.isSome

/-- The CAK that a value stands for. -/
def parseCak (text : Bytes) : Option Bytes :=
  (parseHex text cakMaxLen).filter keySized

/-- The CKN that a value stands for. -/
def parseCkn (text : Bytes) : Option Bytes :=
  parseHex text cknMaxLen

theorem keySized_iff {key : Bytes} :
    keySized key = true ↔ key.length = 16 ∨ key.length = 32 := by
  simp [keySized]

theorem parseCak_eq_some_iff {text cak : Bytes} :
    parseCak text = some cak ↔ IsKey text cak := by
  rw [parseCak, Option.filter_eq_some_iff, parseHex_eq_some_iff, keySized_iff,
    IsKey]
  constructor
  · rintro ⟨⟨renders, -⟩, sized⟩
    exact ⟨renders, sized⟩
  · rintro ⟨renders, sized⟩
    refine ⟨⟨renders, ?_⟩, sized⟩
    unfold cakMaxLen
    omega

theorem parseCkn_eq_some_iff {text ckn : Bytes} :
    parseCkn text = some ckn ↔ IsCkn text ckn :=
  parseHex_eq_some_iff

theorem Config.ofSlots_eq_iff
    {cak ckn : Bytes} {priority : UInt8} {cak' ckn' : Option Bytes}
    {priority' : Option UInt8} :
    Config.ofSlots (some cak) (some ckn) (some priority) =
        .ofSlots cak' ckn' priority' ↔
      cak' = some cak ∧ ckn' = some ckn ∧ priority' = some priority := by
  cases cak' <;> cases ckn' <;> cases priority' <;>
    simp [Config.ofSlots, eq_comm]

/-- A setting is made in a configuration where it has not been made. -/
theorem setOption_ok_iff {α : Type} {option : ConfigOption} {slot : Option α}
    {parsed : Option α} {sized : α → Bool} {store : α → Config}
    {config : Config} :
    setOption option slot.isSome parsed sized store = .ok config ↔
      slot = none ∧ ∃ value, parsed.filter sized = some value ∧
        config = store value := by
  unfold setOption
  cases slot with
  | some => simp
  | none =>
      cases parsed with
      | none => simp
      | some value =>
          cases fits : sized value with
          | true => simp [Option.filter, fits, eq_comm]
          | false => simp [Option.filter, fits]

theorem setOption_error {α : Type} {option : ConfigOption} {isSet : Bool}
    {parsed : Option α} {sized : α → Bool} {store : α → Config} {fault : Fault}
    (failed : setOption option isSet parsed sized store = .error fault) :
    fault = .duplicate option ∨ fault = .invalid option ∨
      fault = .size option ∧
        ∃ value, parsed = some value ∧ sized value = false := by
  unfold setOption at failed
  split at failed
  next =>
    cases failed
    exact Or.inl rfl
  next =>
    split at failed
    next =>
      cases failed
      exact Or.inr (Or.inl rfl)
    next value =>
      split at failed
      next => cases failed
      next sized =>
        cases failed
        exact Or.inr (Or.inr ⟨rfl, value, rfl, by simpa using sized⟩)

/-- The names of different options do not begin in the same way. -/
theorem ConfigOption.eq_of_starts {option other : ConfigOption} {text : Bytes}
    (starts : option.name <+: text) (starts' : other.name <+: text) :
    option = other := by
  have apart : ∀ option other : ConfigOption, option.name <+: other.name →
      option = other := by
    intro option other
    cases option <;> cases other <;> decide
  rcases List.prefix_or_prefix_of_prefix starts starts' with within | within
  · exact apart _ _ within
  · exact (apart _ _ within).symm

theorem assigned_of_starts {option : ConfigOption} {line : Bytes}
    (starts : option.name <+: lineText line) :
    assigned option line = some (optionValue option (lineText line)) :=
  if_pos starts

theorem assigned_of_other {option other : ConfigOption} {line : Bytes}
    (starts : option.name <+: lineText line) (apart : option ≠ other) :
    assigned other line = none :=
  if_neg fun starts' => apart (ConfigOption.eq_of_starts starts starts')

/-- What is done with a line that makes a setting. -/
theorem loadLine_of_starts (longBits : Nat) (config : Config)
    {option : ConfigOption} {line : Bytes}
    (starts : option.name <+: lineText line) :
    loadLine longBits config line =
      match option with
      | .mkaCak => setCak config (optionValue option (lineText line))
      | .mkaCkn => setCkn config (optionValue option (lineText line))
      | .mkaPriority =>
          setPriority longBits config (optionValue option (lineText line)) := by
  have present : lineText line ≠ [] := by
    intro empty
    rw [empty, List.prefix_nil] at starts
    exact option.name_ne_nil starts
  have others : ∀ other, option ≠ other → ¬other.name <+: lineText line :=
    fun other apart starts' => apart (ConfigOption.eq_of_starts starts starts')
  unfold loadLine
  cases option with
  | mkaCak => simp only [present, starts, if_true, if_false]
  | mkaCkn =>
      simp only [present, starts, others .mkaCak (by decide), if_true, if_false]
  | mkaPriority =>
      simp only [present, starts, others .mkaCak (by decide),
        others .mkaCkn (by decide), if_true, if_false]

theorem loadLine_of_idle (longBits : Nat) (config : Config) {line : Bytes}
    (idle : ∀ option : ConfigOption, ¬option.name <+: lineText line) :
    loadLine longBits config line = .ok config := by
  simp only [loadLine, idle, if_false, ite_self]

/-- A fault names the option whose setting the line makes, and only the size of
a CAK is ever wrong. -/
theorem fault_names_option {longBits : Nat} {config : Config} {line : Bytes}
    {fault : Fault}
    (failed : loadLine longBits config line = .error fault) :
    ∃ option : ConfigOption, option.name <+: lineText line ∧
      (fault = .duplicate option ∨ fault = .invalid option ∨
        fault = .size option ∧ option = .mkaCak) := by
  by_cases makes : ∃ option : ConfigOption, option.name <+: lineText line
  · obtain ⟨option, starts⟩ := makes
    refine ⟨option, starts, ?_⟩
    rw [loadLine_of_starts longBits _ starts] at failed
    cases option with
    | mkaCak =>
        rcases setOption_error failed with rfl | rfl | ⟨rfl, -⟩
        · exact Or.inl rfl
        · exact Or.inr (Or.inl rfl)
        · exact Or.inr (Or.inr ⟨rfl, rfl⟩)
    | mkaCkn =>
        rcases setOption_error failed with rfl | rfl | ⟨rfl, ckn, parsed, sized⟩
        · exact Or.inl rfl
        · exact Or.inr (Or.inl rfl)
        · obtain ⟨-, present, fits⟩ := parseHex_eq_some_iff.mp parsed
          simp [Nat.pos_iff_ne_zero.mp present, Nat.not_lt.mpr fits] at sized
    | mkaPriority =>
        rcases setOption_error failed with rfl | rfl | ⟨rfl, _, _, sized⟩
        · exact Or.inl rfl
        · exact Or.inr (Or.inl rfl)
        · cases sized
  · rw [loadLine_of_idle longBits _ (not_exists.mp makes)] at failed
    cases failed

section Slots

variable {longBits : Nat} {cak ckn : Option Bytes} {priority : Option UInt8}

theorem setCak_ok_iff {value : Bytes} {config : Config} :
    setCak (.ofSlots cak ckn priority) value = .ok config ↔
      cak = none ∧ ∃ cak', parseCak value = some cak' ∧
        config = .ofSlots (some cak') ckn priority :=
  setOption_ok_iff

theorem setCkn_ok_iff {value : Bytes} {config : Config} :
    setCkn (.ofSlots cak ckn priority) value = .ok config ↔
      ckn = none ∧ ∃ ckn', parseCkn value = some ckn' ∧
        config = .ofSlots cak (some ckn') priority := by
  refine setOption_ok_iff.trans (and_congr_right fun _ => ?_)
  refine exists_congr fun ckn' => and_congr_left fun _ => ?_
  rw [Option.filter_eq_some_iff, and_iff_left_of_imp]
  · rfl
  · intro parsed
    obtain ⟨-, present, fits⟩ := parseHex_eq_some_iff.mp parsed
    simp [Nat.pos_iff_ne_zero.mp present, fits]

theorem setPriority_ok_iff {value : Bytes} {config : Config} :
    setPriority longBits (.ofSlots cak ckn priority) value = .ok config ↔
      priority = none ∧
        ∃ priority', parsePriority longBits value = some priority' ∧
          config = .ofSlots cak ckn (some priority') := by
  refine setOption_ok_iff.trans (and_congr_right fun _ => ?_)
  refine exists_congr fun priority' => and_congr_left fun _ => ?_
  rw [Option.filter_eq_some_iff, and_iff_left rfl]

/-- A line is accepted if each of the three settings accepts it. -/
theorem loadLine_ok_iff {line : Bytes} {config : Config} :
    loadLine longBits (.ofSlots cak ckn priority) line = .ok config ↔
      ∃ cak' ckn' priority',
        Lines.settle (assigned .mkaCak) parseCak cak line = some cak' ∧
          Lines.settle (assigned .mkaCkn) parseCkn ckn line = some ckn' ∧
          Lines.settle (assigned .mkaPriority) (parsePriority longBits) priority
              line = some priority' ∧
          config = .ofSlots cak' ckn' priority' := by
  by_cases makes : ∃ option : ConfigOption, option.name <+: lineText line
  · obtain ⟨option, starts⟩ := makes
    have made := assigned_of_starts starts
    have idle : ∀ other, option ≠ other → assigned other line = none :=
      fun other => assigned_of_other starts
    rw [loadLine_of_starts longBits _ starts]
    cases option with
    | mkaCak =>
        simp only [setCak_ok_iff, Lines.settle_of_made made,
          Lines.settle_of_idle (idle .mkaCkn (by decide)),
          Lines.settle_of_idle (idle .mkaPriority (by decide))]
        constructor
        · rintro ⟨free, value, parsed, rfl⟩
          exact ⟨_, _, _, ⟨free, value, parsed, rfl⟩, rfl, rfl, rfl⟩
        · rintro ⟨_, _, _, ⟨free, value, parsed, rfl⟩, kept, kept', rfl⟩
          cases kept
          cases kept'
          exact ⟨free, value, parsed, rfl⟩
    | mkaCkn =>
        simp only [setCkn_ok_iff, Lines.settle_of_made made,
          Lines.settle_of_idle (idle .mkaCak (by decide)),
          Lines.settle_of_idle (idle .mkaPriority (by decide))]
        constructor
        · rintro ⟨free, value, parsed, rfl⟩
          exact ⟨_, _, _, rfl, ⟨free, value, parsed, rfl⟩, rfl, rfl⟩
        · rintro ⟨_, _, _, kept, ⟨free, value, parsed, rfl⟩, kept', rfl⟩
          cases kept
          cases kept'
          exact ⟨free, value, parsed, rfl⟩
    | mkaPriority =>
        simp only [setPriority_ok_iff, Lines.settle_of_made made,
          Lines.settle_of_idle (idle .mkaCak (by decide)),
          Lines.settle_of_idle (idle .mkaCkn (by decide))]
        constructor
        · rintro ⟨free, value, parsed, rfl⟩
          exact ⟨_, _, _, rfl, rfl, ⟨free, value, parsed, rfl⟩, rfl⟩
        · rintro ⟨_, _, _, kept, kept', ⟨free, value, parsed, rfl⟩, rfl⟩
          cases kept
          cases kept'
          exact ⟨free, value, parsed, rfl⟩
  · have idle : ∀ option : ConfigOption, ¬option.name <+: lineText line :=
      not_exists.mp makes
    have none : ∀ option, assigned option line = none :=
      fun option => if_neg (idle option)
    rw [loadLine_of_idle longBits _ idle]
    simp only [Lines.settle_of_idle (none _)]
    constructor
    · intro same
      exact ⟨_, _, _, rfl, rfl, rfl, (Except.ok.inj same).symm⟩
    · rintro ⟨_, _, _, kept, kept', kept'', rfl⟩
      cases kept
      cases kept'
      cases kept''
      rfl

/-- Some lines are accepted if each of the three settings accepts them. -/
theorem foldlM_loadLine_ok_iff {lines : List Bytes} {config : Config} :
    lines.foldlM (loadLine longBits) (.ofSlots cak ckn priority) =
        .ok config ↔
      ∃ cak' ckn' priority',
        lines.foldlM (Lines.settle (assigned .mkaCak) parseCak) cak =
            some cak' ∧
          lines.foldlM (Lines.settle (assigned .mkaCkn) parseCkn) ckn =
            some ckn' ∧
          lines.foldlM
              (Lines.settle (assigned .mkaPriority) (parsePriority longBits))
              priority = some priority' ∧
          config = .ofSlots cak' ckn' priority' := by
  induction lines generalizing cak ckn priority with
  | nil =>
      simp only [List.foldlM_nil]
      constructor
      · intro same
        exact ⟨_, _, _, rfl, rfl, rfl, (Except.ok.inj same).symm⟩
      · rintro ⟨_, _, _, kept, kept', kept'', rfl⟩
        cases kept
        cases kept'
        cases kept''
        rfl
  | cons line lines inductionHypothesis =>
      simp only [List.foldlM_cons, Option.bind_eq_bind, Option.bind_eq_some_iff]
      constructor
      · intro loaded
        cases first : loadLine longBits (.ofSlots cak ckn priority) line with
        | error fault =>
            rw [first] at loaded
            cases loaded
        | ok next =>
            rw [first] at loaded
            obtain ⟨cak', ckn', priority', one, two, three, rfl⟩ :=
              loadLine_ok_iff.mp first
            obtain ⟨cak'', ckn'', priority'', one', two', three', rfl⟩ :=
              inductionHypothesis.mp loaded
            exact ⟨_, _, _, ⟨_, one, one'⟩, ⟨_, two, two'⟩, ⟨_, three, three'⟩,
              rfl⟩
      · rintro ⟨_, _, _, ⟨_, one, one'⟩, ⟨_, two, two'⟩, ⟨_, three, three'⟩,
          rfl⟩
        rw [loadLine_ok_iff.mpr ⟨_, _, _, one, two, three, rfl⟩]
        exact inductionHypothesis.mpr ⟨_, _, _, one', two', three', rfl⟩

end Slots

/-! ## Lines of a file -/

/-- The newline behind a line does not matter. -/
theorem lineText_newline {body : Bytes} (whole : 0 ∉ body) :
    lineText (body ++ [0x0A]) = lineText body := by
  have whole' : 0 ∉ body ++ [0x0A] := by simp [whole]
  rw [lineText, lineText, cString_of_notMem whole, cString_of_notMem whole',
    List.takeWhile_append]
  split
  next all =>
    have plain : body.takeWhile (· != 0x23) = body :=
      (List.takeWhile_sublist _).eq_of_length all
    have trimmed := @Lines.trim_surrounded _ isSpace [] [0x0A] (by simp)
      (List.forall_mem_singleton.mpr rfl) body
    rw [plain]
    exact trimmed
  next => rfl

theorem lineText_cString (line : Bytes) :
    lineText (cString line) = lineText line := by
  have once : cString (cString line) = cString line :=
    List.takeWhile_idem
  rw [lineText, lineText, once]

theorem loadLine_congr {longBits : Nat} {config : Config} {line line' : Bytes}
    (same : lineText line = lineText line') :
    loadLine longBits config line = loadLine longBits config line' := by
  rw [loadLine, loadLine, same]

/-- A text has one first line. -/
theorem append_newline_inj {body body' rest rest' : Bytes}
    (plain : 0x0A ∉ body) (plain' : 0x0A ∉ body')
    (same : body ++ 0x0A :: rest = body' ++ 0x0A :: rest') :
    body = body' ∧ rest = rest' := by
  have untilNewline {body : Bytes} (plain : 0x0A ∉ body) (rest : Bytes) :
      (body ++ 0x0A :: rest).takeWhile (· != 0x0A) = body := by
    rw [List.takeWhile_append_of_pos]
    · simp
    · intro c member
      rw [bne_iff_ne]
      rintro rfl
      exact plain member
  have bodies : body = body' := by
    rw [← untilNewline plain rest, same, untilNewline plain' rest']
  subst bodies
  exact ⟨rfl, (List.cons.inj (List.append_cancel_left same)).2⟩

theorem divides_line_iff {body octets : Bytes} {lines : List Bytes}
    (plain : 0x0A ∉ body) (fits : body.length < configLineMax - 1) :
    Divides (body ++ 0x0A :: octets) lines ↔
      0 ∉ body ∧ ∃ rest, lines = body :: rest ∧ Divides octets rest := by
  constructor
  · intro divides
    generalize whole : body ++ 0x0A :: octets = all at divides
    cases divides with
    | last noNewline =>
        rw [← whole] at noNewline
        simp at noNewline
    | @line body' octets' lines plain' noNul _ rest =>
        obtain ⟨rfl, rfl⟩ := append_newline_inj plain plain' whole
        exact ⟨noNul, lines, rfl, rest⟩
  · rintro ⟨noNul, rest, rfl, divides⟩
    exact .line plain noNul fits divides

theorem divides_last_iff {octets : Bytes} {lines : List Bytes}
    (plain : 0x0A ∉ octets) (fits : octets.length < configLineMax - 1) :
    Divides octets lines ↔ lines = [cString octets] := by
  constructor
  · intro divides
    cases divides with
    | last => rfl
    | line => simp at plain
  · rintro rfl
    exact .last plain fits

/-- A file with a line that is too long is not divided. -/
theorem not_divides_front {front rest : Bytes} {lines : List Bytes}
    (plain : 0x0A ∉ front) (size : front.length = configLineMax - 1) :
    ¬Divides (front ++ rest) lines := by
  intro divides
  generalize whole : front ++ rest = all at divides
  cases divides with
  | last _ fits =>
      rw [← whole, List.length_append] at fits
      omega
  | @line body octets lines _ _ fits =>
      have inFront : body ++ [0x0A] <+: front := by
        have within : body ++ [0x0A] <+: front ++ rest := by
          rw [whole]
          exact ⟨octets, by simp⟩
        refine List.prefix_of_prefix_length_le within
          (List.prefix_append _ _) ?_
        rw [List.length_append, List.length_singleton]
        omega
      exact plain (inFront.subset (by simp))

/-- The newline of a line is found unless there is a NUL before it. -/
theorem newline_mem_cString {body : Bytes} (plain : 0x0A ∉ body) :
    0x0A ∈ cString (body ++ [0x0A]) ↔ 0 ∉ body := by
  constructor
  · intro found noNul
    rw [cString, List.takeWhile_append] at found
    split at found
    next all =>
      have whole : body.takeWhile (· != 0) = body :=
        (List.takeWhile_sublist _).eq_of_length all
      rw [← whole] at noNul
      simpa using List.mem_takeWhile_imp noNul
    next => exact plain ((List.takeWhile_sublist _).subset found)
  · intro whole
    rw [cString_of_notMem (by simp [whole])]
    simp

/-- The lines of a text take one configuration to another. -/
def Loads (longBits : Nat) (config : Config) (octets : Bytes)
    (config' : Config) : Prop :=
  ∃ lines, Divides octets lines ∧
    lines.foldlM (loadLine longBits) config = .ok config'

section Loads

variable {longBits : Nat} {config config' : Config}

theorem loads_line_iff {body rest : Bytes} (plain : 0x0A ∉ body)
    (fits : body.length < configLineMax - 1) :
    Loads longBits config (body ++ 0x0A :: rest) config' ↔
      0 ∉ body ∧ ∃ next, loadLine longBits config body = .ok next ∧
        Loads longBits next rest config' := by
  unfold Loads
  simp only [divides_line_iff plain fits]
  constructor
  · rintro ⟨_, ⟨whole, lines, rfl, divides⟩, loaded⟩
    rw [List.foldlM_cons] at loaded
    cases first : loadLine longBits config body with
    | error fault =>
        rw [first] at loaded
        cases loaded
    | ok next =>
        rw [first] at loaded
        exact ⟨whole, next, rfl, lines, divides, loaded⟩
  · rintro ⟨whole, next, first, lines, divides, loaded⟩
    refine ⟨_, ⟨whole, lines, rfl, divides⟩, ?_⟩
    rw [List.foldlM_cons, first]
    exact loaded

theorem loads_last_iff {octets : Bytes} (plain : 0x0A ∉ octets)
    (fits : octets.length < configLineMax - 1) :
    Loads longBits config octets config' ↔
      loadLine longBits config octets = .ok config' := by
  unfold Loads
  simp only [divides_last_iff plain fits, exists_eq_left, List.foldlM_cons]
  rw [loadLine_congr (lineText_cString octets)]
  cases loadLine longBits config octets with
  | error fault => exact Iff.rfl
  | ok next => exact Iff.rfl

/-- Nothing is left at the end of a file. -/
theorem loads_nil_iff :
    Loads longBits config [] config' ↔ config = config' := by
  have idle : loadLine longBits config [] = .ok config := by
    simp [loadLine, lineText, cString, trim, Lines.trim]
  rw [loads_last_iff List.not_mem_nil (by decide), idle]
  simp

/-- The loop reads the lines of an intact file. -/
theorem loadLines_ok_iff {lineNumber : UInt32} {file : File} :
    loadLines longBits config lineNumber file = .ok config' ↔
      file.failing = false ∧ Loads longBits config file.octets config' := by
  induction size : file.octets.length using Nat.strong_induction_on
    generalizing config lineNumber file with
  | h _ inductionHypothesis =>
      have fetched := fetches file
      subst size
      unfold loadLines
      split
      next ferror read =>
        rw [read] at fetched
        cases fetched with
        | null _ _ ends =>
          cases ferror with
          | true => simp
          | false =>
              obtain rfl := ends.resolve_left Bool.false_ne_true
              simp [loads_nil_iff]
      next chars feof rest read =>
        have shorter := length_rest_lt read
        have goesOn := fun config lineNumber =>
          @inductionHypothesis _ shorter config lineNumber rest rfl
        rw [read] at fetched
        cases fetched with
        | @line body rest failing plain fits =>
          rw [loads_line_iff plain fits]
          by_cases whole : 0 ∈ body
          · have hidden : 0x0A ∉ cString (body ++ [0x0A]) :=
              fun found => (newline_mem_cString plain).mp found whole
            simp [hidden, whole]
          · rw [if_neg fun hidden =>
                hidden.1 ((newline_mem_cString plain).mpr whole),
              loadLine_congr (lineText_newline whole)]
            cases loadLine longBits config body with
            | error fault => simp
            | ok next => simp [goesOn, whole]
        | last plain fits present =>
          rw [loads_last_iff plain fits, if_neg (by simp)]
          cases loadLine longBits config chars with
          | error fault => simp
          | ok next => simp [goesOn, loads_nil_iff]
        | front plain size =>
          have hidden : 0x0A ∉ cString chars :=
            fun found => plain ((List.takeWhile_sublist _).subset found)
          rw [if_pos ⟨hidden, rfl⟩]
          simp [Loads, not_divides_front plain size]

end Loads

/-! ## Files -/

/-- No line has a NUL. -/
theorem Divides.whole {octets : Bytes} {lines : List Bytes}
    (divides : Divides octets lines) : ∀ line ∈ lines, 0 ∉ line := by
  induction divides with
  | last =>
      rw [List.forall_mem_singleton]
      intro member
      simpa using List.mem_takeWhile_imp member
  | line _ whole _ _ inductionHypothesis =>
      exact List.forall_mem_cons.mpr ⟨whole, inductionHypothesis⟩

/-- The settings that the lines make one by one are those that the grammar
declares. -/
theorem loads_ofSlots_iff {longBits : Nat} (wide : 32 ≤ longBits)
    {octets cak ckn : Bytes} {priority : UInt8} :
    Loads longBits .unset octets
        (.ofSlots (some cak) (some ckn) (some priority)) ↔
      ∃ lines, Divides octets lines ∧
        Lines.Declares (Assigns .mkaCak) IsKey lines cak ∧
        Lines.Declares (Assigns .mkaCkn) IsCkn lines ckn ∧
        Lines.Declares (Assigns .mkaPriority) (IsPriority longBits) lines
          priority := by
  refine exists_congr fun lines => and_congr_right fun divides => ?_
  have made : ∀ option, ∀ line ∈ lines, ∀ text,
      assigned option line = some text ↔ Assigns option line text :=
    fun option line member text =>
      assigned_eq_some_iff (divides.whole line member)
  have one := @Lines.foldlM_settle_none _ _ _ _ parseCak _ _ lines cak
    (made .mkaCak) fun _ _ => parseCak_eq_some_iff
  have two := @Lines.foldlM_settle_none _ _ _ _ parseCkn _ _ lines ckn
    (made .mkaCkn) fun _ _ => parseCkn_eq_some_iff
  have three := @Lines.foldlM_settle_none _ _ _ _ (parsePriority longBits) _ _
    lines priority (made .mkaPriority) fun _ _ => parsePriority_eq_some_iff wide
  rw [← one, ← two, ← three]
  refine (@foldlM_loadLine_ok_iff longBits none none none lines _).trans ?_
  simp only [Config.ofSlots_eq_iff]
  constructor
  · rintro ⟨cak', ckn', priority', one, two, three, rfl, rfl, rfl⟩
    exact ⟨one, two, three⟩
  · rintro ⟨one, two, three⟩
    exact ⟨_, _, _, one, two, three, rfl, rfl, rfl⟩

/-- A configuration is complete if all settings were made. -/
theorem complete_iff {longBits : Nat} {octets : Bytes} {config : Config}
    (loads : Loads longBits .unset octets config) :
    config.cakSet = true ∧ config.cknSet = true ∧ config.prioritySet = true ↔
      config = .ofSlots (some config.cak) (some config.ckn)
        (some config.mkaPriority) := by
  obtain ⟨lines, -, loaded⟩ := loads
  obtain ⟨cak, ckn, priority, -, -, -, rfl⟩ :=
    (@foldlM_loadLine_ok_iff longBits none none none lines _).mp loaded
  cases cak <;> cases ckn <;> cases priority <;> simp [Config.ofSlots]

/-- The files that are accepted, and the configuration that they stand for. -/
theorem loadConfig_ok_iff {longBits : Nat} (wide : 32 ≤ longBits)
    {opened : Option File} {config : Config} :
    loadConfig longBits opened = .ok config ↔
      ∃ file, opened = some file ∧ Describes longBits file config := by
  have described : ∀ file, Describes longBits file config ↔
      file.failing = false ∧ Loads longBits .unset file.octets config ∧
        config = .ofSlots (some config.cak) (some config.ckn)
          (some config.mkaPriority) := by
    intro file
    constructor
    · rintro ⟨intact, settings, rest⟩
      refine ⟨intact, ?_, rest⟩
      rw [rest]
      exact (loads_ofSlots_iff wide).mpr settings
    · rintro ⟨intact, loads, rest⟩
      refine ⟨intact, ?_, rest⟩
      rw [rest] at loads
      exact (loads_ofSlots_iff wide).mp loads
  cases opened with
  | none => simp [loadConfig]
  | some file =>
      simp only [Option.some.injEq, exists_eq_left', described]
      constructor
      · intro loaded
        simp only [loadConfig] at loaded
        split at loaded
        next => cases loaded
        next read =>
          split at loaded
          next => cases loaded
          next cakSet =>
            split at loaded
            next => cases loaded
            next cknSet =>
              split at loaded
              next => cases loaded
              next prioritySet =>
                obtain rfl := Except.ok.inj loaded
                obtain ⟨intact, loads⟩ := loadLines_ok_iff.mp read
                simp at cakSet cknSet prioritySet
                exact ⟨intact, loads,
                  (complete_iff loads).mp ⟨cakSet, cknSet, prioritySet⟩⟩
      · rintro ⟨intact, loads, rest⟩
        have complete := (complete_iff loads).mpr rest
        simp only [loadConfig, loadLines_ok_iff.mpr ⟨intact, loads⟩, complete]
        simp

end LinuxTap

end Macsec

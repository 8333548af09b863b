import Macsec.Common

/-!
# Hexadecimal strings

The parser of hexadecimal strings of `macsec_common.c`.  It makes one pass over
the characters with at most one digit pending.  The grammar it accepts is
stated in two stages: the separators are deleted first, and what is left is
read in pairs of digits.
-/

namespace Macsec

/-! ## The parser -/

/-- The value of a hexadecimal digit; `none` stands for the value -1 of other
characters. -/
def hexValue (c : UInt8) : Option UInt8 :=
  if 0x30 ≤ c ∧ c ≤ 0x39 then
    some (c - 0x30)
  else if 0x61 ≤ c ∧ c ≤ 0x66 then
    some (c - 0x61 + 10)
  else if 0x41 ≤ c ∧ c ≤ 0x46 then
    some (c - 0x41 + 10)
  else
    none

/-- Space, newline, carriage return, tabulator and colon. -/
def isSeparator (c : UInt8) : Bool :=
  c == 0x20 || c == 0x0A || c == 0x0D || c == 0x09 || c == 0x3A

/-- The characters of the NUL-terminated string at the start of a memory
area. -/
def cString (hex : Bytes) : Bytes :=
  hex.takeWhile (· != 0)

/-- What the parser leaves to its caller. -/
structure HexResult where
  ret : Err
  out : Bytes
  outLen : Nat
  deriving DecidableEq

/-- The loop of the parser: `hi` is the pending digit and `count` the number of
octets written. -/
def hexToBinFrom (outMaxLen outLen : Nat) :
    (hex : Bytes) → (hi : Option UInt8) → (count : Nat) → (out : Bytes) →
      HexResult
  | [], none, count, out => { ret := .ok, out, outLen := count }
  | [], some _, _, out => { ret := .param, out, outLen }
  | c :: hex, hi, count, out =>
      if isSeparator c then
        hexToBinFrom outMaxLen outLen hex hi count out
      else
        match hexValue c with
        | none => { ret := .param, out, outLen }
        | some lo =>
            match hi with
            | none => hexToBinFrom outMaxLen outLen hex (some lo) count out
            | some hi =>
                if count < outMaxLen then
                  hexToBinFrom outMaxLen outLen hex none (count + 1)
                    (out.set count (hi <<< 4 ||| lo))
                else
                  { ret := .buffer, out, outLen }

/-- Parse a hexadecimal string into a buffer with room for `outMaxLen`
octets. -/
def hexToBin (hex out : Bytes) (outLen outMaxLen : Nat) : HexResult :=
  hexToBinFrom outMaxLen outLen (cString hex) none 0 out

/-! ## The grammar -/

namespace Hex

/-- The digits in the order of their values, with small letters. -/
def smallDigits : Bytes :=
  [0x30, 0x31, 0x32, 0x33, 0x34, 0x35, 0x36, 0x37, 0x38, 0x39, 0x61, 0x62,
    0x63, 0x64, 0x65, 0x66]

/-- The digits in the order of their values, with capital letters. -/
def capitalDigits : Bytes :=
  [0x30, 0x31, 0x32, 0x33, 0x34, 0x35, 0x36, 0x37, 0x38, 0x39, 0x41, 0x42,
    0x43, 0x44, 0x45, 0x46]

/-- The character is the digit of the value, in either case. -/
def Denotes (c : UInt8) (value : Fin 16) : Prop :=
  smallDigits[value.val]? = some c ∨ capitalDigits[value.val]? = some c

instance (c : UInt8) (value : Fin 16) : Decidable (Denotes c value) :=
  inferInstanceAs (Decidable (_ ∨ _))

/-- The octet of two digits. -/
def octet (high low : Fin 16) : UInt8 :=
  UInt8.ofNat (16 * high + low)

/-- The digits of a byte string: two for each octet, the high one first. -/
inductive Renders : (digits bytes : Bytes) → Prop
  | nil : Renders [] []
  | cons
      {first second : UInt8} {high low : Fin 16} {digits bytes : Bytes}
      (denotesHigh : Denotes first high)
      (denotesLow : Denotes second low)
      (rest : Renders digits bytes) :
      Renders (first :: second :: digits) (octet high low :: bytes)

/-- What is left of a string when its separators are deleted. -/
def digitsOf (hex : Bytes) : Bytes :=
  (cString hex).filter fun c => !isSeparator c

/-! ## Digits -/

/-- The value of a character is the one it denotes. -/
theorem hexValue_eq_some_iff (c value : UInt8) :
    hexValue c = some value ↔
      ∃ digit : Fin 16, Denotes c digit ∧ UInt8.ofNat digit = value := by
  constructor
  · intro found
    have all :
        ∀ c : Fin 256,
          hexValue (UInt8.ofFin c) =
            ((List.finRange 16).find? fun digit =>
              Denotes (UInt8.ofFin c) digit).map fun digit : Fin 16 =>
                UInt8.ofNat digit := by
      decide +kernel
    rw [show hexValue c = _ from all c.toFin] at found
    obtain ⟨digit, first, value⟩ := Option.map_eq_some_iff.mp found
    have denotes := List.find?_some first
    exact ⟨digit, of_decide_eq_true denotes, value⟩
  · rintro ⟨digit, denotes, rfl⟩
    have small :
        ∀ digit : Fin 16, smallDigits[digit.val]?.map hexValue =
          some (some (UInt8.ofNat digit)) := by
      decide
    have capital :
        ∀ digit : Fin 16, capitalDigits[digit.val]?.map hexValue =
          some (some (UInt8.ofNat digit)) := by
      decide
    cases denotes with
    | inl inSmall =>
        have value := small digit
        rw [inSmall] at value
        exact Option.some.inj value
    | inr inCapital =>
        have value := capital digit
        rw [inCapital] at value
        exact Option.some.inj value

theorem hexValue_of_denotes {c : UInt8} {value : Fin 16}
    (denotes : Denotes c value) : hexValue c = some (UInt8.ofNat value) :=
  (hexValue_eq_some_iff c _).mpr ⟨value, denotes, rfl⟩

/-- A separator is not a digit. -/
theorem hexValue_of_isSeparator {c : UInt8} (separator : isSeparator c = true) :
    hexValue c = none := by
  simp only [isSeparator, Bool.or_eq_true, beq_iff_eq] at separator
  rcases separator with (((rfl | rfl) | rfl) | rfl) | rfl <;> rfl

theorem isSeparator_of_denotes {c : UInt8} {value : Fin 16}
    (denotes : Denotes c value) : isSeparator c = false := by
  cases separator : isSeparator c with
  | false => rfl
  | true =>
      have none := hexValue_of_isSeparator separator
      rw [hexValue_of_denotes denotes] at none
      cases none

/-- Two digits are joined by a shift. -/
theorem octet_eq (high low : Fin 16) :
    UInt8.ofNat high <<< 4 ||| UInt8.ofNat low = octet high low := by
  revert high low
  decide

/-- The renderings are the digit strings of even length. -/
theorem exists_renders_iff (digits : Bytes) (bound : Nat) :
    (∃ bytes, Renders digits bytes ∧ bytes.length ≤ bound) ↔
      (∀ c ∈ digits, ∃ value, Denotes c value) ∧
        ∃ n, digits.length = 2 * n ∧ n ≤ bound := by
  constructor
  · rintro ⟨bytes, renders, fits⟩
    induction renders generalizing bound with
    | nil => exact ⟨by simp, 0, rfl, Nat.zero_le bound⟩
    | @cons first second high low digits bytes denotesHigh denotesLow rest
        inductionHypothesis =>
        rw [List.length_cons] at fits
        obtain ⟨allDigits, n, even, fitsRest⟩ :=
          inductionHypothesis (bound - 1) (by omega)
        refine ⟨?_, n + 1, ?_, by omega⟩
        · rw [List.forall_mem_cons, List.forall_mem_cons]
          exact ⟨⟨high, denotesHigh⟩, ⟨low, denotesLow⟩, allDigits⟩
        · rw [List.length_cons, List.length_cons, even]
          omega
  · rintro ⟨allDigits, n, even, fits⟩
    induction n generalizing digits bound with
    | zero =>
        rw [List.length_eq_zero_iff.mp even]
        exact ⟨[], .nil, Nat.zero_le bound⟩
    | succ n inductionHypothesis =>
        match digits, even with
        | first :: second :: digits, even =>
            rw [List.forall_mem_cons, List.forall_mem_cons] at allDigits
            obtain ⟨⟨high, denotesHigh⟩, ⟨low, denotesLow⟩, allDigits⟩ :=
              allDigits
            rw [List.length_cons, List.length_cons] at even
            obtain ⟨bytes, rest, fitsRest⟩ :=
              inductionHypothesis digits (bound - 1) allDigits (by omega)
                (by omega)
            refine ⟨octet high low :: bytes,
              .cons denotesHigh denotesLow rest, ?_⟩
            rw [List.length_cons]
            omega

/-- A rendering has two digits for each octet. -/
theorem Renders.length_eq {digits bytes : Bytes}
    (renders : Renders digits bytes) : digits.length = 2 * bytes.length := by
  induction renders with
  | nil => rfl
  | cons _ _ _ inductionHypothesis =>
      rw [List.length_cons, List.length_cons, inductionHypothesis,
        List.length_cons]
      omega

/-! ## The loop -/

section Loop

variable {outMaxLen outLen : Nat}

/-- Separators do not matter to the loop. -/
theorem hexToBinFrom_filter
    (hex : Bytes) (hi : Option UInt8) (count : Nat) (out : Bytes) :
    hexToBinFrom outMaxLen outLen (hex.filter fun c => !isSeparator c) hi
        count out =
      hexToBinFrom outMaxLen outLen hex hi count out := by
  induction hex generalizing hi count out with
  | nil => rfl
  | cons c hex inductionHypothesis =>
      cases separator : isSeparator c with
      | true =>
          rw [List.filter_cons_of_neg (by simp [separator]), hexToBinFrom,
            if_pos separator]
          exact inductionHypothesis hi count out
      | false =>
          rw [List.filter_cons_of_pos (by simp [separator])]
          simp only [hexToBinFrom, separator, inductionHypothesis]

/-- A digit pair is written if there is room for it. -/
theorem hexToBinFrom_pair
    {first second : UInt8} {high low : Fin 16}
    (denotesHigh : Denotes first high) (denotesLow : Denotes second low)
    (hex : Bytes) (count : Nat) (out : Bytes) :
    hexToBinFrom outMaxLen outLen (first :: second :: hex) none count out =
      if count < outMaxLen then
        hexToBinFrom outMaxLen outLen hex none (count + 1)
          (out.set count (octet high low))
      else
        { ret := .buffer, out, outLen } := by
  simp only [hexToBinFrom, isSeparator_of_denotes denotesHigh,
    isSeparator_of_denotes denotesLow, hexValue_of_denotes denotesHigh,
    hexValue_of_denotes denotesLow, octet_eq, Bool.false_eq_true, if_false]

/-- A rendering that fits is decoded. -/
theorem hexToBinFrom_of_renders
    {digits bytes : Bytes} (renders : Renders digits bytes)
    (count : Nat) (out : Bytes) (fits : count + bytes.length ≤ outMaxLen)
    (room : outMaxLen ≤ out.length) :
    hexToBinFrom outMaxLen outLen digits none count out =
      { ret := .ok, out := Bytes.overlay out count bytes,
        outLen := count + bytes.length } := by
  induction renders generalizing count out with
  | nil =>
      rw [hexToBinFrom, Bytes.overlay, List.append_nil, List.length_nil,
        Nat.add_zero, List.take_append_drop]
  | @cons first second high low digits bytes denotesHigh denotesLow _
      inductionHypothesis =>
      rw [List.length_cons] at fits
      rw [hexToBinFrom_pair denotesHigh denotesLow, if_pos (by omega),
        inductionHypothesis (count + 1) _ (by omega)
          (by rwa [List.length_set]),
        List.length_cons]
      rw [Bytes.overlay_set (by omega), Nat.add_right_comm, Nat.add_assoc]

/-- Only renderings that fit are accepted. -/
theorem renders_of_hexToBinFrom
    (digits : Bytes) (noSeparators : ∀ c ∈ digits, isSeparator c = false)
    (count : Nat) (out : Bytes) (within : count ≤ outMaxLen)
    (accepted :
      (hexToBinFrom outMaxLen outLen digits none count out).ret = .ok) :
    ∃ bytes, Renders digits bytes ∧ bytes.length ≤ outMaxLen - count := by
  induction digits using List.twoStepInduction generalizing count out with
  | nil => exact ⟨[], .nil, Nat.zero_le _⟩
  | singleton c =>
      have noSeparator := noSeparators c (List.mem_singleton_self c)
      simp only [hexToBinFrom, noSeparator, Bool.false_eq_true,
        if_false] at accepted
      split at accepted <;> cases accepted
  | cons_cons first second digits inductionHypothesis _ =>
      rw [List.forall_mem_cons, List.forall_mem_cons] at noSeparators
      obtain ⟨firstDigit, secondDigit, noSeparators⟩ := noSeparators
      cases readHigh : hexValue first with
      | none =>
          simp [hexToBinFrom, firstDigit, readHigh] at accepted
      | some highValue =>
          cases readLow : hexValue second with
          | none =>
              simp [hexToBinFrom, firstDigit, secondDigit, readHigh,
                readLow] at accepted
          | some lowValue =>
              obtain ⟨high, denotesHigh, -⟩ :=
                (hexValue_eq_some_iff first highValue).mp readHigh
              obtain ⟨low, denotesLow, -⟩ :=
                (hexValue_eq_some_iff second lowValue).mp readLow
              rw [hexToBinFrom_pair denotesHigh denotesLow] at accepted
              split at accepted
              next inRange =>
                  obtain ⟨bytes, rest, fits⟩ :=
                    inductionHypothesis noSeparators (count + 1) _ inRange
                      accepted
                  refine ⟨octet high low :: bytes,
                    .cons denotesHigh denotesLow rest, ?_⟩
                  rw [List.length_cons]
                  omega
              next => cases accepted

/-- Nothing is written behind the capacity, and the length is reported only on
success. -/
theorem hexToBinFrom_frame
    (hex : Bytes) (hi : Option UInt8) (count : Nat) (out : Bytes) :
    let result := hexToBinFrom outMaxLen outLen hex hi count out
    result.out.length = out.length ∧
      result.out.drop outMaxLen = out.drop outMaxLen ∧
      (result.ret ≠ .ok → result.outLen = outLen) := by
  induction hex generalizing hi count out with
  | nil => cases hi <;> simp [hexToBinFrom]
  | cons c hex inductionHypothesis =>
      cases separator : isSeparator c with
      | true =>
          simpa [hexToBinFrom, separator] using inductionHypothesis hi count out
      | false =>
          cases digit : hexValue c with
          | none => simp [hexToBinFrom, separator, digit]
          | some lo =>
              cases hi with
              | none =>
                  simpa [hexToBinFrom, separator, digit] using
                    inductionHypothesis (some lo) count out
              | some hi =>
                  by_cases inRange : count < outMaxLen
                  · have next := inductionHypothesis none (count + 1)
                      (out.set count (hi <<< 4 ||| lo))
                    rw [List.length_set, List.drop_set_of_lt inRange] at next
                    simpa [hexToBinFrom, separator, digit, inRange] using next
                  · simp [hexToBinFrom, separator, digit, inRange]

end Loop

/-! ## The parser and its grammar -/

section Parser

variable {hex out : Bytes} {outLen outMaxLen : Nat}

/-- The parser reads the digits of its string. -/
theorem hexToBin_eq :
    hexToBin hex out outLen outMaxLen =
      hexToBinFrom outMaxLen outLen (digitsOf hex) none 0 out := by
  rw [hexToBin, digitsOf, hexToBinFrom_filter]

/-- The octets of a rendering that fits are written in order. -/
theorem hexToBin_of_renders
    {bytes : Bytes} (renders : Renders (digitsOf hex) bytes)
    (fits : bytes.length ≤ outMaxLen) (room : outMaxLen ≤ out.length) :
    hexToBin hex out outLen outMaxLen =
      { ret := .ok, out := bytes ++ out.drop bytes.length,
        outLen := bytes.length } := by
  rw [hexToBin_eq, hexToBinFrom_of_renders renders 0 out
    (by rwa [Nat.zero_add]) room, Nat.zero_add, Bytes.overlay_zero]

/-- The strings that are accepted are those whose digits render octets that
fit. -/
theorem hexToBin_ok_iff (room : outMaxLen ≤ out.length) :
    (hexToBin hex out outLen outMaxLen).ret = .ok ↔
      ∃ bytes, Renders (digitsOf hex) bytes ∧ bytes.length ≤ outMaxLen := by
  constructor
  · intro accepted
    rw [hexToBin_eq] at accepted
    have noSeparators : ∀ c ∈ digitsOf hex, isSeparator c = false := by
      intro c member
      simpa using (List.mem_filter.mp member).2
    exact renders_of_hexToBinFrom _ noSeparators 0 out (Nat.zero_le _) accepted
  · rintro ⟨bytes, renders, fits⟩
    rw [hexToBin_of_renders renders fits room]

end Parser

/-- A character of a rendering is not the terminator. -/
theorem ne_zero_of_denotes {c : UInt8} {value : Fin 16}
    (denotes : Denotes c value) : c ≠ 0 := by
  rintro rfl
  have digit := hexValue_of_denotes denotes
  cases digit

/-- A string of digits and separators is read up to its terminator. -/
theorem cString_of_renders
    {spaced bytes : Bytes} (behind : Bytes)
    (renders : Renders (spaced.filter fun c => !isSeparator c) bytes) :
    cString (spaced ++ 0 :: behind) = spaced := by
  have digits :=
    (exists_renders_iff _ bytes.length).mp ⟨bytes, renders, le_rfl⟩
  have present : ∀ c ∈ spaced, (c != 0) = true := by
    intro c member
    rw [bne_iff_ne]
    cases separator : isSeparator c with
    | true =>
        rintro rfl
        cases separator
    | false =>
        have kept : c ∈ spaced.filter fun c => !isSeparator c := by
          rw [List.mem_filter, separator]
          exact ⟨member, rfl⟩
        obtain ⟨value, denotes⟩ := digits.1 c kept
        exact ne_zero_of_denotes denotes
  rw [cString, List.takeWhile_append_of_pos present,
    List.takeWhile_cons_of_neg (by simp), List.append_nil]

/-- The parser accepts exactly its grammar: without its separators the string
consists of the digits of a byte string that fits.  Then the byte string and
its length are stored; otherwise the length stays as it was.  Nothing is ever
written behind the capacity, and every rendering that fits is decoded, wherever
separators stand in it. -/
theorem hexToBin_grammar
    (hex out : Bytes) (outLen outMaxLen : Nat)
    (room : outMaxLen ≤ out.length) :
    ((hexToBin hex out outLen outMaxLen).ret = .ok ↔
      (∀ c ∈ digitsOf hex, ∃ value, Denotes c value) ∧
        ∃ n, (digitsOf hex).length = 2 * n ∧ n ≤ outMaxLen) ∧
    ((hexToBin hex out outLen outMaxLen).ret = .ok →
      ∃ bytes, Renders (digitsOf hex) bytes ∧
        (digitsOf hex).length = 2 * bytes.length ∧
        (hexToBin hex out outLen outMaxLen).outLen = bytes.length ∧
        (hexToBin hex out outLen outMaxLen).out =
          bytes ++ out.drop bytes.length) ∧
    ((hexToBin hex out outLen outMaxLen).ret ≠ .ok →
      (hexToBin hex out outLen outMaxLen).outLen = outLen) ∧
    ((hexToBin hex out outLen outMaxLen).out.length = out.length ∧
      (hexToBin hex out outLen outMaxLen).out.drop outMaxLen =
        out.drop outMaxLen) ∧
    ∀ spaced behind bytes,
      Renders (spaced.filter fun c => !isSeparator c) bytes →
      bytes.length ≤ outMaxLen →
      hexToBin (spaced ++ 0 :: behind) out outLen outMaxLen =
        { ret := .ok, out := bytes ++ out.drop bytes.length,
          outLen := bytes.length } := by
  have frame :=
    @hexToBinFrom_frame outMaxLen outLen (digitsOf hex) none 0 out
  rw [← hexToBin_eq] at frame
  refine ⟨?_, ?_, frame.2.2, ⟨frame.1, frame.2.1⟩, ?_⟩
  · rw [hexToBin_ok_iff room]
    exact exists_renders_iff (digitsOf hex) outMaxLen
  · intro accepted
    obtain ⟨bytes, renders, fits⟩ := (hexToBin_ok_iff room).mp accepted
    rw [hexToBin_of_renders renders fits room]
    exact ⟨bytes, renders, renders.length_eq, rfl, rfl⟩
  · intro spaced behind bytes renders fits
    have digits :
        digitsOf (spaced ++ 0 :: behind) =
          spaced.filter fun c => !isSeparator c := by
      rw [digitsOf, cString_of_renders behind renders]
    exact hexToBin_of_renders (digits.symm ▸ renders) fits room

/-- The string "0a:F\n0" decodes to two octets. -/
theorem hexToBin_grammar_spaced :
    2 ≤ [0x11, 0x22, 0x33].length ∧
      hexToBin ([0x30, 0x61, 0x3A, 0x46, 0x0A, 0x30] ++ 0 :: [0x39])
          [0x11, 0x22, 0x33] 7 2 =
        { ret := .ok, out := [0x0A, 0xF0, 0x33], outLen := 2 } := by
  refine ⟨by decide, ?_⟩
  have room : 2 ≤ ([0x11, 0x22, 0x33] : Bytes).length := by decide
  have decoded :=
    (hexToBin_grammar [] [0x11, 0x22, 0x33] 7 2 room).2.2.2.2
      [0x30, 0x61, 0x3A, 0x46, 0x0A, 0x30] [0x39]
      [octet 0 10, octet 15 0]
  apply decoded
  · have first : Denotes 0x30 0 := by decide
    have second : Denotes 0x61 10 := by decide
    have third : Denotes 0x46 15 := by decide
    exact .cons first second (.cons third first .nil)
  · decide

end Hex

end Macsec

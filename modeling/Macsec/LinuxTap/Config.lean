import Macsec.Foundation.Lines
import Macsec.Hex
import Macsec.LinuxTap.Defs

/-!
# The configuration of the Linux TAP program

The program takes a static SAK from its command line, or the settings of the key
agreement from a file.  The file is read line by line with `fgets`; comments and
blanks are deleted, and lines that make none of the three settings are ignored.
The grammar of the files that are accepted is stated for the file as a whole.
-/

namespace Macsec

namespace LinuxTap

/-! ## Texts -/

/-- Space, tabulator, newline, vertical tabulator, form feed and carriage
return. -/
def isSpace (c : UInt8) : Bool :=
  c == 0x20 || (0x09 ≤ c && c ≤ 0x0D)

/-- A text without the blanks at both ends. -/
def trim (text : Bytes) : Bytes :=
  Lines.trim isSpace text

/-- The octets of pairs of hexadecimal digits, which are read as by the library
itself. -/
def hexPairs : Bytes → Option Bytes
  | first :: second :: text =>
      match hexValue first, hexValue second with
      | some high, some low =>
          (hexPairs text).map fun rest => (high <<< 4 ||| low) :: rest
      | _, _ => none
  | _ => some []

/-- The octets that an even number of hexadecimal digits stands for, if they
fit. -/
def parseHex (text : Bytes) (outputCapacity : Nat) : Option Bytes :=
  if text.length = 0 ∨ text.length % 2 ≠ 0 then
    none
  else if text.length / 2 > outputCapacity then
    none
  else
    hexPairs text

/-- Whether a character is a decimal digit. -/
def isDigit (c : UInt8) : Bool :=
  0x30 ≤ c && c ≤ 0x39

/-- The number that decimal digits stand for. -/
def decimal (digits : Bytes) : Nat :=
  digits.foldl (fun value c => 10 * value + (c.toNat - 0x30)) 0

/-- What `strtoul` answers: a value, whether it was out of range, and the text
behind the number. -/
structure Conversion where
  value : Nat
  outOfRange : Bool
  rest : Bytes
  deriving DecidableEq

/-- Convert the digits behind the sign of a number. -/
def convert (longBits : Nat) (negative : Bool) (text unsigned : Bytes) :
    Conversion :=
  let digits := unsigned.takeWhile isDigit
  if digits = [] then
    ⟨0, false, text⟩
  else
    let value := decimal digits
    let rest := unsigned.dropWhile isDigit
    if 2 ^ longBits ≤ value then
      ⟨2 ^ longBits - 1, true, rest⟩
    else
      ⟨if negative then (2 ^ longBits - value) % 2 ^ longBits else value, false,
        rest⟩

/-- `strtoul` in base ten, where an `unsigned long` has `longBits` bits.  A
number with a minus sign is negated in that type. -/
def strtoul (longBits : Nat) (text : Bytes) : Conversion :=
  let number := text.dropWhile isSpace
  if number.head? = some 0x2D then
    convert longBits true text number.tail
  else if number.head? = some 0x2B then
    convert longBits false text number.tail
  else
    convert longBits false text number

/-- The priority that a whole text stands for, if it is at most 255 as an
`unsigned int`. -/
def parsePriority (longBits : Nat) (text : Bytes) : Option UInt8 :=
  let conversion := strtoul longBits text
  let value := UInt32.ofNat conversion.value
  if conversion.outOfRange ∨ conversion.rest = text ∨ conversion.rest ≠ [] ∨
      value > 255 then
    none
  else
    some value.toUInt8

/-! ## The configuration file -/

/-- What is left to read of a file, and whether the system reports an error
behind it. -/
structure File where
  octets : Bytes
  failing : Bool

/-- What `fgets` answers: no line, at the end of the file or on an error, or a
line, whether it met the end of the file, and what is left to read. -/
inductive Fgets
  | null (ferror : Bool)
  | line (chars : Bytes) (feof : Bool) (rest : File)

/-- Whether a character ends a line. -/
def isNewline (c : UInt8) : Bool := c == 0x0A

/-- `fgets` with a buffer of a given size. -/
def fgets (size : Nat) (file : File) : Fgets :=
  let next := Lines.read isNewline (size - 1) file.octets
  if next.atEnd ∧ (file.failing ∨ next.chars = []) then
    .null file.failing
  else
    .line next.chars next.atEnd { file with octets := next.rest }

/-- The size of the line buffer. -/
def configLineMax : Nat := 512

/-- A call of `fgets` gets a whole line, or nothing, or the last line of a file,
or the front of a line that is too long. -/
inductive Fetches : File → Fgets → Prop
  | line
      {body rest : Bytes} {failing : Bool}
      (plain : 0x0A ∉ body)
      (fits : body.length < configLineMax - 1) :
      Fetches ⟨body ++ 0x0A :: rest, failing⟩
        (.line (body ++ [0x0A]) false ⟨rest, failing⟩)
  | null
      {octets : Bytes} {failing : Bool}
      (plain : 0x0A ∉ octets)
      (fits : octets.length < configLineMax - 1)
      (ends : failing = true ∨ octets = []) :
      Fetches ⟨octets, failing⟩ (.null failing)
  | last
      {octets : Bytes}
      (plain : 0x0A ∉ octets)
      (fits : octets.length < configLineMax - 1)
      (present : octets ≠ []) :
      Fetches ⟨octets, false⟩ (.line octets true ⟨[], false⟩)
  | front
      {front rest : Bytes} {failing : Bool}
      (plain : 0x0A ∉ front)
      (size : front.length = configLineMax - 1) :
      Fetches ⟨front ++ rest, failing⟩ (.line front false ⟨rest, failing⟩)

/-- No character of a text is a newline. -/
theorem newline_notMem {text : Bytes}
    (plain : ∀ c ∈ text, isNewline c = false) : 0x0A ∉ text :=
  fun member => Bool.noConfusion (plain 0x0A member)

theorem fetches (file : File) : Fetches file (fgets configLineMax file) := by
  have reads := Lines.reads_read isNewline (configLineMax - 1) file.octets
  obtain ⟨octets, failing⟩ := file
  simp only [fgets]
  generalize Lines.read isNewline (configLineMax - 1) octets = next at reads ⊢
  cases reads with
  | line plain stops fits =>
      obtain rfl := beq_iff_eq.mp stops
      exact .line (newline_notMem plain) fits
  | full plain size => exact .front (newline_notMem plain) size
  | last plain fits =>
      by_cases ends : failing = true ∨ octets = []
      · rw [if_pos ⟨rfl, ends⟩]
        exact .null (newline_notMem plain) fits ends
      · rw [if_neg fun both => ends both.2]
        rw [not_or, Bool.not_eq_true] at ends
        obtain ⟨rfl, present⟩ := ends
        exact .last (newline_notMem plain) fits present

/-- Every line that is read makes the file shorter. -/
theorem length_rest_lt {file rest : File} {chars : Bytes} {feof : Bool}
    (read : fgets configLineMax file = .line chars feof rest) :
    rest.octets.length < file.octets.length := by
  have fetched := fetches file
  rw [read] at fetched
  cases fetched with
  | line => simp; omega
  | last _ _ present => exact List.length_pos_iff.mpr present
  | front _ size => simp [size, configLineMax]

/-- The size of the buffer of the CAK. -/
def cakMaxLen : Nat := 32

/-- The size of the buffer of the CKN. -/
def cknMaxLen : Nat := 32

/-- The three settings of a configuration file. -/
inductive ConfigOption
  | mkaCak
  | mkaCkn
  | mkaPriority
  deriving DecidableEq

/-- The octets of "mka_cak=", "mka_ckn=" and "mka_priority=". -/
def ConfigOption.name : ConfigOption → Bytes
  | .mkaCak => [0x6D, 0x6B, 0x61, 0x5F, 0x63, 0x61, 0x6B, 0x3D]
  | .mkaCkn => [0x6D, 0x6B, 0x61, 0x5F, 0x63, 0x6B, 0x6E, 0x3D]
  | .mkaPriority =>
      [0x6D, 0x6B, 0x61, 0x5F, 0x70, 0x72, 0x69, 0x6F, 0x72, 0x69, 0x74, 0x79,
        0x3D]

/-- What is wrong with a line: it does not fit into the buffer, or its setting
was made before, has an invalid value, or one of a wrong size. -/
inductive Fault
  | tooLong
  | duplicate (option : ConfigOption)
  | invalid (option : ConfigOption)
  | size (option : ConfigOption)
  deriving DecidableEq

/-- What the program complains about: the file cannot be opened or read, or a
line is faulty, or a setting is missing. -/
inductive ConfigError
  | cannotOpen
  | atLine (lineNumber : UInt32) (fault : Fault)
  | cannotRead
  | missing (option : ConfigOption)
  deriving DecidableEq

/-- Make a setting. -/
def setOption {α : Type} (option : ConfigOption) (isSet : Bool)
    (parsed : Option α) (sized : α → Bool) (store : α → Config) :
    Except Fault Config :=
  if isSet then
    .error (.duplicate option)
  else
    match parsed with
    | none => .error (.invalid option)
    | some value =>
        if sized value then .ok (store value) else .error (.size option)

/-- Whether a key has 128 or 256 bits. -/
def keySized (key : Bytes) : Bool :=
  key.length == 16 || key.length == 32

/-- Make the setting of the CAK. -/
def setCak (config : Config) (value : Bytes) : Except Fault Config :=
  setOption .mkaCak config.cakSet (parseHex value cakMaxLen) keySized
    fun cak => { config with cak, cakSet := true }

/-- Make the setting of the CKN. -/
def setCkn (config : Config) (value : Bytes) : Except Fault Config :=
  setOption .mkaCkn config.cknSet (parseHex value cknMaxLen)
    (fun ckn => !(ckn.length == 0 || ckn.length > cknMaxLen))
    fun ckn => { config with ckn, cknSet := true }

/-- Make the setting of the priority. -/
def setPriority (longBits : Nat) (config : Config) (value : Bytes) :
    Except Fault Config :=
  setOption .mkaPriority config.prioritySet (parsePriority longBits value)
    (fun _ => true)
    fun mkaPriority => { config with mkaPriority, prioritySet := true }

/-- The text of a line, without its comment. -/
def lineText (line : Bytes) : Bytes :=
  trim ((cString line).takeWhile (· != 0x23))

/-- The value that a text gives to an option. -/
def optionValue (option : ConfigOption) (text : Bytes) : Bytes :=
  trim (text.drop option.name.length)

/-- Take over the setting of a line that fits. -/
def loadLine (longBits : Nat) (config : Config) (line : Bytes) :
    Except Fault Config :=
  let text := lineText line
  if text = [] then
    .ok config
  else if ConfigOption.mkaCak.name <+: text then
    setCak config (optionValue .mkaCak text)
  else if ConfigOption.mkaCkn.name <+: text then
    setCkn config (optionValue .mkaCkn text)
  else if ConfigOption.mkaPriority.name <+: text then
    setPriority longBits config (optionValue .mkaPriority text)
  else
    .ok config

/-- The loop over the lines, after `lineNumber` of them. -/
def loadLines (longBits : Nat) (config : Config) (lineNumber : UInt32)
    (file : File) : Except ConfigError Config :=
  match _read : fgets configLineMax file with
  | .null ferror => if ferror then .error .cannotRead else .ok config
  | .line chars feof rest =>
      let lineNumber := lineNumber + 1
      if 0x0A ∉ cString chars ∧ !feof then
        .error (.atLine lineNumber .tooLong)
      else
        match loadLine longBits config chars with
        | .error fault => .error (.atLine lineNumber fault)
        | .ok config => loadLines longBits config lineNumber rest
termination_by file.octets.length
decreasing_by exact length_rest_lt _read

/-- The configuration before any setting is made. -/
def Config.unset : Config where
  mode := .mkaPsk
  cak := []
  ckn := []
  mkaPriority := 0
  staticSak := []
  cakSet := false
  cknSet := false
  prioritySet := false

/-- Load the settings of a file, unless it cannot be opened. -/
def loadConfig (longBits : Nat) (opened : Option File) :
    Except ConfigError Config :=
  match opened with
  | none => .error .cannotOpen
  | some file =>
      match loadLines longBits .unset 0 file with
      | .error error => .error error
      | .ok config =>
          if !config.cakSet then
            .error (.missing .mkaCak)
          else if !config.cknSet then
            .error (.missing .mkaCkn)
          else if !config.prioritySet then
            .error (.missing .mkaPriority)
          else
            .ok config

/-! ## The command line -/

/-- The octets of "STATIC_SAK=". -/
def staticSakName : Bytes :=
  [0x53, 0x54, 0x41, 0x54, 0x49, 0x43, 0x5F, 0x53, 0x41, 0x4B, 0x3D]

/-- The octets of "linux_tap.conf". -/
def configDefault : Bytes :=
  [0x6C, 0x69, 0x6E, 0x75, 0x78, 0x5F, 0x74, 0x61, 0x70, 0x2E, 0x63, 0x6F, 0x6E,
    0x66]

/-- The configuration that an argument with a static SAK stands for. -/
def parseStaticSak (argument : Bytes) : Option Config :=
  if staticSakName <+: argument then
    match parseHex (argument.drop staticSakName.length) 32 with
    | none => none
    | some staticSak =>
        if keySized staticSak then
          some { Config.unset with mode := .staticSak, staticSak }
        else
          none
  else
    none

/-- The configuration of the program with its last argument, if it has one, and
the files that it can open. -/
def configure (longBits : Nat) (argument : Option Bytes)
    (fopen : Bytes → Option File) : Option Config :=
  let configPath := argument.getD configDefault
  if staticSakName <+: configPath then
    parseStaticSak configPath
  else
    (loadConfig longBits (fopen configPath)).toOption

end LinuxTap

end Macsec

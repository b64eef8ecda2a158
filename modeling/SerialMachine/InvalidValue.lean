import SerialMachine.Operation
import SerialMachine.Flag
import SerialMachine.Text.Case
import SerialMachine.Text.Hexadecimal
import SerialMachine.Text.Numeral

/-!
# Values that cannot be used

The causes for which a request is refused because of a value in it, and the text of each.
-/

namespace SerialMachine

/-- Why a given value cannot be used. -/
inductive InvalidValue
  /-- No variant has the name. -/
  | unknownVariant (name : String)
  /-- A machine word needs at least eight bits. -/
  | narrowWord (width : Int)
  /-- The width is too small for the bits that the operation looks at. -/
  | negativeShift
  /-- The variant lacks the operation. -/
  | foreignOperation (operation : Operation) (variant : Variant)
  /-- The operand needs more than its `bits` bits. -/
  | wideOperand (operand : Int) (bits : Int)
  /-- No register, and no flag condition, has the name. -/
  | unknownRegister (name : String)
  /-- No comparison has the name. -/
  | unknownComparison (name : String)
  /-- The variant has no flag that the flag condition could mean. -/
  | unknownFlag (register : String) (variant : Variant)
  /-- The words reach outside the memory. -/
  | wordsDoNotFit (count : Nat) (start size : Int)
  /-- The text given for the word width is not an integer. -/
  | widthNotInteger (text : String)
  /-- A number has more digits than a decimal numeral may have. -/
  | longNumeral
  /-- The size is beyond every index. -/
  | sizeNotIndex
  /-- The width asks for numbers with more digits than can be counted. -/
  | tooManyDigits
  /-- The host has no room for what is asked for. -/
  | noRoom
  deriving DecidableEq, Repr

namespace InvalidValue

/-- The registers that conditions may name, in alphabetical order, as messages list them. -/
def registerChoices : String :=
  "acc, compare, flags, op, pc, shadow, tcount, flag_<name>"

/-- The comparisons that conditions may use, in character order, as messages list them. -/
def comparisonChoices : String :=
  "!=, &, <, <=, ==, >, >="

/-- The flag conditions of a variant, as messages list them. -/
def flagChoices (variant : Variant) : String :=
  ", ".intercalate ((Flag.layout variant).map fun flag => "flag_" ++ Text.lowerString flag.name)

/-- The text that reports the cause. -/
def message : InvalidValue → String
  | unknownVariant name =>
    s!"Unknown variant '{name}'. Valid variants: " ++ ", ".intercalate (Variant.all.map (·.name))
  | narrowWord width => s!"Word width must be at least 8 bits, got {width}"
  | negativeShift => "negative shift count"
  | foreignOperation operation variant =>
    s!"{operation.name} is not part of the {variant.name} instruction set"
  | wideOperand operand bits => s!"Operand ${Text.hex 0 operand} does not fit in {bits} bits"
  | unknownRegister name => s!"Unknown register '{name}'. Valid registers: " ++ registerChoices
  | unknownComparison name => s!"Unknown operator '{name}'. Valid operators: " ++ comparisonChoices
  | unknownFlag register variant =>
    s!"Unknown flag '{register}' for the {variant.name} variant. Valid flags: " ++
      flagChoices variant
  | wordsDoNotFit count start size =>
    s!"{count} words at ${Text.hex 4 start} do not fit in {size}-word memory"
  | widthNotInteger text => s!"BITSERIAL_WIDTH must be an integer, got '{text}'"
  | longNumeral =>
    s!"Exceeds the limit ({Text.decimalDigitLimit} digits) for integer string conversion; " ++
      "use sys.set_int_max_str_digits() to increase the limit"
  | sizeNotIndex => "cannot fit 'int' into an index-sized integer"
  | tooManyDigits => "too many digits in integer"
  | noRoom => ""

/-- The decimal numeral of an integer, refused when it would be too long. -/
def decimal (value : Int) : Except InvalidValue String :=
  (Text.writeDecimal? value).elim (.error longNumeral) .ok

/-- Refuses numbers that a text would have to hold in decimal numerals, if one would be too long. -/
def checkNumerals : List Int → Except InvalidValue Unit
  | [] => .ok ()
  | value :: rest => do
    let _ ← decimal value
    checkNumerals rest

theorem decimal_eq_error_iff {value : Int} {cause : InvalidValue} :
    decimal value = .error cause ↔ Text.writeDecimal? value = none ∧ cause = .longNumeral := by
  unfold decimal
  cases Text.writeDecimal? value <;> simp [eq_comm]

theorem checkNumerals_eq_error_iff {values : List Int} {cause : InvalidValue} :
    checkNumerals values = .error cause ↔
      (∃ value ∈ values, Text.writeDecimal? value = none) ∧ cause = .longNumeral := by
  induction values with
  | nil => simp [checkNumerals]
  | cons value rest ih =>
    unfold checkNumerals
    cases written : decimal value with
    | error found =>
      obtain ⟨long, rfl⟩ := decimal_eq_error_iff.1 written
      simp [bind, Except.bind, long, eq_comm]
    | ok text =>
      have short : Text.writeDecimal? value ≠ none := by
        intro long
        simp [decimal, long] at written
      simp [bind, Except.bind, ih, short]

theorem checkNumerals_eq_ok_iff {values : List Int} :
    checkNumerals values = .ok () ↔ ∀ value ∈ values, Text.writeDecimal? value ≠ none := by
  cases checked : checkNumerals values with
  | ok u =>
    have none_long : ¬∃ value ∈ values, Text.writeDecimal? value = none := by
      intro long
      rw [checkNumerals_eq_error_iff.2 ⟨long, rfl⟩] at checked
      cases checked
    simpa using none_long
  | error cause =>
    obtain ⟨⟨value, member, long⟩, -⟩ := checkNumerals_eq_error_iff.1 checked
    simp only [reduceCtorEq, false_iff]
    exact fun short => short value member long

/-- Whether it is the host that cannot serve the request. -/
def overtaxesHost : InvalidValue → Bool
  | sizeNotIndex | tooManyDigits | noRoom => true
  | _ => false

end InvalidValue

end SerialMachine

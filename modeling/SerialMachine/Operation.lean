import SerialMachine.Variant

/-!
# Operations and their opcodes

The nineteen operations, and for each variant the sixteen of them that the opcode nibble of a word
selects. Main statement: within a variant no two nibbles select the same operation.
-/

namespace SerialMachine

/-- An operation that one of the variants can execute. -/
inductive Operation
  | or | and | xor | invert | add | sub | lshift | rshift | load | store | loadc | storec
  | literal | unused | shadow | jump | jumpz | set | get
  deriving DecidableEq, Repr, Inhabited

namespace Operation

/-- The mnemonic. -/
def name : Operation → String
  | or => "OR"
  | and => "AND"
  | xor => "XOR"
  | invert => "INVERT"
  | add => "ADD"
  | sub => "SUB"
  | lshift => "LSHIFT"
  | rshift => "RSHIFT"
  | load => "LOAD"
  | store => "STORE"
  | loadc => "LOADC"
  | storec => "STOREC"
  | literal => "LITERAL"
  | unused => "UNUSED"
  | shadow => "SHADOW"
  | jump => "JUMP"
  | jumpz => "JUMPZ"
  | set => "SET"
  | get => "GET"

/-- Every operation. -/
def all : List Operation :=
  [or, and, xor, invert, add, sub, lshift, rshift, load, store, loadc, storec,
    literal, unused, shadow, jump, jumpz, set, get]

/-- The operation with a mnemonic. -/
def ofName? (text : String) : Option Operation :=
  all.find? (·.name == text)

/-- The sixteen operations of a variant, opcode `0` first. -/
def table : Variant → List Operation
  | .base =>
    [or, and, xor, add, lshift, rshift, load, store, loadc, storec, literal, unused, jump, jumpz,
      set, get]
  | .extended =>
    [or, and, xor, invert, add, sub, lshift, rshift, load, store, literal, shadow, jump, jumpz,
      set, get]

/-- The operation that an opcode selects; none when it is not a nibble. -/
def ofOpcode? (variant : Variant) (opcode : Int) : Option Operation :=
  if opcode < 0 then none else (table variant)[opcode.toNat]?

/-- The opcode of an operation; none when the variant lacks it. -/
def opcode? (variant : Variant) (operation : Operation) : Option Nat :=
  (table variant).findIdx? (· == operation)

/-- Whether the word at the operand's address is read into the accumulator. -/
def loads : Operation → Bool
  | load | loadc => true
  | _ => false

/-- Whether the accumulator is written to the operand's address. -/
def stores : Operation → Bool
  | store | storec => true
  | _ => false

/-- Whether the operand is an address rather than a value. -/
def takesAddress : Operation → Bool
  | load | store | loadc | storec | jump | jumpz => true
  | _ => false

/-- Whether the operand selects a register to exchange, or an input or output transfer. -/
def exchanges : Operation → Bool
  | get | set => true
  | _ => false

theorem table_length (variant : Variant) : (table variant).length = 16 := by
  cases variant <;> rfl

theorem table_nodup (variant : Variant) : (table variant).Nodup := by
  cases variant <;> decide

end Operation

end SerialMachine

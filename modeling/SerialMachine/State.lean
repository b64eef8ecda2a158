import SerialMachine.Variant

/-!
# The state graph

The nine states of the machine and the successors that each may have. Every state lasts as many
cycles as a word has bits, and one more to set up.
-/

namespace SerialMachine

/-- A state of the machine. -/
inductive State
  /-- Zeros are shifted into every register and onto the address line. -/
  | reset
  /-- The instruction word at the program counter is read. -/
  | fetch
  /-- The operand is driven as an address. -/
  | indirect
  /-- The word at that address is read as the operand. -/
  | operand
  /-- The operation takes effect. -/
  | execute
  /-- The accumulator is written. -/
  | store
  /-- A word is read into the accumulator. -/
  | load
  /-- The program counter is increased. -/
  | advance
  /-- The machine stands still. -/
  | halt
  deriving DecidableEq, Repr, Inhabited

namespace State

/-- The name of a state. -/
def name : State → String
  | reset => "RESET"
  | fetch => "FETCH"
  | indirect => "INDIRECT"
  | operand => "OPERAND"
  | execute => "EXECUTE"
  | store => "STORE"
  | load => "LOAD"
  | advance => "ADVANCE"
  | halt => "HALT"

/-- Every state. -/
def all : List State :=
  [reset, fetch, indirect, operand, execute, store, load, advance, halt]

/-- The state with a name. -/
def ofName? (text : String) : Option State :=
  all.find? (·.name == text)

/-- The states that may follow a state, in the alphabetical order of their names. -/
def successors : State → List State
  | reset => [fetch]
  | fetch => [execute, fetch, halt, indirect, reset]
  | indirect => [operand]
  | operand => [execute]
  | execute => [advance, fetch, load, store]
  | load => [advance]
  | store => [advance]
  | advance => [fetch]
  | halt => [fetch, halt]

/-- Whether the state exists in the base variant only. -/
def baseOnly : State → Bool
  | indirect | operand => true
  | _ => false

end State

end SerialMachine

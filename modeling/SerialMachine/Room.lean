import SerialMachine.AnyWidth
import SerialMachine.Transition

/-!
# Room for a cycle

A small number fits a word of any width, but a one that enters at the top of a word takes the room
of the whole word. At a width beyond the host's limit a cycle can therefore be carried out as long
as the bits that enter are zeros.
-/

namespace SerialMachine

/-- Whether the host has room for every word of the width. -/
def Config.roomy (config : Config) : Bool :=
  config.width < config.host.bits

namespace Cycle

open Timing (Markers)

/-- The place at the top of `n` bits, if a one enters there. -/
def topPlace (n : Nat) (bit : Int) : List Nat :=
  if Bits.test 0 bit then [n - 1] else []

/-- The places of the ones that enter in a cycle of the fetch state. -/
def fetchPlaces (config : Config) (bit : Int) (m : Markers) (r : Registers) : List Nat :=
  let top := topPlace config.width
  if m.first then []
  else if r.dispatch then top r.shadow ++ top r.pc
  else
    let arriving := if m.lastFour then [] else top bit
    let total := (Adder.add (Bits.low r.timer) 0 r.carry).1
    top r.acc ++ arriving ++ if config.extended then top total ++ top r.compare else []

/-- The places of the ones that enter in a data cycle of an operation. -/
def dataPlaces (config : Config) (operation : Operation) (m : Markers) (r : Registers) :
    List Nat :=
  let n := config.width
  let a := Bits.low r.acc
  let x := Bits.low r.operand
  let turned := topPlace n x
  match operation with
  | .or => topPlace n (Bits.or a x) ++ turned
  | .and =>
    topPlace n (Bits.and a x) ++
      if !config.extended && (m.lastFour || r.indirected) then [] else turned
  | .xor => topPlace n (Bits.xor a x) ++ turned
  | .invert => topPlace n (Bits.xor a 1) ++ turned
  | .add => topPlace n (Adder.add a x r.carry).1 ++ turned
  | .sub => topPlace n (Adder.add a (Bits.xor x 1) r.carry).1 ++ turned
  | .lshift => if x == 1 then n :: turned else turned
  | .rshift =>
    (if x == 1 && Flag.isSet config.variant .rotate r.flags then topPlace n a else []) ++ turned
  | .jump | .jumpz | .literal | .load | .store | .loadc | .storec => turned
  | .get | .set | .shadow =>
    match r.target with
    | none => []
    | some target =>
      match target.register? with
      | none => turned
      | some register => topPlace n a ++ topPlace n (r.get register)
  | .unused => []

/-- The places of the ones that enter in a cycle of the execute state. The first cycle asks for the
select bit where it matters. -/
def executePlaces (config : Config) (m : Markers) (r : Registers) : List Nat :=
  match r.operation config with
  | .error _ => []
  | .ok operation =>
    if !m.first then dataPlaces config operation m r
    else if operation.exchanges then [Word.selectPlace config.width]
    else []

end Cycle

namespace Registers

/-- The places of the ones that enter in a cycle, in the order in which they do. -/
def places (config : Config) (bit : Int) (m : Timing.Markers) (r : Registers) : List Nat :=
  let top := fun bit => if m.first then [] else Cycle.topPlace config.width bit
  match r.state with
  | .fetch => Cycle.fetchPlaces config bit m r
  | .execute => Cycle.executePlaces config m r
  | .indirect => top r.operand
  | .operand | .load => top bit
  | .store => top r.acc
  | .advance => top (Adder.add (Bits.low r.pc) 0 r.carry).1
  | .reset | .halt => []

/-- Why the host has no room for a cycle; none when it has, and when no cycle can begin. -/
def roomProblem? (config : Config) (r : Registers) (bit : Int) : Option InvalidValue :=
  match r.checkStart config with
  | .error _ => none
  | .ok () =>
    (r.places config bit (Timing.markers r.cycle config.width)).findSome? fun place : Nat =>
      config.host.roomProblem? place

theorem overtaxesHost_of_roomProblem? {config : Config} {r : Registers} {bit : Int}
    {cause : InvalidValue} (problem : r.roomProblem? config bit = some cause) :
    cause.overtaxesHost = true := by
  unfold roomProblem? at problem
  split at problem
  · cases problem
  · obtain ⟨place, -, problem⟩ := List.exists_of_findSome?_eq_some problem
    exact Host.overtaxesHost_of_roomProblem? problem

/-- `transition` on a host, which refuses a cycle that it has no room for. -/
def hostedTransition (config : Config) (r : Registers) (bit : Int) (irq : Bool) :
    Except (InvalidValue ⊕ Obstacle) Registers :=
  if config.roomy then (r.transition config bit irq).mapError Sum.inr
  else
    match r.roomProblem? config bit with
    | some cause => .error (.inl cause)
    | none => (r.transition config bit irq).mapError Sum.inr

/-- What no cycle can begin with does not come to the question of room. -/
theorem hostedTransition_of_checkStart {config : Config} {r : Registers} {obstacle : Obstacle}
    (refused : r.checkStart config = .error obstacle) (bit : Int) (irq : Bool) :
    r.hostedTransition config bit irq = .error (.inr obstacle) := by
  have stopped : r.transition config bit irq = .error obstacle := by
    rw [transition, refused]
    rfl
  have unasked : r.roomProblem? config bit = none := by
    rw [roomProblem?, refused]
  rw [hostedTransition, unasked, stopped]
  split <;> rfl

end Registers

end SerialMachine

import SerialMachine.Clocked

/-!
# A machine with stop addresses

A bare machine under a simple observer: a list of addresses at which a fetch asks for a stop, and a
record of the fetches seen. The machine may have any width; a cycle that the host has no room for is
refused.
-/

namespace SerialMachine

/-- A machine and, when there is an observer, the addresses at which it asks for a stop. -/
structure Station (β : Type) where
  machine : Machine β
  stopAt : Option (List Int) := none
  stopRequested : Bool := false
  /-- The addresses of the fetches seen, the first one first. -/
  fetched : List Int := []

namespace Station

variable {β : Type}

/-- The observer is told of an event. -/
def observe (s : Station β) : Event → Station β
  | .fetchStarted r =>
    match s.stopAt with
    | none => s
    | some addresses =>
      { s with
        fetched := s.fetched ++ [r.pc]
        stopRequested := s.stopRequested || addresses.contains r.pc }
  | _ => s

/-- One clock cycle of the machine on its host. -/
def turn [SerialBus β] (s : Station β) : Step (Machine β) :=
  s.machine.crampedStep?.getD s.machine.step

/-- One clock cycle under observation. -/
def step [SerialBus β] (s : Station β) : Step (Station β) :=
  let turn := s.turn
  { turn with state := turn.events.foldl observe { s with machine := turn.state } }

/-- One clock cycle without the observer. -/
def stepUnwatched [SerialBus β] (s : Station β) : Step (Station β) :=
  let turn := s.turn
  { turn with state := { s with machine := turn.state } }

instance [SerialBus β] : Clocked (Station β) where
  step := step
  stepUnwatched := stepUnwatched
  processor s := s.machine.processor
  withProcessor s p := { s with machine := { s.machine with processor := p } }
  stopRequested s := s.stopRequested
  clearStop s := { s with stopRequested := false }

/-- The machine reset, with no stop asked for. -/
def reset [SerialBus β] (s : Station β) : Station β × List Event :=
  let (machine, events) := s.machine.reset
  ({ s with machine, stopRequested := false }, events)

end Station

end SerialMachine

import SerialMachine.Proofs.Accesses
import SerialMachine.Proofs.Runs

/-!
# Stops after word transfers

A word transfer completes in the cycle that moves its last bit. Main statement: the first such cycle
of a run whose transfer is watched is the last one of the run, and unless it also brings the machine
to a halt the run answers with the address and the word; it reports transfers in no other case. A
halt is reported instead of the transfer.
-/

namespace SerialMachine

/-! ## The transfer that a cycle completes -/

namespace Bus

/-- The read whose last bit leaves in the next cycle that asks for a bit. -/
def completedRead? (bus : Bus) : Option Transfer :=
  let reading := bus.beginRead.1
  if reading.count + 1 = bus.width then
    some { writing := false, address := bus.decoded bus.address, value := reading.readLatch }
  else none

/-- The write whose last bit a bit is, were it to arrive next. -/
def completedWrite? (bus : Bus) (bit : Int) : Option Transfer :=
  let taken := bus.takeBit bit
  if taken.count = bus.width then
    some { writing := true, address := bus.decoded bus.address, value := taken.writeBuffer }
  else none

/-- The word transfer that a cycle with the given lines moves the last bit of. -/
def completed? (bus : Bus) (signals : Signals) : Option Transfer :=
  if signals.ie then bus.completedRead?
  else if signals.oe then bus.completedWrite? signals.o
  else none

theorem beginRead_frame (bus : Bus) :
    bus.beginRead.1.width = bus.width ∧ bus.beginRead.1.address = bus.address := by
  obtain ⟨p, same⟩ := bus.exists_read_eq bus.address
  unfold beginRead
  split
  · exact ⟨rfl, rfl⟩
  · simp [same]

theorem takeBit_frame (bus : Bus) (bit : Int) :
    (bus.takeBit bit).width = bus.width ∧ (bus.takeBit bit).address = bus.address := by
  unfold takeBit beginWrite
  split <;> exact ⟨rfl, rfl⟩

theorem write_frame (bus : Bus) (address value : Int) :
    (bus.write address value).1.width = bus.width ∧
      (bus.write address value).1.address = bus.address ∧
        (bus.write address value).1.writeBuffer = bus.writeBuffer := by
  unfold write
  simp only
  split
  · split <;> exact ⟨rfl, rfl, rfl⟩
  · exact ⟨rfl, rfl, rfl⟩

theorem transfers_shiftRead (bus : Bus) :
    bus.shiftRead.events.filterMap Event.transfer? = bus.completedRead?.toList := by
  obtain ⟨width, address⟩ := bus.beginRead_frame
  have begun : bus.beginRead.2.filterMap Event.transfer? = [] := by
    unfold beginRead
    split
    · rfl
    · exact bus.transfer?_read bus.address
  unfold shiftRead completedRead?
  simp only [width, address, decoded]
  split
  · rw [List.filterMap_append, begun]
    rfl
  · exact begun

theorem transfers_shiftWrite (bus : Bus) (bit : Int) :
    (bus.shiftWrite bit).events.filterMap Event.transfer? =
      (bus.completedWrite? bit).toList := by
  obtain ⟨width, address⟩ := bus.takeBit_frame bit
  obtain ⟨width', address', buffer⟩ :=
    (bus.takeBit bit).write_frame (bus.takeBit bit).address (bus.takeBit bit).writeBuffer
  unfold shiftWrite completedWrite?
  simp only
  by_cases whole : (bus.takeBit bit).count = bus.width
  · rw [if_pos (whole.trans width.symm), if_pos whole, List.filterMap_append, transfer?_write]
    simp only [decoded, width', address', buffer]
    rw [width, address]
    rfl
  · rw [if_neg (width ▸ whole), if_neg whole]
    rfl

/-- The transfers that a cycle reports are those that it completes: one or none. -/
theorem transfers_cycle (bus : Bus) {signals : Signals} (single : signals.enables ≤ 1) :
    (bus.cycle signals).events.filterMap Event.transfer? = (bus.completed? signals).toList := by
  have check : signals.check = .ok () := if_neg (by omega)
  unfold cycle
  rw [check]
  cases ae : signals.ae with
  | true =>
    obtain ⟨ie, oe⟩ : signals.ie = false ∧ signals.oe = false := by
      rw [Signals.enables, ae] at single
      cases ie : signals.ie <;> cases oe : signals.oe <;> simp [ie, oe] at single ⊢
    simp [completed?, ie, oe]
  | false =>
    cases ie : signals.ie with
    | true => simpa [completed?, ie] using bus.transfers_shiftRead
    | false =>
      cases oe : signals.oe with
      | true => simpa [completed?, ie, oe] using bus.transfers_shiftWrite signals.o
      | false => simp [completed?, ie, oe]

/-- Only a strobe for a data bit completes a transfer. -/
theorem strobe_of_completed? {bus : Bus} {signals : Signals} {t : Transfer}
    (completed : bus.completed? signals = some t) : signals.ie = true ∨ signals.oe = true := by
  unfold completed? at completed
  split at completed
  · next ie => exact Or.inl ie
  · split at completed
    · next oe => exact Or.inr oe
    · cases completed

end Bus

/-! ## Data bits and fetches -/

namespace Registers

variable {config : Config} {r : Registers}

/-- Data bits move in a fetch, while the operand is read, and in a load or store. -/
theorem moves_of_drive {signals : Signals} (lines : r.drive config = .ok signals)
    (strobe : signals.ie = true ∨ signals.oe = true) :
    (r.state = .fetch ∧ r.dispatch = false) ∨
      r.state = .operand ∨ r.state = .load ∨ r.state = .store := by
  unfold drive at lines
  split at lines
  · cases lines
    simp at strobe
  · split at lines
    · cases lines
      simp at strobe
    · unfold Drive.data at lines
      cases state : r.state with
      | fetch =>
        cases dispatch : r.dispatch with
        | false => exact Or.inl ⟨rfl, rfl⟩
        | true =>
          simp only [state, dispatch] at lines
          cases lines
          simp [Signals.address] at strobe
      | operand => simp
      | load => simp
      | store => simp
      | execute =>
        simp only [state] at lines
        cases found : r.operation config with
        | error absent =>
          rw [found] at lines
          cases lines
        | ok operation =>
          rw [found] at lines
          cases lines
          simp only [Drive.execute] at strobe
          split_ifs at strobe <;> simp [Signals.address] at strobe
      | _ =>
        simp only [state] at lines
        cases lines
        simp [Signals.address] at strobe

/-- The only fetch that follows a fetch serves an interrupt. -/
theorem dispatch_of_fetchChoice {bit : Int}
    (fetch : (Cycle.fetchChoice config bit r).choice = .fetch) :
    (Cycle.fetchChoice config bit r).dispatch = true := by
  rw [fetchChoice_eq] at fetch ⊢
  simp only at fetch
  simp only [fetch, beq_self_eq_true, Bool.or_true]

/-- A cycle that moves a data bit does not come to the fetch of an instruction. -/
theorem Sound.away_of_strobe (h : r.Sound config) {signals : Signals} {bit : Int} {irq : Bool}
    {next : Registers} (lines : r.drive config = .ok signals)
    (strobe : signals.ie = true ∨ signals.oe = true)
    (done : r.transition config bit irq = .ok next) :
    next.state = .fetch → next.first = true → next.dispatch = true := by
  intro fetch first
  have moves := moves_of_drive lines strobe
  obtain ⟨c, le, worked, -, work, same, -, proceeds, enters⟩ := h.exists_worked bit irq
  rcases le.lt_or_eq with lt | rfl
  · rw [proceeds lt] at done
    cases done
    simp [Registers.timed] at first
  · -- Only a fetch may be followed by a fetch, and only by one that serves an interrupt.
    obtain ⟨edge, entered⟩ := enters rfl
    rw [entered] at done
    cases done
    have chosen : worked.choice = .fetch := fetch
    have before : (r.latched config irq).state = r.state := rfl
    rw [same] at edge
    rcases moves with ⟨state, dispatch⟩ | state | state | state
    · obtain ⟨data, last⟩ : (Timing.markers config.width config.width).first = false ∧
          (Timing.markers config.width config.width).last = true := by
        have := config.width_pos
        simp [Timing.markers]
        omega
      have plain : (r.latched config irq).dispatch = false := dispatch
      simp only [Registers.work, before, state, Cycle.fetch, plain, data, last, Bool.false_eq_true,
        if_false, if_true, Except.ok.injEq] at work
      rw [← work] at chosen
      show worked.dispatch = true
      rw [← work]
      exact dispatch_of_fetchChoice chosen
    all_goals simp [State.Follows, State.successors, state, chosen] at edge

end Registers

namespace Machine

variable {m : Machine Bus}

/-- The word transfer that the next clock cycle completes. -/
def completes? (m : Machine Bus) : Option Transfer :=
  match m.processor.registers.drive m.processor.config with
  | .ok signals => m.bus.completed? signals
  | .error _ => none

theorem transfers_entered (p : Processor) (previous : State) :
    (p.entered previous).filterMap Event.transfer? = [] := by
  unfold Processor.entered
  split_ifs <;> rfl

/-- The transfers that a clock cycle reports are those that it completes, and then it does not come
to the fetch of an instruction. -/
theorem transfers_step (h : m.processor.Sound) :
    m.step.events.filterMap Event.transfer? = m.completes?.toList ∧
      (m.completes? ≠ none → (m.act .clock).processor.atFetch = false) := by
  obtain ⟨signals, lines, single⟩ := h.registers.exists_lines
  obtain ⟨bit, reply, quiet⟩ := m.bus.exists_reply single
  obtain ⟨next, done, -, -⟩ := h.registers.transition bit m.processor.irq
  have step := step_eq h.running lines single reply quiet done
  have completes : m.completes? = m.bus.completed? signals := by simp only [completes?, lines]
  constructor
  · rw [step, List.filterMap_append, transfers_entered, List.append_nil, completes]
    exact m.bus.transfers_cycle single
  · intro some
    obtain ⟨t, completed⟩ := Option.ne_none_iff_exists'.1 (completes ▸ some)
    have away := h.registers.away_of_strobe lines (Bus.strobe_of_completed? completed) done
    have registers : (m.act .clock).processor.registers = next := by rw [act, step]; rfl
    rw [Processor.atFetch, registers]
    by_contra fetch
    simp only [Bool.not_eq_false, Bool.and_eq_true, beq_iff_eq, Bool.not_eq_true'] at fetch
    simp [away fetch.1.1 fetch.1.2] at fetch

end Machine

/-! ## The observers -/

/-- The event that a stop after a transfer leaves. -/
def Transfer.event (t : Transfer) : BreakEvent :=
  if t.writing then
    { reason := .memoryWrite, address := some t.address, value := some t.value
      message := "Write $" ++ Text.hex 4 t.value ++ " to $" ++ Text.hex 4 t.address }
  else
    { reason := .memoryRead, address := some t.address, value := some t.value
      message := "Read $" ++ Text.hex 4 t.value ++ " from $" ++ Text.hex 4 t.address }

/-- Whether there is a watchpoint for a transfer. -/
def Breakpoints.watches (b : Breakpoints) (t : Transfer) : Bool :=
  if t.writing then b.writes.contains t.address else b.reads.contains t.address

namespace Emulator

variable {e : Emulator}

/-- The emulator told of a transfer. -/
def told (e : Emulator) (t : Transfer) : Emulator :=
  if e.breakpoints.watches t then
    { e with breakpoints := e.breakpoints.record t.event, transferStop := true }
  else e

theorem noteTransfer_eq (e : Emulator) (event : Event) :
    e.noteTransfer event = event.transfer?.toList.foldl told e := by
  cases event with
  | wordRead address value =>
    simp only [noteTransfer, Breakpoints.checkRead, Event.transfer?, Option.toList, List.foldl,
      told, Breakpoints.watches, Bool.false_eq_true, if_false]
    split
    · simp [Transfer.event]
    · simp
  | wordWritten address value =>
    simp only [noteTransfer, Breakpoints.checkWrite, Event.transfer?, Option.toList, List.foldl,
      told, Breakpoints.watches, if_true]
    split
    · simp [Transfer.event]
    · simp
  | _ => rfl

theorem foldl_noteTransfer (e : Emulator) (events : List Event) :
    events.foldl noteTransfer e = (events.filterMap Event.transfer?).foldl told e := by
  induction events generalizing e with
  | nil => rfl
  | cons event rest ih =>
    rw [List.foldl_cons, ih, noteTransfer_eq]
    cases transfer : event.transfer? with
    | none => rw [List.filterMap_cons_none transfer]; rfl
    | some t => rw [List.filterMap_cons_some transfer]; rfl

/-- The watched transfer that the next clock cycle of a machine completes. -/
def hit? (e : Emulator) (m : Machine Bus) : Option Transfer :=
  m.completes?.filter e.breakpoints.watches

/-- What a clock cycle does about word transfers. -/
theorem Sound.stepUnwatched_eq (h : e.Sound) :
    e.stepUnwatched.state =
      match e.hit? e.machine with
      | some t =>
        { e with
          machine := e.machine.act .clock
          breakpoints := e.breakpoints.record t.event
          transferStop := true }
      | none => { e with machine := e.machine.act .clock } := by
  obtain ⟨transfers, -⟩ := Machine.transfers_step h.processor
  have state : e.stepUnwatched.state =
      e.machine.step.events.foldl noteTransfer { e with machine := e.machine.act .clock } := rfl
  rw [state, foldl_noteTransfer, transfers, hit?]
  cases completed : e.machine.completes? with
  | none => rfl
  | some t =>
    simp only [Option.toList, List.foldl, told, Option.filter]
    split <;> rfl

/-- A cycle that completes a watched transfer records it and asks for a stop, and nothing else stops
there or is refused. -/
theorem Sound.step_of_hit (h : e.Sound) {t : Transfer} (hit : e.hit? e.machine = some t) :
    e.step.state =
        { e with
          machine := e.machine.act .clock
          breakpoints := e.breakpoints.record t.event
          transferStop := true } ∧
      e.step.status =
        .ok (if (e.machine.act .clock).processor.halted then .halted else .normal) := by
  have completes : e.machine.completes? ≠ none := by
    rintro none
    simp [hit?, none] at hit
  have away := (Machine.transfers_step h.processor).2 completes
  have state := h.stepUnwatched_eq
  rw [hit] at state
  obtain ⟨lastEvent, transferStop, events, unwatched, fetch, -⟩ := h.exists_stepUnwatched_eq
  have elsewhere : e.step = e.stepUnwatched := by
    unfold step
    rw [unwatched]
    simp only [fetch, away, Bool.false_eq_true, if_false]
  rw [elsewhere]
  exact ⟨state, by rw [unwatched]⟩

/-- Any other cycle leaves the watchpoints and the demand for a stop after a transfer alone. -/
theorem Sound.transferStop_step_of_no_hit (h : e.Sound) (missed : e.hit? e.machine = none) :
    e.step.state.transferStop = e.transferStop := by
  rw [transferStop_step, h.stepUnwatched_eq, missed]

theorem hit?_eq_of_marks {e' : Emulator} (same : e'.breakpoints.marks = e.breakpoints.marks)
    (m : Machine Bus) : e'.hit? m = e.hit? m := by
  have reads : e'.breakpoints.reads = e.breakpoints.reads := congrArg (·.reads) same
  have writes : e'.breakpoints.writes = e.breakpoints.writes := congrArg (·.writes) same
  have watches : e'.breakpoints.watches = e.breakpoints.watches := by
    funext t
    simp only [Breakpoints.watches, reads, writes]
  rw [hit?, hit?, watches]

/-! ## Runs -/

/-- The run `r`, of at most `budget` cycles from `e` on, has taken `n`, and only the last of them
has completed a watched transfer, if any has; `before` were counted when it began. -/
structure Heeded (e : Emulator) (budget before n : Nat) (r : Run Emulator) : Prop where
  le : n ≤ budget
  machine : r.state.machine = e.machine.clocks n
  executed : ∀ ending, r.ending = .ok ending → r.executed = before + n
  earlier : ∀ k, k + 1 < n → e.hit? (e.machine.clocks k) = none
  /-- A watched transfer is the event recorded last, and the run stops unless it halts. -/
  last : ∀ k t, k + 1 = n → e.hit? (e.machine.clocks k) = some t →
    r.state.breakpoints.lastEvent = some t.event ∧
      r.ending = .ok (if (e.machine.clocks n).processor.halted then .halted else .stopped)
  /-- A stop is either one at a fetch or one after a watched transfer. -/
  stops : r.ending = .ok .stopped → ∃ event, r.state.breakpoints.lastEvent = some event ∧
    (event.reason.ofFetch = true ∨
      ∃ k t, k + 1 = n ∧ e.hit? (e.machine.clocks k) = some t ∧ event = t.event)

/-- A cycle after which a run ends, without a watched transfer. -/
theorem Heeded.once {r : Run Emulator} {budget before : Nat}
    (machine : r.state.machine = e.machine.act .clock)
    (executed : ∀ ending, r.ending = .ok ending → r.executed = before + 1)
    (missed : e.hit? e.machine = none)
    (stops : r.ending = .ok .stopped →
      ∃ event, r.state.breakpoints.lastEvent = some event ∧ event.reason.ofFetch = true) :
    e.Heeded (budget + 1) before 1 r where
  le := Nat.le_add_left 1 budget
  machine := machine
  executed := executed
  earlier k lt := by omega
  last k t eq hit := by
    obtain rfl : k = 0 := by omega
    rw [Machine.clocks, missed] at hit
    cases hit
  stops stopped := by
    obtain ⟨event, last, ofFetch⟩ := stops stopped
    exact ⟨event, last, Or.inl ofFetch⟩

/-- A cycle after which a run ends, with a watched transfer. -/
theorem Heeded.once_of_hit {r : Run Emulator} {budget before : Nat} {t : Transfer}
    (machine : r.state.machine = e.machine.act .clock)
    (executed : ∀ ending, r.ending = .ok ending → r.executed = before + 1)
    (hit : e.hit? e.machine = some t)
    (recorded : r.state.breakpoints.lastEvent = some t.event)
    (ending : r.ending =
      .ok (if (e.machine.act .clock).processor.halted then .halted else .stopped)) :
    e.Heeded (budget + 1) before 1 r where
  le := Nat.le_add_left 1 budget
  machine := machine
  executed := executed
  earlier k lt := by omega
  last k u eq found := by
    obtain rfl : k = 0 := by omega
    obtain rfl := Option.some.inj (hit.symm.trans found)
    exact ⟨recorded, ending⟩
  stops _ := ⟨t.event, recorded, Or.inr ⟨0, t, rfl, hit, rfl⟩⟩

/-- A cycle after which a run goes on. -/
theorem Heeded.next {e' : Emulator} {r : Run Emulator} {budget before n : Nat}
    (heeded : e'.Heeded budget (before + 1) n r) (machine : e'.machine = e.machine.act .clock)
    (marks : e'.breakpoints.marks = e.breakpoints.marks) (missed : e.hit? e.machine = none) :
    e.Heeded (budget + 1) before (n + 1) r := by
  have hits (k : Nat) : e'.hit? (e'.machine.clocks k) = e.hit? (e.machine.clocks (k + 1)) := by
    rw [hit?_eq_of_marks marks, machine, Machine.clocks]
  have here : e'.machine.clocks n = e.machine.clocks (n + 1) := by rw [machine, Machine.clocks]
  refine ⟨Nat.succ_le_succ heeded.le, heeded.machine.trans here, ?_, ?_, ?_, ?_⟩
  · intro ending ended
    rw [heeded.executed ending ended]
    omega
  · rintro (_ | k) lt
    · exact missed
    · rw [← hits]
      exact heeded.earlier k (by omega)
  · rintro (_ | k) t eq hit
    · rw [Machine.clocks, missed] at hit
      cases hit
    · rw [← here]
      exact heeded.last k t (by omega) ((hits k).trans hit)
  · intro stopped
    obtain ⟨event, last, cause⟩ := heeded.stops stopped
    refine ⟨event, last, cause.imp_right ?_⟩
    rintro ⟨k, t, eq, hit, told⟩
    exact ⟨k + 1, t, by omega, (hits k).symm.trans hit, told⟩

/-- A run from a state in which no stop has been asked for. -/
theorem Sound.heeded_extend (h : e.Sound) (fetches : e.fetchStop = false)
    (transfers : e.transferStop = false) (budget before : Nat) (events : Array Event) :
    ∃ n, e.Heeded budget before n
      (Run.extend step stopAsked budget e before events) := by
  induction budget generalizing e before events with
  | zero =>
    refine ⟨0, le_rfl, rfl, fun _ _ => rfl, fun k lt => by omega, fun k t eq => by omega, ?_⟩
    simp [Run.extend]
  | succ budget ih =>
    unfold Run.extend
    cases hit : e.hit? e.machine with
    | some t =>
      obtain ⟨state, status⟩ := h.step_of_hit hit
      simp only [status, state]
      cases halted : (e.machine.act .clock).processor.halted with
      | true =>
        simp only [if_true]
        exact ⟨1, .once_of_hit rfl (fun _ _ => rfl) hit rfl (by simp [halted])⟩
      | false =>
        simp only [stopAsked, Bool.false_eq_true, if_false, Bool.or_true, if_true]
        exact ⟨1, .once_of_hit rfl (fun _ _ => rfl) hit rfl (by simp [halted])⟩
    | none =>
      have turned := h.turned
      have quiet := (h.transferStop_step_of_no_hit hit).trans transfers
      simp only [turned.status]
      cases problem : traceProblem? e.settings (e.machine.act .clock) with
      | some cause => exact ⟨1, .once turned.machine (by simp) hit (by simp)⟩
      | none =>
        cases halted : (e.machine.act .clock).processor.halted with
        | true =>
          simp only [if_true]
          exact ⟨1, .once turned.machine (fun _ _ => rfl) hit (by simp)⟩
        | false =>
          simp only [stopAsked, Bool.false_eq_true, if_false, quiet, Bool.or_false]
          cases cause : e.breakpoints.fetchCause? (e.machine.act .clock).processor with
          | some reason =>
            obtain ⟨stop, event, last, ranked, -⟩ := turned.stops problem reason cause
            have ofFetch := (Breakpoints.atFetch_of_fetchCause? cause).2
            simp only [stop, if_true]
            exact ⟨1, .once turned.machine (fun _ _ => rfl) hit
              fun _ => ⟨event, last, ranked ▸ ofFetch⟩⟩
          | none =>
            have going := (turned.passes problem cause).1.trans fetches
            simp only [going, Bool.false_eq_true, if_false]
            obtain ⟨n, heeded⟩ := ih (turned.sound h) going quiet (before + 1) _
            exact ⟨n + 1, heeded.next turned.machine e.marks_step hit⟩

/-- A watched transfer is the event that a run which does not halt ends with. -/
theorem Heeded.endingEvent_of_hit {r : Run Emulator} {budget before n k : Nat} {t : Transfer}
    (heeded : e.Heeded budget before n r) (last : k + 1 = n)
    (hit : e.hit? (e.machine.clocks k) = some t)
    (going : (e.machine.clocks n).processor.halted = false) (maxCycles : Int) :
    r.ending = .ok .stopped ∧ r.state.endingEvent maxCycles .stopped = .ok t.event := by
  obtain ⟨recorded, ending⟩ := heeded.last k t last hit
  rw [going] at ending
  exact ⟨ending, by simp only [endingEvent, recorded, Option.elim_some]⟩

/-- An event of a transfer ends a run only after a watched transfer. -/
theorem Heeded.exists_hit {r : Run Emulator} {budget before n : Nat} {ending : Ending}
    {maxCycles : Int} {event : BreakEvent} (heeded : e.Heeded budget before n r)
    (ended : r.ending = .ok ending) (told : r.state.endingEvent maxCycles ending = .ok event)
    (transfer : event.reason = .memoryRead ∨ event.reason = .memoryWrite) :
    ∃ k t, k + 1 = n ∧ e.hit? (e.machine.clocks k) = some t ∧ event = t.event := by
  cases ending with
  | stopped =>
    obtain ⟨found, last, cause⟩ := heeded.stops ended
    simp only [endingEvent, last, Option.elim_some, Except.ok.injEq] at told
    subst told
    rcases cause with ofFetch | hit
    · rcases transfer with reason | reason <;> simp [reason, BreakReason.ofFetch] at ofFetch
    · exact hit
  | exhausted =>
    obtain ⟨message, rfl⟩ := exists_eq_of_limitEvent told
    simp at transfer
  | halted | faulted =>
    obtain rfl := Except.ok.inj told
    simp at transfer

/-- A run of at most `maxCycles` cycles from `e` on takes `n`, and this is what it makes of watched
transfers. -/
structure StopsAtTransfers (e : Emulator) (maxCycles : Int) (n : Nat) : Prop where
  within : n ≤ maxCycles.toNat
  machine : (e.run maxCycles).state.machine = e.machine.clocks n
  cycles : ∀ event, (e.run maxCycles).answer = .ok event → event.cycles = n
  /-- No cycle before the last completes a watched transfer. -/
  earlier : ∀ k, k + 1 < n → e.hit? (e.machine.clocks k) = none
  /-- A watched transfer that the last cycle completes is the answer, unless that cycle halts. -/
  reports : ∀ k t, k + 1 = n → e.hit? (e.machine.clocks k) = some t →
    (e.machine.clocks n).processor.halted = false →
      (e.run maxCycles).answer = .ok { t.event with cycles := n }
  /-- A halt is reported in its place. -/
  halts : ∀ k t, k + 1 = n → e.hit? (e.machine.clocks k) = some t →
    (e.machine.clocks n).processor.halted = true →
      ∃ event, (e.run maxCycles).answer = .ok event ∧ event.reason = .halted
  /-- Transfers are reported in no other case. -/
  only : ∀ event, (e.run maxCycles).answer = .ok event →
    event.reason = .memoryRead ∨ event.reason = .memoryWrite →
      ∃ k t, k + 1 = n ∧ e.hit? (e.machine.clocks k) = some t ∧
        event = { t.event with cycles := n }
  /-- The answer is the event recorded last. -/
  recorded : ∀ event, (e.run maxCycles).answer = .ok event →
    (e.run maxCycles).state.breakpoints.lastEvent = some event

theorem Sound.stopsAtTransfers (h : e.Sound) (maxCycles : Int) :
    ∃ n, e.StopsAtTransfers maxCycles n := by
  have ready : e.unasked.Sound := ⟨h.processor, h.config, h.checks⟩
  obtain ⟨n, heeded⟩ : ∃ n, e.unasked.Heeded maxCycles.toNat 0 n (e.course maxCycles) :=
    ready.heeded_extend rfl rfl maxCycles.toNat 0 #[]
  have concluded : ∀ event, (e.run maxCycles).answer = .ok event →
      ∃ ending told, (e.course maxCycles).ending = .ok ending ∧
        (e.course maxCycles).state.endingEvent maxCycles ending = .ok told ∧
          event = { told with cycles := n } := by
    intro event answer
    rw [answer_run] at answer
    obtain ⟨ending, told, ended, ends, same⟩ := conclusion_eq_ok_iff.1 answer
    refine ⟨ending, told, ended, ends, ?_⟩
    rw [same, heeded.executed ending ended, Nat.zero_add]
  have answered {ending : Ending} {told : BreakEvent}
      (ended : (e.course maxCycles).ending = .ok ending)
      (ends : (e.course maxCycles).state.endingEvent maxCycles ending = .ok told) :
      (e.run maxCycles).answer = .ok { told with cycles := n } := by
    rw [answer_run]
    refine conclusion_eq_ok_iff.2 ⟨ending, told, ended, ends, ?_⟩
    rw [heeded.executed ending ended, Nat.zero_add]
  refine ⟨n, ?_⟩
  constructor
  case within => exact heeded.le
  case machine =>
    obtain state | ⟨event, -, state⟩ := e.state_run maxCycles <;> rw [state]
    · exact heeded.machine
    · exact heeded.machine
  case earlier => exact heeded.earlier
  case reports =>
    intro k t last hit going
    obtain ⟨stopped, ends⟩ := heeded.endingEvent_of_hit last hit going maxCycles
    exact answered stopped ends
  case halts =>
    intro k t last hit halted
    have stopped := (heeded.last k t last hit).2.trans (congrArg Except.ok (if_pos halted))
    exact ⟨_, answered stopped rfl, rfl⟩
  case recorded => exact fun event answer => lastEvent_run answer
  case cycles =>
    intro event answer
    obtain ⟨ending, told, -, -, rfl⟩ := concluded event answer
    rfl
  case only =>
    intro event answer transfer
    obtain ⟨ending, told, ended, ends, rfl⟩ := concluded event answer
    obtain ⟨k, t, last, hit, rfl⟩ := heeded.exists_hit ended ends transfer
    exact ⟨k, t, last, hit, rfl⟩

/-- After any session, every run ends with the first watched transfer that a cycle of it completes,
and reports it unless the machine halts in that cycle. -/
theorem stops_at_transfers (settings : Settings) (requests : List Request) (maxCycles : Int) :
    ∃ n, ((make settings).after requests).StopsAtTransfers maxCycles n :=
  (sound_after settings requests).stopsAtTransfers maxCycles

/-- A program of eight-bit words that sets the halt flag, and a watchpoint on reads of its third
word, whose fetch is the one that halts. -/
def watchedHalt : List Request :=
  [.loadWords [0x83, 0xE1, 0x00, 0x80] 0, .edit (.addWatchpoint 2 true false)]

/-- The cycle that completes a watched transfer may be the one that halts, and is reported so. -/
theorem halted_at_watchpoint :
    ¬∀ (settings : Settings) (requests : List Request) (maxCycles : Int) (k : Nat) (t : Transfer)
      (event : BreakEvent),
      (((make settings).after requests).run maxCycles).answer = .ok event →
      event.cycles = k + 1 →
      ((make settings).after requests).hit? (((make settings).after requests).machine.clocks k) =
        some t →
      event.reason = .memoryRead ∨ event.reason = .memoryWrite := by
  intro reported
  have answer : (((make { config := { width := 8 } }).after watchedHalt).run 100).answer =
      .ok { reason := .halted, address := some 2, cycles := 81
            message := "CPU halted at $0002" } := by
    decide +kernel
  have hit : ((make { config := { width := 8 } }).after watchedHalt).hit?
      (((make { config := { width := 8 } }).after watchedHalt).machine.clocks 80) =
        some { writing := false, address := 2, value := 0 } := by
    decide +kernel
  have transfer := reported _ _ _ 80 _ _ answer rfl hit
  simp at transfer

end Emulator

end SerialMachine

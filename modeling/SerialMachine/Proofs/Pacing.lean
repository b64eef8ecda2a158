import SerialMachine.Proofs.Watchpoints

/-!
# Transfers in step with the cycles

A word transfer takes the data cycles of one state, and neither the state nor its cycle is anything
that a host overwrites. Main statement: in every session, whichever registers are overwritten and in
whichever cycles, the bus has moved as many bits of a word as the state has had data cycles, and is
at rest at the first cycle of every state.
-/

namespace SerialMachine

/-! ## Transfers by the bit -/

namespace Bus

/-- `k` bits of a word have been moved in a phase, and the transfer ends with the last one. -/
def Moved (bus : Bus) (phase : Phase) (k : Nat) : Prop :=
  if 0 < k ∧ k < bus.width then bus.phase = phase ∧ bus.count = k else bus.Rests

variable {bus : Bus} {phase : Phase} {k : Nat} {signals : Signals}

theorem moved_zero : bus.Moved phase 0 ↔ bus.Rests := by
  simp [Moved]

theorem shiftRead_frame (bus : Bus) :
    bus.shiftRead.bus.width = bus.width ∧ bus.shiftRead.bus.address = bus.address := by
  unfold shiftRead
  simp only
  split <;> exact bus.beginRead_frame

theorem shiftWrite_frame (bus : Bus) (bit : Int) :
    (bus.shiftWrite bit).bus.width = bus.width ∧
      (bus.shiftWrite bit).bus.address = bus.address := by
  obtain ⟨width, address⟩ := bus.takeBit_frame bit
  unfold shiftWrite
  simp only
  split
  · obtain ⟨width', address', -⟩ :=
      (bus.takeBit bit).write_frame (bus.takeBit bit).address (bus.takeBit bit).writeBuffer
    exact ⟨width'.trans width, address'.trans address⟩
  · exact ⟨width, address⟩

/-- Whatever is driven, the address register holds a word. -/
theorem fits_cycle (fits : Word.Fits bus.width bus.address) (pos : 0 < bus.width)
    (signals : Signals) :
    (bus.cycle signals).bus.width = bus.width ∧
      Word.Fits bus.width (bus.cycle signals).bus.address := by
  unfold cycle
  split
  · exact ⟨rfl, fits⟩
  · split_ifs
    · exact ⟨rfl, Shift.fits_enter pos fits signals.a⟩
    · obtain ⟨width, address⟩ := bus.shiftRead_frame
      exact ⟨width, address.symm ▸ fits⟩
    · obtain ⟨width, address⟩ := bus.shiftWrite_frame signals.o
      exact ⟨width, address.symm ▸ fits⟩
    · exact ⟨rfl, fits⟩

/-- Without a strobe for a data bit no transfer is begun. -/
theorem Rests.cycle (h : bus.Rests) (ie : signals.ie = false) (oe : signals.oe = false) :
    (bus.cycle signals).bus.Rests := by
  unfold Bus.cycle
  split
  · exact h
  · rw [ie, oe]
    split
    · exact ⟨by simp [shiftAddress], by simp [shiftAddress]⟩
    · exact h

theorem Moved.shiftRead (h : bus.Moved .read k) (lt : k < bus.width) :
    bus.shiftRead.bus.Moved .read (k + 1) := by
  have begun : bus.beginRead.1.phase = .read ∧ bus.beginRead.1.count = k := by
    rcases k.eq_zero_or_pos with rfl | pos
    · rw [beginRead, if_neg (moved_zero.1 h).1]
      exact ⟨rfl, rfl⟩
    · rw [Moved, if_pos ⟨pos, lt⟩] at h
      rw [beginRead, if_pos h.1]
      exact h
  have width := bus.beginRead_frame.1
  unfold Bus.shiftRead
  simp only [begun.2, width]
  by_cases last : k + 1 = bus.width
  · rw [if_pos last, Moved, if_neg (by simp only; omega)]
    exact ⟨by simp, by simp⟩
  · rw [if_neg last, Moved, if_pos (by simp only; omega)]
    exact ⟨begun.1, rfl⟩

theorem Moved.shiftWrite (h : bus.Moved .write k) (lt : k < bus.width) (bit : Int) :
    (bus.shiftWrite bit).bus.Moved .write (k + 1) := by
  have taken : (bus.takeBit bit).phase = .write ∧ (bus.takeBit bit).count = k + 1 := by
    unfold takeBit
    rcases k.eq_zero_or_pos with rfl | pos
    · rw [beginWrite, if_neg (moved_zero.1 h).2]
      exact ⟨rfl, rfl⟩
    · rw [Moved, if_pos ⟨pos, lt⟩] at h
      rw [beginWrite, if_pos h.1]
      exact ⟨h.1, congrArg (· + 1) h.2⟩
  have width := (bus.takeBit_frame bit).1
  unfold Bus.shiftWrite
  simp only [taken.2, width]
  by_cases last : k + 1 = bus.width
  · have written := ((bus.takeBit bit).write_frame (bus.takeBit bit).address
      (bus.takeBit bit).writeBuffer).1
    rw [if_pos last, Moved, if_neg (by simp only [written, width]; omega)]
    exact ⟨by simp, by simp⟩
  · rw [if_neg last, Moved, if_pos (by simp only [width]; omega)]
    exact taken

end Bus

/-! ## The transfer of a state -/

namespace Registers

/-- The phase of the bus in the data cycles of the state, if they move a word. -/
def transferPhase? (r : Registers) : Option Phase :=
  match r.state with
  | .fetch => if r.dispatch then none else some .read
  | .operand | .load => some .read
  | .store => some .write
  | _ => none

variable {config : Config} {m : Timing.Markers} {r worked : Registers} {bit : Int}

/-- The lines in the data cycles of a state that moves a word. -/
theorem drive_of_transferPhase? (data : r.first = false) {phase : Phase}
    (moves : r.transferPhase? = some phase) :
    (phase = .read ∧ r.drive config = .ok .input) ∨
      phase = .write ∧ r.drive config = .ok (.output (Bits.low r.acc)) := by
  unfold transferPhase? at moves
  unfold drive Drive.data
  cases state : r.state with
  | fetch =>
    cases dispatch : r.dispatch with
    | true => simp [state, dispatch] at moves
    | false => simp_all
  | operand | load | store => simp_all
  | _ => simp [state] at moves

/-- In all other cycles no data bit is moved. -/
theorem quiet_of_transferPhase? {signals : Signals} (lines : r.drive config = .ok signals)
    (still : r.first = true ∨ r.transferPhase? = none) :
    signals.ie = false ∧ signals.oe = false := by
  by_contra strobe
  have strobe : signals.ie = true ∨ signals.oe = true := by
    cases ie : signals.ie <;> cases oe : signals.oe <;> simp_all
  rcases still with first | still
  · unfold drive at lines
    rw [first] at lines
    split at lines <;> (cases lines; simp at strobe)
  · unfold transferPhase? at still
    rcases moves_of_drive lines strobe with ⟨state, dispatch⟩ | state | state | state <;>
      simp_all

theorem transferPhase?_of_same {s : Registers} (state : s.state = r.state)
    (dispatch : r.state = .fetch → s.dispatch = r.dispatch) :
    s.transferPhase? = r.transferPhase? := by
  unfold transferPhase?
  rw [state]
  cases fetch : r.state with
  | fetch => rw [dispatch fetch]
  | _ => rfl

/-! ## The latch of a dispatch -/

theorem dispatch_executeBit {operation : Operation}
    (done : Cycle.executeBit config operation m r = .ok worked) :
    worked.dispatch = r.dispatch := by
  unfold Cycle.executeBit at done
  cases operation with
  | and | lshift | rshift | jump | jumpz =>
    simp only at done
    split_ifs at done <;> (obtain rfl := Except.ok.inj done; rfl)
  | get | set | shadow =>
    simp only at done
    cases target : r.target with
    | none => simp [target] at done
    | some named =>
      cases named <;>
        (simp only [target] at done; obtain rfl := Except.ok.inj done; rfl)
  | _ =>
    obtain rfl := Except.ok.inj done
    rfl

theorem dispatch_fetchBit (r : Registers) :
    (Cycle.fetchBit config bit m (Cycle.fetchFlags config r)).dispatch = r.dispatch := by
  unfold Cycle.fetchBit
  split <;> rfl

/-- Before the last cycle of a state only the reset state touches the latch. -/
theorem dispatch_work (done : r.work config bit m = .ok worked) (more : m.last = false) :
    worked.dispatch = (r.dispatch && !(r.state == .reset && m.first)) := by
  unfold work at done
  cases state : r.state with
  | reset =>
    simp only [state] at done
    obtain rfl := Except.ok.inj done
    rw [Cycle.reset]
    cases m.first <;> simp
  | fetch =>
    simp only [state] at done
    obtain rfl := Except.ok.inj done
    rw [Cycle.fetch, Cycle.dispatch, more]
    cases dispatch : r.dispatch with
    | true => cases m.first <;> simp
    | false =>
      cases m.first with
      | true =>
        simp only [Bool.false_eq_true, if_false, if_true, fetchSetUp_eq, dispatch, Bool.false_and]
      | false =>
        have kept : (Cycle.fetchBit config bit m (Cycle.fetchFlags config r)).dispatch = false :=
          (dispatch_fetchBit r).trans dispatch
        cases config.extended with
        | true => exact kept
        | false => exact kept
  | execute =>
    simp only [state, Cycle.execute] at done
    cases found : r.operation config with
    | error absent => simp [found, bind, Except.bind] at done
    | ok operation =>
      simp only [found] at done
      cases begins : m.first with
      | true =>
        simp only [begins] at done
        obtain rfl := Except.ok.inj done
        simp [Cycle.executeSetUp]
      | false =>
        simp only [begins] at done
        simp [dispatch_executeBit done]
  | indirect | operand | store | load | advance | halt =>
    simp only [state] at done
    obtain rfl := Except.ok.inj done
    simp only [Cycle.indirect, Cycle.operand, Cycle.store, Cycle.load, Cycle.advance, Cycle.halt,
      more]
    split <;> simp_all

/-- What the last cycle of a state leaves to serve is served by a fetch. -/
theorem choice_of_dispatch (done : r.work config bit m = .ok worked) (data : m.first = false)
    (last : m.last = true) (dispatches : r.dispatch = true → r.state = .fetch)
    (serves : worked.dispatch = true) : worked.choice = .fetch := by
  unfold work at done
  cases state : r.state with
  | fetch =>
    simp only [state] at done
    obtain rfl := Except.ok.inj done
    cases dispatch : r.dispatch with
    | true => simp [Cycle.fetch, Cycle.dispatch, dispatch, data, last] at serves
    | false =>
      simp only [Cycle.fetch, dispatch, data, last, Bool.false_eq_true, if_false, if_true]
        at serves ⊢
      rw [fetchChoice_eq] at serves ⊢
      simp only [Bool.or_eq_true, beq_iff_eq] at serves
      refine serves.resolve_left fun going => ?_
      have kept : (Cycle.fetchBit config bit m (Cycle.fetchFlags config r)).dispatch = false :=
        (dispatch_fetchBit r).trans dispatch
      cases extended : config.extended <;> simp_all [Cycle.fetchTimer]
  | halt =>
    simp only [state] at done
    obtain rfl := Except.ok.inj done
    unfold Cycle.halt at serves ⊢
    split
    · rfl
    · next stays =>
      rw [if_neg stays] at serves
      exact absurd (dispatches serves) (by simp [state])
  | execute =>
    simp only [state, Cycle.execute] at done
    cases found : r.operation config with
    | error absent => simp [found, bind, Except.bind] at done
    | ok operation =>
      simp only [found, data] at done
      exact absurd (dispatches (dispatch_executeBit done ▸ serves)) (by simp [state])
  | reset | indirect | operand | store | load | advance =>
    simp only [state] at done
    obtain rfl := Except.ok.inj done
    simp only [Cycle.reset, Cycle.indirect, Cycle.operand, Cycle.store, Cycle.load, Cycle.advance,
      data] at serves
    exact absurd (dispatches serves) (by simp [state])

end Registers

/-! ## Sessions -/

namespace Machine

/-- The bus has moved as many bits of a word as the state has had data cycles. -/
structure Paced (m : Machine Bus) : Prop where
  width : m.bus.width = m.processor.config.width
  fits : Word.Fits m.bus.width m.bus.address
  dispatches : m.processor.registers.dispatch = true → m.processor.registers.state = .fetch
  moves : ∀ phase, m.processor.registers.transferPhase? = some phase →
    m.bus.Moved phase (m.processor.registers.cycle - 1).toNat
  rests : m.processor.registers.transferPhase? = none → m.bus.Rests

variable {m : Machine Bus}

theorem paced_reset (width : m.bus.width = m.processor.config.width) : m.reset.1.Paced where
  width := width
  fits := Bits.fits_zero _
  dispatches := by simp [reset]
  moves := by simp [reset, Registers.transferPhase?]
  rests _ := ⟨by simp [reset, SerialBus.reset, Bus.reset], by
    simp [reset, SerialBus.reset, Bus.reset]⟩

/-- At the first cycle of a state the bus is at rest. -/
theorem Paced.rests_of_first (h : m.Paced) (first : m.processor.registers.cycle = 0) :
    m.bus.Rests := by
  cases phase : m.processor.registers.transferPhase? with
  | none => exact h.rests phase
  | some p =>
    have moved := h.moves p phase
    rw [first] at moved
    exact Bus.moved_zero.1 moved

/-- A cycle that is a data cycle moves one more bit. -/
theorem Paced.cycle (h : m.Paced) {c : Nat} (le : c ≤ m.processor.config.width)
    (timed : m.processor.registers = m.processor.registers.timed m.processor.config c)
    {signals : Signals}
    (lines : m.processor.registers.drive m.processor.config = .ok signals) :
    (∀ phase, m.processor.registers.transferPhase? = some phase →
      (m.bus.cycle signals).bus.Moved phase c) ∧
    (m.processor.registers.transferPhase? = none → (m.bus.cycle signals).bus.Rests) := by
  have first : m.processor.registers.first = (c == 0) := congrArg Registers.first timed
  have cycle : m.processor.registers.cycle = c := congrArg Registers.cycle timed
  constructor
  · intro phase moves
    rcases c.eq_zero_or_pos with rfl | pos
    · obtain ⟨ie, oe⟩ := Registers.quiet_of_transferPhase? lines (Or.inl first)
      exact Bus.moved_zero.2 ((h.rests_of_first cycle).cycle ie oe)
    · have data : m.processor.registers.first = false := first.trans (by simp; omega)
      have moved := h.moves phase moves
      have lt : (m.processor.registers.cycle - 1).toNat < m.bus.width := by
        rw [h.width]
        omega
      have one : c = (m.processor.registers.cycle - 1).toNat + 1 := by omega
      rw [one]
      rcases Registers.drive_of_transferPhase? data moves with ⟨rfl, driven⟩ | ⟨rfl, driven⟩
      · obtain rfl := Except.ok.inj (driven.symm.trans lines)
        exact moved.shiftRead lt
      · obtain rfl := Except.ok.inj (driven.symm.trans lines)
        exact moved.shiftWrite lt _
  · intro still
    obtain ⟨ie, oe⟩ := Registers.quiet_of_transferPhase? lines (Or.inr still)
    exact (h.rests still).cycle ie oe

/-- A clock cycle keeps the bus in step. -/
theorem Paced.clock (h : m.Paced) (sound : m.processor.Sound) : (m.act .clock).Paced := by
  obtain ⟨signals, lines, single⟩ := sound.registers.exists_lines
  obtain ⟨bit, reply, quiet⟩ := m.bus.exists_reply single
  obtain ⟨c, le, timed, -⟩ := id sound.registers
  obtain ⟨c', -, worked, cycle, work, same, -, proceeds, enters⟩ :=
    sound.registers.exists_worked bit m.processor.irq
  obtain rfl : c' = c := by
    have := congrArg Registers.cycle timed
    simp only [Registers.timed] at this
    omega
  obtain ⟨width, fits⟩ := Bus.fits_cycle h.fits (h.width ▸ m.processor.config.width_pos) signals
  obtain ⟨moved, rests⟩ := h.cycle le timed lines
  have first : (Timing.markers c' m.processor.config.width).first = (c' == 0) := by
    rw [Registers.markers_cast]
  have last : (Timing.markers c' m.processor.config.width).last =
      (c' == m.processor.config.width) := by
    rw [Registers.markers_cast]
  rcases le.lt_or_eq with lt | rfl
  · have dispatch := Registers.dispatch_work work (last.trans (by simp; omega))
    have alike : (worked.timed m.processor.config (c' + 1)).transferPhase? =
        m.processor.registers.transferPhase? :=
      Registers.transferPhase?_of_same same fun fetch => by
        rw [show (worked.timed m.processor.config (c' + 1)).dispatch = worked.dispatch from rfl,
          dispatch]
        simp [Registers.latched, fetch]
    have count : ((worked.timed m.processor.config (c' + 1)).cycle - 1).toNat = c' := by
      simp [Registers.timed]
    rw [act, step_eq sound.running lines single reply quiet (proceeds lt)]
    refine ⟨width.trans h.width, width.symm ▸ fits, fun serves => ?_, ?_, ?_⟩
    · have serves : worked.dispatch = true := serves
      rw [dispatch, Bool.and_eq_true] at serves
      exact same.trans (h.dispatches serves.1)
    · intro phase moves
      rw [Processor.commit, count]
      exact moved phase (alike.symm.trans moves)
    · exact fun still => rests (alike.symm.trans still)
  · obtain ⟨-, done⟩ := enters rfl
    have rested : (m.bus.cycle signals).bus.Rests := by
      cases phase : m.processor.registers.transferPhase? with
      | none => exact rests phase
      | some p =>
        have finished := moved p phase
        rwa [Bus.Moved, if_neg (by rw [width, h.width]; omega)] at finished
    rw [act, step_eq sound.running lines single reply quiet done]
    refine ⟨width.trans h.width, width.symm ▸ fits, fun serves => ?_, ?_, fun _ => rested⟩
    · refine Registers.choice_of_dispatch work (first.trans ?_) (last.trans ?_) h.dispatches serves
      · have := m.processor.config.width_pos
        simp
        omega
      · simp
    · exact fun phase _ => Bus.moved_zero.2 rested

theorem registers_overwrite (m : Machine Bus)
    (values : List ({ x : Register // x ∈ Register.words } × Int)) :
    (m.act (.overwrite values)).processor.registers.state = m.processor.registers.state ∧
      (m.act (.overwrite values)).processor.registers.dispatch = m.processor.registers.dispatch ∧
      (m.act (.overwrite values)).processor.registers.cycle = m.processor.registers.cycle := by
  rw [act]
  induction values generalizing m with
  | nil => exact ⟨rfl, rfl, rfl⟩
  | cons entry rest ih =>
    obtain ⟨⟨x, hx⟩, value⟩ := entry
    obtain ⟨state, dispatch, cycle⟩ :=
      ih { m with processor := m.processor.setRegisters [(x, value)] }
    have set (v : Int) : (m.processor.registers.set x v).state = m.processor.registers.state ∧
        (m.processor.registers.set x v).dispatch = m.processor.registers.dispatch ∧
        (m.processor.registers.set x v).cycle = m.processor.registers.cycle := by
      simp only [Register.words, List.mem_cons, List.not_mem_nil, or_false] at hx
      rcases hx with rfl | rfl | rfl | rfl | rfl | rfl | rfl <;> exact ⟨rfl, rfl, rfl⟩
    obtain ⟨state', dispatch', cycle'⟩ := set (Bits.keep m.processor.config.width value)
    exact ⟨state.trans state', dispatch.trans dispatch', cycle.trans cycle'⟩

/-- Other devices may be put behind the bus at any time. -/
theorem Paced.of_devices (h : m.Paced) (memory : Memory) (peripherals : Option Peripherals) :
    Paced { m with bus := { m.bus with memory, peripherals } } :=
  { h with }

/-- Every action keeps the bus in step, also one that overwrites registers. -/
theorem Paced.act (h : m.Paced) (sound : m.processor.Sound) (action : Action) :
    (m.act action).Paced := by
  cases action with
  | clock => exact h.clock sound
  | interrupt | feed | setSwitches => exact { h with }
  | readWord address =>
    obtain ⟨peripherals, read⟩ := m.bus.exists_read_eq address
    rw [Machine.act, read]
    exact h.of_devices _ peripherals
  | writeWord address value =>
    obtain ⟨memory, peripherals, written⟩ := m.bus.exists_write_eq address value
    rw [Machine.act, written]
    exact h.of_devices memory peripherals
  | overwrite values =>
    obtain ⟨state, dispatch, cycle⟩ := m.registers_overwrite values
    have alike : (m.act (.overwrite values)).processor.registers.transferPhase? =
        m.processor.registers.transferPhase? :=
      Registers.transferPhase?_of_same state fun _ => dispatch
    refine ⟨h.width, h.fits, ?_, ?_, fun still => h.rests (alike.symm.trans still)⟩
    · rw [state, dispatch]
      exact h.dispatches
    · rw [alike, cycle]
      exact h.moves

end Machine

namespace Emulator

/-- The bus inside an emulator keeps in step, whatever a host asks for. -/
theorem paced_after (settings : Settings) (requests : List Request) :
    ((make settings).after requests).machine.Paced := by
  refine machine_after (fun m action sound h => h.act sound action)
    (fun _ _ _ memory _ h => h.of_devices memory _)
    (fun _ peripherals h => h.of_devices _ peripherals) (fun _ h => Machine.paced_reset h.width)
    ?_ requests
  exact Machine.paced_reset (m := (make settings).machine) rfl

end Emulator

end SerialMachine

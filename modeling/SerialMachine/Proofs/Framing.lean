import SerialMachine.Proofs.Stage

/-!
# Word transfers on the lines

Without the cycles that have no strobe, what a machine drives is one word transfer after another: an
address, lowest bit first, and as many cycles that read or write. Main statement: after any session
the transfers are those of the states that have begun in it, each at its addressee, none cut short.
-/

namespace SerialMachine

open Bits (bit drop keep test weight)

/-- Whether one of the lines' strobes is asserted. -/
def Signals.strobed (signals : Signals) : Bool :=
  signals.ae || signals.ie || signals.oe

namespace Traffic

/-- The lines in the first `k` cycles. -/
def lines (k : Nat) (traffic : Traffic) : List Signals :=
  (List.range k).map fun j => traffic.line j

theorem lines_succ (k : Nat) (traffic : Traffic) :
    traffic.lines (k + 1) = traffic.lines k ++ [traffic.line k] := by
  rw [lines, List.range_succ, List.map_append]
  rfl

theorem strobed_line (k : Nat) (traffic : Traffic) :
    (traffic.line k).strobed = traffic.strobes := by
  cases traffic <;> rfl

theorem filter_lines (k : Nat) (traffic : Traffic) :
    (traffic.lines k).filter Signals.strobed = if traffic.strobes then traffic.lines k else [] := by
  induction k with
  | zero => cases traffic.strobes <;> rfl
  | succ k ih =>
    rw [lines_succ, List.filter_append, ih, List.filter_cons, strobed_line]
    cases traffic.strobes <;> rfl

theorem lines_prefix {j k : Nat} (le : j ≤ k) (traffic : Traffic) :
    traffic.lines j <+: traffic.lines k := by
  obtain ⟨d, rfl⟩ := Nat.exists_eq_add_of_le le
  rw [lines, lines, List.range_add, List.map_append]
  exact List.prefix_append _ _

/-- Only the bits of a word that there are lines for matter. -/
theorem lines_keep (n : Nat) (word : Int) :
    (Traffic.address (keep n word)).lines n = (Traffic.address word).lines n := by
  refine List.map_congr_left fun k member => ?_
  rw [line, line, Bits.bit_eq_of_test_eq (Bits.test_keep (List.mem_range.1 member) word)]

/-- Lines that are word transfers one after another: an address of `n` bits, then `n` cycles that
read or `n` cycles that write. -/
inductive WordTransfers (n : Nat) : List Signals → Prop
  | nil : WordTransfers n []
  | cons (address : Int) {transfer : Traffic} {signals : List Signals}
    (moves : transfer = .input ∨ ∃ word, transfer = .output word)
    (rest : WordTransfers n signals) :
    WordTransfers n ((Traffic.address address).lines n ++ transfer.lines n ++ signals)

theorem WordTransfers.append {n : Nat} {first second : List Signals} (h : WordTransfers n first)
    (h' : WordTransfers n second) : WordTransfers n (first ++ second) := by
  induction h with
  | nil => exact h'
  | cons address moves rest ih =>
    rw [List.append_assoc]
    exact .cons address moves ih

end Traffic

namespace Registers

/-- The lines of the address that stands ahead of a state's word transfer, if it has one. -/
def heading (config : Config) (r : Registers) : List Signals :=
  match r.addressee with
  | some a => (Traffic.address a).lines config.width
  | none => []

/-- The lines of a state's word transfer with its address, if it has one. -/
def frame (config : Config) (r : Registers) : List Signals :=
  match r.addressee with
  | some a =>
    (Traffic.address a).lines config.width ++
      (if r.state = .store then Traffic.output r.acc else .input).lines config.width
  | none => []

variable {config : Config} {r : Registers} {old w : Int}

theorem wordTransfers_frame (config : Config) (r : Registers) :
    Traffic.WordTransfers config.width (r.frame config) := by
  unfold frame
  cases r.addressee with
  | none => exact .nil
  | some a =>
    have moves : (if r.state = .store then Traffic.output r.acc else .input) = .input ∨
        ∃ word, (if r.state = .store then Traffic.output r.acc else .input) = .output word := by
      split
      · exact Or.inr ⟨r.acc, rfl⟩
      · exact Or.inl rfl
    simpa using Traffic.WordTransfers.cons a moves .nil

theorem wordTransfers_frames (config : Config) (begun : List Registers) :
    Traffic.WordTransfers config.width (begun.flatMap (frame config)) := by
  induction begun with
  | nil => exact .nil
  | cons r rest ih =>
    rw [List.flatMap_cons]
    exact (wordTransfers_frame config r).append ih

/-- Complete transfers and a part of an address are the beginning of complete transfers. -/
theorem exists_wordTransfers {strobed : List Signals} {begun : List Registers} {address : Int}
    (h : strobed <+: begun.flatMap (frame config) ++
      (Traffic.address address).lines config.width) :
    ∃ whole, Traffic.WordTransfers config.width whole ∧ strobed <+: whole := by
  have next := Traffic.WordTransfers.cons (n := config.width) address (Or.inl rfl) .nil
  refine ⟨_, (wordTransfers_frames config begun).append next, h.trans ?_⟩
  rw [List.append_nil]
  exact (List.prefix_append_right_inj _).2 (List.prefix_append _ _)

@[simp] theorem traffic_latched (irq : Bool) (r : Registers) :
    (r.latched config irq).traffic config = r.traffic config := rfl

@[simp] theorem heading_latched (irq : Bool) (r : Registers) :
    (r.latched config irq).heading config = r.heading config := rfl

@[simp] theorem frame_latched (irq : Bool) (r : Registers) :
    (r.latched config irq).frame config = r.frame config := rfl

theorem frame_setUp (config : Config) (r : Registers) :
    (r.setUp config).frame config = r.frame config := by
  obtain ⟨addressee, acc⟩ := addressee_setUp config r
  rw [frame, frame, addressee, acc, (setUp_frame config r).1]

theorem heading_setUp (config : Config) (r : Registers) :
    (r.setUp config).heading config = r.heading config := by
  rw [heading, heading, (addressee_setUp config r).1]

theorem addressee_fetchChoice (b : Int) (r : Registers) :
    ((Cycle.fetchChoice config b r).entering config).addressee = none := by
  unfold Cycle.fetchChoice
  simp only
  split_ifs <;> simp [addressee_entering]

theorem isSome_addressee_executed {operation : Operation}
    (choice : r.choice = Cycle.executeChoice config r operation) (plain : r.dispatch = false) :
    ((r.executed config operation config.width).entering config).addressee.isSome = true ↔
      ∃ word, r.executeTraffic config operation = .address word := by
  obtain ⟨-, kept, -, -, still, -⟩ := executed_latches config operation config.width r
  rw [addressee_entering, kept, still, plain, choice, executeChoice_eq]
  cases operation with
  | jumpz => cases taken : r.jumpTaken config <;> simp [executeTraffic, taken]
  | get | set =>
    by_cases outside : r.target = some .io
    · simp [executeTraffic, outside]
    · by_cases jump : r.target = some .pc <;> simp [executeTraffic, outside, jump]
  | _ => simp [executeTraffic]

/-- A word transfer follows a state exactly when the state has driven an address. -/
theorem isSome_addressee_entering (h : r.Opened config) (aligned : r.Aligned old) (w : Int) :
    ((r.swept config w config.width).entering config).addressee.isSome = true ↔
      ∃ word, r.traffic config = .address word := by
  have plain (other : r.state ≠ .fetch) : r.dispatch = false :=
    Bool.eq_false_iff.2 fun going => other (aligned.dispatches going)
  cases hs : r.state with
  | reset =>
    have choice := h.choice_eq .fetch (by simp [hs]) (by rw [hs]; rfl)
    simp [addressee_entering, swept, traffic, hs, choice, plain]
  | fetch =>
    cases hd : r.dispatch with
    | true =>
      have choice := h.dispatch hs hd
      simp [addressee_entering, swept, traffic, hs, hd, choice]
    | false =>
      have none : ((r.swept config w config.width).entering config).addressee = none := by
        simp only [swept, hs, hd, Bool.false_eq_true, if_false, fetched, if_true]
        exact addressee_fetchChoice ..
      simp [none, traffic, hs, hd]
  | indirect =>
    have choice := h.choice_eq .operand (by simp [hs]) (by rw [hs]; rfl)
    simp [addressee_entering, swept, traffic, hs, choice]
  | operand =>
    have choice := h.choice_eq .execute (by simp [hs]) (by rw [hs]; rfl)
    simp [addressee_entering, swept, traffic, hs, choice]
  | execute =>
    simp only [swept, traffic, hs]
    exact isSome_addressee_executed (h.execute hs).2.2 (plain (by simp [hs]))
  | store | load =>
    have choice := h.choice_eq .advance (by simp [hs]) (by rw [hs]; rfl)
    simp [addressee_entering, swept, traffic, hs, choice]
  | advance =>
    have choice := h.choice_eq .fetch (by simp [hs]) (by rw [hs]; rfl)
    simp [addressee_entering, swept, traffic, hs, choice, plain]
  | halt =>
    have none : ((r.swept config w config.width).entering config).addressee = none := by
      simp only [swept, hs]
      split <;> simp [addressee_entering, h.halt hs]
    simp [none, traffic, hs]

/-- What a state drives goes on where its address stopped, and leaves off where the next state's
transfer begins. -/
theorem heading_append_lines (h : r.Opened config) (aligned : r.Aligned old) (w : Int) :
    r.heading config ++ ((r.traffic config).lines config.width).filter Signals.strobed =
      r.frame config ++ ((r.swept config w config.width).entering config).heading config := by
  have next := isSome_addressee_entering h aligned w
  have addressed := (aligned.entering h w).addressed
  rw [Traffic.filter_lines, heading, frame, heading]
  cases ha : r.addressee with
  | some a =>
    have moves : r.addressee.isSome = true := by rw [ha]; rfl
    have traffic := traffic_of_moves config moves
    have none : ((r.swept config w config.width).entering config).addressee = none := by
      rw [← Option.not_isSome_iff_eq_none, next, traffic]
      split <;> simp
    have strobes : (r.traffic config).strobes = true := by
      rw [traffic]
      split <;> rfl
    simp only [none, strobes, if_true, List.append_nil]
    rw [traffic]
  | none =>
    rcases traffic_of_rests config ha with silent | traffic
    · have none : ((r.swept config w config.width).entering config).addressee = none := by
        rw [← Option.not_isSome_iff_eq_none, next]
        rintro ⟨word, traffic⟩
        simp [traffic, Traffic.strobes] at silent
      simp [none, silent]
    · obtain ⟨a, some⟩ := Option.isSome_iff_exists.1 (next.2 traffic)
      obtain ⟨word, traffic⟩ := traffic
      have eq : a = keep config.width word := by
        rw [addressed a some, traffic]
        rfl
      simp only [some, traffic, Traffic.strobes, if_true, eq, Traffic.lines_keep]

/-- Inside a state the transfer that it belongs to is under way, or the next one's address. -/
theorem heading_append_prefix {k : Nat} (le : k ≤ config.width) :
    ∃ address : Int,
      r.heading config ++ ((r.traffic config).lines k).filter Signals.strobed <+:
        r.frame config ++ (Traffic.address address).lines config.width := by
  rw [Traffic.filter_lines, heading, frame]
  cases ha : r.addressee with
  | some a =>
    have moves : r.addressee.isSome = true := by rw [ha]; rfl
    have traffic := traffic_of_moves config moves
    refine ⟨0, List.IsPrefix.trans ?_ (List.prefix_append _ _)⟩
    rw [← traffic]
    refine (List.prefix_append_right_inj _).2 ?_
    split
    · exact Traffic.lines_prefix le _
    · exact List.nil_prefix
  | none =>
    rcases traffic_of_rests config ha with silent | ⟨word, traffic⟩
    · exact ⟨0, by simp [silent]⟩
    · exact ⟨word, by simpa [traffic, Traffic.strobes] using Traffic.lines_prefix le _⟩

end Registers

namespace Machine

/-- The lines that an action drives. -/
def driven (m : Machine Bus) : Action → List Signals
  | .clock => [(m.act .clock).processor.signals]
  | _ => []

/-- The record with which an action begins a state. -/
def begun (m : Machine Bus) : Action → List Registers
  | .clock => if m.processor.registers.first then [m.processor.registers] else []
  | _ => []

/-- What the actions of a session yield, one after another. -/
def along {α : Type} (f : Machine Bus → Action → List α) : Machine Bus → List Action → List α
  | _, [] => []
  | m, action :: rest => f m action ++ along f (m.act action) rest

/-- How the strobed lines that a machine has driven make up the transfers of the states that have
begun. -/
inductive Framed (config : Config) (m : Machine Bus) : List Signals → List Registers → Prop
  /-- The transfers are complete, and the next one has its address. -/
  | ready (begun : List Registers) (same : m.processor.config = config) (ready : m.Ready) :
    Framed config m (begun.flatMap (Registers.frame config) ++
      m.processor.registers.heading config) begun
  /-- The last state to begin has driven `k` of its lines. -/
  | amid (begun : List Registers) {r₀ r : Registers} {old w : Int} {k : Nat}
    (same : m.processor.config = config) (amid : m.Amid r old w k)
    (frame : r₀.frame config = r.frame config) :
    Framed config m (begun.flatMap (Registers.frame config) ++
      (r.heading config ++ ((r.traffic config).lines k).filter Signals.strobed)) (begun ++ [r₀])

variable {config : Config} {m : Machine Bus} {strobed : List Signals} {begun : List Registers}

theorem act_clock (m : Machine Bus) : m.act .clock = (m.clocked m.processor.irq).state := rfl

/-- The first cycle of a state. -/
theorem Ready.framed_clock (h : m.Ready) (begun : List Registers) :
    (m.act .clock).Framed m.processor.config
      (begun.flatMap (Registers.frame m.processor.config) ++
        m.processor.registers.heading m.processor.config ++
        (m.driven .clock).filter Signals.strobed) (begun ++ m.begun .clock) := by
  obtain ⟨amid, config, -, -, signals⟩ := h.clocked m.processor.irq 0
  have first : m.processor.registers.first = true := by rw [h.timed]; rfl
  have frame : m.processor.registers.frame m.processor.config =
      ((m.processor.registers.latched m.processor.config m.processor.irq).setUp
        m.processor.config).frame m.processor.config := by
    rw [Registers.frame_setUp, Registers.frame_latched]
  have next := Framed.amid begun config amid frame
  rw [Registers.heading_setUp, Registers.heading_latched] at next
  rw [driven, Machine.begun, act_clock, signals, if_pos first]
  simpa [Traffic.lines, Signals.strobed] using next

/-- A data cycle of a state, which drives one more of its lines and, when it is the last, completes
its transfer. -/
theorem Amid.framed_clock {r₀ r : Registers} {old w : Int} {k : Nat} (h : m.Amid r old w k)
    (frame : r₀.frame m.processor.config = r.frame m.processor.config) (begun : List Registers) :
    (m.act .clock).Framed m.processor.config
      (begun.flatMap (Registers.frame m.processor.config) ++
        (r.heading m.processor.config ++
          ((r.traffic m.processor.config).lines k).filter Signals.strobed) ++
        (m.driven .clock).filter Signals.strobed) (begun ++ [r₀] ++ m.begun .clock) := by
  have first : m.processor.registers.first = false := by rw [h.registers]; rfl
  rw [driven, Machine.begun, act_clock, if_neg (by simp [first]), List.append_nil]
  rcases Nat.lt_or_eq_of_le (Nat.succ_le_of_lt h.inside) with more | last
  · obtain ⟨next, config, -, -, signals⟩ := h.clocked_data m.processor.irq more
    have framed := Framed.amid begun config next frame
    rw [Registers.traffic_latched, Registers.heading_latched, Traffic.lines_succ,
      List.filter_append] at framed
    rw [signals]
    simpa only [List.append_assoc] using framed
  · obtain ⟨next, config, registers, -, -, signals⟩ := h.clocked_last m.processor.irq last
    have framed := Framed.ready (begun ++ [r₀]) config next
    have whole := Registers.heading_append_lines (h.opened.latched m.processor.irq)
      (h.aligned.latched m.processor.irq) (m.bus.latched old w k)
    have eq : m.processor.config.width = k + 1 := (last.trans h.width).symm
    have lines : (r.traffic m.processor.config).lines m.processor.config.width =
        (r.traffic m.processor.config).lines k ++ [(r.traffic m.processor.config).line k] := by
      rw [eq, Traffic.lines_succ]
    -- The line of this cycle is the last of the state's frame or of the next state's heading.
    rw [← registers, Registers.traffic_latched, Registers.heading_latched,
      Registers.frame_latched, lines, List.filter_append, ← frame] at whole
    rw [List.flatMap_append, List.flatMap_singleton, List.append_assoc, ← whole] at framed
    rw [signals]
    simpa only [List.append_assoc] using framed

theorem Framed.clock (h : m.Framed config strobed begun) :
    (m.act .clock).Framed config (strobed ++ (m.driven .clock).filter Signals.strobed)
      (begun ++ m.begun .clock) := by
  cases h with
  | ready _ same ready =>
    subst same
    exact ready.framed_clock begun
  | amid earlier same amid frame =>
    subst same
    exact amid.framed_clock frame earlier

theorem Framed.idle (h : m.Framed config strobed begun) {action : Action}
    (spares : action.sparesRegisters = true) (idle : action ≠ .clock) :
    (m.act action).Framed config strobed begun := by
  have kept := registers_act (m := m) spares idle
  cases h with
  | ready _ same ready =>
    rw [← kept.1]
    exact .ready _ (kept.2.trans same) (ready.of_act spares idle)
  | amid _ same amid frame => exact .amid _ (kept.2.trans same) (amid.of_act spares idle) frame

/-- An action keeps the lines in frames. -/
theorem Framed.act (h : m.Framed config strobed begun) {action : Action}
    (spares : action.sparesRegisters = true) :
    (m.act action).Framed config (strobed ++ (m.driven action).filter Signals.strobed)
      (begun ++ m.begun action) := by
  by_cases clock : action = .clock
  · rw [clock]
    exact h.clock
  · have silent : m.driven action = [] ∧ m.begun action = [] := by
      cases action <;> first | exact absurd rfl clock | exact ⟨rfl, rfl⟩
    rw [silent.1, silent.2, List.filter_nil, List.append_nil, List.append_nil]
    exact h.idle spares clock

theorem Framed.along (h : m.Framed config strobed begun) {actions : List Action}
    (spares : ∀ action ∈ actions, action.sparesRegisters = true) :
    (m.after actions).Framed config (strobed ++ (m.along driven actions).filter Signals.strobed)
      (begun ++ m.along Machine.begun actions) := by
  induction actions generalizing m strobed begun with
  | nil => simpa [Machine.along, after] using h
  | cons action rest ih =>
    have next := ih (h.act (spares action List.mem_cons_self)) fun other member =>
      spares other (List.mem_cons_of_mem action member)
    simp only [Machine.along, List.filter_append, ← List.append_assoc]
    exact next

/-- The strobed lines end inside the transfer of the last state to begin, or inside the address that
it drives for the next one. -/
theorem Framed.exists_address (h : m.Framed config strobed begun) :
    ∃ address : Int, strobed <+: begun.flatMap (Registers.frame config) ++
      (Traffic.address address).lines config.width := by
  cases h with
  | ready =>
    unfold Registers.heading
    cases m.processor.registers.addressee with
    | some a => exact ⟨a, List.prefix_rfl⟩
    | none => exact ⟨0, (List.prefix_append_right_inj _).2 List.nil_prefix⟩
  | amid earlier same amid frame =>
    have inside := amid.width ▸ amid.inside
    rw [same] at inside
    obtain ⟨address, begins⟩ := Registers.heading_append_prefix inside.le
    refine ⟨address, ?_⟩
    rw [List.flatMap_append, List.flatMap_singleton, List.append_assoc, frame]
    exact (List.prefix_append_right_inj _).2 begins

theorem Framed.strobed_eq (h : m.Framed config strobed begun)
    (first : m.processor.registers.first = true) :
    strobed = begun.flatMap (Registers.frame config) ++ m.processor.registers.heading config := by
  cases h with
  | ready => rfl
  | amid _ _ amid _ =>
    rw [amid.registers] at first
    simp [Registers.timed] at first

theorem Framed.address_eq (h : m.Framed config strobed begun)
    (begins : m.processor.atFetch = true) : m.bus.address = m.processor.registers.pc := by
  simp only [Processor.atFetch, Bool.and_eq_true, beq_iff_eq, Bool.not_eq_true'] at begins
  obtain ⟨⟨state, first⟩, plain⟩ := begins
  cases h with
  | ready _ _ ready =>
    exact (ready.aligned.addressed _ (by simp [Registers.addressee, state, plain])).symm
  | amid _ _ amid _ =>
    rw [amid.registers] at first
    simp [Registers.timed] at first

/-- After any session that begins with a reset, the strobed lines are the beginning of a row of word
transfers. These are the transfers of the states that have begun, in order, and no more than an
address beyond them. At the first cycle of a state all of them are complete, and the address of the
next one is there exactly when it follows, so that the bus stands at the program counter whenever an
instruction is fetched. -/
theorem strobes_framed (m : Machine Bus) (width : m.bus.width = m.processor.config.width)
    (actions : List Action) (spares : ∀ action ∈ actions, action.sparesRegisters = true) :
    (∃ whole, Traffic.WordTransfers m.processor.config.width whole ∧
        (m.reset.1.along driven actions).filter Signals.strobed <+: whole) ∧
      (∃ address : Int, (m.reset.1.along driven actions).filter Signals.strobed <+:
        (m.reset.1.along Machine.begun actions).flatMap (Registers.frame m.processor.config) ++
          (Traffic.address address).lines m.processor.config.width) ∧
      ((m.reset.1.after actions).processor.registers.first = true →
        (m.reset.1.along driven actions).filter Signals.strobed =
          (m.reset.1.along Machine.begun actions).flatMap (Registers.frame m.processor.config) ++
            (m.reset.1.after actions).processor.registers.heading m.processor.config) ∧
      ((m.reset.1.after actions).processor.atFetch = true →
        (m.reset.1.after actions).bus.address =
          (m.reset.1.after actions).processor.registers.pc) := by
  have start : m.reset.1.Framed m.processor.config [] [] :=
    .ready [] rfl (ready_reset width)
  have framed := start.along spares
  rw [List.nil_append, List.nil_append] at framed
  obtain ⟨address, begins⟩ := framed.exists_address
  exact ⟨Registers.exists_wordTransfers begins, ⟨address, begins⟩, framed.strobed_eq,
    framed.address_eq⟩

/-- The bus at the fetch after the nine cycles of the reset state. -/
theorem strobes_framed_literal :
    (∀ action ∈ List.replicate 9 Action.clock, action.sparesRegisters = true) ∧
      ((literalThree .base).reset.1.after (List.replicate 9 .clock)).bus.address =
        ((literalThree .base).reset.1.after (List.replicate 9 .clock)).processor.registers.pc :=
  ⟨by decide, (strobes_framed (literalThree .base) rfl _ (by decide)).2.2.2 (by decide)⟩

end Machine

end SerialMachine

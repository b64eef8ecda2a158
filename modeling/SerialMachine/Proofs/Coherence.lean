import SerialMachine.Proofs.Flags
import SerialMachine.Proofs.Serial
import SerialMachine.Proofs.Timed

/-!
# Coherent records

What is true of the registers in every cycle of every state: words stay words, the opcode stays a
nibble, the variants keep to their states and latches, and once a state is set up its latches hold
what its commit and its look-ups need. A cycle from a coherent record completes, and leaves a
coherent record behind.
-/

namespace SerialMachine

/-- Whether an operation exchanges the accumulator with what its operand names. -/
def Operation.aims : Operation → Bool
  | get | set | shadow => true
  | _ => false

/-- The state after a fetch, by the flags register, the interrupt latch and the highest bit of the
instruction word. A fetch that follows a fetch serves an interrupt. -/
def State.afterFetch (config : Config) (flags : Int) (pending top : Bool) : State :=
  let isSet flag := Flag.isSet config.variant flag flags
  if isSet .halt then .halt
  else if isSet .reset then .reset
  else if config.extended then if isSet .interruptEnable && pending then .fetch else .execute
  else if isSet .indirect && !top then .indirect
  else .execute

theorem State.follows_afterFetch (config : Config) (flags : Int) (pending top : Bool) :
    State.Follows config .fetch (State.afterFetch config flags pending top) := by
  unfold State.afterFetch
  simp only
  split_ifs with _ _ extended _ <;>
    simp_all [State.Follows, State.successors, State.baseOnly]

namespace Registers

/-- The seven word registers hold words of `n` bits. -/
structure Words (n : Nat) (r : Registers) : Prop where
  acc : Word.Fits n r.acc
  pc : Word.Fits n r.pc
  operand : Word.Fits n r.operand
  flags : Word.Fits n r.flags
  shadow : Word.Fits n r.shadow
  timer : Word.Fits n r.timer
  compare : Word.Fits n r.compare

/-- The record keeps what every cycle relies on. What the first cycle of a state sets up is there
once the state has `begun`. -/
structure Coherent (config : Config) (begun : Prop) (r : Registers) : Prop where
  words : r.Words config.width
  opcode : Word.Fits 4 r.opcode
  native : config.extended = true → r.state.baseOnly = false ∧ r.indirected = false
  plain : config.extended = false → r.dispatch = false ∧ r.irq = false
  /-- A fetch and a halt choose the next state on their last cycle, all others on their first. -/
  settled : begun → r.state ≠ .halt → (r.state = .fetch → r.dispatch = true) →
    State.Follows config r.state r.choice
  aimed : begun → r.state = .execute → ∀ operation, r.operation config = .ok operation →
    operation.aims = true → r.target ≠ none

variable {config : Config} {n : Nat} {r : Registers}

/-! ## Words -/

theorem words_iff : r.Words n ↔ ∀ x ∈ Register.words, Word.Fits n (r.get x) := by
  constructor
  · intro h x hx
    simp only [Register.words, List.mem_cons, List.not_mem_nil, or_false] at hx
    rcases hx with rfl | rfl | rfl | rfl | rfl | rfl | rfl
    exacts [h.acc, h.pc, h.operand, h.flags, h.shadow, h.timer, h.compare]
  · intro h
    exact ⟨h .acc (by decide), h .pc (by decide), h .operand (by decide), h .flags (by decide),
      h .shadow (by decide), h .timer (by decide), h .compare (by decide)⟩

theorem Words.get (h : r.Words n) {x : Register} (hx : x ∈ Register.words) :
    Word.Fits n (r.get x) :=
  words_iff.1 h x hx

theorem Words.set (h : r.Words n) (x : Register) {value : Int} (hv : Word.Fits n value) :
    (r.set x value).Words n := by
  cases x
  case acc => exact { h with acc := hv }
  case pc => exact { h with pc := hv }
  case operand => exact { h with operand := hv }
  case flags => exact { h with flags := hv }
  case shadow => exact { h with shadow := hv }
  case timer => exact { h with timer := hv }
  case compare => exact { h with compare := hv }
  all_goals exact { h with }

theorem fits_drop_one {value : Int} (h : Word.Fits n value) : Word.Fits n (Bits.drop 1 value) :=
  Bits.fits_drop (Bits.fits_mono h n.le_succ)

theorem fits_left (pos : 0 < n) (value : Int) (around : Bool) :
    Word.Fits n (Shift.left n value around) := by
  unfold Shift.left
  split
  · exact Bits.fits_assign pos true (Bits.fits_keep n _)
  · exact Bits.fits_keep n _

theorem fits_right (pos : 0 < n) {value : Int} (h : Word.Fits n value) (around : Bool) :
    Word.Fits n (Shift.right n value around) := by
  unfold Shift.right
  split
  · exact Shift.fits_enter pos h value
  · exact fits_drop_one h

/-- A register takes a bit in. -/
theorem fits_entered {value : Int} (h : Word.Fits config.width value) (bit : Int) :
    Word.Fits config.width (Shift.enter config.width value bit) :=
  Shift.fits_enter config.width_pos h bit

theorem fits_flag (config : Config) {f : Flag}
    (h : f ∈ [Flag.carry, .borrow, .zero, .negative, .parity]) (on : Bool)
    {flags : Int} (hf : Word.Fits config.width flags) :
    Word.Fits config.width (Flag.put config.variant f on flags) :=
  Flag.fits_put (Or.inr (Flag.bit?_lt_of_eight_le config.eight_le_width h)) hf

/-! ## Operations -/

/-- Every nibble is the opcode of an operation. -/
theorem exists_operation (config : Config) (h : Word.Fits 4 r.opcode) :
    ∃ operation, r.operation config = .ok operation := by
  obtain ⟨k, lt, e⟩ := Bits.exists_natCast_of_fits h
  have inside : k < (Operation.table config.variant).length := by
    rw [Operation.table_length]
    exact lt
  have nonneg : ¬((k : Int) < 0) := by omega
  refine ⟨(Operation.table config.variant)[k], ?_⟩
  simp [operation, Operation.ofOpcode?, e, nonneg, inside]

theorem isSome_target?_of_aims {operation : Operation} (h : operation.aims = true)
    (variant : Variant)
    (n : Nat) (operand : Int) : Instruction.target? variant n operation operand ≠ none := by
  cases operation <;> simp only [Operation.aims, Bool.false_eq_true] at h
  · simp [Instruction.target?]
  all_goals
    unfold Instruction.target?
    cases variant <;> simp only <;> split <;> simp
    split <;> simp

theorem follows_executeChoice (r : Registers) (operation : Operation) :
    State.Follows config .execute (Cycle.executeChoice config r operation) := by
  unfold Cycle.executeChoice
  split_ifs <;> simp [State.Follows, State.successors, State.baseOnly]

/-! ## The work of each state -/

section Work

variable {c : Nat} {bit : Int} {m : Timing.Markers}

/-- A cycle's work keeps a record coherent, and its last one makes a choice that may follow. -/
def Keeps (config : Config) (m : Timing.Markers) (r worked : Registers) : Prop :=
  worked.state = r.state ∧ worked.Coherent config True ∧
    (m.last = true → State.Follows config r.state worked.choice)

/-- In a state that chooses on its first cycle, coherence is all there is to show. -/
theorem keeps_of_coherent {worked : Registers} (same : worked.state = r.state)
    (halt : r.state ≠ .halt) (fetch : r.state = .fetch → worked.dispatch = true)
    (h : worked.Coherent config True) : Keeps config m r worked := by
  refine ⟨same, h, fun _ => ?_⟩
  rw [← same]
  exact h.settled trivial (same ▸ halt) fun e => fetch (same ▸ e)

/-- A data cycle that moves words, and the latches that no commit reads. -/
theorem Coherent.moved {begun : Prop} (h : r.Coherent config begun)
    {acc pc operand flags shadow timer compare carry : Int} {matching : Bool}
    (words : Words config.width
      { r with acc, pc, operand, flags, shadow, timer, compare, carry, matching }) :
    Coherent config begun
      { r with acc, pc, operand, flags, shadow, timer, compare, carry, matching } where
  words := words
  opcode := h.opcode
  native := h.native
  plain := h.plain
  settled := h.settled
  aimed := h.aimed

/-- The first cycle of a state other than the execute state makes its choice. -/
theorem Coherent.chosen {begun : Prop} (h : r.Coherent config begun) (hs : r.state ≠ .execute)
    {choice : State} (follows : State.Follows config r.state choice) :
    Coherent config True { r with choice } where
  words := { h.words with }
  opcode := h.opcode
  native := h.native
  plain := h.plain
  settled := fun _ _ _ => follows
  aimed := fun _ e => absurd e hs

theorem Coherent.begins {begun : Prop} (h : r.Coherent config begun) (hb : begun) :
    r.Coherent config True :=
  { h with settled := fun _ => h.settled hb, aimed := fun _ => h.aimed hb }

theorem Coherent.reset (h : r.Coherent config (m.first = false)) (hs : r.state = .reset) :
    Keeps config m r (Cycle.reset config m r) := by
  refine keeps_of_coherent (by unfold Cycle.reset; split <;> rfl) (by simp [hs]) (by simp [hs]) ?_
  unfold Cycle.reset
  split
  · constructor
    case opcode => exact Bits.fits_zero 4
    case native => exact fun e => ⟨(h.native e).1, rfl⟩
    case plain => exact fun _ => ⟨rfl, rfl⟩
    case settled => simp [hs, State.Follows, State.successors, State.baseOnly]
    case aimed => simp [hs]
    case words => exact { h.words with }
  · next data =>
    exact (h.begins (by simpa using data)).moved
      ⟨fits_entered h.words.acc 0, fits_entered h.words.pc 0, fits_entered h.words.operand 0,
        fits_entered h.words.flags 0, fits_entered h.words.shadow 0, fits_entered h.words.timer 0,
        fits_entered h.words.compare 0⟩

theorem Coherent.indirect (h : r.Coherent config (m.first = false)) (hs : r.state = .indirect) :
    Keeps config m r (Cycle.indirect config m r) := by
  refine keeps_of_coherent (by unfold Cycle.indirect; split <;> rfl) (by simp [hs])
    (by simp [hs]) ?_
  unfold Cycle.indirect
  split
  · have base : config.extended = false := by
      by_contra e
      simpa [hs, State.baseOnly] using (h.native (by simpa using e)).1
    have follows : State.Follows config r.state .operand := by
      simp [hs, State.Follows, State.successors, base]
    exact { h.chosen (by simp [hs]) follows with
      words := { h.words with }
      native := by simp [base] }
  · next data =>
    exact (h.begins (by simpa using data)).moved
      { h.words with operand := fits_entered h.words.operand _ }

theorem Coherent.operand (h : r.Coherent config (m.first = false)) (hs : r.state = .operand) :
    Keeps config m r (Cycle.operand config bit m r) := by
  refine keeps_of_coherent (by unfold Cycle.operand; split <;> rfl) (by simp [hs]) (by simp [hs]) ?_
  unfold Cycle.operand
  split
  · exact h.chosen (by simp [hs]) (by simp [hs, State.Follows, State.successors, State.baseOnly])
  · next data =>
    exact (h.begins (by simpa using data)).moved
      { h.words with operand := fits_entered h.words.operand _ }

theorem Coherent.load (h : r.Coherent config (m.first = false)) (hs : r.state = .load) :
    Keeps config m r (Cycle.load config bit m r) := by
  refine keeps_of_coherent (by unfold Cycle.load; split <;> rfl) (by simp [hs]) (by simp [hs]) ?_
  unfold Cycle.load
  split
  · exact h.chosen (by simp [hs]) (by simp [hs, State.Follows, State.successors, State.baseOnly])
  · next data =>
    exact (h.begins (by simpa using data)).moved { h.words with acc := fits_entered h.words.acc _ }

theorem Coherent.store (h : r.Coherent config (m.first = false)) (hs : r.state = .store) :
    Keeps config m r (Cycle.store config m r) := by
  refine keeps_of_coherent (by unfold Cycle.store; split <;> rfl) (by simp [hs]) (by simp [hs]) ?_
  unfold Cycle.store
  split
  · exact h.chosen (by simp [hs]) (by simp [hs, State.Follows, State.successors, State.baseOnly])
  · next data =>
    exact (h.begins (by simpa using data)).moved { h.words with acc := fits_entered h.words.acc _ }

theorem Coherent.advance (h : r.Coherent config (m.first = false)) (hs : r.state = .advance) :
    Keeps config m r (Cycle.advance config m r) := by
  refine keeps_of_coherent (by unfold Cycle.advance; split <;> rfl) (by simp [hs]) (by simp [hs]) ?_
  unfold Cycle.advance
  split
  · have follows : State.Follows config r.state .fetch := by
      simp [hs, State.Follows, State.successors, State.baseOnly]
    exact { h.chosen (by simp [hs]) follows with words := { h.words with } }
  · next data =>
    exact (h.begins (by simpa using data)).moved { h.words with pc := fits_entered h.words.pc _ }

theorem Coherent.halt (h : r.Coherent config (m.first = false)) (hs : r.state = .halt) :
    Keeps config m r (Cycle.halt config m r) := by
  unfold Cycle.halt
  split
  · next wakes =>
    have extended : config.extended = true := by
      simp only [Bool.and_eq_true] at wakes
      exact wakes.1.1.2
    refine ⟨rfl, ?_, fun _ => by simp [hs, State.Follows, State.successors, State.baseOnly]⟩
    constructor
    case words => exact { h.words with }
    case opcode => exact h.opcode
    case native => exact h.native
    case plain => simp [extended]
    case settled => exact fun _ e => absurd hs e
    case aimed => simp [hs]
  · have follows : State.Follows config r.state .halt := by
      simp [hs, State.Follows, State.successors, State.baseOnly]
    exact ⟨rfl, h.chosen (by simp [hs]) follows, fun _ => follows⟩

/-! ### Execute -/

theorem Coherent.executeSetUp {begun : Prop} (h : r.Coherent config begun) (hs : r.state = .execute)
    {operation : Operation} (ho : r.operation config = .ok operation) :
    Coherent config True (Cycle.executeSetUp config operation r) where
  words := { h.words with }
  opcode := h.opcode
  native := h.native
  plain := h.plain
  settled := by
    intro _ _ _
    rw [show (Cycle.executeSetUp config operation r).state = .execute from hs]
    exact follows_executeChoice _ operation
  aimed := by
    intro _ _ other same aims
    obtain rfl : operation = other := Except.ok.inj (ho.symm.trans same)
    exact isSome_target?_of_aims aims config.variant config.width r.operand

theorem Coherent.executeBit (h : r.Coherent config True) (hs : r.state = .execute)
    {operation : Operation} (ho : r.operation config = .ok operation) :
    ∃ worked, Cycle.executeBit config operation m r = .ok worked ∧ worked.state = r.state ∧
      worked.Coherent config True := by
  have turned := fits_entered h.words.operand r.operand
  have entered := fits_entered h.words.acc
  cases operation with
  | or | xor | invert | literal =>
    exact ⟨_, rfl, rfl, h.moved { h.words with acc := entered _, operand := turned }⟩
  | add | sub =>
    refine ⟨_, rfl, rfl, h.moved { h.words with acc := entered _, operand := turned, flags := ?_ }⟩
    dsimp only
    split
    · exact fits_flag config (by decide) _ h.words.flags
    · exact h.words.flags
  | and =>
    unfold Cycle.executeBit
    simp only
    split
    · exact ⟨_, rfl, rfl, h.moved
        { h.words with acc := entered _, operand := fits_drop_one h.words.operand }⟩
    · exact ⟨_, rfl, rfl, h.moved { h.words with acc := entered _, operand := turned }⟩
  | lshift =>
    unfold Cycle.executeBit Cycle.turn
    simp only
    split
    · exact ⟨_, rfl, rfl, h.moved
        { h.words with acc := fits_left config.width_pos _ _, operand := turned }⟩
    · exact ⟨_, rfl, rfl, h.moved { h.words with operand := turned }⟩
  | rshift =>
    unfold Cycle.executeBit Cycle.turn
    simp only
    split
    · exact ⟨_, rfl, rfl, h.moved
        { h.words with acc := fits_right config.width_pos h.words.acc _, operand := turned }⟩
    · exact ⟨_, rfl, rfl, h.moved { h.words with operand := turned }⟩
  | jump | jumpz =>
    unfold Cycle.executeBit Cycle.turn
    simp only
    split
    · exact ⟨_, rfl, rfl, h.moved
        { h.words with pc := fits_entered h.words.pc _, operand := turned }⟩
    · exact ⟨_, rfl, rfl, h.moved { h.words with operand := turned }⟩
  | get | set | shadow =>
    obtain ⟨target, ht⟩ := Option.ne_none_iff_exists'.1 (h.aimed trivial hs _ ho rfl)
    unfold Cycle.executeBit
    simp only [ht]
    cases target with
    | pc => exact ⟨_, rfl, rfl, h.moved
        { h.words with acc := entered _, pc := fits_entered h.words.pc _ }⟩
    | flags => exact ⟨_, rfl, rfl, h.moved
        { h.words with acc := entered _, flags := fits_entered h.words.flags _ }⟩
    | compare => exact ⟨_, rfl, rfl, h.moved
        { h.words with acc := entered _, compare := fits_entered h.words.compare _ }⟩
    | timer => exact ⟨_, rfl, rfl, h.moved
        { h.words with acc := entered _, timer := fits_entered h.words.timer _ }⟩
    | shadow => exact ⟨_, rfl, rfl, h.moved
        { h.words with acc := entered _, shadow := fits_entered h.words.shadow _ }⟩
    | io => exact ⟨_, rfl, rfl, h.moved { h.words with operand := turned }⟩
  | load | store | loadc | storec => exact ⟨_, rfl, rfl, h.moved { h.words with operand := turned }⟩
  | unused => exact ⟨_, rfl, rfl, h⟩

/-- A data cycle of the execute state stays with the choice that the first cycle has made, requests
no interrupt, and touches timer and compare register only to exchange them. -/
theorem frame_executeBit {worked : Registers} {operation : Operation}
    (done : Cycle.executeBit config operation m r = .ok worked) :
    worked.choice = r.choice ∧ worked.irq = r.irq ∧
      (r.target ≠ some .timer → worked.timer = r.timer) ∧
      (r.target ≠ some .compare → worked.compare = r.compare) := by
  unfold Cycle.executeBit at done
  cases operation with
  | and | lshift | rshift | jump | jumpz =>
    simp only at done
    split_ifs at done <;>
      (obtain rfl := Except.ok.inj done; exact ⟨rfl, rfl, fun _ => rfl, fun _ => rfl⟩)
  | get | set | shadow =>
    simp only at done
    cases target : r.target with
    | none => simp [target] at done
    | some named =>
      cases named with
      | timer =>
        simp only [target] at done
        obtain rfl := Except.ok.inj done
        exact ⟨rfl, rfl, fun other => absurd rfl other, fun _ => rfl⟩
      | compare =>
        simp only [target] at done
        obtain rfl := Except.ok.inj done
        exact ⟨rfl, rfl, fun _ => rfl, fun other => absurd rfl other⟩
      | _ =>
        simp only [target] at done
        obtain rfl := Except.ok.inj done
        exact ⟨rfl, rfl, fun _ => rfl, fun _ => rfl⟩
  | _ =>
    obtain rfl := Except.ok.inj done
    exact ⟨rfl, rfl, fun _ => rfl, fun _ => rfl⟩

theorem Coherent.execute (h : r.Coherent config (m.first = false)) (hs : r.state = .execute) :
    ∃ worked, Cycle.execute config m r = .ok worked ∧ Keeps config m r worked := by
  obtain ⟨operation, ho⟩ := exists_operation config h.opcode
  cases hm : m.first with
  | true =>
    refine ⟨Cycle.executeSetUp config operation r, ?_, ?_⟩
    · simp only [Cycle.execute, ho, hm]
      rfl
    · exact keeps_of_coherent rfl (by simp [hs]) (by simp [hs]) (h.executeSetUp hs ho)
  | false =>
    obtain ⟨worked, done, same, coherent⟩ := (h.begins hm).executeBit (m := m) hs ho
    refine ⟨worked, ?_, keeps_of_coherent same (by simp [hs]) (by simp [hs]) coherent⟩
    simp only [Cycle.execute, ho, hm]
    exact done

/-! ### Fetch -/

theorem Coherent.dispatch (h : r.Coherent config (m.first = false)) (hs : r.state = .fetch)
    (hd : r.dispatch = true) : Keeps config m r (Cycle.dispatch config m r) := by
  have extended : config.extended = true := by
    by_contra e
    simpa [hd] using (h.plain (by simpa using e)).1
  have follows : State.Follows config r.state .fetch := by
    simp [hs, State.Follows, State.successors, State.baseOnly, extended]
  unfold Cycle.dispatch
  split
  · refine keeps_of_coherent rfl (by simp [hs]) (fun _ => hd) ?_
    constructor
    case words =>
      have flags : Word.Fits config.width (Flag.put .extended .halt false
          (Flag.put .extended .interruptEnable false r.flags)) :=
        Flag.fits_put (Or.inl rfl) (Flag.fits_put (Or.inl rfl) h.words.flags)
      exact { h.words with flags := flags }
    case opcode => exact h.opcode
    case native => exact h.native
    case plain => simp [extended]
    case settled => exact fun _ _ _ => follows
    case aimed => simp [hs]
  · next data =>
    have settled := h.settled (by simpa using data) (by simp [hs]) fun _ => hd
    refine ⟨rfl, ?_, fun _ => settled⟩
    constructor
    case words =>
      exact { h.words with
        pc := fits_entered h.words.pc _, shadow := fits_entered h.words.shadow _ }
    case opcode => exact h.opcode
    case native => exact h.native
    case plain => simp [extended]
    case settled => exact fun _ _ _ => settled
    case aimed => simp [hs]

theorem fetchSetUp_eq (config : Config) (r : Registers) :
    Cycle.fetchSetUp config r =
      { r with
        flags := Flag.counted config.variant config.width 0 r.acc r.flags
        indirected := false
        choice := .execute
        carry := if config.extended then 1 else r.carry
        matching := config.extended || r.matching } := by
  rw [← Flag.counted_zero]
  unfold Cycle.fetchSetUp
  cases config.extended <;> rfl

theorem fits_counted (config : Config) (k : Nat) (acc : Int) {flags : Int}
    (h : Word.Fits config.width flags) :
    Word.Fits config.width (Flag.counted config.variant config.width k acc flags) :=
  fits_flag config (by decide) _ (fits_flag config (by decide) _ (fits_flag config (by decide) _ h))

theorem Coherent.fetchSetUp {begun : Prop} (h : r.Coherent config begun) (hs : r.state = .fetch)
    (hd : r.dispatch = false) : Keeps config m r (Cycle.fetchSetUp config r) := by
  have follows : State.Follows config r.state .execute := by
    simp [hs, State.Follows, State.successors, State.baseOnly]
  rw [fetchSetUp_eq]
  refine ⟨rfl, ?_, fun _ => follows⟩
  constructor
  case words => exact { h.words with flags := fits_counted config 0 r.acc h.words.flags }
  case opcode => exact h.opcode
  case native => exact fun e => ⟨(h.native e).1, rfl⟩
  case plain => exact fun e => ⟨hd, (h.plain e).2⟩
  case settled => exact fun _ _ _ => follows
  case aimed => exact fun _ e => absurd (hs.symm.trans e) (by decide)

/-- The choice at the end of a fetch writes two latches. -/
theorem fetchChoice_eq (config : Config) (b : Int) (r : Registers) :
    Cycle.fetchChoice config b r =
      { r with
        choice := State.afterFetch config r.flags r.irq (Bits.test 0 b)
        dispatch :=
          r.dispatch || State.afterFetch config r.flags r.irq (Bits.test 0 b) == .fetch } := by
  unfold Cycle.fetchChoice State.afterFetch
  simp only
  split_ifs <;> simp

theorem Coherent.fetchChoice (h : r.Coherent config True) (hs : r.state = .fetch) (bit : Int) :
    Keeps config m r (Cycle.fetchChoice config bit r) := by
  have follows : State.Follows config r.state
      (State.afterFetch config r.flags r.irq (Bits.test 0 bit)) := by
    rw [hs]
    exact State.follows_afterFetch ..
  rw [fetchChoice_eq]
  refine ⟨rfl, { h.chosen (by simp [hs]) follows with
    words := { h.words with }
    plain := fun base => ⟨?_, (h.plain base).2⟩
    settled := fun _ _ _ => follows }, fun _ => follows⟩
  have apart : State.afterFetch config r.flags r.irq (Bits.test 0 bit) ≠ .fetch :=
    fun again => follows.2.2 base ⟨hs, again⟩
  rw [(h.plain base).1, Bool.false_or, beq_false_of_ne apart]

theorem Coherent.fetchBits (h : r.Coherent config True) (hs : r.state = .fetch) (bit : Int) :
    Coherent config True (Cycle.fetchBit config bit m (Cycle.fetchFlags config r)) := by
  have flags : Word.Fits config.width (Cycle.fetchFlags config r).flags := by
    unfold Cycle.fetchFlags
    simp only
    split
    · rw [Flag.toggle_eq_put]
      exact fits_flag config (by decide) _ (fits_flag config (by decide) _ h.words.flags)
    · exact h.words.flags
  have counted : Coherent config True (Cycle.fetchFlags config r) :=
    h.moved { h.words with flags := flags, acc := fits_entered h.words.acc _ }
  unfold Cycle.fetchBit
  split
  · have opcode : Word.Fits 4 (Shift.enter 4 (Cycle.fetchFlags config r).opcode bit) :=
      Shift.fits_enter (by decide) counted.opcode bit
    constructor
    case words => exact { counted.words with operand := fits_drop_one counted.words.operand }
    case opcode => exact opcode
    case native => exact counted.native
    case plain => exact counted.plain
    case settled => exact counted.settled
    case aimed => exact fun _ e => absurd (hs.symm.trans e) (by decide)
  · exact counted.moved { counted.words with operand := fits_entered counted.words.operand _ }

theorem Coherent.fetchTimer (h : r.Coherent config True) (extended : config.extended = true) :
    Coherent config True (Cycle.fetchTimer config m r) where
  words := { h.words with
    timer := fits_entered h.words.timer _, compare := fits_entered h.words.compare _ }
  opcode := h.opcode
  native := h.native
  plain := by simp [extended]
  settled := h.settled
  aimed := h.aimed

theorem Coherent.fetch (h : r.Coherent config (m.first = false)) (hs : r.state = .fetch) :
    Keeps config m r (Cycle.fetch config bit m r) := by
  unfold Cycle.fetch
  split
  · next hd => exact h.dispatch hs hd
  · next hd =>
    split
    · exact h.fetchSetUp hs (by simpa using hd)
    · next data =>
      have bits := (h.begins (by simpa using data)).fetchBits (m := m) hs bit
      have same : (Cycle.fetchBit config bit m (Cycle.fetchFlags config r)).state = r.state := by
        unfold Cycle.fetchBit
        split <;> rfl
      have ticked : ∀ s : Registers, s.state = r.state → s.Coherent config True →
          Keeps config m r (if m.last = true then Cycle.fetchChoice config bit s else s) := by
        intro s state coherent
        split
        · have keeps := coherent.fetchChoice (m := m) (state.trans hs) bit
          rwa [Keeps, state] at keeps
        · next more => exact ⟨state, coherent, fun last => absurd last more⟩
      refine ticked (if config.extended then _ else _) ?_ ?_
      · split <;> exact same
      · split
        · next extended => exact bits.fetchTimer extended
        · exact bits

/-! ## A whole cycle -/

theorem Coherent.work (h : r.Coherent config (m.first = false)) (bit : Int) :
    ∃ worked, r.work config bit m = .ok worked ∧ Keeps config m r worked := by
  unfold Registers.work
  cases hs : r.state with
  | reset => exact ⟨_, rfl, h.reset hs⟩
  | fetch => exact ⟨_, rfl, h.fetch hs⟩
  | indirect => exact ⟨_, rfl, h.indirect hs⟩
  | operand => exact ⟨_, rfl, h.operand hs⟩
  | execute => exact h.execute hs
  | store => exact ⟨_, rfl, h.store hs⟩
  | load => exact ⟨_, rfl, h.load hs⟩
  | advance => exact ⟨_, rfl, h.advance hs⟩
  | halt => exact ⟨_, rfl, h.halt hs⟩

end Work

theorem Coherent.latched {begun : Prop} (h : r.Coherent config begun) (irq : Bool) :
    (r.latched config irq).Coherent config begun where
  words := { h.words with }
  opcode := h.opcode
  native := h.native
  plain := fun e => by
    obtain ⟨dispatch, latch⟩ := h.plain e
    exact ⟨dispatch, by simp [Registers.latched, latch, e]⟩
  settled := h.settled
  aimed := h.aimed

theorem Coherent.timed {begun : Prop} (h : r.Coherent config begun) (c : Nat) :
    (r.timed config c).Coherent config begun :=
  { h with words := { h.words with } }

theorem Coherent.entering {begun : Prop} (h : r.Coherent config begun)
    (follows : State.Follows config r.state r.choice) :
    (r.entering config).Coherent config False where
  words := { h.words with }
  opcode := h.opcode
  native := fun e => ⟨follows.2.1 e, (h.native e).2⟩
  plain := h.plain
  settled := False.elim
  aimed := False.elim

/-- A record that is coherent at its cycle, with the markers of that cycle. -/
def Sound (config : Config) (r : Registers) : Prop :=
  ∃ c ≤ config.width, r = r.timed config c ∧ r.Coherent config (c ≠ 0)

theorem sound_reset : Sound config {} := by
  refine ⟨0, Nat.zero_le _, ?_, ?_⟩
  · have := config.eight_le_width
    simp [Registers.timed]
    omega
  · constructor
    case words =>
      have zero := Bits.fits_zero config.width
      exact ⟨zero, zero, zero, zero, zero, zero, zero⟩
    case opcode => exact Bits.fits_zero 4
    case native => exact fun _ => ⟨rfl, rfl⟩
    case plain => exact fun _ => ⟨rfl, rfl⟩
    case settled => exact fun e => absurd rfl e
    case aimed => exact fun e => absurd rfl e

/-- The work of a sound record's state succeeds, and after it the record is at the next cycle of the
state or, after the last one, enters the state that has been chosen. -/
theorem Sound.exists_worked (h : r.Sound config) (bit : Int) (irq : Bool) :
    ∃ c ≤ config.width, ∃ worked, r.cycle = c ∧
      (r.latched config irq).work config bit (Timing.markers c config.width) = .ok worked ∧
      worked.state = r.state ∧ worked.Coherent config True ∧
      (c < config.width →
        r.transition config bit irq = .ok (worked.timed config (c + 1))) ∧
      (c = config.width → State.Follows config worked.state worked.choice ∧
        r.transition config bit irq = .ok (worked.entering config)) := by
  obtain ⟨c, le, timed, coherent⟩ := h
  have first : (Timing.markers c config.width).first = decide (c = 0) := by
    rw [markers_cast]
    rfl
  have begun : r.Coherent config ((Timing.markers c config.width).first = false) := by
    simpa [first] using coherent
  obtain ⟨worked, work, same, kept, follows⟩ := (begun.latched irq).work bit
  have native : r.Native config := fun e => (coherent.native e).1
  have cycle : r.cycle = c := by rw [timed]; rfl
  refine ⟨c, le, worked, cycle, work, same, kept, fun lt => ?_, ?_⟩
  · have done := transition_of_lt lt native work
    rwa [← timed] at done
  · rintro rfl
    have last : (Timing.markers config.width config.width).last = true := by simp [Timing.markers]
    have edge : State.Follows config worked.state worked.choice := same ▸ follows last
    have done := transition_of_follows native work edge
    rw [← timed] at done
    exact ⟨edge, done⟩

/-- A clock cycle from a sound record completes, and leaves a sound record behind. -/
theorem Sound.transition (h : r.Sound config) (bit : Int) (irq : Bool) :
    ∃ next, r.transition config bit irq = .ok next ∧ next.Sound config ∧
      next.cycle = (r.cycle + 1) % (config.width + 1) := by
  obtain ⟨c, le, worked, cycle, -, -, kept, proceeds, enters⟩ := h.exists_worked bit irq
  -- Only the cycle after the last data cycle enters a state and looks at the choice.
  rcases le.lt_or_eq with lt | rfl
  · refine ⟨_, proceeds lt, ⟨c + 1, lt, rfl, ?_⟩, ?_⟩
    · exact { kept.timed (c + 1) with
        settled := fun _ => (kept.timed (c + 1)).settled trivial
        aimed := fun _ => (kept.timed (c + 1)).aimed trivial }
    · rw [cycle, Int.emod_eq_of_lt (by omega) (by omega)]
      rfl
  · obtain ⟨edge, done⟩ := enters rfl
    refine ⟨_, done, ⟨0, Nat.zero_le _, rfl, ?_⟩, ?_⟩
    · exact { kept.entering edge with
        settled := fun e => absurd rfl e, aimed := fun e => absurd rfl e }
    · rw [cycle, Int.emod_self]
      rfl

end Registers

end SerialMachine

import SerialMachine.Proofs.Sweep

/-!
# Addresses ahead of their transfers

A state that moves a word over the bus does not drive its address: the state before it has. The word
that has to stand in the address register is the state's addressee. Main statement: every state
leaves the addressee of the next one behind, whichever that is.
-/

namespace SerialMachine

open Bits (bit drop keep test weight)
open Shift (midway)

namespace Registers

/-- The address of the word that the state moves over the bus, if it moves one. -/
def addressee (r : Registers) : Option Int :=
  match r.state with
  | .fetch => if r.dispatch then none else some r.pc
  | .operand | .load | .store => some r.operand
  | _ => none

variable {config : Config} {r : Registers} {old : Int}

/-- The first cycle of a state leaves alone what its transfer depends on. -/
theorem addressee_setUp (config : Config) (r : Registers) :
    (r.setUp config).addressee = r.addressee ∧ (r.setUp config).acc = r.acc := by
  obtain ⟨state, pc, operand, dispatch⟩ := setUp_frame config r
  constructor
  · unfold addressee
    rw [state, pc, operand, dispatch]
    cases r.state <;> simp
  · unfold setUp
    split
    · rfl
    · split <;> rfl
    all_goals rfl

/-- A state that has a word transfer does nothing else on the bus, and no other state has one. -/
theorem traffic_of_moves (config : Config) (moves : r.addressee.isSome = true) :
    r.traffic config = if r.state = .store then .output r.acc else .input := by
  unfold addressee at moves
  cases hs : r.state with
  | fetch =>
    cases hd : r.dispatch with
    | true => simp [hs, hd] at moves
    | false => simp [traffic, hs, hd]
  | operand | load | store => simp [traffic, hs]
  | _ => simp [hs] at moves

theorem traffic_of_rests (config : Config) (rests : r.addressee = none) :
    (r.traffic config).strobes = false ∨ ∃ word, r.traffic config = .address word := by
  unfold addressee at rests
  cases hs : r.state with
  | fetch =>
    cases hd : r.dispatch with
    | true => simp [traffic, hs, hd]
    | false => simp [hs, hd] at rests
  | operand | load | store => simp [hs] at rests
  | execute =>
    simp only [traffic, hs, executeTraffic]
    cases r.selected config with
    | jumpz => cases r.jumpTaken config <;> simp [Traffic.strobes]
    | get | set =>
      simp only
      split_ifs <;> simp [Traffic.strobes]
    | _ => simp [Traffic.strobes]
  | _ => simp [traffic, hs, Traffic.strobes]

/-- Nothing is transferred in a state that drives an address at most. -/
theorem carryOut_of_rests (config : Config) (rests : r.addressee = none) (bus : Bus)
    (address : Int) : bus.carryOut address (r.traffic config) = (bus, []) := by
  rcases traffic_of_rests config rests with silent | ⟨word, traffic⟩
  · cases traffic : r.traffic config <;> simp [traffic, Traffic.strobes] at silent <;> rfl
  · rw [traffic]
    rfl

/-- The bus stands at the addressee of the state, and only a fetch serves an interrupt. -/
structure Aligned (r : Registers) (address : Int) : Prop where
  dispatches : r.dispatch = true → r.state = .fetch
  addressed : ∀ a ∈ r.addressee, a = address

theorem Aligned.latched (h : r.Aligned old) (irq : Bool) : (r.latched config irq).Aligned old :=
  ⟨h.dispatches, h.addressed⟩

theorem Aligned.setUp (h : r.Aligned old) : (r.setUp config).Aligned old := by
  obtain ⟨state, pc, operand, dispatch⟩ := setUp_frame config r
  have addressed := h.addressed
  unfold addressee at addressed
  constructor
  · intro going
    rw [dispatch, Bool.and_eq_true] at going
    exact state.trans (h.dispatches going.1)
  · unfold addressee
    rw [state, pc, operand, dispatch]
    cases hs : r.state with
    | fetch | operand | load | store => simpa [hs] using addressed
    | _ => simp

/-! ## From one state to the next -/

theorem addressee_entering (config : Config) (r : Registers) :
    (r.entering config).addressee =
      match r.choice with
      | .fetch => if r.dispatch then none else some r.pc
      | .operand | .load | .store => some r.operand
      | _ => none := rfl

theorem aligned_entering {address : Int} (plain : r.dispatch = true → r.choice = .fetch)
    (pc : r.choice = .fetch → r.dispatch = false → r.pc = address)
    (operand : r.choice = .operand ∨ r.choice = .load ∨ r.choice = .store → r.operand = address) :
    (r.entering config).Aligned address := by
  refine ⟨plain, fun a expected => ?_⟩
  rw [addressee_entering] at expected
  cases hc : r.choice with
  | fetch =>
    by_cases hd : r.dispatch = true
    · simp [hc, hd] at expected
    · simp only [hc, if_neg hd, Option.mem_def, Option.some.injEq] at expected
      exact expected.symm.trans (pc hc (by simpa using hd))
  | operand | load | store =>
    simp only [hc, Option.mem_def, Option.some.injEq] at expected
    exact expected.symm.trans (operand (by simp [hc]))
  | _ => simp [hc] at expected

/-- A state with a single successor has chosen it in its first cycle. -/
theorem Opened.choice_eq (h : r.Opened config) (next : State)
    (other : r.state ≠ .halt ∧ r.state ≠ .fetch) (single : r.state.successors = [next]) :
    r.choice = next := by
  have member := (h.coherent.settled trivial other.1 (by simp [other.2])).1
  rwa [single, List.mem_singleton] at member

theorem fetchChoice_aligned (hd : r.dispatch = false) (bit : Int) (address : Int) :
    ((Cycle.fetchChoice config bit r).entering config).Aligned address := by
  have fresh (next : State) (h : next ∉ [State.fetch, .operand, .load, .store]) :
      ({ r with choice := next }.entering config).Aligned address := by
    simp only [List.mem_cons, List.not_mem_nil, or_false, not_or] at h
    exact aligned_entering (by simp [hd]) (fun e => absurd e h.1) (by simp [h])
  unfold Cycle.fetchChoice
  simp only
  split
  · exact fresh .halt (by decide)
  · split
    · exact fresh .reset (by decide)
    · split
      · split
        · exact aligned_entering (fun _ => rfl) (by simp) (by simp)
        · exact fresh .execute (by decide)
      · split
        · exact fresh .indirect (by decide)
        · exact fresh .execute (by decide)

/-- An operation that a word transfer follows has driven its operand as the address, and has it
back. -/
theorem executed_moves {operation : Operation} (words : r.Words config.width)
    (moves : Cycle.executeChoice config r operation = .load ∨
      Cycle.executeChoice config r operation = .store) :
    (r.executed config operation config.width).operand = r.operand ∧
      r.executeTraffic config operation = .address r.operand := by
  have turned := Shift.midway_eq_new words.operand words.operand
  rw [executeChoice_eq] at moves
  cases operation with
  | load | loadc | store | storec => exact ⟨turned, rfl⟩
  | jumpz => cases taken : r.jumpTaken config <;> simp [taken] at moves
  | get | set =>
    have target : r.target = some .io := by
      by_contra other
      simp only [if_neg other] at moves
      split at moves <;> simp at moves
    simp [executed, executeTraffic, target, Target.register?, turned]
  | _ => simp at moves

theorem executed_aligned {operation : Operation} (words : r.Words config.width)
    (choice : r.choice = Cycle.executeChoice config r operation) (hd : r.dispatch = false)
    (old : Int) :
    ((r.executed config operation config.width).entering config).Aligned
      ((r.executeTraffic config operation).leaves config.width old) := by
  obtain ⟨-, kept, -, -, still, -⟩ := executed_latches config operation config.width r
  have jumped := Shift.midway_eq_new words.pc words.operand
  have swapped := Shift.midway_eq_new words.pc words.acc
  have whole := Bits.keep_eq_self words.operand
  have carried := Bits.keep_eq_self words.acc
  refine aligned_entering (by simp [still, hd]) ?_ ?_ <;> rw [kept, choice, executeChoice_eq]
  · intro goes _
    cases operation with
    | jump =>
      simp [executed, choice, executeChoice_eq, jumped, executeTraffic, Traffic.leaves, whole]
    | jumpz =>
      cases taken : r.jumpTaken config with
      | true =>
        simp [executed, choice, executeChoice_eq, jumped, executeTraffic, Traffic.leaves, whole,
          taken]
      | false => simp [taken] at goes
    | get | set =>
      obtain ⟨inside, target⟩ : r.target ≠ some .io ∧ r.target = some .pc := by
        simp only at goes
        split_ifs at goes with outside target
        exact ⟨outside, target⟩
      simp [executed, target, Target.register?, exchanged, Registers.set, Registers.get, swapped,
        executeTraffic, Traffic.leaves, carried]
    | _ => simp at goes
  · intro moves
    have follows := (show State.Follows config _ _ from follows_executeChoice r operation).1
    rw [← executeChoice_eq] at moves
    rcases moves with foreign | moves
    · simp [foreign, State.successors] at follows
    · obtain ⟨operand, traffic⟩ := executed_moves words moves
      rw [operand, traffic]
      exact whole.symm

/-- Every state leaves the addressee of the next one in the address register. -/
theorem Aligned.entering (h : r.Opened config) (aligned : r.Aligned old) (w : Int) :
    ((r.swept config w config.width).entering config).Aligned
      ((r.traffic config).leaves config.width old) := by
  have words := h.coherent.words
  have plain (other : r.state ≠ .fetch) : ¬r.dispatch = true := fun going =>
    other (aligned.dispatches going)
  cases hs : r.state with
  | reset =>
    have choice := h.choice_eq .fetch (by simp [hs]) (by rw [hs]; rfl)
    have zero := Bits.fits_zero config.width
    simp only [swept, traffic, hs, Traffic.leaves, Bits.keep_eq_self zero]
    exact aligned_entering (fun _ => choice) (fun _ _ => Shift.midway_eq_new words.pc zero)
      (by simp [choice])
  | fetch =>
    cases hd : r.dispatch with
    | true =>
      have choice := h.dispatch hs hd
      simp only [swept, traffic, hs, hd, if_true, Traffic.leaves,
        Bits.keep_eq_self words.shadow]
      exact aligned_entering (fun _ => choice)
        (fun _ _ => Shift.midway_eq_new words.pc words.shadow) (by simp [choice])
    | false =>
      simp only [swept, traffic, hs, hd, Bool.false_eq_true, if_false, fetched, if_true]
      refine fetchChoice_aligned ?_ _ _
      split <;> exact hd
  | indirect =>
    have choice := h.choice_eq .operand (by simp [hs]) (by rw [hs]; rfl)
    simp only [swept, traffic, hs, Traffic.leaves, Bits.keep_eq_self words.operand]
    exact aligned_entering (by simp [plain, hs]) (by simp [choice])
      (fun _ => Shift.midway_eq_new words.operand words.operand)
  | operand =>
    have choice := h.choice_eq .execute (by simp [hs]) (by rw [hs]; rfl)
    simp only [swept, traffic, hs]
    exact aligned_entering (by simp [plain, hs]) (by simp [choice]) (by simp [choice])
  | execute =>
    simp only [swept, traffic, hs]
    exact executed_aligned words (h.execute hs).2.2 (by simp [plain, hs]) old
  | store | load =>
    have choice := h.choice_eq .advance (by simp [hs]) (by rw [hs]; rfl)
    simp only [swept, traffic, hs]
    exact aligned_entering (by simp [plain, hs]) (by simp [choice]) (by simp [choice])
  | advance =>
    have choice := h.choice_eq .fetch (by simp [hs]) (by rw [hs]; rfl)
    simp only [swept, traffic, hs, Traffic.leaves]
    exact aligned_entering (fun _ => choice) (fun _ _ => Shift.midway_self words.pc _)
      (by simp [choice])
  | halt =>
    simp only [swept, traffic, hs]
    split
    · exact aligned_entering (fun _ => rfl) (by simp) (by simp)
    · exact aligned_entering (by simp [plain, hs]) (by simp [h.halt hs]) (by simp [h.halt hs])

end Registers

end SerialMachine

import SerialMachine.AnyWidth
import SerialMachine.Event
import SerialMachine.Slice

/-!
# Word memory

Words of one width at consecutive addresses, all zero until they are written. Reads outside the
memory give zero and writes there are dropped, both with a warning. A memory may be asked for with a
negative size; it then has no words. Sizes beyond the room of the host are refused.
-/

namespace SerialMachine

/-- A memory of words. -/
structure Memory where
  /-- The number of bits in a word. -/
  width : Nat
  /-- The number of words, as it was asked for. -/
  size : Int
  /-- The words from address zero on, up to the last one that was written. -/
  cells : Array Int := #[]
  deriving DecidableEq, Repr, Inhabited

namespace Memory

/-- The number from which on sizes are beyond every index. -/
def indexLimit : Int := Bits.weight 63

/-- Refuses sizes that no host can serve, and those that the host has no room for. -/
def checkSize (host : Host) (size : Int) : Except InvalidValue Unit :=
  if size < -indexLimit ∨ indexLimit ≤ size then .error .sizeNotIndex
  else if host.words ≤ size then .error .noRoom
  else .ok ()

/-- The memory of the given width that is to fill the addresses below the select bit. -/
def filling (host : Host) (width : Int) : Except InvalidValue Memory := do
  let n ← AnyWidth.roomy host 5 width
  return { width := n, size := Word.window n }

/-- The memory of the given width that is to have `size` words. -/
def sized (host : Host) (width size : Int) : Except InvalidValue Memory := do
  return { width := ← AnyWidth.roomy host 0 width, size }

/-- A memory of zeros; without a size it fills the addresses below the select bit. -/
def make (host : Host) (width : Int) (size : Option Int) : Except InvalidValue Memory := do
  let memory ← size.elim (filling host width) (sized host width)
  checkSize host memory.size
  return memory

theorem checkSize_eq_ok_iff {host : Host} {size : Int} : checkSize host size = .ok () ↔
    -indexLimit ≤ size ∧ size < indexLimit ∧ size < host.words := by
  unfold checkSize
  split
  · simp only [reduceCtorEq, false_iff]
    omega
  · split <;> simp <;> omega

theorem overtaxesHost_of_checkSize {host : Host} {size : Int} {cause : InvalidValue}
    (refused : checkSize host size = .error cause) : cause.overtaxesHost = true := by
  unfold checkSize at refused
  split at refused
  · obtain rfl := Except.error.inj refused
    rfl
  · split at refused
    · obtain rfl := Except.error.inj refused
      rfl
    · cases refused

/-- The memory of a machine fills the addresses, unless the host has no room for it. -/
theorem make_filling (host : Host) {width : Int} (wide : 8 ≤ width) :
    match make host width none with
    | .ok memory => memory.size = Word.window width.toNat ∧ memory.size < indexLimit ∧
        width - 5 < host.bits
    | .error cause => cause.overtaxesHost = true := by
  cases room : AnyWidth.roomy host 5 width with
  | error cause =>
    simp only [make, Option.elim_none, filling, room, bind, Except.bind]
    exact (AnyWidth.overtaxesHost_of_roomy (by omega) room).2
  | ok n =>
    obtain ⟨-, small, rfl⟩ := AnyWidth.roomy_eq_ok_iff.1 room
    simp only [make, Option.elim_none, filling, room, bind, Except.bind, pure, Except.pure]
    cases check : checkSize host (Word.window width.toNat) with
    | error cause => exact overtaxesHost_of_checkSize check
    | ok => exact ⟨rfl, (checkSize_eq_ok_iff.1 check).2.1, small⟩

/-- Whether an address lies in the memory. -/
def contains (memory : Memory) (address : Int) : Bool :=
  0 ≤ address && address < memory.size

/-- The word at an address of the memory, zero elsewhere. -/
def get (memory : Memory) (address : Int) : Int :=
  if memory.contains address then memory.cells.getD address.toNat 0 else 0

/-- The cells, at least `count` of them. -/
def cellsUpTo (memory : Memory) (count : Nat) : Array Int :=
  memory.cells ++ Array.replicate (count - memory.cells.size) 0

/-- The memory with the lowest bits of `value` at an address. -/
def put (memory : Memory) (address value : Int) : Memory :=
  { memory with
    cells := (memory.cellsUpTo (address.toNat + 1)).setIfInBounds address.toNat
      (Bits.keep memory.width value) }

@[simp] theorem contains_put (memory : Memory) (address value b : Int) :
    (memory.put address value).contains b = memory.contains b := rfl

theorem cellsUpTo_getD (memory : Memory) (count k : Nat) :
    (memory.cellsUpTo count).getD k 0 = memory.cells.getD k 0 := by
  simp only [cellsUpTo, Array.getD_eq_getD_getElem?, Array.getElem?_append,
    Array.getElem?_replicate]
  split
  · rfl
  · next h =>
    rw [Array.getElem?_eq_none (by omega)]
    split <;> rfl

theorem get_put {memory : Memory} {address : Int} (h : memory.contains address = true)
    (value b : Int) :
    (memory.put address value).get b =
      if b = address then Bits.keep memory.width value else memory.get b := by
  have sized : address.toNat < (memory.cellsUpTo (address.toNat + 1)).size := by
    simp [cellsUpTo]
    omega
  have inside : 0 ≤ address := by
    simp [contains] at h
    omega
  by_cases hb : memory.contains b = true
  · have inside' : 0 ≤ b := by
      simp [contains] at hb
      omega
    simp only [get, contains_put, hb, if_true]
    by_cases e : b = address
    · subst e
      simp [put, Array.getD_eq_getD_getElem?, sized]
    · have apart : address.toNat ≠ b.toNat := by omega
      rw [if_neg e, ← cellsUpTo_getD memory (address.toNat + 1)]
      simp [put, Array.getD_eq_getD_getElem?, apart]
  · have apart : b ≠ address := fun e => hb (e ▸ h)
    simp [get, hb, apart]

/-- Reads a word. -/
def read (memory : Memory) (address : Int) : Int × List Event :=
  (memory.get address, if memory.contains address then [] else [.unmappedMemoryRead address])

/-- Writes a word. -/
def write (memory : Memory) (address value : Int) : Memory × List Event :=
  if memory.contains address then (memory.put address value, [])
  else (memory, [.unmappedMemoryWrite address])

/-- The memory with words at consecutive addresses. -/
def putAll (memory : Memory) (start : Int) : List Int → Memory
  | [] => memory
  | word :: rest => putAll (memory.put start word) (start + 1) rest

theorem size_putAll (memory : Memory) (start : Int) (words : List Int) :
    (memory.putAll start words).size = memory.size := by
  induction words generalizing memory start with
  | nil => rfl
  | cons word rest ih => exact ih (memory.put start word) (start + 1)

/-- Words stored one after the other are found there, and nothing else has changed. -/
theorem get_putAll {memory : Memory} {start : Int} {words : List Int} (nonneg : 0 ≤ start)
    (inside : start + words.length ≤ memory.size) (b : Int) :
    (memory.putAll start words).get b =
      if start ≤ b ∧ b < start + words.length then
        Bits.keep memory.width (words.getD (b - start).toNat 0)
      else memory.get b := by
  induction words generalizing memory start with
  | nil => exact (if_neg fun within => by simp at within; omega).symm
  | cons word rest ih =>
    rw [List.length_cons, Int.natCast_succ] at inside ⊢
    have contained : memory.contains start = true := by
      simp [contains]
      omega
    have sized : (memory.put start word).size = memory.size := rfl
    rw [putAll, ih (by omega) (by rw [sized]; omega), get_put contained]
    rcases Int.lt_trichotomy b start with before | rfl | after
    · rw [if_neg (by omega), if_neg (by omega), if_neg (by omega)]
    · rw [if_neg (by omega), if_pos rfl, if_pos (by omega), Int.sub_self]
      rfl
    · have place : (b - start).toNat = (b - (start + 1)).toNat + 1 := by omega
      by_cases within : b < start + (rest.length + 1)
      · rw [if_pos (by omega), if_pos (by omega), place, List.getD_cons_succ]
        rfl
      · rw [if_neg (by omega), if_neg (by omega), if_neg (by omega)]

/-- Copies words to consecutive addresses, all of them or none. -/
def loadWords (memory : Memory) (words : List Int) (start : Int) : Except InvalidValue Memory :=
  if start < 0 ∨ start + words.length > memory.size then
    .error (.wordsDoNotFit words.length start memory.size)
  else
    .ok (memory.putAll start words)

/-- The words from `start` on, at most `count` of them. -/
def dump (memory : Memory) (start : Int) (count : Option Int) : List Int :=
  let stop :=
    match count with
    | some count => min memory.size (start + count)
    | none => memory.size
  let first := Slice.place memory.size.toNat start
  let places := List.range' first (Slice.place memory.size.toNat stop - first)
  places.map fun k : Nat => memory.get (k : Int)

/-- The memory with zeros in place of its words. -/
def clear (memory : Memory) : Memory :=
  { memory with cells := #[] }

@[simp] theorem get_clear (memory : Memory) (address : Int) : memory.clear.get address = 0 := by
  simp [get, clear]

end Memory

end SerialMachine

import Mathlib.Data.List.Nodup
import SerialMachine.Listing
import SerialMachine.Proofs.WordMachine
import SerialMachine.Room

/-!
# Instruction words and what is said of them

Main statements: encoding is inverse to decoding, and what it refuses is exactly what a word has no
room for; wherever the host has room for the words, a listing says of a word what its decoding says,
unless it would have to write too long an offset.
-/

namespace SerialMachine

open Bits (drop keep test weight)

variable {variant : Variant} {n : Nat}

theorem Operation.opcode?_eq_some_iff {operation : Operation} {k : Nat} :
    opcode? variant operation = some k ↔ (table variant)[k]? = some operation := by
  rw [opcode?, List.findIdx?_eq_some_iff_getElem, List.getElem?_eq_some_iff]
  constructor
  · rintro ⟨lt, same, -⟩
    exact ⟨lt, by simpa using same⟩
  · rintro ⟨lt, same⟩
    refine ⟨lt, by simpa using same, fun j below found => ?_⟩
    have equal : (table variant)[j] = (table variant)[k] := by
      rw [same]
      simpa using found
    have twice := (List.Nodup.getElem_inj_iff (table_nodup variant)).1 equal
    omega

/-- What the decoding of a word takes apart is exactly what `encode` puts together, and all else
that it is asked to put together is an invalid value, and no strain on the host. -/
structure Codes (config : Config) (encode : Operation → Int → Except InvalidValue Int) : Prop where
  ok_iff : ∀ operation operand word, encode operation operand = .ok word ↔
    Word.Fits config.width word ∧ (config.decode word).operation = operation ∧
      (config.decode word).operand = operand
  exists_iff : ∀ operation operand, (∃ word, encode operation operand = .ok word) ↔
    operation ∈ Operation.table config.variant ∧ Word.Fits (config.width - 4) operand
  invalid : ∀ operation operand cause, encode operation operand = .error cause →
    cause.overtaxesHost = false

namespace Instruction

/-! ## Encoding and decoding -/

theorem le_operandMask_iff {operand : Int} :
    0 ≤ operand ∧ operand ≤ Word.operandMask n ↔ Word.Fits (n - 4) operand :=
  and_congr_right fun _ => Int.le_sub_one_iff

theorem encode_eq_ok_iff {operation : Operation} {operand word : Int} :
    encode variant n operation operand = .ok word ↔
      ∃ k : Nat, (Operation.table variant)[k]? = some operation ∧ Word.Fits (n - 4) operand ∧
        word = k * weight (n - 4) + operand := by
  unfold encode
  cases found : Operation.opcode? variant operation with
  | none =>
    simp only [reduceCtorEq, false_iff, not_exists, not_and]
    intro k there
    rw [← Operation.opcode?_eq_some_iff, found] at there
    cases there
  | some k =>
    have there := Operation.opcode?_eq_some_iff.1 found
    simp only
    constructor
    · intro done
      split_ifs at done with room
      exact ⟨k, there, le_operandMask_iff.1 room, (Except.ok.inj done).symm⟩
    · rintro ⟨j, same, fits, rfl⟩
      rw [← Operation.opcode?_eq_some_iff, found] at same
      rw [if_pos (le_operandMask_iff.2 fits), Option.some.inj same]

/-- Exactly the operations of the variant with operands below the opcode can be encoded. -/
theorem exists_encode_iff {operation : Operation} {operand : Int} :
    (∃ word, encode variant n operation operand = .ok word) ↔
      operation ∈ Operation.table variant ∧ Word.Fits (n - 4) operand := by
  simp only [encode_eq_ok_iff, List.mem_iff_getElem?]
  constructor
  · rintro ⟨-, k, there, fits, -⟩
    exact ⟨⟨k, there⟩, fits⟩
  · rintro ⟨⟨k, there⟩, fits⟩
    exact ⟨_, k, there, fits, rfl⟩

/-- What cannot be encoded is an invalid value, and no strain on the host. -/
theorem not_overtaxesHost_of_encode {operation : Operation} {operand : Int} {cause : InvalidValue}
    (refused : encode variant n operation operand = .error cause) :
    cause.overtaxesHost = false := by
  unfold encode at refused
  split at refused
  · cases refused
    rfl
  · split_ifs at refused
    cases refused
    rfl

theorem fits_join {k : Nat} (wide : 4 ≤ n) (nibble : k < 16) {operand : Int}
    (fits : Word.Fits (n - 4) operand) : Word.Fits n (k * weight (n - 4) + operand) := by
  have whole : weight n = 16 * weight (n - 4) := by
    rw [show (16 : Int) = weight 4 from rfl, ← Bits.weight_add]
    congr 1
    omega
  have pos := Bits.weight_pos (n - 4)
  have top : (k : Int) * weight (n - 4) ≤ 15 * weight (n - 4) :=
    Int.mul_le_mul_of_nonneg_right (by omega) pos.le
  obtain ⟨nonneg, lt⟩ := fits
  exact ⟨by positivity, by rw [whole]; linarith⟩

theorem decode_join {k : Nat} (wide : 4 ≤ n) (nibble : k < 16) {operand : Int}
    (fits : Word.Fits (n - 4) operand) :
    decode variant n (k * weight (n - 4) + operand) =
      { opcode := k, operand, operation := (Operation.table variant).getD k .unused } := by
  have below : drop (n - 4) operand = 0 := by
    rw [Bits.drop_eq_div]
    exact Int.ediv_eq_zero_of_lt fits.1 fits.2
  have opcode : drop (n - 4) (k * weight (n - 4) + operand) = k := by
    rw [add_comm, Bits.drop_add_mul, below, zero_add]
  have rest : keep (n - 4) (k * weight (n - 4) + operand) = operand := by
    rw [add_comm, keep, Int.add_mul_emod_self_right]
    exact Bits.keep_eq_self fits
  unfold decode
  rw [Bits.keep_eq_self (fits_join wide nibble fits), opcode, rest]
  rfl

/-- A word that has been encoded holds what it has been encoded from. -/
theorem decode_encode (wide : 4 ≤ n) {operation : Operation} {operand word : Int}
    (done : encode variant n operation operand = .ok word) :
    Word.Fits n word ∧ (decode variant n word).operation = operation ∧
      (decode variant n word).operand = operand := by
  obtain ⟨k, there, fits, rfl⟩ := encode_eq_ok_iff.1 done
  have nibble : k < 16 := by
    have inside := (List.getElem?_eq_some_iff.1 there).1
    rwa [Operation.table_length] at inside
  rw [decode_join wide nibble fits]
  refine ⟨fits_join wide nibble fits, ?_, rfl⟩
  rw [List.getD_eq_getElem?_getD, there, Option.getD_some]

/-- A word is what its decoding encodes to. -/
theorem encode_decode (wide : 4 ≤ n) {word : Int} (fits : Word.Fits n word) :
    encode variant n (decode variant n word).operation (decode variant n word).operand =
      .ok word := by
  obtain ⟨opcode, nibble⟩ := opcode_decode variant wide fits
  generalize (decode variant n word).opcode = k at opcode nibble
  have operand : Word.Fits (n - 4) (keep (n - 4) word) := Bits.fits_keep _ word
  have split : word = k * weight (n - 4) + keep (n - 4) word := by
    rw [opcode, Bits.drop_mul_weight_add_keep]
  have there : (Operation.table variant)[k]? =
      some ((Operation.table variant).getD k .unused) := by
    rw [List.getD_eq_getElem?_getD, List.getElem?_eq_getElem (by rwa [Operation.table_length])]
    rfl
  rw [encode_eq_ok_iff, split, decode_join wide nibble operand]
  exact ⟨k, there, operand, rfl⟩

theorem codes_encode (config : Config) : Codes config (encode config.variant config.width) where
  ok_iff _ _ _ := by
    have wide := config.four_lt_width.le
    refine ⟨decode_encode wide, ?_⟩
    rintro ⟨fits, rfl, rfl⟩
    exact encode_decode wide fits
  exists_iff _ _ := exists_encode_iff
  invalid _ _ _ := not_overtaxesHost_of_encode

end Instruction

/-! ## On a host -/

namespace AnyWidth

variable {config : Config} {host : Host} {operation : Operation} {operand : Int}

theorem roomy_width (room : (config.width : Int) < host.bits) {least : Nat}
    (le : least ≤ config.width) : roomy host least config.width = .ok config.width :=
  roomy_eq_ok_iff.2 ⟨by omega, by omega, rfl⟩

theorem decode_eq (room : (config.width : Int) < host.bits) (word : Int) :
    decode host config.variant config.width word = .ok (config.decode word) := by
  have := config.eight_le_width
  unfold decode
  rw [roomy_width room (Nat.zero_le _), atLeast, if_pos (by omega)]
  rfl

theorem target?_eq (room : (config.width : Int) < host.bits) (operation : Operation)
    (operand : Int) :
    target? host config.variant config.width operation operand =
      .ok (Instruction.target? config.variant config.width operation operand) := by
  have := config.eight_le_width
  unfold target?
  rw [roomy_width room (by omega)]
  cases operation <;> rfl

theorem encode_of_nonneg (room : (config.width : Int) < host.bits) (nonneg : 0 ≤ operand) :
    encode host config.variant config.width operation operand =
      Instruction.encode config.variant config.width operation operand := by
  have := config.eight_le_width
  unfold encode
  rw [roomy_width room (by omega), if_neg (by omega)]
  cases found : Operation.opcode? config.variant operation with
  | none => simp only [Instruction.encode, found]
  | some k => rfl

/-- A negative operand is refused. -/
theorem exists_encode_of_neg (host : Host) (config : Config) (operation : Operation)
    (negative : operand < 0) :
    ∃ cause, encode host config.variant config.width operation operand = .error cause ∧
      cause.overtaxesHost = false := by
  unfold encode
  split
  · exact ⟨_, rfl, rfl⟩
  · rw [if_pos negative, refuseOperand, InvalidValue.decimal]
    cases Text.writeDecimal? ((config.width : Int) - 4) <;> exact ⟨_, rfl, rfl⟩

theorem encode_eq_ok_iff (room : (config.width : Int) < host.bits) {word : Int} :
    encode host config.variant config.width operation operand = .ok word ↔
      Instruction.encode config.variant config.width operation operand = .ok word := by
  by_cases nonneg : 0 ≤ operand
  · rw [encode_of_nonneg room nonneg]
  · obtain ⟨cause, refused, -⟩ :=
      exists_encode_of_neg host config operation (by omega : operand < 0)
    rw [refused, Instruction.encode_eq_ok_iff]
    simp only [reduceCtorEq, false_iff, not_exists, not_and]
    exact fun k _ fits => absurd fits.1 nonneg

theorem not_overtaxesHost_of_encode (room : (config.width : Int) < host.bits) {cause : InvalidValue}
    (refused : encode host config.variant config.width operation operand = .error cause) :
    cause.overtaxesHost = false := by
  by_cases nonneg : 0 ≤ operand
  · rw [encode_of_nonneg room nonneg] at refused
    exact Instruction.not_overtaxesHost_of_encode refused
  · obtain ⟨other, refused', fair⟩ :=
      exists_encode_of_neg host config operation (by omega : operand < 0)
    rwa [Except.error.inj (refused.symm.trans refused')]

theorem codes_encode (room : (config.width : Int) < host.bits) :
    Codes config (encode host config.variant config.width) where
  ok_iff _ _ _ := (encode_eq_ok_iff room).trans ((Instruction.codes_encode config).ok_iff ..)
  exists_iff _ _ := by
    simp only [encode_eq_ok_iff room]
    exact (Instruction.codes_encode config).exists_iff ..
  invalid _ _ _ := not_overtaxesHost_of_encode room

end AnyWidth

/-! ## Listings -/

/-- The offset into the peripherals that an instruction names, if it names one: an exchange with a
peripheral does, and an address above the select bit. -/
def Instruction.offset? (config : Config) (i : Instruction) : Option Int :=
  if Instruction.target? config.variant config.width i.operation i.operand = some .io ∨
      i.operation.takesAddress = true ∧ test (Word.selectPlace config.width) i.operand = true then
    some (keep (Word.selectPlace config.width) i.operand)
  else
    none

/-- How a listing names an offset into the peripherals. -/
def Peripheral.offsetText (offset : Int) : String :=
  match Peripheral.ofOffset? offset with
  | some peripheral => peripheral.name
  | none => "+" ++ toString offset

/-- The offset has no name, and is too long to be written. -/
def Peripheral.Unwritable (offset : Int) : Prop :=
  Peripheral.ofOffset? offset = none ∧ Text.writeDecimal? offset = none

/-- The line shows an instruction: its mnemonic and operand, and the register or the offset into the
peripherals that it means. -/
structure ListingLine.Shows (config : Config) (i : Instruction) (line : ListingLine) : Prop where
  instruction : line.instruction = i
  operandText : line.operandText = "$" ++ Text.hex ((config.width - 1) / 4) i.operand
  register : ∀ target, target ≠ .io →
    Instruction.target? config.variant config.width i.operation i.operand = some target →
      line.comment = Text.lowerString target.name
  peripheral : ∀ offset, i.offset? config = some offset →
    line.comment = "io " ++ Peripheral.offsetText offset

/-- An exchange does not take an address. -/
theorem Instruction.not_takesAddress_of_target? {config : Config} {i : Instruction}
    {target : Target}
    (aimed : Instruction.target? config.variant config.width i.operation i.operand = some target) :
    i.operation.takesAddress = false := by
  cases operation : i.operation <;> simp [operation, Instruction.target?] at aimed <;> rfl

theorem Instruction.offset?_eq_none {config : Config} {i : Instruction} {target : Target}
    (aimed : Instruction.target? config.variant config.width i.operation i.operand = some target)
    (register : target ≠ .io) : i.offset? config = none := by
  unfold Instruction.offset?
  rw [aimed, Instruction.not_takesAddress_of_target? aimed, if_neg (by simpa using register)]

theorem Instruction.offset_eq {config : Config} {i : Instruction} {offset : Int}
    (named : i.offset? config = some offset) :
    offset = keep (Word.selectPlace config.width) i.operand := by
  unfold Instruction.offset? at named
  split_ifs at named
  exact (Option.some.inj named).symm

namespace Listing

variable {config : Config} {listing : Listing} (alike : listing.variant = config.variant)
  (wide : listing.width = config.width) (room : (config.width : Int) < listing.host.bits)
include wide room

theorem peripheralComment_eq (operand : Int) :
    listing.peripheralComment operand =
      match Peripheral.ofOffset? (keep (Word.selectPlace config.width) operand) with
      | some peripheral => .ok ("io " ++ peripheral.name)
      | none =>
        (InvalidValue.decimal (keep (Word.selectPlace config.width) operand)).map
          ("io +" ++ ·) := by
  have := config.eight_le_width
  unfold peripheralComment
  rw [wide, AnyWidth.roomy_width room (by omega)]
  simp only [bind, Except.bind, pure, Except.pure]
  cases Peripheral.ofOffset? (keep (Word.selectPlace config.width) operand) with
  | some peripheral => rfl
  | none => cases InvalidValue.decimal (keep (Word.selectPlace config.width) operand) <;> rfl

include alike

theorem comment_eq (i : Instruction) :
    listing.comment i.operation i.operand =
      match i.offset? config with
      | some _ => listing.peripheralComment i.operand
      | none =>
        match Instruction.target? config.variant config.width i.operation i.operand with
        | some target => .ok (Text.lowerString target.name)
        | none =>
          .ok (if i.operation.takesAddress then listing.symbols.nameOf i.operand else "") := by
  have := config.eight_le_width
  unfold comment Instruction.offset?
  rw [alike, wide, AnyWidth.target?_eq room, AnyWidth.roomy_width room (by omega)]
  simp only [bind, Except.bind, pure, Except.pure]
  cases aimed : Instruction.target? config.variant config.width i.operation i.operand with
  | none =>
    cases i.operation.takesAddress with
    | false => simp
    | true => cases test (Word.selectPlace config.width) i.operand <;> simp
  | some target =>
    have exchange := Instruction.not_takesAddress_of_target? aimed
    cases target <;> simp [exchange]

theorem line_eq (word address : Int) :
    listing.line word address =
      (listing.comment (config.decode word).operation (config.decode word).operand).map
        fun comment => {
          address, word, instruction := config.decode word, comment
          operandText :=
            "$" ++ Text.hex ((config.width - 1) / 4) (config.decode word).operand } := by
  have digits : listing.digits = (config.width - 1) / 4 := by
    have := config.eight_le_width
    rw [Listing.digits, wide]
    omega
  unfold line
  rw [alike, wide, AnyWidth.decode_eq room, digits]
  simp only [bind, Except.bind, pure, Except.pure]
  cases listing.comment (config.decode word).operation (config.decode word).operand <;> rfl

/-- A word is listed as the instruction that it holds, unless it names too long an offset. -/
theorem line_shows (word address : Int) :
    (∃ line, listing.line word address = .ok line ∧ line.Shows config (config.decode word) ∧
        ∀ offset, (config.decode word).offset? config = some offset →
          ¬Peripheral.Unwritable offset) ∨
      listing.line word address = .error .longNumeral ∧
        ∃ offset, (config.decode word).offset? config = some offset ∧
          Peripheral.Unwritable offset := by
  rw [line_eq alike wide room, comment_eq alike wide room]
  generalize config.decode word = i
  cases named : i.offset? config with
  | none =>
    refine Or.inl ?_
    cases aimed : Instruction.target? config.variant config.width i.operation i.operand with
    | none => exact ⟨_, rfl, ⟨rfl, rfl, by simp [aimed], by simp [named]⟩, by simp⟩
    | some target =>
      refine ⟨_, rfl, ⟨rfl, rfl, fun other _ same => ?_, by simp [named]⟩, by simp⟩
      obtain rfl := Option.some.inj (aimed.symm.trans same)
      rfl
  | some offset =>
    have place := Instruction.offset_eq named
    have register : ∀ target, target ≠ .io →
        Instruction.target? config.variant config.width i.operation i.operand ≠ some target := by
      intro target other aimed
      rw [Instruction.offset?_eq_none aimed other] at named
      cases named
    simp only [peripheralComment_eq wide room, ← place]
    cases found : Peripheral.ofOffset? offset with
    | some peripheral =>
      refine Or.inl ⟨_, rfl, ⟨rfl, rfl, fun t other aimed => (register t other aimed).elim, ?_⟩, ?_⟩
      · intro other same
        obtain rfl := Option.some.inj (named.symm.trans same)
        simp only [Peripheral.offsetText, found]
      · rintro other same ⟨unnamed, -⟩
        obtain rfl := Option.some.inj same
        rw [found] at unnamed
        cases unnamed
    | none =>
      unfold InvalidValue.decimal
      cases written : Text.writeDecimal? offset with
      | none => exact Or.inr ⟨rfl, offset, rfl, found, written⟩
      | some text =>
        have spelled : text = toString offset := by
          unfold Text.writeDecimal? at written
          split_ifs at written
          exact (Option.some.inj written).symm
        refine Or.inl ⟨_, rfl, ⟨rfl, rfl, fun t other aimed => (register t other aimed).elim, ?_⟩,
          ?_⟩
        · intro other same
          obtain rfl := Option.some.inj (named.symm.trans same)
          simp only [Peripheral.offsetText, found, spelled]
          rfl
        · rintro other same ⟨-, unwritten⟩
          obtain rfl := Option.some.inj same
          rw [written] at unwritten
          cases unwritten

end Listing

end SerialMachine

import Mathlib.Data.Nat.Digits.Defs
import SerialMachine.Proofs.ImageFiles

/-!
# The code of binary images

The bytes of an image, cut into groups, are numbers to base 256 with their lowest digit first. Main
statement: bytes are accepted exactly when they are cut evenly and no group is too wide, which is
when they are the image of some words; the words read from them then have that image. Other bytes
are refused for their length, or else for the first group that is too wide.
-/

namespace SerialMachine.Image.Binary

open Bits (keep)

/-- The bytes of word `k`. -/
def group (size : Nat) (bytes : List UInt8) (k : Nat) : List UInt8 :=
  (bytes.drop (size * k)).take size

/-- Word `k`: the number whose digits to base 256 are its bytes, the lowest first. -/
def wordAt (size : Nat) (bytes : List UInt8) (k : Nat) : Nat :=
  Nat.ofDigits 256 ((group size bytes k).map UInt8.toNat)

/-- The bytes are a whole number of words, and every word fits the width. -/
def Regular (width : Int) (bytes : List UInt8) : Prop :=
  ∃ size : Nat, wordBytes width = size ∧ size ∣ bytes.length ∧
    ∀ k < bytes.length / size, wordAt size bytes k < 2 ^ width.toNat

/-- What reading bytes as words of `width` bits comes to on a host. -/
inductive Judged (host : Host) (width : Int) (file : Option String) (bytes : List UInt8) :
    Except ImageFailure (List Int) → Prop
  /-- The bytes are no whole number of words. -/
  | partialWord (uneven : ¬wordBytes width ∣ bytes.length)
      (short : Text.writeDecimal? (wordBytes width) ≠ none) :
      Judged host width file bytes (.error (.malformed
        { flaw := .partialWord bytes.length (wordBytes width), file }))
  /-- They are not, and the size of a word is too long a numeral for that to be reported. -/
  | unwritten (uneven : ¬wordBytes width ∣ bytes.length)
      (long : Text.writeDecimal? (wordBytes width) = none) :
      Judged host width file bytes (.error (.width .longNumeral))
  /-- The host has no room for a word of the width. -/
  | cramped {cause : InvalidValue} (even : wordBytes width ∣ bytes.length)
      (large : host.bits ≤ width) (overtaxes : cause.overtaxesHost = true) :
      Judged host width file bytes (.error (.width cause))
  /-- Word `k` is the first that is too wide. -/
  | wideWord {size k : Nat} (sized : wordBytes width = size) (even : size ∣ bytes.length)
      (inside : k < bytes.length / size) (wide : 2 ^ width.toNat ≤ wordAt size bytes k)
      (first : ∀ j < k, wordAt size bytes j < 2 ^ width.toNat) :
      Judged host width file bytes (.error (.malformed
        { flaw := .wideBinaryWord (wordAt size bytes k) (size * k) width, file }))
  /-- Every word fits, and the bytes are the image of the words. -/
  | accepted {size : Nat} (sized : wordBytes width = size) (even : size ∣ bytes.length)
      (fits : ∀ k < bytes.length / size, wordAt size bytes k < 2 ^ width.toNat)
      (image : format host width ((List.range (bytes.length / size)).map fun k =>
        (wordAt size bytes k : Int)) = .ok bytes) :
      Judged host width file bytes
        (.ok ((List.range (bytes.length / size)).map fun k => (wordAt size bytes k : Int)))

/-! ## Groups -/

section Groups

variable {size count : Nat} {bytes : List UInt8}

theorem group_zero (size : Nat) (bytes : List UInt8) : group size bytes 0 = bytes.take size := by
  rw [group, Nat.mul_zero, List.drop_zero]

theorem group_drop (size : Nat) (bytes : List UInt8) :
    group size (bytes.drop size) = fun k => group size bytes (k + 1) := by
  funext k
  rw [group, group, List.drop_drop, Nat.mul_succ, Nat.add_comm]

theorem length_group (length : bytes.length = size * count) {k : Nat} (inside : k < count) :
    (group size bytes k).length = size := by
  have room : size * k + size ≤ size * count := Nat.mul_le_mul_left size inside
  rw [group, List.length_take, List.length_drop, length]
  omega

/-- Evenly cut, the groups are all of the bytes. -/
theorem flatMap_group (length : bytes.length = size * count) :
    (List.range count).flatMap (group size bytes) = bytes := by
  induction count generalizing bytes with
  | zero => exact (List.eq_nil_of_length_eq_zero length).symm
  | succ count ih =>
    have rest : (bytes.drop size).length = size * count := by
      rw [List.length_drop, length, Nat.mul_succ, Nat.add_sub_cancel]
    have later := ih rest
    rw [group_drop] at later
    rw [List.range_succ_eq_map, List.flatMap_cons, List.flatMap_map, group_zero, later,
      List.take_append_drop]

theorem groups_go_eq (positive : 0 < size) {fuel : Nat} (enough : count ≤ fuel)
    (length : bytes.length = size * count) :
    groups.go size fuel bytes = (List.range count).map (group size bytes) := by
  induction count generalizing fuel bytes with
  | zero =>
    obtain rfl := List.eq_nil_of_length_eq_zero length
    cases fuel <;> rfl
  | succ count ih =>
    obtain ⟨fuel, rfl⟩ : ∃ more, fuel = more + 1 := ⟨fuel - 1, by omega⟩
    have some : bytes ≠ [] := by
      rintro rfl
      rw [List.length_nil, Nat.mul_succ] at length
      omega
    have rest : (bytes.drop size).length = size * count := by
      rw [List.length_drop, length, Nat.mul_succ, Nat.add_sub_cancel]
    rw [groups.go.eq_3 size bytes fuel some, ih (by omega) rest, group_drop,
      List.range_succ_eq_map, List.map_cons, List.map_map, group_zero]
    rfl

theorem groups_eq (positive : 0 < size) (length : bytes.length = size * count) :
    groups size bytes = (List.range count).map (group size bytes) := by
  refine groups_go_eq positive ?_ length
  rw [length]
  exact Nat.le_mul_of_pos_left _ positive

theorem valueOf_eq_ofDigits (bytes : List UInt8) :
    valueOf bytes = Nat.ofDigits 256 (bytes.map UInt8.toNat) := by
  induction bytes with
  | nil => rfl
  | cons byte bytes ih => rw [valueOf, ih, List.map_cons, Nat.ofDigits_cons]

theorem valueOf_group (size : Nat) (bytes : List UInt8) (k : Nat) :
    valueOf (group size bytes k) = wordAt size bytes k :=
  valueOf_eq_ofDigits _

/-- Bytes are the digits of the number that they spell. -/
theorem bytesOf_valueOf (bytes : List UInt8) : bytesOf bytes.length (valueOf bytes) = bytes := by
  induction bytes with
  | nil => rfl
  | cons byte bytes ih =>
    have digit : byte.toNat < 256 := byte.toNat_lt
    have low : (byte.toNat + 256 * valueOf bytes) % 256 = byte.toNat := by omega
    have high : (byte.toNat + 256 * valueOf bytes) / 256 = valueOf bytes := by omega
    rw [List.length_cons, valueOf, bytesOf, low, high, ih, UInt8.ofNat_toNat]

end Groups

/-! ## Words -/

theorem natCast_le_mask_iff {n value : Nat} : (value : Int) ≤ Word.mask n ↔ value < 2 ^ n := by
  rw [Word.mask, Bits.weight_eq_pow, Int.le_sub_one_iff]
  exact_mod_cast Iff.rfl

/-- The first group that is too wide decides. -/
theorem words_eq_error {n size : Nat} {file : Option String} {before after : List (List UInt8)}
    {wide : List UInt8} (fits : ∀ group ∈ before, (valueOf group : Int) ≤ Word.mask n)
    (exceeds : Word.mask n < (valueOf wide : Int)) (offset : Nat) :
    words n size file offset (before ++ wide :: after) =
      .error {
        flaw := .wideBinaryWord (valueOf wide) (offset + size * before.length) n, file } := by
  induction before generalizing offset with
  | nil =>
    rw [List.nil_append, words, if_pos exceeds]
    rfl
  | cons group before ih =>
    have small : ¬Word.mask n < (valueOf group : Int) := by
      have := fits group List.mem_cons_self
      omega
    rw [List.cons_append, words, if_neg small,
      ih fun other hother => fits other (List.mem_cons_of_mem group hother), List.length_cons,
      Nat.mul_succ, Nat.add_assoc, Nat.add_comm size]
    rfl

variable {host : Host} {width : Int} {file : Option String} {bytes : List UInt8}
  {size count : Nat}

theorem exists_size (positive : 1 ≤ width) : ∃ size : Nat, 0 < size ∧ wordBytes width = size := by
  refine ⟨(wordBytes width).toNat, ?_, ?_⟩ <;> unfold wordBytes <;> omega

/-- A word that fits is spelled by its bytes. -/
theorem spell_wordAt (sized : wordBytes width = size) (length : bytes.length = size * count)
    {k : Nat} (inside : k < count) (fits : wordAt size bytes k < 2 ^ width.toNat) :
    spell width (wordAt size bytes k) = group size bytes k := by
  have kept : keep width.toNat (wordAt size bytes k) = wordAt size bytes k :=
    Bits.keep_eq_self (Bits.fits_natCast fits)
  have digits := bytesOf_valueOf (group size bytes k)
  rw [length_group length inside, valueOf_group] at digits
  rwa [spell, kept, sized, Int.toNat_natCast, Int.toNat_natCast]

/-- Where every word fits, all are read. -/
theorem words_of_fits {n : Nat} (fits : ∀ k < count, wordAt size bytes k < 2 ^ n) :
    words n size file 0 ((List.range count).map (group size bytes)) =
      .ok ((List.range count).map fun k => (wordAt size bytes k : Int)) := by
  have narrow : ∀ g ∈ (List.range count).map (group size bytes),
      (valueOf g : Int) ≤ Word.mask n := by
    intro g member
    obtain ⟨k, inside, rfl⟩ := List.mem_map.1 member
    rw [valueOf_group, natCast_le_mask_iff]
    exact fits k (List.mem_range.1 inside)
  rw [words_eq_ok narrow, List.map_map]
  exact congrArg _ (List.map_congr_left fun k _ => by rw [Function.comp_apply, valueOf_group])

/-- Otherwise the first that does not is reported, with its place among the bytes. -/
theorem words_of_wide {n k : Nat} (inside : k < count) (wide : ¬wordAt size bytes k < 2 ^ n)
    (first : ∀ j < k, wordAt size bytes j < 2 ^ n) :
    words n size file 0 ((List.range count).map (group size bytes)) =
      .error { flaw := .wideBinaryWord (wordAt size bytes k) (size * k) n, file } := by
  obtain ⟨rest, rfl⟩ := Nat.exists_eq_add_of_lt inside
  have narrow : ∀ g ∈ (List.range k).map (group size bytes), (valueOf g : Int) ≤ Word.mask n := by
    intro g member
    obtain ⟨j, before, rfl⟩ := List.mem_map.1 member
    rw [valueOf_group, natCast_le_mask_iff]
    exact first j (List.mem_range.1 before)
  have exceeds : Word.mask n < (valueOf (group size bytes k) : Int) := by
    rwa [valueOf_group, ← not_le, natCast_le_mask_iff]
  rw [Nat.add_assoc, List.range_add, List.range_succ_eq_map, List.map_cons, List.map_append,
    List.map_cons, Nat.add_zero, words_eq_error narrow exceeds, valueOf_group, List.length_map,
    List.length_range, Nat.zero_add]

theorem parse_of_whole (sized : wordBytes width = size) (positive : 0 < size)
    (length : bytes.length = size * count) :
    parse host width file bytes =
      (AnyWidth.roomy host 0 width).mapError ImageFailure.width >>= fun n =>
        (words n size file 0 ((List.range count).map (group size bytes))).mapError
          ImageFailure.malformed := by
  have some : (size : Int) ≠ 0 := by omega
  have whole : (bytes.length : Int) % size = 0 := by
    rw [length, Int.natCast_mul, Int.mul_emod_right]
  simp only [parse, sized, if_neg some, if_neg (not_not_intro whole), Int.toNat_natCast,
    groups_eq positive length]

theorem judged_of_uneven (sized : wordBytes width = size) (positive : 0 < size)
    (uneven : ¬size ∣ bytes.length) :
    Judged host width file bytes (parse host width file bytes) := by
  have some : wordBytes width ≠ 0 := by omega
  have uneven : ¬wordBytes width ∣ bytes.length := by
    rwa [sized, Int.natCast_dvd_natCast]
  have remains : (bytes.length : Int) % wordBytes width ≠ 0 := fun even =>
    uneven (Int.dvd_of_emod_eq_zero even)
  simp only [parse, if_neg some, if_pos remains]
  cases written : InvalidValue.decimal (wordBytes width) with
  | error cause =>
    obtain ⟨long, rfl⟩ := InvalidValue.decimal_eq_error_iff.1 written
    exact .unwritten uneven long
  | ok text =>
    refine .partialWord uneven fun long => ?_
    rw [InvalidValue.decimal_eq_error_iff.2 ⟨long, rfl⟩] at written
    cases written

/-- Bytes that are cut evenly are judged by their words. -/
theorem judged_of_even (natural : 0 ≤ width) (sized : wordBytes width = size) (positive : 0 < size)
    (even : size ∣ bytes.length) :
    Judged host width file bytes (parse host width file bytes) := by
  have length : bytes.length = size * (bytes.length / size) := (Nat.mul_div_cancel' even).symm
  rw [parse_of_whole sized positive length]
  by_cases small : width < host.bits
  · rw [(AnyWidth.roomy_zero_eq_ok_iff natural).2 ⟨small, rfl⟩]
    simp only [Except.mapError, bind, Except.bind]
    by_cases fits : ∀ k < bytes.length / size, wordAt size bytes k < 2 ^ width.toNat
    · rw [words_of_fits fits]
      refine .accepted sized even fits ?_
      rw [format_eq_ok_iff natural]
      refine ⟨small, ?_⟩
      -- group by group, the words are spelled by the very bytes they were read from
      rw [List.flatMap_map]
      conv_rhs => rw [← flatMap_group length]
      refine List.flatMap_congr fun k inside => ?_
      have inside := List.mem_range.1 inside
      exact spell_wordAt sized length inside (fits k inside)
    · have some : ∃ k, k < bytes.length / size ∧ ¬wordAt size bytes k < 2 ^ width.toNat := by
        simpa using fits
      obtain ⟨inside, wide⟩ := Nat.find_spec some
      have first : ∀ j < Nat.find some, wordAt size bytes j < 2 ^ width.toNat := by
        intro j before
        by_contra wide
        exact Nat.find_min some before ⟨before.trans inside, wide⟩
      rw [words_of_wide inside wide first, Int.toNat_of_nonneg natural]
      exact .wideWord sized even inside (Nat.le_of_not_lt wide) first
  · cases room : AnyWidth.roomy host 0 width with
    | ok n => exact absurd ((AnyWidth.roomy_zero_eq_ok_iff natural).1 room).1 small
    | error cause =>
      obtain ⟨large, overtaxes⟩ := AnyWidth.overtaxesHost_of_roomy_zero natural room
      exact .cramped (sized ▸ Int.natCast_dvd_natCast.2 even) large overtaxes

/-- What makes the binary form of words of `width` bits a code, on a host. -/
structure Codec (host : Host) (width : Int) (file : Option String) : Prop where
  /-- A word takes the fewest bytes that have room for its bits. -/
  size : ∀ count : Int, wordBytes width ≤ count ↔ width ≤ 8 * count
  restores : ∀ ws bytes, format host width ws = .ok bytes →
    parse host width file bytes = .ok (ws.map (· % 2 ^ width.toNat))
  /-- There are words without an image only where the host has no room for a word. -/
  writes : ∀ ws cause, format host width ws = .error cause →
    host.bits ≤ width ∧ cause.overtaxesHost = true
  judges : ∀ bytes, Judged host width file bytes (parse host width file bytes)
  /-- Which bytes are accepted, unless they are refused because the host has no room for a word. -/
  accepts : ∀ bytes,
    (host.bits ≤ width ∧ ∃ cause, parse host width file bytes = .error (.width cause) ∧
      cause.overtaxesHost = true) ∨
    ((∃ ws, parse host width file bytes = .ok ws) ↔ Regular width bytes)
  /-- What is accepted are the images of words, and nothing else. -/
  images : ∀ bytes, (∃ ws, parse host width file bytes = .ok ws) ↔
    ∃ ws, format host width ws = .ok bytes

variable {ws : List Int}

theorem wordBytes_le_iff (width count : Int) : wordBytes width ≤ count ↔ width ≤ 8 * count := by
  unfold wordBytes
  omega

/-- Where the host has room for the addresses of a memory, the size of a word can be written. -/
theorem writeDecimal?_wordBytes (positive : 1 ≤ width) (small : width - 5 < host.bits) :
    Text.writeDecimal? (wordBytes width) ≠ none := by
  have least := host.eight_le_bits
  have fewer : ((wordBytes width).natAbs : Int) < host.bits := by
    unfold wordBytes
    omega
  exact Host.writeDecimal?_ne_none fewer

theorem parse_of_format (positive : 1 ≤ width) (written : format host width ws = .ok bytes) :
    parse host width file bytes = .ok (ws.map (· % 2 ^ width.toNat)) := by
  obtain ⟨small, rfl⟩ := (format_eq_ok_iff (by omega)).1 written
  rw [parse_flatMap_spell positive small]
  exact congrArg _ (List.map_congr_left fun word _ => Bits.keep_eq_emod width.toNat word)

theorem judged_parse (positive : 1 ≤ width) (host : Host) (file : Option String)
    (bytes : List UInt8) : Judged host width file bytes (parse host width file bytes) := by
  obtain ⟨size, some, sized⟩ := exists_size positive
  by_cases even : size ∣ bytes.length
  · exact judged_of_even (by omega) sized some even
  · exact judged_of_uneven sized some even

theorem Judged.format_of_ok {result : Except ImageFailure (List Int)}
    (judged : Judged host width file bytes result) (accepted : result = .ok ws) :
    format host width ws = .ok bytes := by
  cases judged with
  | partialWord | unwritten | cramped | wideWord => cases accepted
  | accepted _ _ _ image =>
    obtain rfl := Except.ok.inj accepted
    exact image

theorem Judged.accepts {result : Except ImageFailure (List Int)}
    (judged : Judged host width file bytes result) :
    (host.bits ≤ width ∧ ∃ cause, result = .error (.width cause) ∧ cause.overtaxesHost = true) ∨
    ((∃ ws, result = .ok ws) ↔ Regular width bytes) := by
  -- Uneven bytes are neither accepted nor a whole number of words.
  have rejected {failure : ImageFailure} (uneven : ¬wordBytes width ∣ bytes.length) :
      (∃ ws, (.error failure : Except ImageFailure (List Int)) = .ok ws) ↔
        Regular width bytes := by
    constructor
    · rintro ⟨ws, accepted⟩
      cases accepted
    · rintro ⟨size, sized, even, -⟩
      rw [sized, Int.natCast_dvd_natCast] at uneven
      exact absurd even uneven
  cases judged with
  | partialWord uneven => exact .inr (rejected uneven)
  | unwritten uneven => exact .inr (rejected uneven)
  | cramped _ large overtaxes => exact .inl ⟨large, _, rfl, overtaxes⟩
  | @wideWord size k sized _ inside wide _ =>
    refine .inr ⟨by simp, ?_⟩
    rintro ⟨other, sized', -, fits⟩
    obtain rfl : size = other := by omega
    exact absurd (fits k inside) (Nat.not_lt.2 wide)
  | @accepted size sized even fits _ =>
    exact .inr ⟨fun _ => ⟨size, sized, even, fits⟩, fun _ => ⟨_, rfl⟩⟩

/-- Whatever the width, binary images and words are images of each other. -/
theorem codec (host : Host) (positive : 1 ≤ width) (file : Option String) :
    Codec host width file where
  size := wordBytes_le_iff width
  restores ws bytes := parse_of_format positive
  writes ws cause refused :=
    AnyWidth.overtaxesHost_of_roomy_zero (by omega) (map_eq_error_iff.1 refused)
  judges := judged_parse positive host file
  accepts bytes := (judged_parse positive host file bytes).accepts
  images bytes := by
    constructor
    · rintro ⟨ws, accepted⟩
      exact ⟨ws, (judged_parse positive host file bytes).format_of_ok accepted⟩
    · rintro ⟨ws, image⟩
      exact ⟨_, parse_of_format positive image⟩

theorem wordBytes_eight_mul (size : Int) : wordBytes (8 * size) = size := by
  unfold wordBytes
  omega

theorem regular_nil (positive : 1 ≤ width) : Regular width [] := by
  obtain ⟨size, -, sized⟩ := exists_size positive
  exact ⟨size, sized, Nat.dvd_zero size, fun k lt => absurd lt (by simp)⟩

/-- Whatever the host, there are words of a width whose digits it cannot count, and others whose
size in bytes has more digits than a numeral may have, so that a part of one cannot be reported. -/
theorem refused_everywhere :
    (¬∃ host : Host, ∀ width, 1 ≤ width → ∀ bytes,
      (∃ ws, parse host width none bytes = .ok ws) ↔ Regular width bytes) ∧
    ¬∃ host : Host, ∀ width, 1 ≤ width → ∀ bytes, ¬wordBytes width ∣ bytes.length →
      ∃ error, parse host width none bytes = .error (.malformed error) := by
  constructor
  · rintro ⟨host, accepts⟩
    obtain ⟨ws, accepted⟩ := (accepts (10 ^ 20) (by decide) []).2 (regular_nil (by decide))
    have image := (judged_parse (by decide) host none []).format_of_ok accepted
    have small := ((format_eq_ok_iff (by decide)).1 image).1
    have counted := small.trans_le host.bits_le_digitLimit
    revert counted
    decide
  · rintro ⟨host, reports⟩
    obtain ⟨size, long, large⟩ : ∃ size : Int, Text.writeDecimal? size = none ∧ 1 < size :=
      ⟨10 ^ Text.decimalDigitLimit, Text.writeDecimal?_ten_pow, one_lt_pow₀ (by decide) (by decide)⟩
    have positive : 1 ≤ 8 * size := by omega
    have uneven : ¬wordBytes (8 * size) ∣ ([0] : List UInt8).length := by
      rw [wordBytes_eight_mul]
      intro even
      have le : size ≤ 1 := Int.le_of_dvd (by decide) even
      omega
    obtain ⟨error, malformed⟩ := reports (8 * size) positive [0] uneven
    have judged := judged_parse positive host none [0]
    rw [malformed] at judged
    cases judged with
    | partialWord _ short => exact short ((wordBytes_eight_mul size).symm ▸ long)
    | wideWord sized even _ _ _ => exact uneven (sized ▸ Int.natCast_dvd_natCast.2 even)

/-- Eleven bits leave five of the second byte unused, where the second word has a one. -/
theorem codec_eleven : Codec {} 11 none ∧
    parse {} 11 none [0xFF, 0x07, 0x34, 0x02] = .ok [0x7FF, 0x234] ∧
    parse {} 11 none [0xFF, 0x07, 0x34, 0x0A] =
      .error (.malformed { flaw := .wideBinaryWord 0xA34 2 11 }) := by
  have coded := codec {} (by decide : (1 : Int) ≤ 11) none
  have written : format {} 11 [-1, 0x1234] = .ok [0xFF, 0x07, 0x34, 0x02] := by decide +kernel
  exact ⟨coded, coded.restores _ _ written, by decide +kernel⟩

end SerialMachine.Image.Binary

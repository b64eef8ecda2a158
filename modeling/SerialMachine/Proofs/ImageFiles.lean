import Mathlib.Data.List.Forall2
import SerialMachine.Image.File
import SerialMachine.Proofs.Attempts
import SerialMachine.Proofs.Bits
import SerialMachine.Proofs.Numerals

/-!
# Image files

Main statement: words that are saved are read back from the bytes of the file, each cut to the
width, whatever the file's name, the format and the width; nothing but a host that has no room for
a word stands against saving them.
-/

namespace SerialMachine.Image

open Bits (keep)

/-! ## Binary images -/

namespace Binary

theorem length_bytesOf (count value : Nat) : (bytesOf count value).length = count := by
  induction count generalizing value with
  | zero => rfl
  | succ count ih => rw [bytesOf, List.length_cons, ih]

theorem valueOf_bytesOf (count value : Nat) :
    valueOf (bytesOf count value) = value % 256 ^ count := by
  induction count generalizing value with
  | zero => rw [Nat.pow_zero, Nat.mod_one]; rfl
  | succ count ih =>
    rw [bytesOf, valueOf, ih, UInt8.toNat_ofNat_of_lt' (Nat.mod_lt _ (by decide)), Nat.pow_succ',
      Nat.mod_mul]

section Groups

variable {α : Type} {size : Nat} {spell : α → List UInt8}

/-- Fuel for every piece is enough, since a group is never empty. -/
theorem groups_go_flatMap (positive : 0 < size) (even : ∀ x, (spell x).length = size)
    {fuel : Nat} {xs : List α} (enough : xs.length ≤ fuel) :
    groups.go size fuel (xs.flatMap spell) = xs.map spell := by
  induction xs generalizing fuel with
  | nil => cases fuel <;> rfl
  | cons x xs ih =>
    obtain ⟨fuel, rfl⟩ : ∃ more, fuel = more + 1 := ⟨fuel - 1, by simp at enough; omega⟩
    have some : spell x ++ xs.flatMap spell ≠ [] := by
      refine List.append_ne_nil_of_left_ne_nil (fun none => ?_) _
      have length := even x
      rw [none, List.length_nil] at length
      omega
    rw [List.flatMap_cons, groups.go.eq_3 size _ fuel some, List.map_cons,
      List.take_left' (even x), List.drop_left' (even x), ih (by simpa using enough)]

theorem length_flatMap_eq (even : ∀ x, (spell x).length = size) (xs : List α) :
    (xs.flatMap spell).length = size * xs.length := by
  induction xs with
  | nil => rfl
  | cons x xs ih =>
    rw [List.flatMap_cons, List.length_append, even, ih, List.length_cons, Nat.mul_succ,
      Nat.add_comm]

theorem groups_flatMap (positive : 0 < size) (even : ∀ x, (spell x).length = size)
    (xs : List α) : groups size (xs.flatMap spell) = xs.map spell := by
  refine groups_go_flatMap positive even ?_
  rw [length_flatMap_eq even]
  exact Nat.le_mul_of_pos_left _ positive

end Groups

theorem words_eq_ok {n size : Nat} {file : Option String} {groups : List (List UInt8)}
    (fits : ∀ group ∈ groups, (valueOf group : Int) ≤ Word.mask n) (offset : Nat) :
    words n size file offset groups = .ok (groups.map fun group => (valueOf group : Int)) := by
  induction groups generalizing offset with
  | nil => rfl
  | cons group rest ih =>
    have small : ¬Word.mask n < (valueOf group : Int) := by
      have := fits group List.mem_cons_self
      omega
    rw [words, if_neg small, ih fun other hother => fits other (List.mem_cons_of_mem group hother)]
    rfl

variable {host : Host} {width : Int} {ws : List Int}

/-- The bytes of a word cut to the width. -/
def spell (width word : Int) : List UInt8 :=
  bytesOf (wordBytes width).toNat (keep width.toNat word).toNat

theorem length_spell (width word : Int) : (spell width word).length = (wordBytes width).toNat :=
  length_bytesOf _ _

theorem format_eq_ok_iff (h : 0 ≤ width) {bytes : List UInt8} :
    format host width ws = .ok bytes ↔
      width < host.bits ∧ ws.flatMap (spell width) = bytes := by
  refine map_eq_ok_iff.trans ?_
  simp only [AnyWidth.roomy_zero_eq_ok_iff h, and_assoc, exists_and_left, exists_eq_left']
  rfl

/-- The bytes of a word have room for all its bits. -/
theorem valueOf_spell (h : 0 ≤ width) (word : Int) :
    (valueOf (spell width word) : Int) = keep width.toNat word := by
  have small : (keep width.toNat word).toNat < 256 ^ (wordBytes width).toNat := by
    have bits : width.toNat ≤ 8 * (wordBytes width).toNat := by
      unfold wordBytes
      omega
    have below := Bits.keep_lt width.toNat word
    rw [Bits.weight_eq_pow] at below
    calc (keep width.toNat word).toNat < 2 ^ width.toNat := by
          have := Bits.keep_nonneg width.toNat word
          omega
      _ ≤ 2 ^ (8 * (wordBytes width).toNat) := Nat.pow_le_pow_right (by decide) bits
      _ = 256 ^ (wordBytes width).toNat := Nat.pow_mul 2 8 _
  rw [spell, valueOf_bytesOf, Nat.mod_eq_of_lt small,
    Int.toNat_of_nonneg (Bits.keep_nonneg width.toNat word)]

theorem parse_flatMap_spell (positive : 1 ≤ width) (small : width < host.bits)
    (file : Option String) (ws : List Int) :
    parse host width file (ws.flatMap (spell width)) = .ok (ws.map (keep width.toNat)) := by
  have some : 0 < wordBytes width := by
    unfold wordBytes
    omega
  have whole : ((ws.flatMap (spell width)).length : Int) % wordBytes width = 0 := by
    rw [length_flatMap_eq (length_spell width), Int.natCast_mul, Int.toNat_of_nonneg some.le,
      Int.mul_emod_right]
  have fits : ∀ group ∈ ws.map (spell width),
      (valueOf group : Int) ≤ Word.mask width.toNat := by
    intro group member
    obtain ⟨word, -, rfl⟩ := List.mem_map.1 member
    rw [valueOf_spell (by omega)]
    exact Bits.keep_le_mask width.toNat word
  have read : words width.toNat (wordBytes width).toNat file 0 (ws.map (spell width)) =
      .ok (ws.map (keep width.toNat)) := by
    rw [words_eq_ok fits, List.map_map]
    exact congrArg _ (List.map_congr_left fun word _ => valueOf_spell (by omega) word)
  simp only [parse, if_neg some.ne', if_neg (not_not_intro whole),
    (AnyWidth.roomy_zero_eq_ok_iff (by omega : 0 ≤ width)).2 ⟨small, rfl⟩,
    groups_flatMap (by omega) (length_spell width), Except.mapError, bind, Except.bind, read]

end Binary

/-! ## Hexadecimal images -/

namespace Hexadecimal

variable {host : Host} {n : Nat} {text : List Char} {value : Nat} {ws : List Int}

theorem beginsComment_eq_false_of_mem : ∀ c ∈ Text.hexAlphabet, beginsComment c = false :=
  Text.eq_false_of_mem_hexAlphabet (by decide)

/-- Digits alone on a line are the whole of what it holds. -/
theorem content_of_spells (h : Text.Spells text value) : content text = text := by
  have comment : ∀ c ∈ text, (!beginsComment c) = true := fun c hc => by
    rw [beginsComment_eq_false_of_mem c (h.mem_hexAlphabet c hc), Bool.not_false]
  rw [content, List.takeWhile_eq_self_iff.2 comment, Text.trim, Text.trimBy_eq_self fun c hc =>
    Text.isBlank_eq_false_of_mem c (h.mem_hexAlphabet c hc)]

theorem word?_of_spells (h : Text.Spells text value) (fits : (value : Int) ≤ Word.mask n) :
    word? n text = .ok (some (value : Int)) := by
  unfold word?
  rw [content_of_spells h]
  split
  · exact absurd rfl h.ne_nil
  · rw [Text.readHexadecimal?_of_spells h]
    exact if_neg (by omega)

theorem words_eq_ok {file : Option String} {lines : List (List Char)} {values : List Int}
    (read : List.Forall₂ (fun line value => word? n line = .ok (some value)) lines values)
    (number : Nat) : words n file number lines = .ok values := by
  induction read generalizing number with
  | nil => rfl
  | cons first _ ih =>
    rw [words, first]
    simp only [ih, Functor.map, Except.map]

/-- The line of a word cut to the width, without its end. -/
def spell (n : Nat) (word : Int) : List Char :=
  Text.hexChars (digits n) (keep n word)

theorem spells_spell (n : Nat) (word : Int) :
    Text.Spells (spell n word) (keep n word).toNat := by
  have spells := Text.spells_hexChars (digits n) (keep n word).toNat
  rwa [Int.toNat_of_nonneg (Bits.keep_nonneg n word)] at spells

theorem word?_spell (n : Nat) (word : Int) :
    word? n (spell n word) = .ok (some (keep n word)) := by
  have natural := Int.toNat_of_nonneg (Bits.keep_nonneg n word)
  have fits : ((keep n word).toNat : Int) ≤ Word.mask n := by
    rw [natural]
    exact Bits.keep_le_mask n word
  rw [word?_of_spells (spells_spell n word) fits, natural]

/-- The lines of words, each with its end. -/
def written (n : Nat) (ws : List Int) : List Char :=
  (ws.map (spell n)).flatMap (· ++ ['\n'])

theorem format_eq_ok_iff {width : Int} (h : 0 ≤ width) {image : String} :
    format host width ws = .ok image ↔
      width < host.bits ∧ String.ofList (written width.toNat ws) = image := by
  refine map_eq_ok_iff.trans ?_
  simp only [AnyWidth.roomy_zero_eq_ok_iff h, and_assoc, exists_and_left, exists_eq_left', written,
    List.flatMap_map]
  rfl

theorem lines_written (n : Nat) (ws : List Int) : Text.lines (written n ws) = ws.map (spell n) := by
  refine Text.lines_flatMap_newline fun line member c hc => ?_
  obtain ⟨word, -, rfl⟩ := List.mem_map.1 member
  exact Text.isLineEnd_eq_false_of_mem c ((spells_spell n word).mem_hexAlphabet c hc)

theorem unifyLineEnds_written (n : Nat) (ws : List Int) :
    Text.unifyLineEnds (written n ws) = written n ws := by
  refine Text.unifyLineEnds_eq_self fun inside => ?_
  obtain ⟨line, member, inside⟩ := List.mem_flatMap.1 inside
  obtain ⟨word, -, rfl⟩ := List.mem_map.1 member
  rcases List.mem_append.1 inside with inside | inside
  · exact absurd ((spells_spell n word).mem_hexAlphabet _ inside) (by decide)
  · exact absurd inside (by decide)

theorem parse_written {width : Int} (h : 0 ≤ width) (small : width < host.bits)
    (file : Option String) (ws : List Int) :
    parse host width file (String.ofList (written width.toNat ws)) =
      .ok (ws.map (keep width.toNat)) := by
  have read : List.Forall₂ (fun line value => word? width.toNat line = .ok (some value))
      (ws.map (spell width.toNat)) (ws.map (keep width.toNat)) := by
    rw [List.forall₂_map_left_iff, List.forall₂_map_right_iff, List.forall₂_same]
    exact fun word _ => word?_spell width.toNat word
  simp only [parse, (AnyWidth.roomy_zero_eq_ok_iff h).2 ⟨small, rfl⟩, String.toList_ofList,
    lines_written, words_eq_ok read, Except.mapError, bind, Except.bind]

end Hexadecimal

/-! ## Files -/

theorem toList_loop (bytes : ByteArray) {i k : Nat} (left : i + k = bytes.size)
    (found : List UInt8) :
    ByteArray.toList.loop bytes i found = found.reverse ++ bytes.data.toList.drop i := by
  induction k generalizing i found with
  | zero =>
    rw [ByteArray.toList.loop, if_neg (by omega), List.drop_of_length_le, List.append_nil]
    exact left.ge
  | succ k ih =>
    have inside : i < bytes.data.toList.length := by
      have : bytes.data.toList.length = bytes.size := rfl
      omega
    have byte : bytes.get! i = bytes.data.toList[i] := getElem!_pos bytes.data i inside
    rw [ByteArray.toList.loop, if_pos (by omega), ih (by omega), byte, List.reverse_cons,
      List.append_assoc, List.singleton_append, List.drop_eq_getElem_cons inside]

theorem toList_eq_data (bytes : ByteArray) : bytes.toList = bytes.data.toList :=
  toList_loop bytes (Nat.zero_add _) []

variable {host : Host} {width : Int} {ws : List Int} {format : Option ImageFormat}
  {name : String} {content : ByteArray}

/-- The bytes of a file with words in it. -/
def fileBytes (width : Int) (ws : List Int) : ImageFormat → ByteArray
  | .binary => ⟨(ws.flatMap (Binary.spell width)).toArray⟩
  | .hexadecimal => (String.ofList (Hexadecimal.written width.toNat ws)).toUTF8

theorem save_eq_ok_iff (h : 0 ≤ width) :
    save host name ws width format = .ok content ↔
      width < host.bits ∧ fileBytes width ws (format.getD (.ofPath name)) = content := by
  unfold save
  cases format.getD (.ofPath name) with
  | binary => simp only [map_eq_ok_iff, Binary.format_eq_ok_iff h, and_assoc, exists_and_left,
      exists_eq_left', fileBytes]
  | hexadecimal => simp only [map_eq_ok_iff, Hexadecimal.format_eq_ok_iff h, and_assoc,
      exists_and_left, exists_eq_left', fileBytes]

theorem load_fileBytes (positive : 1 ≤ width) (small : width < host.bits) :
    load host name (.ok (fileBytes width ws (format.getD (.ofPath name)))) width format =
      .ok (ws.map (keep width.toNat)) := by
  unfold load
  cases format.getD (.ofPath name) with
  | binary =>
    simp only [Except.mapError, bind, Except.bind, fileBytes, toList_eq_data]
    exact Binary.parse_flatMap_spell positive small _ ws
  | hexadecimal =>
    have text : String.fromUTF8? (fileBytes width ws .hexadecimal) =
        some (String.ofList (Hexadecimal.written width.toNat ws)) :=
      dif_pos (String.isValidUTF8 _)
    simp only [Except.mapError, bind, Except.bind, text, String.toList_ofList,
      Hexadecimal.unifyLineEnds_written]
    exact Hexadecimal.parse_written (by omega) small _ ws

theorem roomy_of_save {cause : InvalidValue}
    (refused : save host name ws width format = .error cause) :
    AnyWidth.roomy host 0 width = .error cause := by
  unfold save at refused
  split at refused
  · exact map_eq_error_iff.1 (map_eq_error_iff.1 refused)
  · exact map_eq_error_iff.1 (map_eq_error_iff.1 refused)

/-- A folder gives words back, too. -/
theorem load_read_write (positive : 1 ≤ width) {folder after : Folder}
    (saved : save host name ws width format = .ok content)
    (written : folder.write name content = .ok after) :
    load host name (after.read name) width format = .ok (ws.map (keep width.toNat)) := by
  obtain ⟨small, rfl⟩ := (save_eq_ok_iff (by omega)).1 saved
  rw [Folder.read_write written, load_fileBytes positive small]

/-- Words of any size and sign are read back from the bytes that they were saved as, cut to the
width; where they cannot be saved, the host has no room for a word. -/
theorem load_save (host : Host) (positive : 1 ≤ width) (name : String) (ws : List Int)
    (format : Option ImageFormat) :
    match save host name ws width format with
    | .ok content => load host name (.ok content) width format = .ok (ws.map (keep width.toNat))
    | .error cause => host.bits ≤ width ∧ cause.overtaxesHost = true := by
  split
  · next content saved =>
    obtain ⟨small, rfl⟩ := (save_eq_ok_iff (by omega)).1 saved
    exact load_fileBytes positive small
  · next cause refused =>
    exact AnyWidth.overtaxesHost_of_roomy_zero (by omega) (roomy_of_save refused)

/-- Eleven bits fill neither bytes nor digits. -/
theorem load_save_eleven :
    save {} "a.HEX" [-1, 0x1234, 7] 11 none = .ok "7FF\n234\n007\n".toUTF8 ∧
      load {} "a.HEX" (.ok "7FF\n234\n007\n".toUTF8) 11 none = .ok [0x7FF, 0x234, 7] := by
  have saved : save {} "a.HEX" [-1, 0x1234, 7] 11 none = .ok "7FF\n234\n007\n".toUTF8 := by
    decide +kernel
  have loaded := load_save {} (by decide : (1 : Int) ≤ 11) "a.HEX" [-1, 0x1234, 7] none
  rw [saved] at loaded
  exact ⟨saved, loaded⟩

end SerialMachine.Image

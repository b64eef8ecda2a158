import Mathlib.Data.List.TakeWhile
import SerialMachine.Text.Hexadecimal
import SerialMachine.Text.Lines
import SerialMachine.Text.Numeral

/-!
# Numerals on lines

Hexadecimal digits can be taken for nothing else that a text may hold. Main statements: a row of
them is read as the number that it spells, the hexadecimal text of a number spells it with any
padding, and lines that hold no line end themselves are cut apart where they were joined.
-/

namespace SerialMachine.Text

/-! ## Digits -/

/-- The digits of base sixteen, the letters in either case. -/
def hexAlphabet : List Char :=
  ['0', '1', '2', '3', '4', '5', '6', '7', '8', '9', 'A', 'B', 'C', 'D', 'E', 'F',
    'a', 'b', 'c', 'd', 'e', 'f']

/-- What no digit is, examined one digit after the other. -/
theorem eq_false_of_mem_hexAlphabet {p : Char → Bool}
    (none : (hexAlphabet.all fun c => !p c) = true) : ∀ c ∈ hexAlphabet, p c = false := by
  simpa using none

theorem digitValue?_isSome : ∀ c ∈ hexAlphabet, (digitValue? 16 c).isSome = true :=
  List.all_eq_true.1 (by decide)

theorem isBlank_eq_false_of_mem : ∀ c ∈ hexAlphabet, isBlank c = false :=
  eq_false_of_mem_hexAlphabet (by decide)

theorem isNumeralBlank_eq_false_of_mem : ∀ c ∈ hexAlphabet, isNumeralBlank c = false :=
  eq_false_of_mem_hexAlphabet (by decide)

theorem isLineEnd_eq_false_of_mem : ∀ c ∈ hexAlphabet, isLineEnd c = false :=
  eq_false_of_mem_hexAlphabet (by decide)

theorem hexMark_eq_false_of_mem : ∀ c ∈ hexAlphabet, (c == 'x' || c == 'X') = false :=
  eq_false_of_mem_hexAlphabet (by decide)

/-- The digit that is written for a number below sixteen. -/
theorem toUpper_digitChar : ∀ d < 16, (Nat.digitChar d).toUpper ∈ hexAlphabet ∧
    digitValue? 16 (Nat.digitChar d).toUpper = some d := by
  decide

/-- A row of hexadecimal digits that spells a number; there may be zeros in front. -/
structure Spells (text : List Char) (value : Nat) : Prop where
  ne_nil : text ≠ []
  mem_hexAlphabet : ∀ c ∈ text, c ∈ hexAlphabet
  value_eq : valueOfDigits 16 (text.filterMap (digitValue? 16)) = value

theorem valueOfDigits_concat (base d : Nat) (digits : List Nat) :
    valueOfDigits base (digits ++ [d]) = base * valueOfDigits base digits + d := by
  simp [valueOfDigits]

namespace Spells

variable {text : List Char} {value : Nat}

theorem zero_cons (h : Spells text value) : Spells ('0' :: text) value where
  ne_nil := List.cons_ne_nil _ _
  mem_hexAlphabet := List.forall_mem_cons.2 ⟨by decide, h.mem_hexAlphabet⟩
  value_eq := by
    rw [List.filterMap_cons_some (show digitValue? 16 '0' = some 0 by decide)]
    exact h.value_eq

theorem zeros_append (h : Spells text value) (places : Nat) :
    Spells (List.replicate places '0' ++ text) value := by
  induction places with
  | zero => exact h
  | succ places ih => exact ih.zero_cons

theorem digit {d : Nat} (small : d < 16) : Spells [(Nat.digitChar d).toUpper] d where
  ne_nil := List.cons_ne_nil _ _
  mem_hexAlphabet := by
    simpa using (toUpper_digitChar d small).1
  value_eq := by
    simp [(toUpper_digitChar d small).2, valueOfDigits]

theorem concat (h : Spells text value) {d : Nat} (small : d < 16) :
    Spells (text ++ [(Nat.digitChar d).toUpper]) (16 * value + d) where
  ne_nil := List.append_ne_nil_of_left_ne_nil h.ne_nil _
  mem_hexAlphabet := List.forall_mem_append.2 ⟨h.mem_hexAlphabet, (digit small).mem_hexAlphabet⟩
  value_eq := by
    rw [List.filterMap_append, List.filterMap_cons_some (toUpper_digitChar d small).2,
      List.filterMap_nil, valueOfDigits_concat, h.value_eq]

end Spells

theorem spells_hexDigits (value : Nat) : Spells (hexDigits value) value := by
  induction value using Nat.strongRecOn with
  | ind value ih =>
    unfold hexDigits
    by_cases small : value < 16
    · rw [Nat.toDigits_of_lt_base small]
      exact .digit small
    · rw [Nat.toDigits_of_base_le (by decide) (by omega), List.map_append]
      have fewer := (ih (value / 16) (by omega)).concat (Nat.mod_lt value (by decide : 0 < 16))
      rwa [Nat.div_add_mod] at fewer

theorem spells_hexChars (places value : Nat) : Spells (hexChars places value) value := by
  have sign : ¬(value : Int) < 0 := by omega
  rw [hexChars, if_neg sign, Int.natAbs_natCast]
  exact (spells_hexDigits value).zeros_append _

/-! ## Reading -/

theorem trimBy_eq_self {drop : Char → Bool} {text : List Char}
    (kept : ∀ c ∈ text, drop c = false) : trimBy drop text = text := by
  have first : text.dropWhile drop = text :=
    List.dropWhile_eq_self_iff.2 fun _ => by simp [kept]
  have last : text.reverse.dropWhile drop = text.reverse :=
    List.dropWhile_eq_self_iff.2 fun _ => by simp [kept]
  rw [trimBy, first, last, List.reverse_reverse]

theorem digitValues?_eq_filterMap {text : List Char} (ne : text ≠ [])
    (digits : ∀ c ∈ text, c ∈ hexAlphabet) :
    digitValues? 16 text = some (text.filterMap (digitValue? 16)) := by
  induction text with
  | nil => exact absurd rfl ne
  | cons c rest ih =>
    obtain ⟨d, value⟩ := Option.isSome_iff_exists.1
      (digitValue?_isSome c (digits c List.mem_cons_self))
    have digits : ∀ x ∈ rest, x ∈ hexAlphabet :=
      fun x hx => digits x (List.mem_cons_of_mem c hx)
    cases rest with
    | nil => simp [digitValues?, value]
    | cons next more =>
      have other : next ≠ '_' := fun same => by
        subst same
        exact absurd (digits '_' List.mem_cons_self) (by decide)
      rw [digitValues?.eq_4 16 c (next :: more) (by simp) (by simpa using other),
        ih (by simp) digits, value, List.filterMap_cons_some value]
      rfl

/-- What is left of a numeral without blanks, sign and base mark decides. -/
theorem readHexadecimal?_of_dropHexMark {numeral text : List Char} {value : Nat}
    (h : Spells text value) (blanks : ∀ c ∈ numeral, isNumeralBlank c = false)
    (sign : splitSign numeral = (false, numeral)) (mark : dropHexMark numeral = text) :
    readHexadecimal? numeral = some (value : Int) := by
  rw [readHexadecimal?, trimBy_eq_self blanks, sign]
  simp [mark, digitValues?_eq_filterMap h.ne_nil h.mem_hexAlphabet, h.value_eq]

theorem readHexadecimal?_of_spells {text : List Char} {value : Nat} (h : Spells text value) :
    readHexadecimal? text = some (value : Int) := by
  have sign : splitSign text = (false, text) := by
    unfold splitSign
    split
    · exact absurd (h.mem_hexAlphabet '-' List.mem_cons_self) (by decide)
    · exact absurd (h.mem_hexAlphabet '+' List.mem_cons_self) (by decide)
    · rfl
  have mark : dropHexMark text = text := by
    unfold dropHexMark
    split
    · next zero x rest =>
      rw [hexMark_eq_false_of_mem x (h.mem_hexAlphabet x (by simp)), Bool.and_false,
        if_neg Bool.false_ne_true]
    · rfl
  exact readHexadecimal?_of_dropHexMark h
    (fun c hc => isNumeralBlank_eq_false_of_mem c (h.mem_hexAlphabet c hc)) sign mark

/-! ## Lines -/

/-- A line ends where what follows it begins with a line end. -/
theorem lines_append {line rest : List Char} {more : List (List Char)}
    (whole : ∀ c ∈ line, isLineEnd c = false) (ended : lines rest = [] :: more) :
    lines (line ++ rest) = line :: more := by
  induction line with
  | nil => exact ended
  | cons c line ih =>
    have inner := whole c List.mem_cons_self
    have other : c ≠ '\r' := fun same => by
      subst same
      exact absurd inner (by decide)
    rw [List.cons_append, lines.eq_3 c _ (by simp [other]), inner,
      ih fun x hx => whole x (List.mem_cons_of_mem c hx)]
    rfl

theorem lines_newline {line : List Char} (whole : ∀ c ∈ line, isLineEnd c = false)
    (rest : List Char) : lines (line ++ '\n' :: rest) = line :: lines rest :=
  lines_append whole rfl

theorem lines_flatMap_newline {texts : List (List Char)}
    (whole : ∀ line ∈ texts, ∀ c ∈ line, isLineEnd c = false) :
    lines (texts.flatMap (· ++ ['\n'])) = texts := by
  induction texts with
  | nil => rfl
  | cons line texts ih =>
    rw [List.flatMap_cons, List.append_assoc, List.singleton_append,
      lines_newline (whole line List.mem_cons_self),
      ih fun other hother => whole other (List.mem_cons_of_mem line hother)]

theorem unifyLineEnds_eq_self {text : List Char} (plain : '\r' ∉ text) :
    unifyLineEnds text = text := by
  induction text with
  | nil => rfl
  | cons c rest ih =>
    have other : c ≠ '\r' := fun same => plain (same ▸ List.mem_cons_self)
    rw [unifyLineEnds.eq_4 c rest (by simp [other]) other,
      ih fun later => plain (List.mem_cons_of_mem c later)]

end SerialMachine.Text

import Mathlib.Data.List.DropRight
import Mathlib.Data.Nat.Digits.Defs
import SerialMachine.Text.Numeral

/-!
# The grammar of hexadecimal numerals

A numeral has a sign or none, a base mark or none, and digits, with at most one underscore between
two digits and between the mark and the first digit. Main statement: without the blanks around it, a
text is read exactly when it is a numeral, and as the number that the numeral spells.
-/

namespace SerialMachine.Text

/-- The letters that are hexadecimal digits, in either case. -/
def digitLetters : List (List Char) :=
  [['a', 'b', 'c', 'd', 'e', 'f'], ['A', 'B', 'C', 'D', 'E', 'F']]

/-- A character with the value that it has as a hexadecimal digit: one of the letters, which follow
the nine, or a decimal digit of any script. -/
inductive HexDigit : Char → Nat → Prop
  | letter {letters : List Char} {k : Nat} {c : Char} (either : letters ∈ digitLetters)
      (place : letters[k]? = some c) : HexDigit c (10 + k)
  | decimal {c : Char} {d : Nat} (value : decimalValue? c = some d) : HexDigit c d

/-- A row of hexadecimal digits with their values; between two there may be an underscore. -/
inductive HexDigits : List Char → List Nat → Prop
  | last {c : Char} {d : Nat} (digit : HexDigit c d) : HexDigits [c] [d]
  | next {c : Char} {d : Nat} {text : List Char} {digits : List Nat} (digit : HexDigit c d)
      (rest : HexDigits text digits) : HexDigits (c :: text) (d :: digits)
  | apart {c : Char} {d : Nat} {text : List Char} {digits : List Nat} (digit : HexDigit c d)
      (rest : HexDigits text digits) : HexDigits (c :: '_' :: text) (d :: digits)

/-- A sign, or none, and whether it is a minus. -/
inductive SignMark : List Char → Bool → Prop
  | none : SignMark [] false
  | plus : SignMark ['+'] false
  | minus : SignMark ['-'] true

/-- A mark of base sixteen, or none. Its zero may be that of any script, and an underscore may
follow. -/
inductive BaseMark : List Char → Prop
  | none : BaseMark []
  | joined {zero x : Char} (isZero : decimalValue? zero = some 0) (isX : x = 'x' ∨ x = 'X') :
      BaseMark [zero, x]
  | apart {zero x : Char} (isZero : decimalValue? zero = some 0) (isX : x = 'x' ∨ x = 'X') :
      BaseMark [zero, x, '_']

/-- A hexadecimal numeral and the number that it spells. -/
inductive HexNumeral : List Char → Int → Prop
  | spelled {sign mark text : List Char} {negative : Bool} {digits : List Nat}
      (signed : SignMark sign negative) (marked : BaseMark mark) (written : HexDigits text digits) :
      HexNumeral (sign ++ (mark ++ text))
        ((if negative then -1 else 1) * (Nat.ofDigits 16 digits.reverse : Nat))

variable {c : Char} {d : Nat} {text mark sign : List Char} {digits : List Nat} {value : Int}
  {negative : Bool}

/-! ## Digits -/

theorem lt_of_decimalValue? (h : decimalValue? c = some d) : d < 10 := by
  obtain ⟨start, found, rfl⟩ := Option.map_eq_some_iff.1 h
  have inside := List.find?_some found
  simp only [Bool.and_eq_true, decide_eq_true_eq] at inside
  omega

/-- The letters between two, by their code points. -/
theorem mem_of_between {first last : Char} {letters : List Char}
    (all : ∀ n ≤ last.toNat, first.toNat ≤ n → Char.ofNat n ∈ letters) (le : first ≤ c)
    (le' : c ≤ last) : c ∈ letters := by
  have found := all c.toNat le' le
  rwa [Char.ofNat_toNat] at found

theorem digitValue?_letter {letters : List Char} {k : Nat} (either : letters ∈ digitLetters)
    (place : letters[k]? = some c) : digitValue? 16 c = some (10 + k) := by
  have table : ∀ letters ∈ digitLetters,
      letters.map (digitValue? 16) = (List.range 6).map fun k => some (10 + k) := by
    decide
  have row := congrArg (·[k]?) (table letters either)
  have inside : k < 6 := by
    obtain ⟨below, -⟩ := List.getElem?_eq_some_iff.1 place
    have length : ∀ letters ∈ digitLetters, letters.length = 6 := by decide
    exact length letters either ▸ below
  simpa [place, inside] using row

theorem decimalValue?_letter {letters : List Char} (either : letters ∈ digitLetters)
    (member : c ∈ letters) : decimalValue? c = none := by
  have table : (digitLetters.all fun letters => letters.all (decimalValue? · == none)) = true := by
    decide
  have row := List.all_eq_true.1 table letters either
  exact eq_of_beq (List.all_eq_true.1 row c member)

theorem digitValue?_eq_some_iff : digitValue? 16 c = some d ↔ HexDigit c d := by
  have lower : 'a' ≤ c ∧ c ≤ 'f' → c ∈ ['a', 'b', 'c', 'd', 'e', 'f'] :=
    fun between => mem_of_between (by decide) between.1 between.2
  have upper : 'A' ≤ c ∧ c ≤ 'F' → c ∈ ['A', 'B', 'C', 'D', 'E', 'F'] :=
    fun between => mem_of_between (by decide) between.1 between.2
  have letter {letters : List Char} (either : letters ∈ digitLetters) (member : c ∈ letters)
      (read : digitValue? 16 c = some d) : HexDigit c d := by
    obtain ⟨k, place⟩ := List.mem_iff_getElem?.1 member
    rw [digitValue?_letter either place] at read
    exact Option.some.inj read ▸ .letter either place
  constructor
  · intro read
    by_cases small : 'a' ≤ c ∧ c ≤ 'f'
    · exact letter (by simp [digitLetters]) (lower small) read
    · by_cases large : 'A' ≤ c ∧ c ≤ 'F'
      · exact letter (by simp [digitLetters]) (upper large) read
      · simp only [digitValue?, if_neg small, if_neg large, Option.filter_eq_some_iff] at read
        exact .decimal read.1
  · intro digit
    cases digit with
    | letter either place => exact digitValue?_letter either place
    | decimal value =>
      have small : ¬('a' ≤ c ∧ c ≤ 'f') := fun between => by
        simp [decimalValue?_letter (by simp [digitLetters]) (lower between)] at value
      have large : ¬('A' ≤ c ∧ c ≤ 'F') := fun between => by
        simp [decimalValue?_letter (by simp [digitLetters]) (upper between)] at value
      have below := lt_of_decimalValue? value
      simp only [digitValue?, if_neg small, if_neg large, value, Option.filter_some,
        decide_eq_true_eq]
      rw [if_pos (by omega)]

/-- What is no digit differs from every digit. -/
theorem HexDigit.ne {other : Char} (digit : HexDigit c d) (none : digitValue? 16 other = none) :
    c ≠ other := by
  rintro rfl
  rw [digitValue?_eq_some_iff.2 digit] at none
  cases none

/-- A row of digits begins with one. -/
theorem HexDigits.exists_cons (h : HexDigits text digits) :
    ∃ c d rest, HexDigit c d ∧ text = c :: rest := by
  cases h with
  | last digit | next digit _ | apart digit _ => exact ⟨_, _, _, digit, rfl⟩

theorem digitValues?_eq_some_iff : digitValues? 16 text = some digits ↔ HexDigits text digits := by
  constructor
  · fun_induction digitValues? 16 text generalizing digits with
    | case1 => simp
    | case2 c =>
      intro read
      obtain ⟨d, digit, rfl⟩ := Option.map_eq_some_iff.1 read
      exact .last (digitValue?_eq_some_iff.1 digit)
    | case3 c rest ih =>
      intro read
      simp only [Option.bind_eq_bind, Option.bind_eq_some_iff, Option.pure_def] at read
      obtain ⟨d, digit, more, later, ⟨⟩⟩ := read
      exact .apart (digitValue?_eq_some_iff.1 digit) (ih later)
    | case4 c rest _ _ ih =>
      intro read
      simp only [Option.bind_eq_bind, Option.bind_eq_some_iff, Option.pure_def] at read
      obtain ⟨d, digit, more, later, ⟨⟩⟩ := read
      exact .next (digitValue?_eq_some_iff.1 digit) (ih later)
  · intro written
    induction written with
    | last digit => rw [digitValues?, digitValue?_eq_some_iff.2 digit]; rfl
    | @next c d text digits digit rest ih =>
      obtain ⟨c', d', more, digit', rfl⟩ := rest.exists_cons
      have other : c' ≠ '_' := digit'.ne (by decide)
      rw [digitValues?.eq_4 16 c (c' :: more) (by simp) (by simp [other]),
        digitValue?_eq_some_iff.2 digit, ih]
      rfl
    | apart digit _ ih => rw [digitValues?, digitValue?_eq_some_iff.2 digit, ih]; rfl

theorem valueOfDigits_eq_ofDigits (digits : List Nat) :
    valueOfDigits 16 digits = Nat.ofDigits 16 digits.reverse := by
  rw [Nat.ofDigits_eq_foldr, List.foldr_reverse, valueOfDigits]
  simp only [Nat.cast_id, add_comm]

/-! ## Signs and marks -/

/-- Neither sign nor underscore is at the head of what follows the sign. -/
theorem BaseMark.exists_cons (marked : BaseMark mark) (written : HexDigits text digits) :
    ∃ c d rest, HexDigit c d ∧ mark ++ text = c :: rest := by
  cases marked with
  | none => exact written.exists_cons
  | joined isZero _ | apart isZero _ => exact ⟨_, _, _, .decimal isZero, rfl⟩

theorem splitSign_append (signed : SignMark sign negative) (marked : BaseMark mark)
    (written : HexDigits text digits) :
    splitSign (sign ++ (mark ++ text)) = (negative, mark ++ text) := by
  obtain ⟨c, d, rest, digit, head⟩ := marked.exists_cons written
  have minus : c ≠ '-' := digit.ne (by decide)
  have plus : c ≠ '+' := digit.ne (by decide)
  cases signed with
  | none => rw [List.nil_append, head, splitSign.eq_3 _ (by simp [minus]) (by simp [plus])]
  | plus | minus => rfl

theorem exists_signMark (text : List Char) :
    ∃ sign, SignMark sign (splitSign text).1 ∧ text = sign ++ (splitSign text).2 := by
  fun_cases splitSign text with
  | case1 rest => exact ⟨['-'], .minus, rfl⟩
  | case2 rest => exact ⟨['+'], .plus, rfl⟩
  | case3 => exact ⟨[], .none, rfl⟩

theorem isMark_iff {zero x : Char} :
    (decimalValue? zero == some 0 && (x == 'x' || x == 'X')) = true ↔
      decimalValue? zero = some 0 ∧ (x = 'x' ∨ x = 'X') := by
  simp

/-- No letter of a mark is among digits. -/
theorem HexDigits.not_isMark {zero x : Char} (written : HexDigits (zero :: x :: text) digits) :
    ¬(decimalValue? zero == some 0 && (x == 'x' || x == 'X')) = true := by
  have letter : x ≠ 'x' ∧ x ≠ 'X' := by
    cases written with
    | next _ rest =>
      obtain ⟨c, d, more, digit, head⟩ := rest.exists_cons
      obtain rfl : x = c := (List.cons.inj head).1
      exact ⟨digit.ne (by decide), digit.ne (by decide)⟩
    | apart => decide
  rw [isMark_iff]
  exact fun marked => marked.2.elim letter.1 letter.2

theorem dropHexMark_append (marked : BaseMark mark) (written : HexDigits text digits) :
    dropHexMark (mark ++ text) = text := by
  cases marked with
  | none =>
    rw [List.nil_append]
    fun_cases dropHexMark text with
    | case1 zero x isMark | case2 zero x isMark => exact absurd isMark written.not_isMark
    | case3 | case4 => rfl
  | @joined zero x isZero isX =>
    obtain ⟨c, d, rest, digit, rfl⟩ := written.exists_cons
    have underscore : c ≠ '_' := digit.ne (by decide)
    rw [List.cons_append, List.cons_append, List.nil_append,
      dropHexMark.eq_2 _ _ _ (by simp [underscore]), if_pos (isMark_iff.2 ⟨isZero, isX⟩)]
  | apart isZero isX =>
    rw [List.cons_append, List.cons_append, List.cons_append, List.nil_append, dropHexMark.eq_1,
      if_pos (isMark_iff.2 ⟨isZero, isX⟩)]

theorem exists_baseMark (text : List Char) :
    ∃ mark, BaseMark mark ∧ text = mark ++ dropHexMark text := by
  fun_cases dropHexMark text with
  | case1 zero x isMark digits =>
    obtain ⟨isZero, isX⟩ := isMark_iff.1 isMark
    exact ⟨[zero, x, '_'], .apart isZero isX, rfl⟩
  | case2 zero x isMark digits =>
    obtain ⟨isZero, isX⟩ := isMark_iff.1 isMark
    exact ⟨[zero, x], .joined isZero isX, rfl⟩
  | case3 | case4 => exact ⟨[], .none, rfl⟩

/-! ## Blanks -/

theorem dropWhile_eq_self_of_head? {drop : Char → Bool}
    (kept : ∀ c ∈ text.head?, drop c = false) : text.dropWhile drop = text := by
  cases text with
  | nil => rfl
  | cons c rest => rw [List.dropWhile_cons, kept c rfl, if_neg Bool.false_ne_true]

theorem eq_false_of_head?_dropWhile {drop : Char → Bool}
    (head : (text.dropWhile drop).head? = some c) : drop c = false := by
  have kept := List.head?_dropWhile_not drop text
  rwa [head] at kept

/-- Trimming leaves nothing at the ends to a test for fewer characters. -/
theorem trimBy_trimBy {drop fewer : Char → Bool} (weaker : ∀ c, drop c = false → fewer c = false)
    (text : List Char) : trimBy fewer (trimBy drop text) = trimBy drop text := by
  have first : ∀ c ∈ (trimBy drop text).head?, fewer c = false := by
    intro c head
    -- what is cut off at the end leaves the head where it is
    obtain ⟨rest, whole⟩ := List.rdropWhile_prefix drop (text.dropWhile drop)
    have head : (List.rdropWhile drop (text.dropWhile drop)).head? = some c := head
    have untrimmed : (text.dropWhile drop).head? = some c := by
      rw [← whole, List.head?_append, head]
      rfl
    exact weaker c (eq_false_of_head?_dropWhile untrimmed)
  have last : ∀ c ∈ (trimBy drop text).reverse.head?, fewer c = false := by
    intro c head
    rw [trimBy, List.reverse_reverse] at head
    exact weaker c (eq_false_of_head?_dropWhile head)
  rw [trimBy, dropWhile_eq_self_of_head? first, dropWhile_eq_self_of_head? last,
    List.reverse_reverse]

theorem trimBy_isNumeralBlank_trim (text : List Char) :
    trimBy isNumeralBlank (trim text) = trim text := by
  refine trimBy_trimBy (fun c kept => ?_) text
  rw [isNumeralBlank, kept, Bool.false_and]

/-! ## Numerals -/

/-- The number that is read of a text without blanks around it. -/
def numeralValue? (numeral : List Char) : Option Int := do
  let digits ← digitValues? 16 (dropHexMark (splitSign numeral).2)
  let value : Int := valueOfDigits 16 digits
  return if (splitSign numeral).1 then -value else value

theorem readHexadecimal?_eq (text : List Char) :
    readHexadecimal? text = numeralValue? (trimBy isNumeralBlank text) := rfl

theorem numeralValue?_eq_some_iff : numeralValue? text = some value ↔ HexNumeral text value := by
  have signed (negative : Bool) (magnitude : Int) :
      (if negative then -magnitude else magnitude) = (if negative then -1 else 1) * magnitude := by
    cases negative <;> simp
  simp only [numeralValue?, Option.bind_eq_bind, Option.bind_eq_some_iff, digitValues?_eq_some_iff,
    valueOfDigits_eq_ofDigits, Option.pure_def]
  constructor
  · rintro ⟨digits, written, ⟨⟩⟩
    obtain ⟨sign, signMark, whole⟩ := exists_signMark text
    obtain ⟨mark, marked, body⟩ := exists_baseMark (splitSign text).2
    have spelled := HexNumeral.spelled signMark marked written
    rw [signed]
    rwa [← body, ← whole] at spelled
  · rintro ⟨signMark, marked, written⟩
    rw [splitSign_append signMark marked written, dropHexMark_append marked written]
    exact ⟨_, written, congrArg some (signed _ _)⟩

theorem HexNumeral.unique {other : Int} (h : HexNumeral text value) (h' : HexNumeral text other) :
    value = other :=
  Option.some.inj ((numeralValue?_eq_some_iff.2 h).symm.trans (numeralValue?_eq_some_iff.2 h'))

theorem not_hexNumeral_nil (value : Int) : ¬HexNumeral [] value := by
  rw [← numeralValue?_eq_some_iff]
  simp [numeralValue?, splitSign, dropHexMark, digitValues?]

/-- Without the blanks around it, a text is read exactly when it is a numeral. -/
theorem readHexadecimal?_trim_eq_some_iff :
    readHexadecimal? (trim text) = some value ↔ HexNumeral (trim text) value := by
  rw [readHexadecimal?_eq, trimBy_isNumeralBlank_trim, numeralValue?_eq_some_iff]

end SerialMachine.Text

import Mathlib.Data.Bool.AllAny
import SerialMachine.Proofs.ImageFiles

/-!
# Hexadecimal images written otherwise

The lines of an image may be written in many ways: digits in either letter case, with zeros and a
base mark in front, with blanks around them and a comment behind, between lines that hold nothing
but blanks and comments, and with either line end. Main statement: whatever is changed of this, the
same words are read.
-/

namespace SerialMachine

namespace Text

/-! ## Numerals -/

/-- The same digits, each in either letter case. -/
def Recased (digits other : List Char) : Prop :=
  List.Forall₂ (fun d d' => d' = d.toUpper ∨ d' = d.toLower) digits other

/-- The marks that may stand in front of hexadecimal digits. -/
def hexMarks : List (List Char) := [[], ['0', 'x'], ['0', 'X']]

/-- What may be written in place of hexadecimal digits. -/
inductive Respelled (digits : List Char) : List Char → Prop
  | spelling {mark other : List Char} (zeros : Nat) (marked : mark ∈ hexMarks)
      (recased : Recased digits other) :
      Respelled digits (mark ++ (List.replicate zeros '0' ++ other))

theorem digitValue?_toUpper : ∀ c ∈ hexAlphabet,
    c.toUpper ∈ hexAlphabet ∧ digitValue? 16 c.toUpper = digitValue? 16 c :=
  List.all_iff_forall_prop.1 (by decide)

theorem digitValue?_toLower : ∀ c ∈ hexAlphabet,
    c.toLower ∈ hexAlphabet ∧ digitValue? 16 c.toLower = digitValue? 16 c :=
  List.all_iff_forall_prop.1 (by decide)

variable {text other word : List Char} {value : Nat}

/-- The letter case is nothing to the digits. -/
theorem Recased.digits (recased : Recased text other) (digits : ∀ c ∈ text, c ∈ hexAlphabet) :
    (∀ c ∈ other, c ∈ hexAlphabet) ∧
      other.filterMap (digitValue? 16) = text.filterMap (digitValue? 16) := by
  induction recased with
  | nil => exact ⟨digits, rfl⟩
  | @cons d d' text other either _ ih =>
    obtain ⟨digit, later⟩ := List.forall_mem_cons.1 digits
    obtain ⟨members, values⟩ := ih later
    have kept : d' ∈ hexAlphabet ∧ digitValue? 16 d' = digitValue? 16 d := by
      obtain rfl | rfl := either
      · exact digitValue?_toUpper d digit
      · exact digitValue?_toLower d digit
    refine ⟨List.forall_mem_cons.2 ⟨kept.1, members⟩, ?_⟩
    rw [List.filterMap_cons, List.filterMap_cons, kept.2, values]

theorem Spells.recased (h : Spells text value) (recased : Recased text other) :
    Spells other value := by
  obtain ⟨members, values⟩ := recased.digits h.mem_hexAlphabet
  refine ⟨?_, members, by rw [values, h.value_eq]⟩
  rintro rfl
  cases recased
  exact h.ne_nil rfl

/-- A base mark in front of digits changes nothing. -/
theorem readHexadecimal?_of_marked {mark : List Char} (h : Spells text value)
    (marked : mark ∈ hexMarks) : readHexadecimal? (mark ++ text) = some (value : Int) := by
  have zeroMark : ∀ x : Char, (x == 'x' || x == 'X') = true → isNumeralBlank x = false →
      readHexadecimal? ('0' :: x :: text) = some (value : Int) := by
    intro x isMark plain
    apply readHexadecimal?_of_dropHexMark h
    · intro c hc
      simp only [List.mem_cons] at hc
      obtain rfl | rfl | digit := hc
      · decide
      · exact plain
      · exact isNumeralBlank_eq_false_of_mem c (h.mem_hexAlphabet c digit)
    · rfl
    · have zero : (decimalValue? '0' == some 0) = true := by decide
      unfold dropHexMark
      simp only [zero, isMark, Bool.and_self, if_true]
      split
      · exact absurd (h.mem_hexAlphabet '_' List.mem_cons_self) (by decide)
      · rfl
  simp only [hexMarks, List.mem_cons, List.not_mem_nil, or_false] at marked
  obtain rfl | rfl | rfl := marked
  · exact readHexadecimal?_of_spells h
  · exact zeroMark 'x' (by decide) (by decide)
  · exact zeroMark 'X' (by decide) (by decide)

theorem Respelled.readHexadecimal? (respelled : Respelled text word) (h : Spells text value) :
    readHexadecimal? word = some (value : Int) := by
  cases respelled with
  | spelling zeros marked recased =>
    exact readHexadecimal?_of_marked ((h.recased recased).zeros_append zeros) marked

/-- The characters of a respelled number. -/
theorem Respelled.mem (respelled : Respelled text word) (h : Spells text value) :
    ∀ c ∈ word, c ∈ 'x' :: 'X' :: hexAlphabet := by
  cases respelled with
  | @spelling mark other zeros marked recased =>
    have digits := ((h.recased recased).zeros_append zeros).mem_hexAlphabet
    have marks : ∀ c ∈ hexMarks.flatten, c ∈ 'x' :: 'X' :: hexAlphabet :=
      List.all_iff_forall_prop.1 (by decide)
    intro c hc
    rcases List.mem_append.1 hc with inMark | digit
    · exact marks c (List.mem_flatten_of_mem marked inMark)
    · exact List.mem_cons_of_mem _ (List.mem_cons_of_mem _ (digits c digit))

theorem Respelled.ne_nil (respelled : Respelled text word) (h : Spells text value) : word ≠ [] := by
  cases respelled with
  | spelling zeros marked recased =>
    exact List.append_ne_nil_of_right_ne_nil _ ((h.recased recased).zeros_append zeros).ne_nil

/-! ## Blanks -/

/-- Blanks around a text fall away. -/
theorem trimBy_append {drop : Char → Bool} {before text after : List Char}
    (dropBefore : ∀ c ∈ before, drop c = true) (kept : ∀ c ∈ text, drop c = false)
    (dropAfter : ∀ c ∈ after, drop c = true) : trimBy drop (before ++ (text ++ after)) = text := by
  have first : text.dropWhile drop = text :=
    List.dropWhile_eq_self_iff.2 fun _ => by simp [kept]
  have last : text.reverse.dropWhile drop = text.reverse :=
    List.dropWhile_eq_self_iff.2 fun _ => by simp [kept]
  have dropAfter' : ∀ c ∈ after.reverse, drop c = true := by
    simpa only [List.mem_reverse] using dropAfter
  rw [trimBy, List.dropWhile_append_of_pos dropBefore]
  by_cases none : text = []
  · subst none
    rw [List.nil_append, List.dropWhile_eq_nil_iff.2 dropAfter]
    rfl
  · have kept : (text ++ after).dropWhile drop = text ++ after := by
      rw [List.dropWhile_append, first, if_neg (by simpa using none)]
    rw [kept, List.reverse_append, List.dropWhile_append_of_pos dropAfter', last,
      List.reverse_reverse]

/-! ## Line ends -/

/-- The ends of lines that an editor may leave. -/
def lineEnds : List (List Char) := [['\n'], ['\r', '\n']]

theorem lines_lineEnd {ending : List Char} (ends : ending ∈ lineEnds) (rest : List Char) :
    lines (ending ++ rest) = [] :: lines rest := by
  simp only [lineEnds, List.mem_cons, List.not_mem_nil, or_false] at ends
  obtain rfl | rfl := ends <;> rfl

end Text

namespace Image.Hexadecimal

open Bits (keep)
open Text (Respelled Spells lineEnds hexAlphabet)

/-- Nothing but spaces and tabs. -/
def Margin (text : List Char) : Prop :=
  ∀ c ∈ text, c = ' ' ∨ c = '\t'

/-- Nothing, or a comment that stays on its line. -/
inductive Remark : List Char → Prop
  | none : Remark []
  | comment {mark : Char} {text : List Char} (begins : mark = '#' ∨ mark = ';')
      (inside : ∀ c ∈ text, Text.isLineEnd c = false) : Remark (mark :: text)

/-- A line without a word. -/
inductive Filler : List Char → Prop
  | blank {margin remark : List Char} (blank : Margin margin) (comment : Remark remark) :
      Filler (margin ++ remark)

/-- A line with a number that is spelled in place of the given digits. -/
inductive Holds (digits : List Char) : List Char → Prop
  | number {before word after remark : List Char} (left : Margin before)
      (respelled : Respelled digits word) (right : Margin after) (comment : Remark remark) :
      Holds digits (before ++ (word ++ after) ++ remark)

/-- What lines of digits may have become: each a line that holds them, and other lines among
these. -/
inductive Edited : List (List Char) → List Char → Prop
  | nil : Edited [] []
  | filler {lines : List (List Char)} {line ending text : List Char} (filler : Filler line)
      (ends : ending ∈ lineEnds) (rest : Edited lines text) :
      Edited lines (line ++ (ending ++ text))
  | word {lines : List (List Char)} {digits line ending text : List Char}
      (holds : Holds digits line) (ends : ending ∈ lineEnds) (rest : Edited lines text) :
      Edited (digits :: lines) (line ++ (ending ++ text))

/-! ## Lines -/

/-- No line end, no comment and no blank is in a respelled number. -/
theorem plain_of_mem : ∀ c ∈ 'x' :: 'X' :: hexAlphabet,
    Text.isLineEnd c = false ∧ beginsComment c = false ∧ Text.isBlank c = false :=
  List.all_iff_forall_prop.1 (by decide)

theorem Margin.plain {margin : List Char} (h : Margin margin) : ∀ c ∈ margin,
    Text.isLineEnd c = false ∧ beginsComment c = false ∧ Text.isBlank c = true := by
  intro c hc
  obtain rfl | rfl := h c hc <;> decide

theorem Remark.whole {remark : List Char} (h : Remark remark) :
    ∀ c ∈ remark, Text.isLineEnd c = false := by
  cases h with
  | none => simp
  | @comment mark text begins inside =>
    have mark : Text.isLineEnd mark = false := by obtain rfl | rfl := begins <;> decide
    exact List.forall_mem_cons.2 ⟨mark, inside⟩

theorem Remark.takeWhile_eq_nil {remark : List Char} (h : Remark remark) :
    remark.takeWhile (fun c => !beginsComment c) = [] := by
  cases h with
  | none => rfl
  | comment begins => obtain rfl | rfl := begins <;> rfl

section Parts

variable {before word after remark : List Char} (left : Margin before)
  (plain : ∀ c ∈ word, c ∈ 'x' :: 'X' :: hexAlphabet) (right : Margin after)
  (comment : Remark remark)
include left plain right comment

/-- A line holds what stands between its margins and in front of the comment. -/
theorem content_append : content (before ++ (word ++ after) ++ remark) = word := by
  have code : ∀ c ∈ before ++ (word ++ after), (!beginsComment c) = true := by
    intro c hc
    rw [Bool.not_eq_true']
    simp only [List.mem_append] at hc
    obtain inside | inside | inside := hc
    · exact (left.plain c inside).2.1
    · exact (plain_of_mem c (plain c inside)).2.1
    · exact (right.plain c inside).2.1
  rw [content, List.takeWhile_append_of_pos code, comment.takeWhile_eq_nil, List.append_nil]
  apply Text.trimBy_append
  · exact fun c hc => (left.plain c hc).2.2
  · exact fun c hc => (plain_of_mem c (plain c hc)).2.2
  · exact fun c hc => (right.plain c hc).2.2

theorem whole_append : ∀ c ∈ before ++ (word ++ after) ++ remark, Text.isLineEnd c = false := by
  intro c hc
  simp only [List.mem_append, or_assoc] at hc
  obtain inside | inside | inside | inside := hc
  · exact (left.plain c inside).1
  · exact (plain_of_mem c (plain c inside)).1
  · exact (right.plain c inside).1
  · exact comment.whole c inside

end Parts

variable {n : Nat} {value : Int} {digits line text : List Char} {lines : List (List Char)}
  {values : List Int}

theorem Filler.reads (h : Filler line) :
    (∀ c ∈ line, Text.isLineEnd c = false) ∧ word? n line = .ok none := by
  cases h with
  | @blank margin remark blank comment =>
    have nowhere : Margin [] := fun c hc => absurd hc List.not_mem_nil
    have empty : ∀ c ∈ [], c ∈ 'x' :: 'X' :: hexAlphabet := fun c hc => absurd hc List.not_mem_nil
    have whole := whole_append blank empty nowhere comment
    have none := content_append blank empty nowhere comment
    rw [List.append_nil, List.append_nil] at whole none
    refine ⟨whole, ?_⟩
    unfold word?
    rw [none]

theorem Holds.reads (h : Holds digits line) (spells : Spells digits value.toNat)
    (fits : Word.Fits n value) :
    (∀ c ∈ line, Text.isLineEnd c = false) ∧ word? n line = .ok (some value) := by
  cases h with
  | @number before word after remark left respelled right comment =>
    have plain := respelled.mem spells
    have inside : ¬(value < 0 ∨ Word.mask n < value) := by
      have below : value < Bits.weight n := fits.2
      rw [Word.mask]
      have natural := fits.1
      omega
    refine ⟨whole_append left plain right comment, ?_⟩
    unfold word?
    rw [content_append left plain right comment]
    split
    · exact absurd rfl (respelled.ne_nil spells)
    · rw [respelled.readHexadecimal? spells, Int.toNat_of_nonneg fits.1]
      exact if_neg inside

/-- The words of edited lines are those that the lines spell. -/
theorem words_of_edited (edited : Edited lines text) (file : Option String)
    (spelled : List.Forall₂ (fun digits value => Spells digits value.toNat ∧ Word.Fits n value)
      lines values) (number : Nat) :
    words n file number (Text.lines text) = .ok values := by
  induction edited generalizing values number with
  | nil =>
    cases spelled
    rfl
  | filler filler ends _ ih =>
    -- only the number of the next line changes, which matters to errors alone
    obtain ⟨whole, none⟩ := filler.reads
    rw [Text.lines_append whole (Text.lines_lineEnd ends _), words, none]
    exact ih spelled (number + 1)
  | word holds ends _ ih =>
    cases spelled with
    | cons first rest =>
      obtain ⟨whole, some⟩ := holds.reads first.1 first.2
      rw [Text.lines_append whole (Text.lines_lineEnd ends _), words, some]
      simp only [ih rest, Functor.map, Except.map]

variable {host : Host} {width : Int} {ws : List Int}

/-- The lines of an image spell its words. -/
theorem spelled_written (n : Nat) (ws : List Int) :
    List.Forall₂ (fun digits value => Spells digits value.toNat ∧ Word.Fits n value)
      (Text.lines (written n ws)) (ws.map (keep n)) := by
  rw [lines_written, List.forall₂_map_left_iff, List.forall₂_map_right_iff, List.forall₂_same]
  exact fun word _ => ⟨spells_spell n word, Bits.fits_keep n word⟩

/-- Words are read back from their image however its lines are edited; where they have no image, the
host has no room for a word. -/
theorem parse_edited (host : Host) (positive : 1 ≤ width) (file : Option String)
    (ws : List Int) :
    match format host width ws with
    | .ok image => ∀ text : String, Edited (Text.lines image.toList) text.toList →
        parse host width file text = .ok (ws.map (· % 2 ^ width.toNat))
    | .error cause => host.bits ≤ width ∧ cause.overtaxesHost = true := by
  split
  · next image written =>
    intro text edited
    obtain ⟨small, rfl⟩ := (format_eq_ok_iff (by omega)).1 written
    rw [String.toList_ofList] at edited
    have read := words_of_edited edited file (spelled_written width.toNat ws) 1
    simp only [parse, (AnyWidth.roomy_zero_eq_ok_iff (by omega : 0 ≤ width)).2 ⟨small, rfl⟩,
      Except.mapError, bind, Except.bind, read]
    exact congrArg _ (List.map_congr_left fun word _ => Bits.keep_eq_emod width.toNat word)
  · next cause refused =>
    exact AnyWidth.overtaxesHost_of_roomy_zero (by omega) (map_eq_error_iff.1 refused)

/-- An image of two words, and what an editor has made of it. -/
theorem parse_edited_eleven :
    format {} 11 [-1, 7] = .ok "7FF\n007\n" ∧
      parse {} 11 none "; two\r\n\t0x07fF ;a # b\n\n0X007\t#\r\n" = .ok [0x7FF, 7] := by
  have written : format {} 11 [-1, 7] = .ok "7FF\n007\n" := by decide +kernel
  have lines : Text.lines "7FF\n007\n".toList = [['7', 'F', 'F'], ['0', '0', '7']] := by
    decide +kernel
  have pieces : "; two\r\n\t0x07fF ;a # b\n\n0X007\t#\r\n".toList =
      [] ++ ';' :: " two".toList ++ (['\r', '\n'] ++
        (['\t'] ++ (['0', 'x'] ++ (List.replicate 1 '0' ++ ['7', 'f', 'F']) ++ [' ']) ++
          ';' :: "a # b".toList ++ (['\n'] ++
        ([] ++ [] ++ (['\n'] ++
        ([] ++ (['0', 'X'] ++ (List.replicate 0 '0' ++ ['0', '0', '7']) ++ ['\t']) ++ ['#'] ++
          (['\r', '\n'] ++ []))))))) := by
    decide +kernel
  have mark : Remark ['#'] := .comment (Or.inl rfl) (by simp)
  have two : Filler ([] ++ ';' :: " two".toList) :=
    .blank (by simp [Margin]) (.comment (Or.inr rfl) (List.all_iff_forall_prop.1 (by decide)))
  have first : Respelled ['7', 'F', 'F']
      (['0', 'x'] ++ (List.replicate 1 '0' ++ ['7', 'f', 'F'])) :=
    .spelling 1 (by simp [Text.hexMarks]) (by simp [Text.Recased])
  have second : Respelled ['0', '0', '7']
      (['0', 'X'] ++ (List.replicate 0 '0' ++ ['0', '0', '7'])) :=
    .spelling 0 (by simp [Text.hexMarks]) (by simp [Text.Recased])
  have tab : Margin ['\t'] := by simp [Margin]
  have edited : Edited [['7', 'F', 'F'], ['0', '0', '7']]
      "; two\r\n\t0x07fF ;a # b\n\n0X007\t#\r\n".toList := by
    rw [pieces]
    apply Edited.filler two (by simp [lineEnds])
    apply Edited.word (.number tab first (by simp [Margin]) ?_) (by simp [lineEnds])
    · apply Edited.filler (.blank (by simp [Margin]) .none) (by simp [lineEnds])
      exact .word (.number (by simp [Margin]) second tab mark) (by simp [lineEnds]) .nil
    · exact .comment (Or.inr rfl) (List.all_iff_forall_prop.1 (by decide))
  have read := parse_edited {} (by decide : (1 : Int) ≤ 11) none [-1, 7]
  rw [written] at read
  exact ⟨written, read _ (lines ▸ edited)⟩

end Image.Hexadecimal

end SerialMachine

import SerialMachine.Proofs.ImageFiles
import SerialMachine.Proofs.NumeralGrammar

/-!
# The grammar of hexadecimal images

A text is cut at the boundaries of lines, each line at its comment, and what remains without the
blanks around it is nothing or has to be a numeral. Main statement: a text is accepted exactly when
every remainder is the numeral of a word, and those are the words that are read; any other text is
refused for the first line at fault, with the number of that line among all lines.
-/

namespace SerialMachine

namespace Text

/-! ## Line boundaries -/

/-- What ends a line: a character that does, or the pair `\r\n`. -/
inductive LineBoundary : List Char → Prop
  | single {c : Char} (ends : c.toNat ∈
      [0x0A, 0x0B, 0x0C, 0x0D, 0x1C, 0x1D, 0x1E, 0x85, 0x2028, 0x2029]) : LineBoundary [c]
  | pair : LineBoundary ['\r', '\n']

/-- The lines of a text that is cut at every boundary; a pair is not cut in two, and a last line
without an end counts when it is not empty. -/
inductive Cut : List Char → List (List Char) → Prop
  | empty : Cut [] []
  | last {line : List Char} (some : line ≠ []) (whole : ∀ c ∈ line, ¬LineBoundary [c]) :
      Cut line [line]
  | ended {line boundary rest : List Char} {lines : List (List Char)}
      (whole : ∀ c ∈ line, ¬LineBoundary [c]) (ends : LineBoundary boundary)
      (apart : ¬(boundary = ['\r'] ∧ rest.head? = some '\n')) (cut : Cut rest lines) :
      Cut (line ++ (boundary ++ rest)) (line :: lines)

variable {c : Char} {line boundary text rest : List Char} {cuts : List (List Char)}

theorem isLineEnd_iff : isLineEnd c = true ↔ LineBoundary [c] := by
  have ends : isLineEnd c = true ↔ c.toNat ∈
      [0x0A, 0x0B, 0x0C, 0x0D, 0x1C, 0x1D, 0x1E, 0x85, 0x2028, 0x2029] := by
    simp only [isLineEnd, Bool.or_eq_true, Bool.and_eq_true, decide_eq_true_eq, beq_iff_eq,
      List.mem_cons, List.not_mem_nil, or_false]
    omega
  rw [ends]
  constructor
  · exact .single
  · rintro ⟨member⟩
    exact member

theorem isLineEnd_eq_false_iff : isLineEnd c = false ↔ ¬LineBoundary [c] := by
  rw [← isLineEnd_iff, Bool.not_eq_true]

theorem lines_boundary (ends : LineBoundary boundary)
    (apart : ¬(boundary = ['\r'] ∧ rest.head? = some '\n')) :
    lines (boundary ++ rest) = [] :: lines rest := by
  cases ends with
  | pair => rfl
  | @single c member =>
    have ends : isLineEnd c = true := isLineEnd_iff.2 (.single member)
    rw [List.singleton_append, lines.eq_3 c rest, if_pos ends]
    rintro more rfl rfl
    exact apart ⟨rfl, rfl⟩

/-- A text without a boundary is one line, if anything. -/
theorem lines_whole (some : line ≠ []) (whole : ∀ c ∈ line, ¬LineBoundary [c]) :
    lines line = [line] := by
  induction line with
  | nil => exact absurd rfl some
  | cons c line ih =>
    obtain ⟨inner, whole⟩ := List.forall_mem_cons.1 whole
    rw [← isLineEnd_eq_false_iff] at inner
    have other : c ≠ '\r' := fun same => by
      subst same
      exact absurd inner (by decide)
    rw [lines.eq_3 c line (by simp [other]), inner, if_neg Bool.false_ne_true]
    cases line with
    | nil => rfl
    | cons next line => rw [ih (List.cons_ne_nil _ _) whole]

theorem lines_ended (whole : ∀ c ∈ line, ¬LineBoundary [c]) (ends : LineBoundary boundary)
    (apart : ¬(boundary = ['\r'] ∧ rest.head? = some '\n')) :
    lines (line ++ (boundary ++ rest)) = line :: lines rest :=
  lines_append (fun c hc => isLineEnd_eq_false_iff.2 (whole c hc)) (lines_boundary ends apart)

theorem Cut.lines_eq (cut : Cut text cuts) : lines text = cuts := by
  induction cut with
  | empty => rfl
  | last some whole => exact lines_whole some whole
  | ended whole ends apart _ ih => rw [lines_ended whole ends apart, ih]

theorem Cut.cons (cut : Cut text (line :: cuts)) (inner : ¬LineBoundary [c]) :
    Cut (c :: text) ((c :: line) :: cuts) := by
  cases cut with
  | last some whole => exact .last (List.cons_ne_nil _ _) (List.forall_mem_cons.2 ⟨inner, whole⟩)
  | ended whole ends apart cut =>
    exact .ended (List.forall_mem_cons.2 ⟨inner, whole⟩) ends apart cut

theorem cut_lines (text : List Char) : Cut text (lines text) := by
  fun_induction lines text with
  | case1 => exact .empty
  | case2 rest ih => exact .ended (List.forall_mem_nil _) .pair (by simp) ih
  | case3 c rest together ends ih =>
    refine .ended (List.forall_mem_nil _) (isLineEnd_iff.1 ends) ?_ ih
    rintro ⟨same, head⟩
    obtain ⟨more, rfl⟩ := List.head?_eq_some_iff.1 head
    exact together more (List.singleton_inj.1 same) rfl
  | case4 c rest _ inner none ih =>
    have inner : ¬LineBoundary [c] := isLineEnd_eq_false_iff.1 (Bool.eq_false_iff.2 inner)
    rw [none] at ih
    cases ih
    exact .last (List.cons_ne_nil _ _) (by simpa using inner)
  | case5 c rest _ inner line more some ih =>
    rw [some] at ih
    exact ih.cons (isLineEnd_eq_false_iff.1 (Bool.eq_false_iff.2 inner))

end Text

namespace Image.Hexadecimal

open Text (Cut HexNumeral not_hexNumeral_nil)

/-- What lines hold, as far as they hold anything. -/
def remainders (text : String) : List (List Char) :=
  ((Text.lines text.toList).map content).filter (· ≠ [])

/-- A numeral that spells a word of `n` bits. -/
def Spelled (n : Nat) (numeral : List Char) (word : Int) : Prop :=
  HexNumeral numeral word ∧ 0 ≤ word ∧ word < 2 ^ n

/-- What is wrong with a line. -/
inductive Flawed (n : Nat) (line : List Char) : ImageFlaw → Prop
  | notNumeral (some : content line ≠ []) (none : ∀ value, ¬HexNumeral (content line) value) :
      Flawed n line (.notNumeral (String.ofList (content line)))
  | wideWord {value : Int} (numeral : HexNumeral (content line) value)
      (outside : ¬(0 ≤ value ∧ value < 2 ^ n)) : Flawed n line (.wideWord value n)

/-- The line of the given number, counted from one, is the first at fault. -/
inductive FirstFlawed (n : Nat) (lines : List (List Char)) : Nat → ImageFlaw → Prop
  | found {before after : List (List Char)} {line : List Char} {flaw : ImageFlaw}
      (place : lines = before ++ line :: after)
      (sound : ∀ earlier ∈ before, ∀ flaw, ¬Flawed n earlier flaw) (flawed : Flawed n line flaw) :
      FirstFlawed n lines (before.length + 1) flaw

/-- What reading a text as words of `width` bits comes to on a host. -/
inductive Judged (host : Host) (width : Int) (file : Option String) (text : String) :
    Except ImageFailure (List Int) → Prop
  /-- Every line that holds anything holds the numeral of a word. -/
  | accepted {ws : List Int}
      (spelled : List.Forall₂ (Spelled width.toNat) (remainders text) ws) :
      Judged host width file text (.ok ws)
  /-- A line is at fault. -/
  | rejected {lines : List (List Char)} {number : Nat} {flaw : ImageFlaw}
      (cut : Cut text.toList lines) (first : FirstFlawed width.toNat lines number flaw) :
      Judged host width file text (.error (.malformed { flaw, file, line := some (number : Int) }))
  /-- The host has no room for a word of the width. -/
  | cramped {cause : InvalidValue} (large : host.bits ≤ width)
      (overtaxes : cause.overtaxesHost = true) : Judged host width file text (.error (.width cause))

/-! ## Lines -/

variable {n : Nat} {line : List Char} {word : Int} {flaw : ImageFlaw}

theorem outside_iff : word < 0 ∨ Word.mask n < word ↔ ¬(0 ≤ word ∧ word < 2 ^ n) := by
  rw [Word.mask, Bits.weight_eq_two_pow]
  omega

theorem readHexadecimal?_content :
    Text.readHexadecimal? (content line) = some word ↔ HexNumeral (content line) word :=
  Text.readHexadecimal?_trim_eq_some_iff

theorem word?_of_blank (blank : content line = []) : word? n line = .ok none := by
  unfold word?
  rw [blank]

theorem word?_of_filled (filled : content line ≠ []) :
    word? n line =
      match Text.readHexadecimal? (content line) with
      | none => .error (.notNumeral (String.ofList (content line)))
      | some word =>
        if word < 0 ∨ Word.mask n < word then .error (.wideWord word n) else .ok (some word) := by
  unfold word?
  split
  · next blank => exact absurd blank filled
  · rfl

theorem word?_of_spelled (spelled : Spelled n (content line) word) :
    word? n line = .ok (some word) := by
  have filled : content line ≠ [] := fun blank => not_hexNumeral_nil word (blank ▸ spelled.1)
  rw [word?_of_filled filled, readHexadecimal?_content.2 spelled.1]
  exact if_neg fun outside => outside_iff.1 outside spelled.2

theorem word?_of_flawed (flawed : Flawed n line flaw) : word? n line = .error flaw := by
  cases flawed with
  | notNumeral filled none =>
    have unread : Text.readHexadecimal? (content line) = .none :=
      Option.eq_none_iff_forall_ne_some.2 fun value read =>
        none value (readHexadecimal?_content.1 read)
    rw [word?_of_filled filled, unread]
  | @wideWord value numeral outside =>
    have filled : content line ≠ [] := fun blank => not_hexNumeral_nil value (blank ▸ numeral)
    rw [word?_of_filled filled, readHexadecimal?_content.2 numeral]
    exact if_pos (outside_iff.2 outside)

/-- A line holds nothing, a word or a flaw. -/
theorem blank_or_spelled_or_flawed (n : Nat) (line : List Char) :
    content line = [] ∨ (∃ word, Spelled n (content line) word) ∨ ∃ flaw, Flawed n line flaw := by
  by_cases blank : content line = []
  · exact Or.inl blank
  · by_cases numeral : ∃ value, HexNumeral (content line) value
    · obtain ⟨value, numeral⟩ := numeral
      by_cases inside : 0 ≤ value ∧ value < 2 ^ n
      · exact Or.inr (Or.inl ⟨value, numeral, inside⟩)
      · exact Or.inr (Or.inr ⟨_, .wideWord numeral inside⟩)
    · exact Or.inr (Or.inr ⟨_, .notNumeral blank (not_exists.1 numeral)⟩)

theorem not_flawed_of_ok {found : Option Int} (read : word? n line = .ok found) :
    ¬Flawed n line flaw := by
  intro flawed
  rw [word?_of_flawed flawed] at read
  cases read

variable {file : Option String} {lines rest : List (List Char)} {ws : List Int} {number : Nat}

theorem FirstFlawed.cons (first : FirstFlawed n rest number flaw)
    (sound : ∀ flaw, ¬Flawed n line flaw) : FirstFlawed n (line :: rest) (number + 1) flaw := by
  obtain @⟨before, after, faulty, _, rfl, earlier, flawed⟩ := first
  have place : line :: (before ++ faulty :: after) = (line :: before) ++ faulty :: after := rfl
  exact .found place (List.forall_mem_cons.2 ⟨sound, earlier⟩) flawed

/-- Lines are read when all that hold anything spell words; else the first at fault is reported. -/
theorem words_cases (n : Nat) (file : Option String) (passed : Nat) (lines : List (List Char)) :
    (∃ ws, List.Forall₂ (Spelled n) ((lines.map content).filter (· ≠ [])) ws ∧
        words n file (passed + 1) lines = .ok ws) ∨
      ∃ number flaw, FirstFlawed n lines number flaw ∧
        words n file (passed + 1) lines =
          .error { flaw, file, line := some ((passed + number : Nat) : Int) } := by
  induction lines generalizing passed with
  | nil => exact Or.inl ⟨[], .nil, rfl⟩
  | cons line rest ih =>
    obtain blank | ⟨word, spelled⟩ | ⟨flaw, flawed⟩ := blank_or_spelled_or_flawed n line
    · have sound (flaw) : ¬Flawed n line flaw := not_flawed_of_ok (word?_of_blank blank)
      rw [List.map_cons, List.filter_cons_of_neg (by simpa using blank), words,
        word?_of_blank blank]
      obtain ⟨ws, spelled, read⟩ | ⟨number, flaw, first, refused⟩ := ih (passed + 1)
      · exact Or.inl ⟨ws, spelled, read⟩
      · refine Or.inr ⟨number + 1, flaw, first.cons sound, ?_⟩
        rw [refused, Nat.add_right_comm, Nat.add_assoc]
    · have sound (flaw) : ¬Flawed n line flaw := not_flawed_of_ok (word?_of_spelled spelled)
      have filled : content line ≠ [] := fun blank => not_hexNumeral_nil word (blank ▸ spelled.1)
      rw [List.map_cons, List.filter_cons_of_pos (by simpa using filled), words,
        word?_of_spelled spelled]
      obtain ⟨ws, later, read⟩ | ⟨number, flaw, first, refused⟩ := ih (passed + 1)
      · exact Or.inl ⟨word :: ws, .cons spelled later, by rw [read]; rfl⟩
      · refine Or.inr ⟨number + 1, flaw, first.cons sound, ?_⟩
        rw [refused, Nat.add_right_comm, Nat.add_assoc]
        rfl
    · have place : line :: rest = [] ++ line :: rest := rfl
      refine Or.inr ⟨1, flaw, .found place (List.forall_mem_nil _) flawed, ?_⟩
      rw [words, word?_of_flawed flawed]

/-! ## Texts -/

variable {host : Host} {width : Int} {text : String}

theorem judged_parse (natural : 0 ≤ width) (host : Host) (file : Option String) (text : String) :
    Judged host width file text (parse host width file text) := by
  unfold parse
  cases room : AnyWidth.roomy host 0 width with
  | error cause =>
    obtain ⟨large, overtaxes⟩ := AnyWidth.overtaxesHost_of_roomy_zero natural room
    exact .cramped large overtaxes
  | ok n =>
    obtain ⟨-, rfl⟩ := (AnyWidth.roomy_zero_eq_ok_iff natural).1 room
    simp only [Except.mapError, bind, Except.bind]
    obtain ⟨ws, spelled, read⟩ | ⟨number, flaw, first, refused⟩ :=
      words_cases width.toNat file 0 (Text.lines text.toList)
    · rw [Nat.zero_add] at read
      rw [read]
      exact .accepted spelled
    · rw [Nat.zero_add, Nat.zero_add] at refused
      rw [refused]
      exact .rejected (Text.cut_lines _) first

/-- No text is both the numeral of a word and at fault. -/
theorem Spelled.not_flawed (spelled : Spelled n (content line) word) : ¬Flawed n line flaw :=
  not_flawed_of_ok (word?_of_spelled spelled)

theorem Spelled.unique : Relator.RightUnique (Spelled n) :=
  fun _ _ _ h h' => h.1.unique h'.1

/-- A line at fault holds something. -/
theorem Flawed.mem_remainders (flawed : Flawed n line flaw)
    (member : line ∈ Text.lines text.toList) : content line ∈ remainders text := by
  have filled : content line ≠ [] := by
    cases flawed with
    | notNumeral filled => exact filled
    | @wideWord value numeral => exact fun blank => not_hexNumeral_nil value (blank ▸ numeral)
  exact List.mem_filter.2 ⟨List.mem_map_of_mem member, by simpa using filled⟩

theorem FirstFlawed.exists_mem_remainders {number : Nat}
    (first : FirstFlawed n (Text.lines text.toList) number flaw) :
    ∃ numeral ∈ remainders text, ∀ word, ¬Spelled n numeral word := by
  generalize cut : Text.lines text.toList = lines at first
  obtain ⟨rfl, -, flawed⟩ := first
  exact ⟨_, flawed.mem_remainders (by rw [cut]; simp),
    fun word spelled => spelled.not_flawed flawed⟩

theorem exists_spelled {numerals : List (List Char)}
    (spelled : List.Forall₂ (Spelled n) numerals ws) :
    ∀ numeral ∈ numerals, ∃ word, Spelled n numeral word :=
  ((List.forall₂_and_left numerals ws).1 (spelled.imp fun _ word first => ⟨⟨word, first⟩, first⟩)).1

/-- How a text is read as words of `width` bits on a host. -/
structure Reads (host : Host) (width : Int) (file : Option String) (text : String) : Prop where
  lines : Cut text.toList (Text.lines text.toList)
  /-- When the text is read, and as which words, unless it is refused because the host has no room
  for a word. -/
  accepts :
    (host.bits ≤ width ∧ ∃ cause, parse host width file text = .error (.width cause) ∧
      cause.overtaxesHost = true) ∨
    (((∃ ws, parse host width file text = .ok ws) ↔
        ∀ numeral ∈ remainders text, ∃ word, Spelled width.toNat numeral word) ∧
      ∀ ws, parse host width file text = .ok ws ↔
        List.Forall₂ (Spelled width.toNat) (remainders text) ws)
  judged : Judged host width file text (parse host width file text)

theorem Judged.accepts {result : Except ImageFailure (List Int)}
    (judged : Judged host width file text result) :
    (host.bits ≤ width ∧ ∃ cause, result = .error (.width cause) ∧ cause.overtaxesHost = true) ∨
    (((∃ ws, result = .ok ws) ↔
        ∀ numeral ∈ remainders text, ∃ word, Spelled width.toNat numeral word) ∧
      ∀ ws, result = .ok ws ↔ List.Forall₂ (Spelled width.toNat) (remainders text) ws) := by
  cases judged with
  | @accepted ws spelled =>
    refine .inr ⟨⟨fun _ => exists_spelled spelled, fun _ => ⟨ws, rfl⟩⟩, fun other => ?_⟩
    constructor
    · rintro ⟨⟩
      exact spelled
    · intro spelled'
      rw [Spelled.unique.forall₂ spelled spelled']
  | rejected cut first =>
    obtain ⟨numeral, member, none⟩ := (cut.lines_eq ▸ first).exists_mem_remainders
    have unspelled : ¬∃ word, Spelled width.toNat numeral word := not_exists.2 none
    refine .inr ⟨?_, fun ws => ?_⟩
    · simp only [reduceCtorEq, exists_false, false_iff]
      exact fun spelled => unspelled (spelled numeral member)
    · simp only [reduceCtorEq, false_iff]
      exact fun spelled => unspelled (exists_spelled spelled numeral member)
  | cramped large overtaxes => exact .inl ⟨large, _, rfl, overtaxes⟩

/-- Whatever the text and the width, exactly the grammar of images is read, and a text outside of it
is refused for its first line at fault. -/
theorem reads_exactly (host : Host) (positive : 1 ≤ width) (file : Option String)
    (text : String) : Reads host width file text where
  lines := Text.cut_lines text.toList
  accepts := (judged_parse (by omega) host file text).accepts
  judged := judged_parse (by omega) host file text

/-- The numeral on the third line has a value, but not one of eleven bits; lines that hold nothing
count, and so does one that a form feed ends. -/
theorem reads_exactly_eleven :
    Reads {} 11 (some "a.hex") "-0x_0 # zero\x0c;\n8_00" ∧
      parse {} 11 (some "a.hex") "-0x_0 # zero\x0c;\n7_ff" = .ok [0, 0x7FF] ∧
      parse {} 11 (some "a.hex") "-0x_0 # zero\x0c;\n8_00" =
        .error (.malformed { flaw := .wideWord 0x800 11, file := some "a.hex", line := some 3 }) :=
  ⟨reads_exactly {} (by decide) (some "a.hex") _, by decide +kernel, by decide +kernel⟩

end Image.Hexadecimal

end SerialMachine

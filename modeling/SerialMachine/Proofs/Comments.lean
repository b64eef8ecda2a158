import SerialMachine.Proofs.TextImages

/-!
# Comments

A comment goes as far as its line, whatever ends the line. Main statement: without a comment a text
is read as it is with it, words and errors alike. Only where nothing but the comment keeps a `\r`
apart from a `\n` are there fewer lines without it, and what is wrong behind it is reported one line
earlier.
-/

namespace SerialMachine

namespace Text

variable {c : Char} {line boundary before rest : List Char} {cuts : List (List Char)}

theorem exists_lines_cons (ends : LineBoundary [c]) (rest : List Char) :
    ∃ more, lines (c :: rest) = [] :: more := by
  by_cases together : [c] = ['\r'] ∧ rest.head? = some '\n'
  · obtain ⟨⟨⟩, head⟩ := together
    obtain ⟨more, rfl⟩ := List.head?_eq_some_iff.1 head
    exact ⟨_, rfl⟩
  · exact ⟨_, lines_boundary ends together⟩

/-- The lines in front of a `\r` are the same whether a `\n` belongs to it or not. -/
theorem Cut.lines_return (cut : Cut before cuts)
    (ends : boundary = ['\r'] ∨ boundary = ['\r', '\n'])
    (apart : ¬(boundary = ['\r'] ∧ rest.head? = some '\n')) :
    lines (before ++ (boundary ++ rest)) = lines (before ++ ['\r']) ++ lines rest := by
  have returns : LineBoundary ['\r'] := isLineEnd_iff.1 rfl
  have bounds : LineBoundary boundary := by
    obtain rfl | rfl := ends
    · exact returns
    · exact .pair
  have alone : ¬(['\r'] = ['\r'] ∧ ([] : List Char).head? = some '\n') := by simp
  induction cut with
  | empty =>
    rw [List.nil_append, lines_boundary bounds apart]
    rfl
  | last some whole =>
    have ended := lines_ended whole returns alone
    rw [List.append_nil] at ended
    rw [lines_ended whole bounds apart, ended]
    rfl
  | @ended line boundary' rest' cuts whole ends' apart' cut ih =>
    -- the cut in front stays where it is, since no `\n` comes to stand behind it
    have apart (tail : List Char) :
        ¬(boundary' = ['\r'] ∧ (rest' ++ '\r' :: tail).head? = some '\n') := by
      rintro ⟨same, head⟩
      cases rest' with
      | nil => simp at head
      | cons c more => exact apart' ⟨same, head⟩
    obtain ⟨tail, whole_tail⟩ : ∃ tail, boundary ++ rest = '\r' :: tail := by
      obtain rfl | rfl := ends <;> exact ⟨_, rfl⟩
    rw [List.append_assoc, List.append_assoc, List.append_assoc, List.append_assoc,
      lines_ended whole ends' (apart []), lines_ended whole ends' (whole_tail ▸ apart tail), ih,
      List.cons_append]

end Text

/-- The error when there is a line more behind the first `count`. -/
def ImageError.withLineBehind (count : Nat) (e : ImageError) : ImageError :=
  { e with line := e.line.map fun number : Int => if number ≤ count then number else number + 1 }

/-- The failure when there is a line more behind the first `count`. -/
def ImageFailure.withLineBehind (count : Nat) : ImageFailure → ImageFailure
  | .malformed e => .malformed (e.withLineBehind count)
  | failure => failure

namespace Image.Hexadecimal

open Text (LineBoundary lines_ended lines_boundary lines_whole)

variable {n : Nat} {file : Option String} {line before comment after : List Char} {mark : Char}

/-! ## Lines without their comments -/

/-- The same contents line by line; one list may have a last line more that holds nothing. -/
inductive SameContents : List (List Char) → List (List Char) → Prop
  | nil : SameContents [] []
  | blank {line : List Char} (blank : content line = []) : SameContents [line] []
  | cons {line other : List Char} {lines others : List (List Char)}
      (same : content line = content other) (rest : SameContents lines others) :
      SameContents (line :: lines) (other :: others)

theorem SameContents.refl : ∀ lines : List (List Char), SameContents lines lines
  | [] => .nil
  | _ :: lines => .cons rfl (SameContents.refl lines)

/-- Of a line nothing but what it holds is looked at. -/
theorem SameContents.words_eq {lines others : List (List Char)} (same : SameContents lines others)
    (number : Nat) : words n file number lines = words n file number others := by
  induction same generalizing number with
  | nil => rfl
  | blank blank => simp only [words, word?_of_blank blank]
  | @cons line other _ _ same _ ih =>
    have word : word? n line = word? n other := by rw [word?, same, word?]
    rw [words, words, word, ih]

theorem not_lineBoundary_of_begins (begins : mark = '#' ∨ mark = ';') : ¬LineBoundary [mark] := by
  rw [← Text.isLineEnd_eq_false_iff]
  obtain rfl | rfl := begins <;> rfl

theorem content_comment (begins : mark = '#' ∨ mark = ';') :
    content (line ++ mark :: comment) = content line := by
  have stops : (!beginsComment mark) = false := by obtain rfl | rfl := begins <;> rfl
  have cut : (line ++ mark :: comment).takeWhile (fun c => !beginsComment c) =
      line.takeWhile fun c => !beginsComment c := by
    induction line with
    | nil => rw [List.nil_append, List.takeWhile_cons_of_neg (by simp [stops]), List.takeWhile_nil]
    | cons c line ih => rw [List.cons_append, List.takeWhile_cons, List.takeWhile_cons, ih]
  rw [content, content, cut]

section Comment

variable (begins : mark = '#' ∨ mark = ';') (inside : ∀ c ∈ comment, ¬LineBoundary [c])
  (ends : ∀ c ∈ after.head?, LineBoundary [c])
include begins inside ends

/-- A comment may end the only line, or make a line of what was none. -/
theorem sameContents_line (whole : ∀ c ∈ line, ¬LineBoundary [c]) :
    SameContents (Text.lines (line ++ (mark :: comment ++ after)))
      (Text.lines (line ++ after)) := by
  have same : content (line ++ mark :: comment) = content line := content_comment begins
  have whole' : ∀ c ∈ line ++ mark :: comment, ¬LineBoundary [c] :=
    List.forall_mem_append.2
      ⟨whole, List.forall_mem_cons.2 ⟨not_lineBoundary_of_begins begins, inside⟩⟩
  rw [← List.append_assoc]
  cases after with
  | nil =>
    rw [List.append_nil, List.append_nil, lines_whole (by simp) whole']
    by_cases none : line = []
    · subst none
      exact .blank (same.trans rfl)
    · rw [lines_whole none whole]
      exact .cons same .nil
  | cons c rest =>
    obtain ⟨more, ended⟩ := Text.exists_lines_cons (ends c rfl) rest
    rw [Text.lines_append (fun x hx => Text.isLineEnd_eq_false_iff.2 (whole' x hx)) ended,
      Text.lines_append (fun x hx => Text.isLineEnd_eq_false_iff.2 (whole x hx)) ended]
    exact .cons same (.refl more)

/-- Without a comment there are the same contents, if no two boundaries become one. -/
theorem sameContents_lines {cuts : List (List Char)} (cut : Text.Cut before cuts)
    (apart : ¬(before.getLast? = some '\r' ∧ after.head? = some '\n')) :
    SameContents (Text.lines (before ++ (mark :: comment ++ after)))
      (Text.lines (before ++ after)) := by
  induction cut with
  | empty => exact sameContents_line begins inside ends (List.forall_mem_nil _)
  | last some whole => exact sameContents_line begins inside ends whole
  | @ended line boundary rest cuts whole bounds apart' cut ih =>
    have tail (text : List Char)
        (separate : ¬(boundary = ['\r'] ∧ rest = [] ∧ text.head? = some '\n')) :
        Text.lines ((line ++ (boundary ++ rest)) ++ text) = line :: Text.lines (rest ++ text) := by
      rw [List.append_assoc, List.append_assoc]
      refine lines_ended whole bounds ?_
      rintro ⟨same, head⟩
      cases rest with
      | nil => exact separate ⟨same, rfl, head⟩
      | cons c more => exact apart' ⟨same, head⟩
    rw [tail, tail]
    · refine .cons rfl (ih ?_)
      rintro ⟨last, head⟩
      exact apart ⟨by rw [← List.append_assoc, List.getLast?_append, last]; rfl, head⟩
    · rintro ⟨rfl, rfl, head⟩
      exact apart ⟨by simp, head⟩
    · rintro ⟨-, -, head⟩
      obtain rfl | rfl := begins <;> simp at head

end Comment

/-! ## A line more -/

theorem words_behind (n : Nat) (file : Option String) {count passed : Nat} (le : count ≤ passed)
    (lines : List (List Char)) :
    words n file (passed + 1 + 1) lines =
      (words n file (passed + 1) lines).mapError (·.withLineBehind count) := by
  induction lines generalizing passed with
  | nil => rfl
  | cons line rest ih =>
    rw [words, words]
    cases word? n line with
    | error flaw =>
      have behind : ¬((passed + 1 : Nat) : Int) ≤ count := by omega
      simp only [Except.mapError, ImageError.withLineBehind, Option.map_some, if_neg behind]
      rfl
    | ok found =>
      have later := ih (Nat.le_succ_of_le le)
      cases found with
      | none => exact later
      | some word =>
        simp only [later]
        cases words n file (passed + 1 + 1) rest <;> rfl

/-- A line that holds nothing makes a difference to the numbers of lines alone. -/
theorem words_insert (n : Nat) (file : Option String) (blank : content line = []) (passed : Nat)
    (before after : List (List Char)) :
    words n file (passed + 1) (before ++ line :: after) =
      (words n file (passed + 1) (before ++ after)).mapError
        (·.withLineBehind (passed + before.length)) := by
  induction before generalizing passed with
  | nil =>
    rw [List.nil_append, words, word?_of_blank blank]
    exact words_behind n file le_rfl after
  | cons first before ih =>
    have count : passed + 1 + before.length = passed + (first :: before).length := by
      rw [List.length_cons]
      omega
    have later := ih (passed + 1)
    rw [count] at later
    rw [List.cons_append, List.cons_append, words, words]
    cases word? n first with
    | error flaw =>
      have front : ((passed + 1 : Nat) : Int) ≤ (passed + (first :: before).length : Nat) := by
        rw [List.length_cons]
        omega
      simp only [Except.mapError, ImageError.withLineBehind, Option.map_some, if_pos front]
    | ok found =>
      cases found with
      | none => exact later
      | some word =>
        simp only [later]
        cases words n file (passed + 1 + 1) (before ++ after) <;> rfl

/-! ## Texts without their comments -/

theorem parse_ofList (host : Host) (width : Int) (file : Option String) (text : List Char) :
    parse host width file (String.ofList text) =
      (AnyWidth.roomy host 0 width).mapError ImageFailure.width >>= fun n =>
        (words n file 1 (Text.lines text)).mapError ImageFailure.malformed := by
  rw [parse, String.toList_ofList]

/-- A comment that keeps a `\r` apart from a `\n` is a line of its own. -/
theorem parse_of_joined (host : Host) (width : Int) (file : Option String)
    (begins : mark = '#' ∨ mark = ';')
    (inside : ∀ c ∈ comment, ¬LineBoundary [c]) (before rest : List Char) :
    parse host width file
        (String.ofList ((before ++ ['\r']) ++ (mark :: comment ++ '\n' :: rest))) =
      (parse host width file (String.ofList ((before ++ ['\r']) ++ '\n' :: rest))).mapError
        (·.withLineBehind (Text.lines (before ++ ['\r'])).length) := by
  have cut := Text.cut_lines before
  have newline : LineBoundary ['\n'] := Text.isLineEnd_iff.1 rfl
  have whole : ∀ c ∈ mark :: comment, ¬LineBoundary [c] :=
    List.forall_mem_cons.2 ⟨not_lineBoundary_of_begins begins, inside⟩
  have comment_line : Text.lines (mark :: comment ++ '\n' :: rest) =
      (mark :: comment) :: Text.lines rest :=
    lines_ended whole newline (by simp)
  have other : mark ≠ '\n' := by obtain rfl | rfl := begins <;> decide
  have kept : Text.lines ((before ++ ['\r']) ++ (mark :: comment ++ '\n' :: rest)) =
      Text.lines (before ++ ['\r']) ++ (mark :: comment) :: Text.lines rest := by
    rw [List.append_assoc, cut.lines_return (Or.inl rfl) (by simp [other]), comment_line]
  have removed : Text.lines ((before ++ ['\r']) ++ '\n' :: rest) =
      Text.lines (before ++ ['\r']) ++ Text.lines rest := by
    rw [List.append_assoc]
    exact cut.lines_return (Or.inr rfl) (by simp)
  have blank : content (mark :: comment) = [] := by
    have alone : content ([] ++ mark :: comment) = content [] := content_comment begins
    exact alone
  rw [parse_ofList, parse_ofList, kept, removed]
  cases AnyWidth.roomy host 0 width with
  | error cause => rfl
  | ok n =>
    have inserted := words_insert n file blank 0
      (Text.lines (before ++ ['\r'])) (Text.lines rest)
    rw [Nat.zero_add, Nat.zero_add] at inserted
    simp only [Except.mapError, bind, Except.bind, inserted]
    cases words n file 1 (Text.lines (before ++ ['\r']) ++ Text.lines rest) <;> rfl

/-- A comment is left out of a text, up to the boundary that ends its line or to the end of the
text, and the text is read as before: the same words, or the same error. If so a `\r` comes to stand
in front of a `\n`, these end one line instead of two, and of the error only the number of its line
may be less. -/
theorem parse_without_comment (host : Host) (width : Int) (file : Option String)
    {before comment after : List Char} {mark : Char} (begins : mark = '#' ∨ mark = ';')
    (inside : ∀ c ∈ comment, ¬LineBoundary [c]) (ends : ∀ c ∈ after.head?, LineBoundary [c]) :
    parse host width file (String.ofList (before ++ (mark :: comment ++ after))) =
      if before.getLast? = some '\r' ∧ after.head? = some '\n' then
        (parse host width file (String.ofList (before ++ after))).mapError
          (·.withLineBehind (Text.lines before).length)
      else
        parse host width file (String.ofList (before ++ after)) := by
  split
  · next joined =>
    obtain ⟨last, head⟩ := joined
    obtain ⟨front, rfl⟩ := List.getLast?_eq_some_iff.1 last
    obtain ⟨rest, rfl⟩ := List.head?_eq_some_iff.1 head
    exact parse_of_joined host width file begins inside front rest
  · next apart =>
    have same := sameContents_lines begins inside ends (Text.cut_lines before) apart
    rw [parse_ofList, parse_ofList]
    simp only [same.words_eq]

/-- A comment up to a line separator, and one that a `\r` and a `\n` enclose. -/
theorem parse_without_comment_separated :
    parse {} 16 none "1 ;2 # 3\u2028z" = parse {} 16 none "1 ;2 \u2028z" ∧
      parse {} 16 none "\r#\nz" =
        (parse {} 16 none "\r\nz").mapError (·.withLineBehind 1) ∧
      parse {} 16 none "\r\nz" = .error
        (.malformed { flaw := .notNumeral "z", line := some 2 }) := by
  have separator : ∀ c ∈ ['\u2028', 'z'].head?, LineBoundary [c] := by
    simpa using Text.isLineEnd_iff.1 (by decide)
  have newline : ∀ c ∈ ['\n', 'z'].head?, LineBoundary [c] := by
    simpa using Text.isLineEnd_iff.1 (by decide)
  have plain : ∀ c ∈ [' ', '3'], ¬LineBoundary [c] := by
    simp only [List.forall_mem_cons, ← Text.isLineEnd_eq_false_iff]
    exact ⟨rfl, rfl, List.forall_mem_nil _⟩
  have kept : String.ofList (['1', ' ', ';', '2', ' '] ++ ('#' :: [' ', '3'] ++ ['\u2028', 'z'])) =
        "1 ;2 # 3\u2028z" ∧
      String.ofList (['1', ' ', ';', '2', ' '] ++ ['\u2028', 'z']) = "1 ;2 \u2028z" := by
    decide +kernel
  have joined : String.ofList (['\r'] ++ ('#' :: [] ++ ['\n', 'z'])) = "\r#\nz" ∧
      String.ofList (['\r'] ++ ['\n', 'z']) = "\r\nz" := by
    decide +kernel
  refine ⟨?_, ?_, by decide +kernel⟩
  · rw [← kept.1, ← kept.2, parse_without_comment {} 16 none (Or.inl rfl) plain separator,
      if_neg (by decide)]
  · rw [← joined.1, ← joined.2,
      parse_without_comment {} 16 none (Or.inl rfl) (List.forall_mem_nil _) newline,
      if_pos (by decide)]
    rfl

/-- What a form feed leaves of a comment is read, where only `\n` and `\r` were to end it; and where
a comment keeps these two apart, it counts as a line. -/
theorem comment_contributes :
    parse {} 16 none "1 # 2\x0c3\n" = .ok [1, 3] ∧ parse {} 16 none "1 \n" = .ok [1] ∧
      parse {} 16 (some "a.hex") "\r#\nz" = .error
        (.malformed { flaw := .notNumeral "z", file := some "a.hex", line := some 3 }) ∧
      parse {} 16 (some "a.hex") "\r\nz" = .error
        (.malformed { flaw := .notNumeral "z", file := some "a.hex", line := some 2 }) := by
  decide +kernel

end Image.Hexadecimal

end SerialMachine

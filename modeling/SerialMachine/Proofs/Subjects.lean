import SerialMachine.Condition
import SerialMachine.Proofs.Flags

/-!
# What conditions look at

A text names a register, or a flag of a variant behind `flag_`, whatever the case of its letters.
Main statements: reading the text as a subject and looking the subject up in the variant together
find exactly the place that the text names, and reading the subject on a machine gives the number
that stands there.
-/

namespace SerialMachine

/-! ## Names -/

/-- What a condition can look at in a register record. -/
inductive Place
  | register (register : Register)
  | flagBit (k : Nat)

/-- The number that stands at a place; a flag counts as one when it is set. -/
def Place.value (p : Processor) : Place → Int
  | register r => p.registers.get r
  | flagBit k => Bits.bit k p.registers.flags

/-- What a text names on the machines of a variant. The text is taken in small letters, and what
follows `flag_` then in capital ones. -/
inductive Denotes (variant : Variant) (text : String) : Place → Prop
  | register {r : Register} (word : r ∈ Register.words)
      (named : Text.lowerString text = r.name) : Denotes variant text (.register r)
  | flag {short : String} {f : Flag} {k : Nat} (named : Text.lowerString text = "flag_" ++ short)
      (capitals : Text.upperString short = f.name)
      (placed : (Flag.layout variant)[k]? = some f) : Denotes variant text (.flagBit k)

/-- The comparison with a symbol. -/
def Relates : String → Int → Int → Prop
  | "==", x, y => x = y
  | "!=", x, y => x ≠ y
  | "<", x, y => x < y
  | "<=", x, y => x ≤ y
  | ">", x, y => x > y
  | ">=", x, y => x ≥ y
  | "&", x, y => ∃ k, Bits.test k x = true ∧ Bits.test k y = true
  | _, _, _ => False

theorem Comparison.holds_iff (c : Comparison) (x y : Int) :
    c.holds x y = true ↔ Relates c.name x y := by
  cases c with
  | commonBit =>
    rw [holds, bne_iff_ne]
    exact Bits.and_ne_zero_iff x y
  | _ => simp [holds, name, Relates]

/-- The symbols of the comparisons. -/
theorem Comparison.exists_ofName?_iff {text : String} :
    (∃ c, ofName? text = some c) ↔ text ∈ ["==", "!=", "<", "<=", ">", ">=", "&"] := by
  have symbols : all.map name = ["==", "!=", "<", "<=", ">", ">=", "&"] := rfl
  rw [← Option.isSome_iff_exists, ofName?, List.find?_isSome, ← symbols, List.mem_map]
  simp only [beq_iff_eq]

theorem Comparison.name_of_ofName? {text : String} {c : Comparison}
    (found : ofName? text = some c) : c.name = text := by
  simpa using List.find?_some found

/-! ## Subjects -/

namespace Flag

variable {variant : Variant} {f : Flag} {k : Nat}

theorem ofName?_name (member : f ∈ layout variant) : ofName? variant f.name = some f := by
  revert f
  cases variant <;> decide

theorem bit?_of_placed (placed : (layout variant)[k]? = some f) : bit? variant f = some k := by
  obtain ⟨lt, rfl⟩ := List.getElem?_eq_some_iff.1 placed
  revert k
  cases variant <;> decide

theorem exists_bit?_of_ofName? {text : String} (found : ofName? variant text = some f) :
    f.name = text ∧ ∃ k, bit? variant f = some k := by
  obtain ⟨k, placed⟩ := List.getElem?_of_mem (List.mem_of_find?_eq_some found)
  exact ⟨by simpa using List.find?_some found, k, bit?_of_placed placed⟩

end Flag

namespace Subject

variable {variant : Variant} {text : String} {subject : Subject} {place : Place}

/-- The place of a subject; none for a flag that the variant lacks. -/
def place? (variant : Variant) : Subject → Option Place
  | register r => some (.register r)
  | flag short =>
    ((Flag.ofName? variant (Text.upperString short)).bind (Flag.bit? variant)).map .flagBit

theorem place?_flag {short : String} {f : Flag} {k : Nat}
    (found : Flag.ofName? variant (Text.upperString short) = some f)
    (bit : Flag.bit? variant f = some k) :
    place? variant (flag short) = some (.flagBit k) := by
  rw [place?, found, Option.bind_some, bit, Option.map_some]

/-- No register has a name that begins as those of flags do. -/
theorem ofWordName?_flag (short : String) : Register.ofWordName? ("flag_" ++ short) = none := by
  rw [Register.ofWordName?, List.find?_eq_none]
  intro r word same
  have begins : r.name.toList.take 5 = flagMark := by
    rw [beq_iff_eq.1 same, String.toList_append]
    rfl
  clear same
  revert r
  decide

theorem ofWordName?_name {r : Register} (word : r ∈ Register.words) :
    Register.ofWordName? r.name = some r := by
  revert r
  decide

/-- A text that names a place is read as the subject there. -/
theorem exists_ofName_of_denotes (h : Denotes variant text place) :
    ∃ subject, ofName text = .ok subject ∧ subject.place? variant = some place := by
  cases h with
  | @register r word named =>
    refine ⟨.register r, ?_, rfl⟩
    have found := ofWordName?_name word
    rw [← named, Text.lowerString] at found
    simp only [ofName, found]
  | @flag short f k named capitals placed =>
    have wanted : Text.lower text.toList = flagMark ++ short.toList := by
      have letters := congrArg String.toList named
      rwa [Text.lowerString, String.toList_ofList, String.toList_append] at letters
    -- registers are looked for first, but none can be mistaken for a flag
    have away := ofWordName?_flag short
    rw [← named, Text.lowerString] at away
    have found := Flag.ofName?_name (List.mem_of_getElem? placed)
    rw [← capitals] at found
    refine ⟨.flag short, ?_, place?_flag found (Flag.bit?_of_placed placed)⟩
    have begins : flagMark.isPrefixOf (Text.lower text.toList) = true := by
      rw [wanted, List.isPrefixOf_iff_prefix]
      exact List.prefix_append _ _
    simp only [ofName, away, begins, if_true]
    rw [wanted, List.drop_left, String.ofList_toList]

/-- And a text that is read as a subject names the place of that. -/
theorem denotes_of_ofName (read : ofName text = .ok subject)
    (there : subject.place? variant = some place) : Denotes variant text place := by
  unfold ofName at read
  simp only at read
  split at read
  · next r found =>
    obtain rfl := Except.ok.inj read
    obtain rfl := Option.some.inj there
    rw [Register.ofWordName?] at found
    have named := List.find?_some found
    exact .register (List.mem_of_find?_eq_some found) (beq_iff_eq.1 named).symm
  · split at read
    · next begins =>
      obtain rfl := Except.ok.inj read
      obtain ⟨k, bound, rfl⟩ := Option.map_eq_some_iff.1 there
      obtain ⟨f, found, bit⟩ := Option.bind_eq_some_iff.1 bound
      refine .flag ?_ (Flag.exists_bit?_of_ofName? found).1.symm (Flag.layout_getElem? bit)
      obtain ⟨short, wanted⟩ := List.isPrefixOf_iff_prefix.1 begins
      rw [Text.lowerString, ← wanted, List.drop_left, String.ofList_append]
      rfl
    · cases read

/-- A variant allows the subjects that have a place there. -/
theorem validate_eq_ok_iff :
    subject.validate variant = .ok () ↔ ∃ place, subject.place? variant = some place := by
  cases subject with
  | register r => exact ⟨fun _ => ⟨_, rfl⟩, fun _ => rfl⟩
  | flag short =>
    simp only [validate]
    cases found : Flag.ofName? variant (Text.upperString short) with
    | none => simp [place?, found]
    | some f =>
      obtain ⟨-, k, bit⟩ := Flag.exists_bit?_of_ofName? found
      exact ⟨fun _ => ⟨_, place?_flag found bit⟩, fun _ => rfl⟩

theorem place?_of_denotes (read : ofName text = .ok subject) (named : Denotes variant text place) :
    subject.place? variant = some place := by
  obtain ⟨other, read', there⟩ := exists_ofName_of_denotes named
  obtain rfl := Except.ok.inj (read.symm.trans read')
  exact there

/-- A variant allows what a text names when the text names a place there. -/
theorem validate_eq_ok_iff_denotes (read : ofName text = .ok subject) :
    subject.validate variant = .ok () ↔ ∃ place, Denotes variant text place := by
  rw [validate_eq_ok_iff]
  exact exists_congr fun place => ⟨denotes_of_ofName read, place?_of_denotes read⟩

/-- A subject is read where it stands. -/
theorem read_eq {p : Processor} (there : subject.place? p.config.variant = some place) :
    subject.read p = .ok (place.value p) := by
  cases subject with
  | register r =>
    obtain rfl := Option.some.inj there
    rfl
  | flag short =>
    obtain ⟨k, bound, rfl⟩ := Option.map_eq_some_iff.1 there
    obtain ⟨f, found, bit⟩ := Option.bind_eq_some_iff.1 bound
    rw [read, Processor.flag]
    simp only [found, Flag.isSet, bit, Place.value, Bits.bit_eq_ite]
    rfl

end Subject

end SerialMachine

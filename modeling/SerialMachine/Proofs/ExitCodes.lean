import SerialMachine.Command.Arguments
import SerialMachine.Proofs.BinaryImages
import SerialMachine.Proofs.TextImages

/-!
# Exit codes

What the exit code of a command tells about its image file, when its other arguments are in order.
Main statement: it is one exactly when the content is rejected, as no image of the format or as one
too large for the memory; any other code means that the image was loaded, unless the bytes of a text
image spell no text or the host has no room for what is asked for.
-/

namespace SerialMachine

/-- What becomes of an image file. -/
inductive Verdict
  | loaded
  /-- The content is malformed, or has more words than the memory. -/
  | rejected
  /-- The bytes of a text image spell no text. -/
  | undecodable
  /-- The host has no room for a word or for the memory. -/
  | unserved
  deriving DecidableEq, Repr

/-- The exit codes that a verdict leaves. -/
inductive Verdict.Exits : Verdict → Nat → Prop
  | loaded (exit : Nat) (other : exit ≠ 1) : Exits loaded exit
  | rejected : Exits rejected 1
  | undecodable : Exits undecodable 2
  | unserved : Exits unserved 3

/-- The verdict on a file whose content cannot be read as an image. -/
def Verdict.ofFailure : ImageFailure → Verdict
  | .malformed _ => rejected
  | .undecodable => undecodable
  | _ => unserved

/-! ## Reading bytes -/

/-- Content comes to nothing because of what it is, or else because of the host. -/
inductive ImageFailure.OfContent : ImageFailure → Prop
  | malformed (error : ImageError) : OfContent (malformed error)
  | undecodable : OfContent undecodable
  | width (cause : InvalidValue) (overtaxes : cause.overtaxesHost = true) : OfContent (width cause)

namespace Image

variable {host : Host} {width : Int} {failure : ImageFailure}

theorem ofContent_of_parse_binary (positive : 1 ≤ width)
    (short : Text.writeDecimal? (Binary.wordBytes width) ≠ none) {file : Option String}
    {bytes : List UInt8} (failed : Binary.parse host width file bytes = .error failure) :
    failure.OfContent := by
  have judged := Binary.judged_parse positive host file bytes
  rw [failed] at judged
  cases judged with
  | partialWord | wideWord => exact .malformed _
  | unwritten _ long => exact absurd long short
  | cramped _ _ overtaxes => exact .width _ overtaxes

theorem ofContent_of_parse_hexadecimal (natural : 0 ≤ width) {file : Option String} {text : String}
    (failed : Hexadecimal.parse host width file text = .error failure) : failure.OfContent := by
  have judged := Hexadecimal.judged_parse natural host file text
  rw [failed] at judged
  cases judged with
  | rejected => exact .malformed _
  | cramped _ overtaxes => exact .width _ overtaxes

theorem ofContent_of_load (positive : 1 ≤ width)
    (short : Text.writeDecimal? (Binary.wordBytes width) ≠ none) {name : String}
    {content : ByteArray} {format : Option ImageFormat}
    (failed : load host name (.ok content) width format = .error failure) :
    failure.OfContent := by
  simp only [load, Except.mapError, bind, Except.bind] at failed
  split at failed
  · exact ofContent_of_parse_binary positive short failed
  · split at failed
    · exact ofContent_of_parse_hexadecimal (by omega) failed
    · obtain rfl := Except.error.inj failed
      exact .undecodable

end Image

namespace Command

/-! ## The arguments -/

/-- A file may be named by the path, as far as the path itself goes. -/
structure Nameable (path : String) : Prop where
  whole : PathName.endsEarly path = false
  short : PathName.isLong path = false
  file : PathName.namesFolder path = false

theorem withFile_eq {path : String} (h : Nameable path) (content : ByteArray)
    (report : ByteArray → Report) :
    withFile path (some content) report = .report (report content) := by
  simp [withFile, h.whole, h.short, h.file]

/-! ## Failures -/

theorem exitCode_ne_one {c : ErrorClass} (h : c ≠ .image) : c.exitCode ≠ 1 := by
  cases c <;> first | exact absurd rfl h | decide

theorem exits_imageFailure {failure : ImageFailure} (h : failure.OfContent) (path : String) :
    (Verdict.ofFailure failure).Exits (imageFailure path failure).errorClass.exitCode := by
  cases h with
  | malformed => exact .rejected
  | undecodable => exact .undecodable
  | width cause overtaxes =>
    simp only [imageFailure, valueFailure, overtaxes, if_true]
    exact .unserved

theorem exits_valueFailure {cause : InvalidValue} (overtaxes : cause.overtaxesHost = true) :
    Verdict.unserved.Exits (valueFailure cause).errorClass.exitCode := by
  rw [valueFailure, if_pos overtaxes]
  exact .unserved

theorem valueFailure_ne_image (cause : InvalidValue) :
    (valueFailure cause).errorClass ≠ .image := by
  unfold valueFailure
  cases cause.overtaxesHost <;> simp

theorem errorClass_of_mapError {α : Type} {x : Except ParameterError α} {failure : Failure}
    (failed : x.mapError ParameterError.failure = .error failure) :
    failure.errorClass = .value := by
  cases x with
  | ok value => cases failed
  | error cause => obtain rfl := Except.error.inj failed; rfl

/-! ## Simulations -/

/-- What becomes of the image of a simulation. -/
def SimulateArguments.verdict (a : SimulateArguments) (content : ByteArray)
    (format : Option ImageFormat) : Verdict :=
  match Memory.make a.host a.width none with
  | .error _ => .unserved
  | .ok memory =>
    match Image.load a.host (PathName.normal a.name) (.ok content) a.width format with
    | .error failure => .ofFailure failure
    | .ok words => if (words.length : Int) ≤ memory.size then .loaded else .rejected

theorem errorClass_of_prepare {a : SimulateArguments} {e : Emulator} {failure : Failure}
    (failed : prepare a e = .error failure) : failure.errorClass = .value := by
  simp only [prepare, bind, Except.bind] at failed
  split at failed
  · next refused =>
    obtain rfl := Except.error.inj failed
    exact errorClass_of_mapError refused
  · split at failed
    · cases failed
    · split at failed
      · next refused =>
        obtain rfl := Except.error.inj failed
        exact errorClass_of_mapError refused
      · cases failed

theorem exit_runReport (a : SimulateArguments) {r : Report} (e : Emulator) (zero : r.exit = 0) :
    (runReport a r e).exit ≠ 1 := by
  unfold runReport
  simp only
  split
  · next refusal _ =>
    refine exitCode_ne_one ?_
    cases refusal with
    | absent => simp [refusalFailure]
    | invalid cause => exact valueFailure_ne_image cause
  · split
    · exact exitCode_ne_one (c := .fault) (by decide)
    · exact fun one => absurd (zero.symm.trans one) (by decide)

theorem exits_loadAndRun (a : SimulateArguments) {content : ByteArray}
    {format : Option ImageFormat} {e : Emulator} (width : (e.settings.config.width : Int) = a.width)
    (host : e.settings.config.host = a.host) (wide : 8 ≤ a.width)
    (small : a.width - 5 < a.host.bits) {memory : Memory}
    (filled : Memory.make a.host a.width none = .ok memory) (size : e.memory.size = memory.size) :
    (a.verdict content format).Exits (loadAndRun a content format e).exit := by
  have short : Text.writeDecimal? (Image.Binary.wordBytes a.width) ≠ none :=
    Image.Binary.writeDecimal?_wordBytes (by omega) small
  unfold loadAndRun SimulateArguments.verdict Emulator.loadImage
  rw [filled, width, host]
  simp only
  cases loaded : Image.load a.host (PathName.normal a.name) (.ok content) a.width format with
  | error failure => exact exits_imageFailure (Image.ofContent_of_load (by omega) short loaded) _
  | ok words =>
    by_cases fits : (words.length : Int) ≤ memory.size
    · obtain ⟨ready, done⟩ : ∃ ready, e.loadWords words 0 = .ok ready := by
        have inside : ¬((0 : Int) < 0 ∨ 0 + (words.length : Int) > e.memory.size) := by omega
        exact ⟨_, by rw [Emulator.loadWords, Memory.loadWords, if_neg inside]; rfl⟩
      simp only [done, if_pos fits]
      refine .loaded _ ?_
      split
      · next failure refused =>
        exact exitCode_ne_one (by rw [errorClass_of_prepare refused]; decide)
      · refine exit_runReport a _ ?_
        split <;> rfl
    · have outside : (0 : Int) < 0 ∨ 0 + (words.length : Int) > e.memory.size := by omega
      have refused : e.loadWords words 0 =
          .error (.wordsDoNotFit words.length 0 e.memory.size) := by
        rw [Emulator.loadWords, Memory.loadWords, if_pos outside]
        rfl
      simp only [refused, if_neg fits]
      exact .rejected

/-- Arguments of a simulation that make a request about a file there is. -/
structure SimulateArguments.Valid (a : SimulateArguments) (content : ByteArray)
    (format : Option ImageFormat) (variant : Variant) : Prop where
  name : Nameable a.name
  content : a.content = some content
  format : chooseFormat? a.format = some format
  variant : chooseVariant? a.variant = some variant
  width : 8 ≤ a.width
  cycles : 1 ≤ a.maxCycles

theorem exits_simulate {a : SimulateArguments} {content : ByteArray} {format : Option ImageFormat}
    {variant : Variant} (h : a.Valid content format variant) :
    ∃ r, simulate a = .report r ∧ (a.verdict content format).Exits r.exit := by
  obtain ⟨config, made, width, host⟩ : ∃ config,
      Config.make a.host a.width variant a.jumpzNonzero = .ok config ∧
        (config.width : Int) = a.width ∧ config.host = a.host :=
    ⟨_, dif_pos h.width, Int.toNat_of_nonneg (by have := h.width; omega), rfl⟩
  have report : simulate a = .report (simulateWith a content format config) := by
    have cycles := h.cycles
    simp only [simulate, h.format, h.variant, made, h.content, withFile_eq h.name,
      if_neg (show ¬a.maxCycles < 1 by omega)]
  refine ⟨_, report, ?_⟩
  have filling := Memory.make_filling a.host h.width
  unfold simulateWith Emulator.build
  simp only [width, host, bind, Except.bind]
  cases filled : Memory.make a.host a.width none with
  | error cause =>
    rw [filled] at filling
    simp only [SimulateArguments.verdict, filled]
    exact exits_valueFailure filling
  | ok memory =>
    rw [filled] at filling
    refine exits_loadAndRun a width host h.width filling.2.2 filled ?_
    rw [filling.1, ← width]
    rfl

/-! ## Listings -/

/-- What becomes of the image of a listing. -/
def DisassembleArguments.verdict (a : DisassembleArguments) (content : ByteArray)
    (format : Option ImageFormat) : Verdict :=
  match Image.load a.host a.name (.ok content) a.width format with
  | .error failure => .ofFailure failure
  | .ok _ => .loaded

/-- Arguments of a listing that make a request about a file there is. -/
structure DisassembleArguments.Valid (a : DisassembleArguments) (content : ByteArray)
    (format : Option ImageFormat) (variant : Variant) : Prop where
  name : Nameable a.name
  content : a.content = some content
  format : chooseFormat? a.format = some format
  variant : chooseVariant? a.variant = some variant
  width : 8 ≤ a.width
  /-- The width is given as a numeral. -/
  written : Text.writeDecimal? a.width ≠ none
  address : ∃ start, parseNumber a.address = .ok start
  output : ∀ path ∈ a.output, PathName.endsEarly path = false ∧ isFolderOutput path = false

theorem exit_note (a : DisassembleArguments) (r : Report) (line : String) :
    (note a r line).exit = r.exit := by
  unfold note
  split <;> rfl

theorem fileFailure_ne_image (path : String) (problem : FileProblem) :
    (fileFailure path problem).errorClass ≠ .image := by
  cases problem <;> simp [fileFailure]

theorem exit_listingReport (a : DisassembleArguments) {r : Report} (variant : Variant) (size : Nat)
    (lines : List ListingLine) (zero : r.exit = 0) :
    (listingReport a r variant size lines).exit ≠ 1 := by
  unfold listingReport deliverListing
  cases a.output with
  | none =>
    simp only [exit_note]
    exact fun one => absurd (zero.symm.trans one) (by decide)
  | some output =>
    cases a.outputProblem with
    | none =>
      simp only [exit_note]
      exact fun one => absurd (zero.symm.trans one) (by decide)
    | some problem => exact exitCode_ne_one (fileFailure_ne_image output problem)

theorem exits_disassembleWith {a : DisassembleArguments} {content : ByteArray}
    {format : Option ImageFormat} {variant : Variant} (h : a.Valid content format variant) :
    (a.verdict content format).Exits (disassembleWith a content format variant).exit := by
  obtain ⟨start, number⟩ := h.address
  unfold disassembleWith loadListed DisassembleArguments.verdict
  simp only [number, Except.mapError, bind, Except.bind]
  cases loaded : Image.load a.host a.name (.ok content) a.width format with
  | error failure =>
    have wide := h.width
    have fewer : (Image.Binary.wordBytes a.width).natAbs ≤ a.width.natAbs := by
      unfold Image.Binary.wordBytes
      omega
    have short := mt (Text.writeDecimal?_eq_none_of_le fewer) h.written
    exact exits_imageFailure (Image.ofContent_of_load (by omega) short loaded) _
  | ok words =>
    refine .loaded _ ?_
    by_cases inside : 0 ≤ start ∧ start < ((max words.length 1 : Nat) : Int)
    · simp only [if_pos inside, pure, Except.pure]
      split
      · next cause _ => exact exitCode_ne_one (valueFailure_ne_image cause)
      · next lines _ => exact exit_listingReport a variant words.length lines (exit_note ..)
    · simp only [if_neg inside, throw, throwThe, MonadExceptOf.throw]
      exact exitCode_ne_one (c := .value) (by decide)

theorem exits_disassemble {a : DisassembleArguments} {content : ByteArray}
    {format : Option ImageFormat} {variant : Variant} (h : a.Valid content format variant) :
    ∃ r, disassemble a = .report r ∧ (a.verdict content format).Exits r.exit := by
  have wide := h.width
  have output := h.output
  have whole : a.output.any PathName.endsEarly = false ∧ a.output.any isFolderOutput = false := by
    cases chosen : a.output with
    | none => exact ⟨rfl, rfl⟩
    | some path => exact output path chosen
  refine ⟨_, ?_, exits_disassembleWith h⟩
  simp only [disassemble, h.format, h.variant, if_neg (show ¬a.width < 8 by omega), whole.1,
    whole.2, Bool.false_eq_true, if_false, h.content, withFile_eq h.name]

/-- The exit code of a command tells what has become of its image file, whatever the content. -/
theorem exit_tells_verdict (content : ByteArray) (format : Option ImageFormat)
    (variant : Variant) :
    (∀ a : SimulateArguments, a.Valid content format variant →
      ∃ r, simulate a = .report r ∧ (a.verdict content format).Exits r.exit) ∧
    ∀ a : DisassembleArguments, a.Valid content format variant →
      ∃ r, disassemble a = .report r ∧ (a.verdict content format).Exits r.exit :=
  ⟨fun _ => exits_simulate, fun _ => exits_disassemble⟩

/-- A line that is no numeral is rejected by a simulation, and one with a word is listed. -/
theorem exit_tells_verdict_line :
    (∃ r, simulate { name := "p.hex", content := some "A8G0\n".toUTF8 } = .report r ∧
      r.exit = 1) ∧
    ∃ r, disassemble { name := "p.hex", content := some "E000\n".toUTF8 } = .report r ∧
      r.exit ≠ 1 := by
  have name : Nameable "p.hex" := ⟨by decide +kernel, by decide +kernel, by decide +kernel⟩
  constructor
  · let a : SimulateArguments := { name := "p.hex", content := some "A8G0\n".toUTF8 }
    obtain ⟨r, report, exits⟩ := (exit_tells_verdict "A8G0\n".toUTF8 none .base).1 a
      ⟨name, rfl, by decide +kernel, by decide +kernel, by decide, by decide⟩
    have verdict : a.verdict "A8G0\n".toUTF8 none = .rejected := by decide +kernel
    rw [verdict] at exits
    generalize code : r.exit = exit at exits
    cases exits
    exact ⟨r, report, code⟩
  · let a : DisassembleArguments := { name := "p.hex", content := some "E000\n".toUTF8 }
    obtain ⟨r, report, exits⟩ := (exit_tells_verdict "E000\n".toUTF8 none .base).2 a
      ⟨name, rfl, by decide +kernel, by decide +kernel, by decide, by decide +kernel,
        ⟨0, by decide +kernel⟩, nofun⟩
    have verdict : a.verdict "E000\n".toUTF8 none = .loaded := by decide +kernel
    rw [verdict] at exits
    cases exits with
    | loaded exit other => exact ⟨r, report, other⟩

/-- A byte that spells no text is no image either, but the exit code blames the arguments. -/
theorem undecodable_exits_two :
    Image.load {} "p.hex" (.ok ⟨#[0xFF]⟩) 16 none = .error .undecodable ∧
      simulate { name := "p.hex", content := some ⟨#[0xFF]⟩ } =
        .report { exit := 2, stderr := "Error: <codec>\n" } ∧
      disassemble { name := "p.hex", content := some ⟨#[0xFF]⟩ } =
        .report { exit := 2, stderr := "Error: <codec>\n" } := by
  decide +kernel

end Command

end SerialMachine

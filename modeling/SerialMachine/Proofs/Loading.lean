import SerialMachine.Proofs.BinaryImages
import SerialMachine.Proofs.EmptyLine
import SerialMachine.Proofs.TextImages

/-!
# Loading images

An image is read as a whole before the first of its words goes into the memory. Main statement: in
every session with an emulator, loading an image puts all its words at their addresses and touches
nothing else, exactly when the file holds an image and the memory has all of the addresses; else it
is refused for one of four reasons, and the emulator stays as it was.
-/

namespace SerialMachine

/-! ## Files -/

namespace Image

variable {host : Host} {name : String} {content : Except FileProblem ByteArray} {width : Int}
  {format : Option ImageFormat}

/-- What reading a file comes to where the host has room for a word. -/
inductive Outcome (name : String) (content : Except FileProblem ByteArray) (width : Int)
    (format : Option ImageFormat) : Except ImageFailure (List Int) → Prop
  /-- The name leads to no file. -/
  | missing {problem : FileProblem} (none : content = .error problem) :
      Outcome name content width format (.error (.file problem))
  /-- The bytes of a text image spell no text. -/
  | undecodable {bytes : ByteArray} (found : content = .ok bytes)
      (text : format.getD (.ofPath name) = .hexadecimal) (none : String.fromUTF8? bytes = none) :
      Outcome name content width format (.error .undecodable)
  | malformed (error : ImageError) : Outcome name content width format (.error (.malformed error))
  | words {ws : List Int} (fits : ∀ word ∈ ws, Word.Fits width.toNat word) :
      Outcome name content width format (.ok ws)

theorem Hexadecimal.fits_of_spelled {n : Nat} {numerals : List (List Char)} {ws : List Int}
    (spelled : List.Forall₂ (Spelled n) numerals ws) : ∀ word ∈ ws, Word.Fits n word := by
  induction spelled with
  | nil => simp
  | @cons numeral word _ _ first _ ih =>
    obtain ⟨-, nonneg, small⟩ := first
    exact List.forall_mem_cons.2 ⟨⟨nonneg, Bits.weight_eq_two_pow n ▸ small⟩, ih⟩

theorem outcome_load (positive : 1 ≤ width) (small : width < host.bits) :
    Outcome name content width format (load host name content width format) := by
  cases content with
  | error problem => exact .missing rfl
  | ok bytes =>
    simp only [load, Except.mapError, bind, Except.bind]
    cases chosen : format.getD (.ofPath name) with
    | binary =>
      have judged := Binary.judged_parse positive host (some (PathName.normal name)) bytes.toList
      generalize Binary.parse host width (some (PathName.normal name)) bytes.toList = result
        at judged
      simp only
      cases judged with
      | partialWord | wideWord => exact .malformed _
      | unwritten _ long =>
        have addressable : width - 5 < host.bits := by omega
        exact absurd long (Binary.writeDecimal?_wordBytes positive addressable)
      | cramped _ large => omega
      | accepted _ _ fits =>
        refine .words fun word member => ?_
        obtain ⟨k, inside, rfl⟩ := List.mem_map.1 member
        exact Bits.fits_natCast (fits k (List.mem_range.1 inside))
    | hexadecimal =>
      simp only
      cases decoded : String.fromUTF8? bytes with
      | none => exact .undecodable rfl chosen decoded
      | some text =>
        simp only
        have judged := Hexadecimal.judged_parse (by omega : 0 ≤ width) host
          (some (PathName.normal name)) (String.ofList (Text.unifyLineEnds text.toList))
        generalize Hexadecimal.parse host width (some (PathName.normal name))
          (String.ofList (Text.unifyLineEnds text.toList)) = result at judged
        cases judged with
        | rejected => exact .malformed _
        | cramped large => omega
        | accepted spelled => exact .words (Hexadecimal.fits_of_spelled spelled)

end Image

/-! ## Emulators -/

namespace Emulator

variable {e : Emulator} {settings : Settings} {fresh : Emulator} {name : String}
  {content : Except FileProblem ByteArray} {format : Option ImageFormat} {start : Int}

/-- The answer to a host that loads an image, and the emulator that it goes on with. -/
def afterImage (e : Emulator) (name : String) (content : Except FileProblem ByteArray)
    (format : Option ImageFormat) (start : Int) : Except ImageFailure Nat × Emulator :=
  match (e.loadImage name content format start).2 with
  | .ok (count, loaded) => (.ok count, loaded)
  | .error failure => (.error failure, e)

/-- What loading an image comes to: the answer, and the emulator afterwards. -/
inductive Loads (e : Emulator) (name : String) (content : Except FileProblem ByteArray)
    (format : Option ImageFormat) (start : Int) : Except ImageFailure Nat × Emulator → Prop
  /-- The file holds no image. -/
  | unread {failure : ImageFailure}
      (read : Image.load e.settings.config.host name content e.settings.config.width format =
        .error failure)
      (outcome : Image.Outcome name content e.settings.config.width format (.error failure)) :
      Loads e name content format start (.error failure, e)
  /-- The memory does not have all of the addresses. -/
  | tooLarge {words : List Int}
      (read : Image.load e.settings.config.host name content e.settings.config.width format =
        .ok words)
      (outside : ¬(0 ≤ start ∧ start + words.length ≤ e.memory.size)) :
      Loads e name content format start
        (.error (.malformed
          { flaw := .tooLarge words.length start e.memory.size, file := some name }), e)
  /-- The words are at their addresses, and all else is as it was. The same words, loaded without a
  file, lead to the same emulator. -/
  | loaded {words : List Int} {memory : Memory}
      (read : Image.load e.settings.config.host name content e.settings.config.width format =
        .ok words)
      (inside : 0 ≤ start ∧ start + words.length ≤ e.memory.size)
      (size : memory.size = e.memory.size)
      (holds : ∀ k, (within : k < words.length) → memory.get (start + k) = words[k])
      (others : ∀ address, address < start ∨ start + words.length ≤ address →
        memory.get address = e.memory.get address)
      (handled : e.handle (.loadWords words start) = e.withMemory memory) :
      Loads e name content format start (.ok words.length, e.withMemory memory)

theorem loads_afterImage
    (small : (e.settings.config.width : Int) < e.settings.config.host.bits)
    (width : e.memory.width = e.settings.config.width) :
    Loads e name content format start (e.afterImage name content format start) := by
  have positive : (1 : Int) ≤ e.settings.config.width := by
    have := e.settings.config.eight_le_width
    omega
  have outcome : Image.Outcome name content e.settings.config.width format _ :=
    Image.outcome_load positive small
  unfold afterImage loadImage
  cases read : Image.load e.settings.config.host name content e.settings.config.width format with
  | error failure => exact .unread read (read ▸ outcome)
  | ok words =>
    rw [read] at outcome
    cases outcome with
    | words fits =>
      by_cases inside : 0 ≤ start ∧ start + words.length ≤ e.memory.size
      · have copied : e.memory.loadWords words start = .ok (e.memory.putAll start words) :=
          if_neg (by omega)
        simp only [loadWords, copied]
        refine .loaded read inside (e.memory.size_putAll start words) (fun k within => ?_)
          (fun address outside => ?_) ?_
        · have place : (start + (k : Int) - start).toNat = k := by omega
          rw [Memory.get_putAll inside.1 inside.2, if_pos (by omega), place, width,
            List.getD_eq_getElem?_getD, List.getElem?_eq_getElem within]
          exact Bits.keep_eq_self (fits _ (List.getElem_mem within))
        · rw [Memory.get_putAll inside.1 inside.2, if_neg (by omega)]
        · simp only [handle, loadWords, copied]
          rfl
      · have refused : e.memory.loadWords words start =
            .error (.wordsDoNotFit words.length start e.memory.size) := if_pos (by omega)
        simp only [loadWords, refused]
        exact .tooLarge read inside

theorem Loads.exists_ok_iff {result : Except ImageFailure Nat × Emulator}
    (loads : Loads e name content format start result) :
    (∃ count, result.1 = .ok count) ↔
      ∃ words, Image.load e.settings.config.host name content e.settings.config.width format =
          .ok words ∧
        0 ≤ start ∧ start + words.length ≤ e.memory.size := by
  cases loads with
  | unread read => simp [read]
  | tooLarge read outside => simpa [read] using outside
  | loaded read inside => exact ⟨fun _ => ⟨_, read, inside⟩, fun _ => ⟨_, rfl⟩⟩

theorem holds_after (settings : Settings) (requests : List Request) :
    ((make settings).after requests).memory.Holds settings.config.width :=
  machine_after (P := fun m => m.bus.memory.Holds settings.config.width)
    (fun _ action sound holds => Machine.holds_act sound holds action)
    (fun _ _ _ _ copied holds => holds.loadWords copied) (fun _ _ holds => holds)
    (fun _ holds => holds) (orderly_make settings).memory requests

theorem build_eq_ok (built : build settings = .ok fresh) :
    fresh = make settings ∧ (settings.config.width : Int) < settings.config.host.bits := by
  obtain ⟨memory, made, -⟩ := bind_eq_ok_iff.1 built
  exact ⟨eq_make_of_build built, Memory.lt_of_make made⟩

/-- Whatever an emulator has been through, an image is loaded as a whole or not at all. -/
theorem loads_whole_image (built : build settings = .ok fresh) (requests : List Request)
    (name : String) (content : Except FileProblem ByteArray) (format : Option ImageFormat)
    (start : Int) :
    Loads (fresh.after requests) name content format start
        ((fresh.after requests).afterImage name content format start) ∧
      ((∃ count, ((fresh.after requests).afterImage name content format start).1 = .ok count) ↔
        ∃ words, Image.load settings.config.host name content settings.config.width format =
            .ok words ∧
          0 ≤ start ∧ start + words.length ≤ (fresh.after requests).memory.size) := by
  obtain ⟨rfl, small⟩ := build_eq_ok built
  have config : ((make settings).after requests).settings.config = settings.config :=
    (sound_after settings requests).config.symm.trans (config_after settings requests)
  have width : ((make settings).after requests).memory.width = settings.config.width :=
    (holds_after settings requests).width
  have loads : Loads ((make settings).after requests) name content format start _ :=
    loads_afterImage (config ▸ small) (config ▸ width)
  exact ⟨loads, config ▸ loads.exists_ok_iff⟩

/-- In a memory of four words there is room for two from address one on, but not from address three,
and not below zero. -/
theorem loads_whole_image_of_two :
    ∃ e, build { memoryWords := some 4 } = .ok e ∧
      let e := e.after [.loadWords [7, 7, 7, 7] 0]
      let load := e.afterImage "p.hex" (.ok "1 # one\n2".toUTF8) none
      Loads e "p.hex" (.ok "1 # one\n2".toUTF8) none 1 (load 1) ∧
        (load 1).1 = .ok 2 ∧ (load 1).2.memory.dump 0 none = [7, 1, 2, 7] ∧
        (load 3).1 = .error (.malformed { flaw := .tooLarge 2 3 4, file := some "p.hex" }) ∧
        (load (-1)).1 =
          .error (.malformed { flaw := .tooLarge 2 (-1) 4, file := some "p.hex" }) := by
  have built : build { memoryWords := some 4 } = .ok (make { memoryWords := some 4 }) := rfl
  refine ⟨_, built, (loads_whole_image built _ _ _ _ _).1, ?_⟩
  decide +kernel

end Emulator

end SerialMachine

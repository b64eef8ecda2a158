import SerialMachine.AnyWidth
import SerialMachine.Image.Error

/-!
# Binary images

Words one after the other, each in as many bytes as it needs, the low byte first.
-/

namespace SerialMachine.Image.Binary

/-- The number of bytes that a word takes. -/
def wordBytes (width : Int) : Int :=
  (width + 7) / 8

/-- The number spelled by bytes, the low byte first. -/
def valueOf : List UInt8 → Nat
  | [] => 0
  | byte :: rest => byte.toNat + 256 * valueOf rest

/-- The lowest bytes of a number, the low byte first. -/
def bytesOf : (count : Nat) → Nat → List UInt8
  | 0, _ => []
  | count + 1, value => UInt8.ofNat (value % 256) :: bytesOf count (value / 256)

/-- Bytes in groups of `size`; the last group may be short. -/
def groups (size : Nat) (bytes : List UInt8) : List (List UInt8) :=
  go bytes.length bytes
where
  go : Nat → List UInt8 → List (List UInt8)
    | _, [] => []
    | 0, _ => []
    | fuel + 1, bytes => bytes.take size :: go fuel (bytes.drop size)

/-- The words in groups of bytes that start at `offset`, up to the first that is too wide. -/
def words (n : Nat) (size : Nat) (file : Option String) :
    (offset : Nat) → List (List UInt8) → Except ImageError (List Int)
  | _, [] => .ok []
  | offset, group :: rest => do
    let word : Int := valueOf group
    if Word.mask n < word then
      throw { flaw := .wideBinaryWord word offset n, file }
    return word :: (← words n size file (offset + size) rest)

/-- The words of an image. The length is examined first, then the width, then the words in order. A
partial word is reported with the size of a word, which may be too long a numeral; the number of
bytes that there are never is. -/
def parse (host : Host) (width : Int) (file : Option String) (bytes : List UInt8) :
    Except ImageFailure (List Int) := do
  let size := wordBytes width
  if size = 0 then throw .emptyWord
  if (bytes.length : Int) % size ≠ 0 then
    let _ ← (InvalidValue.decimal size).mapError ImageFailure.width
    throw (.malformed { flaw := .partialWord bytes.length size, file })
  let n ← (AnyWidth.roomy host 0 width).mapError ImageFailure.width
  (words n size.toNat file 0 (groups size.toNat bytes)).mapError ImageFailure.malformed

/-- The image of words, each cut to the width. -/
def format (host : Host) (width : Int) (words : List Int) : Except InvalidValue (List UInt8) := do
  let n ← AnyWidth.roomy host 0 width
  return words.flatMap fun word => bytesOf (wordBytes width).toNat (Bits.keep n word).toNat

end SerialMachine.Image.Binary

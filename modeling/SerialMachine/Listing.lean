import SerialMachine.AnyWidth
import SerialMachine.Peripherals
import SerialMachine.Slice
import SerialMachine.Text.Case

/-!
# Listings

Words written as instructions, one a line, with a comment that names the exchanged register, the
peripheral or the symbol at the operand's address. Every word is an instruction, data words too. The
word is shown as it is given, even where it is wider than the machine's words.
-/

namespace SerialMachine

/-- One line of a listing. -/
structure ListingLine where
  address : Int
  /-- The word as given. -/
  word : Int
  instruction : Instruction
  /-- The operand as the listing shows it. -/
  operandText : String
  /-- The comment; empty when there is none. -/
  comment : String
  deriving DecidableEq, Repr

namespace ListingLine

/-- The address as the listing shows it. -/
def addressText (line : ListingLine) : String :=
  "$" ++ Text.hex 4 line.address

/-- The word with the mark of a hexadecimal number. -/
def wordText (line : ListingLine) : String :=
  "$" ++ Text.hex 4 line.word

/-- The address and the word, the mnemonic and the operand, and after them the comment. -/
def text (line : ListingLine) : String :=
  let head := line.addressText ++ ": " ++ Text.hex 4 line.word ++ "  "
  let body := line.instruction.operation.name ++ " " ++ line.operandText
  if line.comment == "" then head ++ body
  else head ++ Text.padRight 16 body ++ " ; " ++ line.comment

end ListingLine

/-- Names of addresses, the latest name of an address counting. -/
abbrev Symbols := List (Int × String)

namespace Symbols

/-- The name of an address; empty when it has none. -/
def nameOf (symbols : Symbols) (address : Int) : String :=
  ((symbols.reverse.find? fun entry => entry.1 == address).map (·.2)).getD ""

end Symbols

/-- How words are listed. -/
structure Listing where
  variant : Variant := .base
  /-- The number of bits in a word; a listing can be set up for any width. -/
  width : Int := 16
  symbols : Symbols := []
  host : Host := default

namespace Listing

/-- The listing with one more symbol. -/
def addSymbol (listing : Listing) (address : Int) (name : String) : Listing :=
  { listing with symbols := listing.symbols ++ [(address, name)] }

/-- The number of digits that operands are shown with. -/
def digits (listing : Listing) : Nat :=
  ((listing.width - 1) / 4).toNat

/-- The comment on an address of the peripherals. -/
def peripheralComment (listing : Listing) (operand : Int) : Except InvalidValue String := do
  let n ← AnyWidth.roomy listing.host 5 listing.width
  let offset := Bits.keep (Word.selectPlace n) operand
  match Peripheral.ofOffset? offset with
  | some peripheral => return "io " ++ peripheral.name
  | none => return "io +" ++ (← InvalidValue.decimal offset)

/-- The comment on an instruction. -/
def comment (listing : Listing) (operation : Operation) (operand : Int) :
    Except InvalidValue String := do
  match ← AnyWidth.target? listing.host listing.variant listing.width operation operand with
  | some .io => listing.peripheralComment operand
  | some target => return Text.lowerString target.name
  | none =>
    if operation.takesAddress then
      let n ← AnyWidth.roomy listing.host 5 listing.width
      if Bits.test (Word.selectPlace n) operand then listing.peripheralComment operand
      else return listing.symbols.nameOf operand
    else
      return ""

/-- The line for a word at an address, refused when the width leaves no room for an opcode or for
the bit that a comment asks about, and when the comment would hold too long a number. -/
def line (listing : Listing) (word address : Int) : Except InvalidValue ListingLine := do
  let instruction ← AnyWidth.decode listing.host listing.variant listing.width word
  let comment ← listing.comment instruction.operation instruction.operand
  return {
    address, word, instruction, comment
    operandText := "$" ++ Text.hex listing.digits instruction.operand }

/-- The lines for words at consecutive addresses. -/
def linesFrom (listing : Listing) (address : Int) :
    List Int → Except InvalidValue (List ListingLine)
  | [] => .ok []
  | word :: rest => do
    return (← listing.line word address) :: (← linesFrom listing (address + 1) rest)

/-- The lines for words from `start` on, at most `count` of them. -/
def lines (listing : Listing) (words : List Int) (start : Int) (count : Option Int) :
    Except InvalidValue (List ListingLine) :=
  listing.linesFrom start (Slice.upTo words count)

/-- The text of a listing. -/
def text (lines : List ListingLine) : String :=
  "\n".intercalate (lines.map ListingLine.text)

end Listing

end SerialMachine

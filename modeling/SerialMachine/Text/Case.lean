import SerialMachine.Text.CaseTable

/-!
# Letter case

The small and the capital form of a text in any script. A capital sigma becomes the final small
sigma when it ends a word: a character with a letter case comes before it and none after it,
ignorable characters passed over.
-/

namespace SerialMachine.Text

/-- Whether a code point lies in one of the ranges. -/
def inRanges (ranges : List (Nat × Nat)) (n : Nat) : Bool :=
  ranges.any fun (first, last) => first ≤ n && n ≤ last

/-- Whether a character has a letter case. -/
def isCased (c : Char) : Bool :=
  inRanges casedRanges c.toNat

/-- Whether a character is passed over in the search for a neighbour with a letter case. -/
def isCaseIgnorable (c : Char) : Bool :=
  inRanges caseIgnorableRanges c.toNat

/-- The partner of a character in the runs that contain it, or the character itself. -/
def CaseRun.apply (runs : List CaseRun) (c : Char) : Char :=
  let n := c.toNat
  match runs.find? fun r => r.first ≤ n && n ≤ r.last && (n - r.first) % r.stride == 0 with
  | some r => Char.ofNat ((n : Int) + r.distance).toNat
  | none => c

/-- Whether the first character that is not ignorable has a letter case. -/
def startsCased (text : List Char) : Bool :=
  match text.dropWhile isCaseIgnorable with
  | [] => false
  | c :: _ => isCased c

/-- The small form of a character between the text before it, nearest character first, and the text
after it. -/
def lowerCharBetween (before : List Char) (c : Char) (after : List Char) : List Char :=
  if c.toNat == 0x3A3 then
    [Char.ofNat (if startsCased before && !startsCased after then 0x3C2 else 0x3C3)]
  else if c.toNat == 0x130 then
    [Char.ofNat 0x69, Char.ofNat 0x307]
  else
    [CaseRun.apply lowerRuns c]

/-- The small form of a text that follows `before`, given nearest character first. -/
def lowerAfter (before : List Char) : List Char → List Char
  | [] => []
  | c :: rest => lowerCharBetween before c rest ++ lowerAfter (c :: before) rest

/-- The small form of a text. -/
def lower (text : List Char) : List Char :=
  lowerAfter [] text

/-- The capital form of a character. -/
def upperChar (c : Char) : List Char :=
  match upperExpansions.find? fun entry => entry.1 == c.toNat with
  | some entry => entry.2.map Char.ofNat
  | none => [CaseRun.apply upperRuns c]

/-- The capital form of a text. -/
def upper (text : List Char) : List Char :=
  text.flatMap upperChar

/-- The small form of a text. -/
def lowerString (text : String) : String :=
  String.ofList (lower text.toList)

/-- The capital form of a text. -/
def upperString (text : String) : String :=
  String.ofList (upper text.toList)

example : lowerString "FLAG_Hlt" = "flag_hlt" := by decide +kernel
example : upperString "hlt" = "HLT" := by decide +kernel

end SerialMachine.Text

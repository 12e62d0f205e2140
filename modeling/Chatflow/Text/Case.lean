import Chatflow.Text.CaseTable

/-!
# Changing case

Case is changed for a whole text, since the lower case of a capital sigma depends on its neighbours: it is the final
form at the end of a word, that is behind a letter and not before one, looking through the characters that case rules
ignore.
-/

namespace Chatflow.Text

/-- Whether a code point lies in one of the ranges. -/
def inRanges (ranges : Array (Nat × Nat)) (n : Nat) : Bool :=
  ranges.any fun (first, last) => first ≤ n && n ≤ last

/-- The code point at the distance that a table of runs gives for it, or itself. -/
def shift (runs : Array (Nat × Nat × Nat × Int)) (n : Nat) : Nat :=
  match runs.find? fun (first, last, stride, _) => first ≤ n && n ≤ last && (n - first) % stride == 0 with
  | some (_, _, _, distance) => (n + distance).toNat
  | none => n

/-- Whether a character is a letter with a case. -/
def isCased (c : Char) : Bool := if c.toNat < 128 then c.isAlpha else inRanges cased c.toNat

/-- Whether case rules look through a character. -/
def isCaseIgnorable (c : Char) : Bool := inRanges caseIgnorable c.toNat

/-- The lower case of a character, the capital sigma apart. -/
def lowerChar (c : Char) : List Char :=
  if c.toNat < 128 then [c.toLower]
  else if c.toNat = 0x130 then ['i', Char.ofNat 0x307]
  else [Char.ofNat (shift lowercaseRuns c.toNat)]

/-- Whether the nearest character that case rules do not ignore is a letter with a case. -/
def meetsCased (cs : List Char) : Bool :=
  match cs.dropWhile isCaseIgnorable with
  | c :: _ => isCased c
  | [] => false

/-- The lower case of a text that stands behind the characters `before`, the nearest first. -/
def lowerFrom (before : List Char) : List Char → List Char
  | [] => []
  | c :: cs =>
    (if c = 'Σ' then [if meetsCased before && !meetsCased cs then 'ς' else 'σ'] else lowerChar c) ++
      lowerFrom (c :: before) cs

/-- The lower case of a text. -/
def lower (cs : List Char) : List Char := lowerFrom [] cs

/-- The upper case of a character. -/
def upperChar (c : Char) : List Char :=
  if c.toNat < 128 then [c.toUpper]
  else
    match uppercaseWords.find? fun (n, _) => n == c.toNat with
    | some (_, word) => word.map Char.ofNat
    | none => [Char.ofNat (shift uppercaseRuns c.toNat)]

/-- The upper case of a text. -/
def upper (cs : List Char) : List Char := cs.flatMap upperChar

end Chatflow.Text

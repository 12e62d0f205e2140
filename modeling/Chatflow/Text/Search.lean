/-!
# Searching and cutting texts

Texts are lists of characters here.  A pattern is a function that tells how many characters it matches at the start of
a text; `replaceAll` replaces its matches from left to right, a match never starting inside another.
-/

namespace Chatflow.Text

/-- Whether a word occurs in a text, as neighbouring characters. -/
def occurs (word : List Char) : List Char → Bool
  | [] => word.isEmpty
  | c :: cs => word.isPrefixOf (c :: cs) || occurs word cs

/-- Cuts a text at the first occurrence of a word: what stands before it and what stands behind it. -/
def cutAt? (word : List Char) : List Char → Option (List Char × List Char)
  | [] => if word.isEmpty then some ([], []) else none
  | c :: cs =>
    if word.isPrefixOf (c :: cs) then some ([], (c :: cs).drop word.length)
    else (cutAt? word cs).map fun (before, behind) => (c :: before, behind)

/-- What stands before the first occurrence of a word; the whole text when there is none. -/
def before (word text : List Char) : List Char := ((cutAt? word text).map (·.1)).getD text

/-- Replaces the matches of a pattern by a text; the first `skip` characters belong to a match already replaced. -/
def replaceFrom (pattern : List Char → Option Nat) (new : List Char) : Nat → List Char → List Char
  | _, [] => []
  | skip + 1, _ :: cs => replaceFrom pattern new skip cs
  | 0, c :: cs =>
    match pattern (c :: cs) with
    | some (n + 1) => new ++ replaceFrom pattern new n cs
    | _ => c :: replaceFrom pattern new 0 cs

/-- Replaces the matches of a pattern, which matches no empty text, from left to right. -/
def replaceAll (pattern : List Char → Option Nat) (new text : List Char) : List Char := replaceFrom pattern new 0 text

/-- The pattern that matches one word. -/
def word (w : List Char) (cs : List Char) : Option Nat := if w.isPrefixOf cs then some w.length else none

/-- What a pattern finds in a text, from left to right; a pattern tells what it finds and how many characters it
matches. -/
def findFrom {α : Type} (pattern : List Char → Option (α × Nat)) : Nat → List Char → List α
  | _, [] => []
  | skip + 1, _ :: cs => findFrom pattern skip cs
  | 0, c :: cs =>
    match pattern (c :: cs) with
    | some (a, n + 1) => a :: findFrom pattern n cs
    | _ => findFrom pattern 0 cs

/-- All that a pattern finds in a text. -/
def findAll {α : Type} (pattern : List Char → Option (α × Nat)) (text : List Char) : List α := findFrom pattern 0 text

end Chatflow.Text

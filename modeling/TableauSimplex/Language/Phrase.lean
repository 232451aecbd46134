import TableauSimplex.Text.Blank
import TableauSimplex.Text.Word

/-!
# Phrases and separators

The parts of a specification are told apart by phrases, written in any case.  Commas, semicolons
and the word `and` separate the constraints.
-/

set_option autoImplicit false

namespace TableauSimplex.Language

/-- Whether a character is a small letter in any case.  The long s counts as an s, and the
dotless and the dotted i as an i. -/
def isLetter (letter c : Char) : Bool :=
  c.toLower == letter
    || (letter == 's' && c.toNat == 0x17f)
    || (letter == 'i' && (c.toNat == 0x131 || c.toNat == 0x130))

def afterPhrase? : List Char → List Char → Option (List Char)
  | [], text => some text
  | _ :: _, [] => none
  | letter :: phrase, c :: rest => if isLetter letter c then afterPhrase? phrase rest else none

def dividers : List String :=
  ["subject to", "such that", "s.t."]

def afterDivider? (text : List Char) : Option (List Char) :=
  dividers.findSome? fun phrase => afterPhrase? phrase.toList text

/-- The text before the first divider, and what follows the divider if there is one. -/
def cutAtDivider : List Char → List Char × Option (List Char)
  | [] => ([], none)
  | c :: rest =>
      match afterDivider? (c :: rest) with
      | some after => ([], some after)
      | none => (c :: (cutAtDivider rest).1, (cutAtDivider rest).2)

def startsAnd (afterWord : Bool) (text : List Char) : Bool :=
  !afterWord &&
    match afterPhrase? "and".toList text with
    | some (next :: _) => !Text.isWord next
    | some [] => true
    | none => false

def onFirst (c : Char) : List (List Char) → List (List Char)
  | [] => [[c]]
  | first :: others => (c :: first) :: others

/-- The parts between the separators.  `afterWord` says that a word character stands before the
text. -/
def splitParts (afterWord : Bool) : List Char → List (List Char)
  | [] => [[]]
  | c :: rest =>
      if c = ',' ∨ c = ';' then [] :: splitParts false rest
      else if startsAnd afterWord (c :: rest) then [] :: splitParts true (rest.drop 2)
      else onFirst c (splitParts (Text.isWord c) rest)
termination_by text => text.length
decreasing_by all_goals simp only [List.length_drop, List.length_cons]; omega

/-- The parts of a list of constraints, without blanks around them and without empty ones. -/
def parts (text : List Char) : List (List Char) :=
  ((splitParts false text).map Text.strip).filter fun part => !part.isEmpty

end TableauSimplex.Language

/-!
# Occurrences in a text

A recogniser reads something at the front of a text and leaves a shorter rest.  A scan goes from
left to right: where the recogniser succeeds it takes what was read, and elsewhere a single
character.
-/

set_option autoImplicit false

namespace TableauSimplex.Language

structure Recogniser (β : Type) where
  read : List Char → Option (β × List Char)
  shortens : ∀ input value rest, read input = some (value, rest) → rest.length < input.length

/-- A part of a scanned text: a plain character, or something of the given length that was
recognised. -/
inductive Piece (β : Type) where
  | plain (c : Char)
  | found (value : β) (length : Nat)
  deriving Repr

def scan {β : Type} (recogniser : Recogniser β) (input : List Char) : List (Piece β) :=
  match input with
  | [] => []
  | c :: tail =>
      match success : recogniser.read (c :: tail) with
      | some (value, rest) =>
          have := recogniser.shortens _ _ _ success
          .found value ((c :: tail).length - rest.length) :: scan recogniser rest
      | none => .plain c :: scan recogniser tail
termination_by input.length
decreasing_by
  · assumption
  · exact Nat.lt_succ_self _

def findings {β : Type} (pieces : List (Piece β)) : List β :=
  pieces.filterMap fun piece =>
    match piece with
    | .plain _ => none
    | .found value _ => some value

/-- The text with spaces in place of everything that was recognised. -/
def blanked {β : Type} (pieces : List (Piece β)) : List Char :=
  pieces.flatMap fun piece =>
    match piece with
    | .plain c => [c]
    | .found _ length => List.replicate length ' '

end TableauSimplex.Language

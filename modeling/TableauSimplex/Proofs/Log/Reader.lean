import Mathlib.Data.List.DropRight
import Mathlib.Data.List.FinRange
import Mathlib.Tactic.SplitIfs
import TableauSimplex.Solver.Run

/-!
# Reading a log

A message about an exchange can be told from every other message by how it begins, and it names a
row and two columns.  So the names of the basic columns can be followed through a log, and a log in
which a name is not that of the row it should leave cannot be followed to its end.
-/

set_option autoImplicit false

namespace TableauSimplex

namespace Log

def isExchange (message : String) : Bool :=
  "Pivot: leaving ".toList.isPrefixOf message.toList

/-- The leaving name, the number of the row and the entering name. -/
def readExchange? (message : String) : Option (String × Nat × String) := do
  let text ← message.toList.dropPrefix? "Pivot: leaving ".toList
  let leaving := text.takeWhile (· != ' ')
  let text ← (text.dropWhile (· != ' ')).dropPrefix? " (row ".toList
  let digits := text.takeWhile Char.isDigit
  let entering ← (text.dropWhile Char.isDigit).dropPrefix? "), entering ".toList
  return (String.ofList leaving, Nat.ofDigitChars 10 digits 0, String.ofList entering)

/-- The basic names after an exchange.  The first row has the number one, and the leaving name must
be that of the row. -/
def replayExchange? (names : List String) (message : String) : Option (List String) :=
  match readExchange? message with
  | some (leaving, row + 1, entering) =>
      if names[row]? = some leaving then some (names.set row entering) else none
  | _ => none

def follow? (names : List String) (message : String) : Option (List String) :=
  if isExchange message then replayExchange? names message else some names

/-- Follows the names of the basic columns, row by row, through a log. -/
def replay? (names : List String) : List String → Option (List String)
  | [] => some names
  | message :: rest => (follow? names message).bind fun names => replay? names rest

theorem replay?_append (names : List String) (first second : List String) :
    replay? names (first ++ second) =
      (replay? names first).bind fun names => replay? names second := by
  induction first generalizing names with
  | nil => rfl
  | cons message rest induction =>
      simp only [List.cons_append, replay?, Option.bind_assoc, induction]

end Log

/-! ## The names of columns -/

namespace Layout

variable (L : Layout) {first second position : Nat}

/-- The letter for the kind of a column and the number it has there. -/
def label (position : Nat) : Char × Nat :=
  if position < L.decisions then ('x', position + 1)
  else if position < L.structural then ('s', position - L.decisions + 1)
  else ('a', position - L.structural + 1)

theorem label_injective (same : L.label first = L.label second) : first = second := by
  unfold label at same
  split_ifs at same <;>
    simp only [Prod.mk.injEq, Char.reduceEq, false_and, true_and] at same <;> omega

theorem toList_labelled (letter : String) (n : Nat) :
    (toString letter ++ toString n).toList = letter.toList ++ Nat.toDigits 10 n := by
  rw [String.toList_append, Nat.toString_eq_ofList_toDigits, String.toList_ofList]
  rfl

theorem toList_columnName (below : position < L.width) :
    (L.columnName position).toList =
      (L.label position).1 :: Nat.toDigits 10 (L.label position).2 := by
  unfold columnName label
  split
  · exact toList_labelled "x" _
  · split
    · exact toList_labelled "s" _
    · exact toList_labelled "a" _

theorem columnName_of_le (beyond : L.width ≤ position) :
    L.columnName position = "tgt" ∨ L.columnName position = "ERR" := by
  have structural := L.structural_le_width
  have decisions := L.decisions_le_structural
  rw [columnName, if_neg (by omega), if_neg (by omega), if_neg (by omega)]
  split <;> simp

theorem toDigits_injective (same : Nat.toDigits 10 first = Nat.toDigits 10 second) :
    first = second := by
  have numbers := congrArg (fun digits => Nat.ofDigitChars 10 digits 0) same
  simpa only [Nat.ofDigitChars_ten_toDigits] using numbers

theorem columnName_injective (below : first < L.width) (alsoBelow : second < L.width)
    (same : L.columnName first = L.columnName second) : first = second := by
  have chars := congrArg String.toList same
  rw [L.toList_columnName below, L.toList_columnName alsoBelow] at chars
  obtain ⟨letter, digits⟩ := List.cons.inj chars
  exact L.label_injective (Prod.ext letter (toDigits_injective digits))

theorem letter_mem (position : Nat) : (L.label position).1 ∈ ['x', 's', 'a'] := by
  unfold label
  split
  · simp
  · split <;> simp

/-- Every name is a word that begins with a letter other than those of the messages. -/
theorem basicName_cases (basic : Int) :
    (∃ position, position < L.width ∧ L.basicName basic = L.columnName position) ∨
      L.basicName basic = "tgt" ∨ L.basicName basic = "ERR" := by
  cases basic with
  | ofNat position =>
      by_cases below : position < L.width
      · exact .inl ⟨position, below, rfl⟩
      · exact .inr (L.columnName_of_le (Nat.le_of_not_lt below))
  | negSucc _ => exact .inr (.inr rfl)

theorem not_space_of_mem_basicName {basic : Int} {c : Char}
    (member : c ∈ (L.basicName basic).toList) : c ≠ ' ' := by
  rintro rfl
  rcases L.basicName_cases basic with ⟨position, below, same⟩ | same | same
  · rw [same, L.toList_columnName below] at member
    rcases List.mem_cons.mp member with letter | digit
    · have letters := L.letter_mem position
      rw [← letter] at letters
      simp at letters
    · have isDigit := Nat.isDigit_of_mem_toDigits (by decide) (by decide) digit
      exact absurd isDigit (by decide)
  · rw [same] at member
    exact absurd member (by decide)
  · rw [same] at member
    exact absurd member (by decide)

theorem head_basicName (basic : Int) :
    ∃ letter rest, (L.basicName basic).toList = letter :: rest ∧ letter ≠ 'P' := by
  rcases L.basicName_cases basic with ⟨position, below, same⟩ | same | same
  · refine ⟨_, _, by rw [same, L.toList_columnName below], ?_⟩
    intro isP
    have letters := L.letter_mem position
    rw [isP] at letters
    simp at letters
  · exact ⟨'t', ['g', 't'], by rw [same]; rfl, by decide⟩
  · exact ⟨'E', ['R', 'R'], by rw [same]; rfl, by decide⟩

end Layout

/-! ## Messages -/

namespace Log

variable {L : Layout}

theorem toList_exchangeText (basic : Int) (row : Fin L.constraints) (entering : Int) :
    (Event.exchangeText L basic (row.val + 2) entering).toList =
      "Pivot: leaving ".toList ++ ((L.basicName basic).toList ++ (" (row ".toList ++
        (Nat.toDigits 10 (row.val + 1) ++ ("), entering ".toList ++
          (L.basicName entering).toList)))) := by
  have number : (row.val + 2 : Int) - 1 = ((row.val + 1 : Nat) : Int) := by omega
  have constraint : Event.leavingName L basic (row.val + 2) = L.basicName basic := by
    rw [Event.leavingName, if_neg (by omega), if_neg (by omega)]
  have digits : (toString ((row.val + 1 : Nat) : Int)).toList = Nat.toDigits 10 (row.val + 1) := by
    have same : toString ((row.val + 1 : Nat) : Int) = toString (row.val + 1) := rfl
    rw [same, Nat.toString_eq_ofList_toDigits, String.toList_ofList]
  have plain (text : String) : toString text = text := rfl
  have joined : "), entering ".toList = "), ".toList ++ "entering ".toList := by decide
  unfold Event.exchangeText
  rw [number, constraint]
  simp only [String.toList_append, digits, plain, joined, List.append_assoc]

theorem isExchange_exchangeText (basic : Int) (row : Fin L.constraints) (entering : Int) :
    isExchange (Event.exchangeText L basic (row.val + 2) entering) = true := by
  rw [isExchange, toList_exchangeText, List.isPrefixOf_iff_prefix]
  exact List.prefix_append _ _

/-- Reading a message about an exchange gives back what it was made from. -/
theorem readExchange?_exchangeText (basic : Int) (row : Fin L.constraints) (entering : Int) :
    readExchange? (Event.exchangeText L basic (row.val + 2) entering) =
      some (L.basicName basic, row.val + 1, L.basicName entering) := by
  have name : ∀ c ∈ (L.basicName basic).toList, (c != ' ') = true := by
    intro c member
    simpa using L.not_space_of_mem_basicName member
  have digits : ∀ c ∈ Nat.toDigits 10 (row.val + 1), c.isDigit = true :=
    fun c member => Nat.isDigit_of_mem_toDigits (by decide) (by decide) member
  have dropped (lead text : List Char) : (lead ++ text).dropPrefix? lead = some text :=
    List.dropPrefix?_append_of_beq text (beq_self_eq_true lead)
  have space (text : List Char) : (" (row ".toList ++ text).takeWhile (· != ' ') = [] ∧
      (" (row ".toList ++ text).dropWhile (· != ' ') = " (row ".toList ++ text := by
    constructor <;> rfl
  have bracket (text : List Char) : ("), entering ".toList ++ text).takeWhile Char.isDigit = [] ∧
      ("), entering ".toList ++ text).dropWhile Char.isDigit = "), entering ".toList ++ text := by
    constructor <;> rfl
  rw [readExchange?, toList_exchangeText, dropped]
  simp only [bind, Option.bind_some, List.takeWhile_append_of_pos name,
    List.dropWhile_append_of_pos name, space, dropped, List.takeWhile_append_of_pos digits,
    List.dropWhile_append_of_pos digits, bracket, List.append_nil, String.ofList_toList,
    Nat.ofDigitChars_ten_toDigits]
  rfl

/-- A message about an exchange puts the entering name in the place of the leaving one. -/
theorem follow?_exchangeText {names : List String} {basic : Int} {row : Fin L.constraints}
    (current : names[row.val]? = some (L.basicName basic)) (entering : Int) :
    follow? names (Event.exchangeText L basic (row.val + 2) entering) =
      some (names.set row.val (L.basicName entering)) := by
  rw [follow?, if_pos (isExchange_exchangeText basic row entering), replayExchange?,
    readExchange?_exchangeText]
  simp only [current, if_true]

/-! ## Other messages -/

def secondPhaseStart : String :=
  "Phase 2, start"

/-- Whether a message is neither about an exchange nor about the start of the second phase. -/
def IsAside (message : String) : Prop :=
  isExchange message = false ∧ message ≠ secondPhaseStart

theorem isAside_of_head {message : String} (other : message.toList.head? ≠ some 'P') :
    IsAside message := by
  constructor
  · rw [isExchange]
    cases chars : message.toList with
    | nil => rfl
    | cons first rest =>
        have differs : ('P' == first) = false := by
          rw [chars] at other
          simpa using fun same : 'P' = first => other (congrArg some same.symm)
        simp [List.isPrefixOf, differs]
  · rintro rfl
    exact other rfl

theorem exists_toList_intercalate_cons (separator first : String) (rest : List String) :
    ∃ tail, (String.intercalate separator (first :: rest)).toList = first.toList ++ tail := by
  cases rest with
  | nil => exact ⟨[], by simp⟩
  | cons second rest =>
      refine ⟨separator.toList ++ (String.intercalate separator (second :: rest)).toList, ?_⟩
      simp only [String.intercalate_cons_cons, String.toList_append, List.append_assoc]

variable {α : Type} [Scalar α] (tableau : Tableau L α)

/-- A summary begins with the name of a column. -/
theorem isAside_summary : IsAside tableau.summary := by
  obtain ⟨row, others, rows⟩ : ∃ row others, L.constraintRows = row :: others := by
    apply List.exists_cons_of_ne_nil
    simpa [Layout.constraintRows, List.finRange_eq_nil_iff] using L.constraints_pos.ne'
  obtain ⟨letter, rest, name, other⟩ := L.head_basicName (tableau.basis row)
  apply isAside_of_head
  rw [Tableau.summary, rows]
  simp only [List.map_cons, List.cons_append]
  obtain ⟨tail, text⟩ := exists_toList_intercalate_cons "    "
    (tableau.rowName row ++ " = " ++ cellText (tableau.rows row).target) _
  rw [text, Tableau.rowName, String.toList_append, String.toList_append, name]
  simpa using other

/-- A grid begins with a blank, if anything is left of it without the blanks at its end. -/
theorem isAside_grid : IsAside tableau.grid := by
  apply isAside_of_head
  have sofar : tableau.grid.toList <+:
      (String.intercalate "\n"
        (tableau.gridHeader :: tableau.activeRows.map tableau.gridLine)).toList := by
    rw [Tableau.grid, String.toList_ofList]
    exact List.rdropWhile_prefix _ _
  obtain ⟨tail, text⟩ := exists_toList_intercalate_cons "\n" tableau.gridHeader
    (tableau.activeRows.map tableau.gridLine)
  have blank : ∃ rest, tableau.gridHeader.toList ++ tail = ' ' :: rest := by
    rw [Tableau.gridHeader, String.toList_append, String.toList_append]
    exact ⟨_, rfl⟩
  obtain ⟨rest, blank⟩ := blank
  rw [text, blank] at sofar
  rcases List.prefix_cons_iff.mp sofar with nothing | ⟨left, something, _⟩
  · rw [nothing]
    simp
  · rw [something]
    simp

theorem isAside_step (phase : Phase) : IsAside (Stage.step phase).heading := by
  cases phase <;> exact ⟨by decide, by decide⟩

theorem isAside_firstPhaseStart : IsAside (Stage.start .first).heading :=
  ⟨by decide, by decide⟩

theorem isAside_ending (ending : Ending) : IsAside ending.heading := by
  cases ending <;> exact ⟨by decide, by decide⟩

end Log

end TableauSimplex

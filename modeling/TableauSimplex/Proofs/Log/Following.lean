import TableauSimplex.Proofs.Log.Reader
import TableauSimplex.Proofs.Solver.Logged

/-!
# Following a run through its log

What a run writes up to the start of the second phase, or behind it, leads from the names of the
basic columns in the tableau it starts from to those in the tableau it ends in, with a message for
each exchange it counts.  It holds of an exchange because its message is worded before the basis
changes, and from there of the loops by induction.
-/

set_option autoImplicit false

namespace TableauSimplex

variable {L : Layout} {α β γ : Type}

namespace Tableau

/-- The names of the basic columns, row by row. -/
def rowNames (tableau : Tableau L α) : List String :=
  L.constraintRows.map tableau.rowName

theorem getElem?_rowNames (tableau : Tableau L α) (row : Fin L.constraints) :
    tableau.rowNames[row.val]? = some (tableau.rowName row) := by
  simp [rowNames, Layout.constraintRows]

theorem rowNames_exchange [Scalar α] (tableau : Tableau L α) (entering : Fin L.width)
    (leaving : Fin L.constraints) (tolerance : α) :
    (tableau.exchange entering leaving tolerance).rowNames =
      tableau.rowNames.set leaving.val (L.columnName entering.val) := by
  apply List.ext_getElem
  · simp [rowNames]
  · intro position _ _
    simp only [rowNames, Layout.constraintRows, List.getElem_map, List.getElem_set, rowName,
      basis_exchange, List.getElem_finRange, Fin.ext_iff, Fin.val_cast]
    split <;> rfl

end Tableau

namespace Log

/-- Whether messages lead from the names of one basis to those of another by a number of
exchanges, without a start of the second phase among them. -/
structure Leads (messages before after : List String) (count : Int) : Prop where
  replayed : replay? before messages = some after
  counted : (messages.countP isExchange : Int) = count
  quiet : secondPhaseStart ∉ messages

namespace Leads

variable {messages first second before middle after names : List String}
  {count firstCount secondCount : Int}

theorem append (leads : Leads first before middle firstCount)
    (continues : Leads second middle after secondCount) :
    Leads (first ++ second) before after (firstCount + secondCount) where
  replayed := by rw [replay?_append, leads.replayed, Option.bind_some, continues.replayed]
  counted := by rw [List.countP_append, Nat.cast_add, leads.counted, continues.counted]
  quiet member := (List.mem_append.mp member).elim leads.quiet continues.quiet

theorem of_asides (asides : ∀ message ∈ messages, IsAside message) :
    Leads messages names names 0 := by
  induction messages with
  | nil => exact ⟨rfl, rfl, List.not_mem_nil⟩
  | cons message rest induction =>
      obtain ⟨plain, other⟩ := asides message List.mem_cons_self
      have leads := induction fun later member => asides later (List.mem_cons_of_mem _ member)
      refine ⟨?_, ?_, ?_⟩
      · simp only [replay?, follow?, plain, Bool.false_eq_true, if_false, Option.bind_some,
          leads.replayed]
      · rw [List.countP_cons_of_neg (by simp [plain])]
        exact leads.counted
      · intro member
        rcases List.mem_cons.mp member with same | later
        · exact other same.symm
        · exact leads.quiet later

theorem of_exchange (tableau : Tableau L α) (entering : Fin L.width) (leaving : Fin L.constraints) :
    Leads [Event.exchangeText L (tableau.basis leaving) (leaving.val + 2) entering.val]
      tableau.rowNames (tableau.rowNames.set leaving.val (L.columnName entering.val)) 1 := by
  have exchange := isExchange_exchangeText (tableau.basis leaving) leaving entering.val
  refine ⟨?_, ?_, ?_⟩
  · rw [replay?, follow?_exchangeText (tableau.getElem?_rowNames leaving)]
    rfl
  · simp [exchange]
  · intro member
    rw [← List.mem_singleton.mp member] at exchange
    exact absurd exchange (by decide)

end Leads

end Log

/-! ## Runs -/

namespace Run

variable [Scalar α]

/-- Whether the log of a run leads from some names to those of the basis it ends with, while a
count of exchanges goes from one number to another. -/
def Follows (run : Run L α β) (names : List String) (before : Int) (after : β → Int) : Prop :=
  ∀ value final, run.EndsIn value final →
    Log.Leads run.messages names final.rowNames (after value - before)

variable {names : List String} {before : Int}

theorem follows_settle (outcome : Except RunError β) (tableau : Tableau L α) {after : β → Int}
    (same : ∀ value, outcome = .ok value → after value = before) :
    (settle outcome tableau).Follows tableau.rowNames before after := by
  rintro value final ⟨succeeds, rfl⟩
  rw [same value succeeds, sub_self]
  exact .of_asides fun _ member => by cases member

theorem follows_fail (fault : Fault) (tableau : Tableau L α) {after : β → Int} :
    (fail fault tableau).Follows names before after :=
  fun _ _ ends => absurd ends not_endsIn_fail

theorem follows_note {event : Event L α} (tableau : Tableau L α)
    (asides : ∀ message ∈ event.messages, Log.IsAside message) :
    (note event tableau).Follows tableau.rowNames before fun _ => before := by
  intro value final ends
  obtain rfl := endsIn_note.mp ends
  rw [sub_self]
  exact .of_asides fun message member => asides message (by simpa [messages, note] using member)

theorem Follows.andThen {run : Run L α β} {next : β → Tableau L α → Run L α γ}
    {middle : β → Int} {after : γ → Int} (follows : run.Follows names before middle)
    (rest : ∀ value tableau, run.EndsIn value tableau →
      (next value tableau).Follows tableau.rowNames (middle value) after) :
    (run.andThen next).Follows names before after := by
  intro value final ends
  obtain ⟨result, reached, earlier, later⟩ := endsIn_andThen.mp ends
  obtain ⟨succeeds, rfl⟩ := earlier
  rw [messages_andThen_of_ok succeeds]
  have leads := (follows result run.tableau ⟨succeeds, rfl⟩).append
    (rest result run.tableau ⟨succeeds, rfl⟩ value final later)
  have total : middle result - before + (after value - middle result) = after value - before := by
    omega
  rwa [total] at leads

end Run

/-! ## The loops -/

namespace Tableau

variable [Scalar α] (options : Options α)

theorem follows_exchangeStep (tableau : Tableau L α) (entering : Fin L.width)
    (leaving : Fin L.constraints) (before : Int) :
    (tableau.exchangeStep entering leaving options.tolerance).Follows tableau.rowNames before
      fun _ => before + 1 := by
  unfold exchangeStep
  split
  · exact Run.follows_fail _ _
  · rintro value final ⟨_, rfl⟩
    rw [rowNames_exchange, add_sub_cancel_left]
    simpa [Run.messages, Event.messages] using
      Log.Leads.of_exchange tableau entering leaving

theorem follows_checkedExchange (tableau : Tableau L α) (entering : Fin L.width)
    (leaving : Fin L.constraints) (before : Int) :
    (checkedExchange options tableau entering leaving).Follows tableau.rowNames before
      fun _ => before + 1 := by
  apply (follows_exchangeStep options tableau entering leaving before).andThen
  intro _ next _
  exact Run.follows_settle _ next fun _ _ => rfl

theorem isAside_of_mem_step {phase : Phase} {tableau : Tableau L α} {message : String}
    (member : message ∈ (Event.shown (.step phase) tableau).messages) : Log.IsAside message := by
  simp only [Event.messages, List.mem_cons, List.not_mem_nil, or_false] at member
  rcases member with rfl | rfl | rfl
  · exact Log.isAside_step phase
  · exact Log.isAside_grid tableau
  · exact Log.isAside_summary tableau

theorem follows_optimiseFrom (limit : Int) (budget streak pivots : Nat) (tableau : Tableau L α) :
    (optimiseFrom options limit budget streak pivots tableau).Follows tableau.rowNames pivots
      fun outcome => outcome.pivots := by
  induction budget using Nat.strong_induction_on generalizing streak pivots tableau with
  | _ budget induction =>
      unfold optimiseFrom
      cases tableau.nextMove options.tolerance (ruleAfter options.rule streak) with
      | optimal => exact Run.follows_settle _ _ fun _ ends => by cases ends; rfl
      | unbounded column =>
          cases tableau.phase with
          | first => exact Run.follows_fail _ _
          | second => exact Run.follows_settle _ _ fun _ ends => by cases ends; rfl
      | exchange entering leaving =>
          cases budget with
          | zero => exact Run.follows_fail _ _
          | succ less =>
              have exchanged := follows_checkedExchange options tableau entering leaving pivots
              refine (exchanged.andThen fun _ next _ =>
                Run.follows_note next fun _ => isAside_of_mem_step).andThen ?_
              intro _ next _
              have rest := induction less (Nat.lt_succ_self less)
                (if tableau.isDegenerateAt options.tolerance leaving then streak + 1 else 0)
                (pivots + 1) next
              rwa [Nat.cast_add, Nat.cast_one] at rest

theorem follows_expelArtificials (rows : List (Fin L.constraints)) (pivots : Nat)
    (tableau : Tableau L α) :
    (expelArtificials options rows pivots tableau).Follows tableau.rowNames pivots
      fun count => count := by
  induction rows generalizing pivots tableau with
  | nil => exact Run.follows_settle _ _ fun _ ends => by cases ends; rfl
  | cons row rest induction =>
      rw [expelArtificials]
      split
      · simp only
        cases (tableau.clearTarget row).replacement? row options.tolerance with
        | none => exact induction pivots (tableau.clearTarget row)
        | some entering =>
            apply (follows_checkedExchange options (tableau.clearTarget row) entering row
              pivots).andThen
            intro _ next _
            have rest := induction (pivots + 1) next
            rwa [Nat.cast_add, Nat.cast_one] at rest
      · exact induction pivots tableau

theorem follows_handOver (tableau : Tableau L α) :
    (handOver options tableau).Follows tableau.rowNames 0 fun count => (count.getD 0 : Nat) := by
  rw [handOver]
  split
  · exact Run.follows_settle _ _ fun _ ends => by cases ends; rfl
  · apply (follows_expelArtificials options L.constraintRows 0 tableau.clearResidual).andThen
    intro pivots next _
    exact Run.follows_settle _ next.leaveFirstPhase fun _ ends => by cases ends; rfl

end Tableau

end TableauSimplex

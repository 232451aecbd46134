import Mathlib.Data.List.Induction
import TableauSimplex.Language.Specification

/-!
# Adding up terms by name

Terms are added up under their names, which come in the order of first use.  The sum of a name is
taken over its terms from left to right, starting from zero; no law of the arithmetic is used.
-/

set_option autoImplicit false

namespace TableauSimplex.Language

/-! ## Names in the order of first use -/

theorem eraseDups_concat (names : List String) (name : String) :
    (names ++ [name]).eraseDups =
      if name ∈ names then names.eraseDups else names.eraseDups ++ [name] := by
  rw [List.eraseDups_append, List.removeAll]
  by_cases seen : name ∈ names <;> simp [seen, List.eraseDups_cons]

theorem nodup_eraseDups (names : List String) : names.eraseDups.Nodup := by
  induction names using List.reverseRecOn with
  | nil => simp
  | append_singleton names name induction =>
      rw [eraseDups_concat]
      split
      · exact induction
      · rename_i fresh
        have absent : ∀ other ∈ names, other ≠ name := by
          rintro other member rfl
          exact fresh member
        simpa [List.nodup_append, induction] using absent

theorem distinct_eq_eraseDups (names : List String) : distinct names = names.eraseDups := by
  induction names using List.reverseRecOn with
  | nil => rfl
  | append_singleton names name induction =>
      have step : distinct (names ++ [name]) =
          if (distinct names).contains name then distinct names else distinct names ++ [name] := by
        simp [distinct]
      simp [step, induction, eraseDups_concat]

/-! ## Sums -/

section Sums

variable {α : Type} [Scalar α]

/-- The sum of the terms of one name. -/
def total (items : List (String × α)) (name : String) : α :=
  (items.filter fun item => item.1 == name).foldl (fun sum item => sum + item.2) 0

theorem total_concat (items : List (String × α)) (item : String × α) (name : String) :
    total (items ++ [item]) name =
      if item.1 = name then total items name + item.2 else total items name := by
  by_cases same : item.1 = name <;> simp [total, same]

theorem total_of_not_mem {items : List (String × α)} {name : String}
    (absent : name ∉ items.map Prod.fst) : total items name = 0 := by
  have none : (items.filter fun item => item.1 == name) = [] := by
    rw [List.filter_eq_nil_iff]
    intro item member same
    exact absent (List.mem_map.mpr ⟨item, member, beq_iff_eq.mp same⟩)
  rw [total, none]
  rfl

/-- The terms added up: each name once, with its sum. -/
def tally (items : List (String × α)) : List (String × α) :=
  (items.map Prod.fst).eraseDups.map fun name => (name, total items name)

theorem addTerm_of_not_mem {sums : List (String × α)} {name : String}
    (fresh : name ∉ sums.map Prod.fst) (coefficient : α) :
    addTerm name coefficient sums = sums ++ [(name, 0 + coefficient)] := by
  induction sums with
  | nil => rfl
  | cons entry rest induction =>
      simp only [List.map_cons, List.mem_cons, not_or] at fresh
      rw [addTerm, if_neg fun same => fresh.1 same.symm, induction fresh.2]
      rfl

/-- In a table with one entry for each name, adding a term changes the entry of its name. -/
theorem addTerm_of_mem {names : List String} {name : String} (nodup : names.Nodup)
    (known : name ∈ names) (sum : String → α) (coefficient : α) :
    addTerm name coefficient (names.map fun other => (other, sum other)) =
      names.map fun other =>
        (other, if name = other then sum other + coefficient else sum other) := by
  induction names with
  | nil => cases known
  | cons first rest induction =>
      obtain ⟨fresh, restNodup⟩ := List.nodup_cons.mp nodup
      rw [List.map_cons, addTerm]
      by_cases same : first = name
      · have others : ∀ other ∈ rest, ¬ name = other := by
          rintro other member rfl
          exact fresh (same ▸ member)
        rw [if_pos same, List.map_cons, if_pos same.symm, same]
        congr 1
        exact List.map_congr_left fun other member => by rw [if_neg (others other member)]
      · have later : name ∈ rest := (List.mem_cons.mp known).resolve_left fun here => same here.symm
        rw [if_neg same, List.map_cons, if_neg fun here => same here.symm,
          induction restNodup later]

theorem addTerm_tally (items : List (String × α)) (item : String × α) :
    addTerm item.1 item.2 (tally items) = tally (items ++ [item]) := by
  have names : ((items ++ [item]).map Prod.fst).eraseDups =
      if item.1 ∈ items.map Prod.fst then (items.map Prod.fst).eraseDups
      else (items.map Prod.fst).eraseDups ++ [item.1] := by
    rw [List.map_append]
    exact eraseDups_concat _ _
  by_cases known : item.1 ∈ items.map Prod.fst
  · rw [tally, addTerm_of_mem (nodup_eraseDups _) (List.mem_eraseDups.mpr known), tally, names,
      if_pos known]
    exact List.map_congr_left fun name _ => by rw [total_concat]
  · have fresh : item.1 ∉ (tally items).map Prod.fst := by
      simpa [tally, Function.comp_def] using known
    rw [addTerm_of_not_mem fresh, tally, tally, names, if_neg known, List.map_append]
    congr 1
    · refine List.map_congr_left fun name member => ?_
      have other : item.1 ≠ name := by
        rintro rfl
        exact known (List.mem_eraseDups.mp member)
      rw [total_concat, if_neg other]
    · simp [total_concat, total_of_not_mem known]

/-- A term as it is added up: its name and the value of its coefficient. -/
def readTerm (text : TermText) : Except NumberError (String × α) :=
  (readCoefficient text.coefficient).map fun coefficient =>
    (String.ofList text.name, coefficient)

theorem sumTerms_tally (texts : List TermText) (before : List (String × α)) :
    sumTerms texts (tally before) =
      (texts.mapM readTerm).map fun items => tally (before ++ items) := by
  induction texts generalizing before with
  | nil => simp [sumTerms, pure, Except.pure, Except.map]
  | cons text rest induction =>
      simp only [sumTerms, List.mapM_cons, readTerm]
      cases readCoefficient (α := α) text.coefficient with
      | error error => rfl
      | ok coefficient =>
          have next := addTerm_tally before (String.ofList text.name, coefficient)
          have later := induction (before ++ [(String.ofList text.name, coefficient)])
          simp only [bind, Except.bind, Except.map, next, later]
          cases rest.mapM (readTerm (α := α)) <;> simp [pure, Except.pure]

/-- The terms of an expression are those of its text added up, without negligible sums. -/
theorem sumTerms_nil (texts : List TermText) :
    sumTerms (α := α) texts [] = (texts.mapM readTerm).map tally :=
  sumTerms_tally texts []

theorem sumNumbers_eq (texts : List (List Char)) (sum : α) :
    sumNumbers texts sum = (texts.mapM readNumber).map fun values => values.foldl (· + ·) sum := by
  induction texts generalizing sum with
  | nil => rfl
  | cons text rest induction =>
      simp only [sumNumbers, List.mapM_cons]
      cases readNumber (α := α) text with
      | error error => rfl
      | ok value =>
          simp only [bind, Except.bind, induction]
          cases rest.mapM (readNumber (α := α)) <;> rfl

/-! ## The relevant sums -/

theorem nodup_fst_tally (items : List (String × α)) : ((tally items).map Prod.fst).Nodup := by
  have names : (tally items).map Prod.fst = (items.map Prod.fst).eraseDups := by
    simp [tally, Function.comp_def]
  rw [names]
  exact nodup_eraseDups _

theorem coefficientIn_of_mem {terms : List (String × α)} (nodup : (terms.map Prod.fst).Nodup)
    {name : String} {coefficient : α} (member : (name, coefficient) ∈ terms) :
    coefficientIn terms name = coefficient := by
  induction terms with
  | nil => cases member
  | cons entry rest induction =>
      obtain ⟨fresh, restNodup⟩ := List.nodup_cons.mp nodup
      rcases List.mem_cons.mp member with rfl | later
      · simp [coefficientIn]
      · have other : entry.1 ≠ name := by
          rintro rfl
          exact fresh (List.mem_map.mpr ⟨_, later, rfl⟩)
        have skip : coefficientIn (entry :: rest) name = coefficientIn rest name := by
          simp [coefficientIn, other]
        rw [skip]
        exact induction restNodup later

theorem coefficientIn_of_not_mem {terms : List (String × α)} {name : String}
    (absent : name ∉ terms.map Prod.fst) : coefficientIn terms name = 0 := by
  have none : (terms.find? fun entry => entry.1 == name) = none := by
    rw [List.find?_eq_none]
    intro entry member same
    exact absent (List.mem_map.mpr ⟨entry, member, beq_iff_eq.mp same⟩)
  rw [coefficientIn, none]

end Sums

end TableauSimplex.Language

import Mathlib.Data.List.Induction
import Mathlib.Data.List.Nodup
import TableauSimplex.Table

/-!
# The entries of a table

Putting an entry touches no other name.  So a table made from a list of entries has an entry for
each name in the list and no entry that is not in it.  If no name comes twice it has the entries of
the list, in their order, and finds each under its name.
-/

set_option autoImplicit false

namespace TableauSimplex.Table

variable {β : Type} {name other : String} {value entry : β}

theorem mem_putEntry_of_ne (differs : other ≠ name) (entries : List (String × β)) :
    (other, entry) ∈ putEntry name value entries ↔ (other, entry) ∈ entries := by
  induction entries with
  | nil => simp [putEntry, differs]
  | cons first rest induction =>
      rw [putEntry]
      split
      · rename_i same
        have notFirst : (other, entry) ≠ first := by
          rintro rfl
          exact differs same
        simp [differs, notFirst]
      · rw [List.mem_cons, List.mem_cons, induction]

theorem mem_putEntry_self (name : String) (value : β) (entries : List (String × β)) :
    (name, value) ∈ putEntry name value entries := by
  induction entries with
  | nil => simp [putEntry]
  | cons first rest induction =>
      rw [putEntry]
      split
      · exact List.mem_cons_self
      · exact List.mem_cons_of_mem _ induction

theorem mem_of_mem_putEntry {new : String × β} {entries : List (String × β)}
    (member : new ∈ putEntry name value entries) : new = (name, value) ∨ new ∈ entries := by
  induction entries with
  | nil => exact .inl (List.mem_singleton.mp member)
  | cons first rest induction =>
      rw [putEntry] at member
      split at member
      · rcases List.mem_cons.mp member with same | later
        · exact .inl same
        · exact .inr (List.mem_cons_of_mem _ later)
      · rcases List.mem_cons.mp member with same | later
        · exact .inr (List.mem_cons.mpr (.inl same))
        · exact (induction later).imp_right (List.mem_cons_of_mem _)

/-! ## Tables from lists -/

theorem ofList_concat (entries : List (String × β)) (last : String × β) :
    ofList (entries ++ [last]) = (ofList entries).put last.1 last.2 := by
  simp [ofList]

theorem mem_of_mem_ofList {entries : List (String × β)} {new : String × β}
    (member : new ∈ (ofList entries).entries) : new ∈ entries := by
  induction entries using List.reverseRecOn with
  | nil => cases member
  | append_singleton entries last induction =>
      rw [ofList_concat] at member
      rcases mem_of_mem_putEntry member with rfl | earlier
      · exact List.mem_append_right _ (List.mem_singleton_self _)
      · exact List.mem_append_left _ (induction earlier)

theorem exists_mem_ofList {entries : List (String × β)} (listed : (name, entry) ∈ entries) :
    ∃ value, (name, value) ∈ (ofList entries).entries := by
  induction entries using List.reverseRecOn with
  | nil => cases listed
  | append_singleton entries last induction =>
      rw [ofList_concat]
      by_cases same : name = last.1
      · subst same
        exact ⟨last.2, mem_putEntry_self _ _ _⟩
      · have earlier : (name, entry) ∈ entries := by
          rcases List.mem_append.mp listed with earlier | isLast
          · exact earlier
          · exact absurd (congrArg Prod.fst (List.mem_singleton.mp isLast)) same
        obtain ⟨value, found⟩ := induction earlier
        exact ⟨value, (mem_putEntry_of_ne same _).mpr found⟩

/-! ## Entries under distinct names -/

theorem putEntry_of_not_mem {entries : List (String × β)}
    (absent : name ∉ entries.map Prod.fst) :
    putEntry name value entries = entries ++ [(name, value)] := by
  induction entries with
  | nil => rfl
  | cons first rest induction =>
      obtain ⟨differs, later⟩ := not_or.mp (mt List.mem_cons.mpr absent)
      rw [putEntry, if_neg (Ne.symm differs), induction later]
      rfl

theorem entries_ofList {entries : List (String × β)}
    (distinct : (entries.map Prod.fst).Nodup) : (ofList entries).entries = entries := by
  induction entries using List.reverseRecOn with
  | nil => rfl
  | append_singleton entries last induction =>
      rw [List.map_append] at distinct
      obtain ⟨earlier, _, apart⟩ := List.nodup_append.mp distinct
      have absent : last.1 ∉ entries.map Prod.fst := fun member =>
        apart last.1 member last.1 (List.mem_singleton_self _) rfl
      rw [ofList_concat, put, induction earlier, putEntry_of_not_mem absent]

theorem get?_eq_none {table : Table β} (absent : name ∉ table.entries.map Prod.fst) :
    table.get? name = none := by
  have missing : ∀ entry ∈ table.entries, ¬ (entry.1 == name) = true := by
    intro entry member same
    obtain rfl := eq_of_beq same
    exact absent (List.mem_map_of_mem member)
  rw [get?, List.find?_eq_none.mpr missing, Option.map_none]

theorem get?_eq_some {table : Table β} (distinct : (table.entries.map Prod.fst).Nodup)
    (member : (name, value) ∈ table.entries) : table.get? name = some value := by
  unfold get?
  cases found : table.entries.find? fun entry => entry.1 == name with
  | none => exact absurd (beq_self_eq_true name) (List.find?_eq_none.mp found _ member)
  | some entry =>
      have same : entry.1 = name := by simpa using List.find?_some found
      have one := List.inj_on_of_nodup_map distinct (List.mem_of_find?_eq_some found) member same
      rw [one, Option.map_some]

end TableauSimplex.Table

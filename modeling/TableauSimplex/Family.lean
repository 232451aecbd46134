/-!
# Stored families

A family gives a value to every index below a bound.  It is a function whose values are stored, so
that each of them is computed once; `get` is the function, and every operation is described by
what it does to `get`.
-/

set_option autoImplicit false

namespace TableauSimplex

/-- The values of a function on `Fin size`, stored in order. -/
structure Family (size : Nat) (β : Type) where
  values : Vector β size
  deriving Repr

namespace Family

variable {size : Nat} {β γ : Type}

def get (family : Family size β) (index : Fin size) : β :=
  family.values.get index

instance : CoeFun (Family size β) fun _ => Fin size → β :=
  ⟨get⟩

def ofFn (f : Fin size → β) : Family size β :=
  { values := Vector.ofFn f }

def constant (size : Nat) (value : β) : Family size β :=
  { values := Vector.replicate size value }

def set (family : Family size β) (index : Fin size) (value : β) : Family size β :=
  { values := family.values.set index.val value index.isLt }

def map (f : β → γ) (family : Family size β) : Family size γ :=
  { values := family.values.map f }

def toList (family : Family size β) : List β :=
  family.values.toList

theorem get_eq_getElem (family : Family size β) (index : Fin size) :
    family.get index = family.values[index] :=
  rfl

@[simp] theorem get_ofFn (f : Fin size → β) (index : Fin size) : (ofFn f).get index = f index := by
  simp [get_eq_getElem, ofFn]

@[simp] theorem get_constant (value : β) (index : Fin size) :
    (constant size value).get index = value := by
  simp [get_eq_getElem, constant]

theorem get_set (family : Family size β) (index other : Fin size) (value : β) :
    (family.set index value).get other = if index = other then value else family.get other := by
  simp [get_eq_getElem, set, Vector.getElem_set, Fin.ext_iff]

@[simp] theorem get_map (f : β → γ) (family : Family size β) (index : Fin size) :
    (family.map f).get index = f (family.get index) := by
  simp [get_eq_getElem, map]

theorem toList_eq_ofFn (family : Family size β) : family.toList = List.ofFn family.get := by
  apply List.ext_getElem
  · simp [toList]
  · intro position _ _
    simp [toList, get_eq_getElem]

/-- A family is determined by its values. -/
theorem ext_get {first second : Family size β}
    (equal : ∀ index, first.get index = second.get index) : first = second := by
  obtain ⟨left⟩ := first
  obtain ⟨right⟩ := second
  congr
  apply Vector.ext
  intro position bound
  exact equal ⟨position, bound⟩

end Family

end TableauSimplex

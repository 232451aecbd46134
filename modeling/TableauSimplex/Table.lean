/-!
# Tables of names

A table holds entries under distinct names, in the order in which the names first came.  A new
entry under a name that is there already takes the place of the old one.
-/

set_option autoImplicit false

namespace TableauSimplex

structure Table (β : Type) where
  entries : List (String × β)
  deriving DecidableEq, Repr

namespace Table

variable {β : Type}

def empty : Table β :=
  { entries := [] }

/-- Replaces the entry of a name, or adds one at the end. -/
def putEntry (name : String) (value : β) : List (String × β) → List (String × β)
  | [] => [(name, value)]
  | entry :: rest =>
      if entry.1 = name then (name, value) :: rest else entry :: putEntry name value rest

def put (table : Table β) (name : String) (value : β) : Table β :=
  { entries := putEntry name value table.entries }

def ofList (entries : List (String × β)) : Table β :=
  entries.foldl (fun table entry => table.put entry.1 entry.2) empty

def get? (table : Table β) (name : String) : Option β :=
  (table.entries.find? fun entry => entry.1 == name).map Prod.snd

end Table

end TableauSimplex

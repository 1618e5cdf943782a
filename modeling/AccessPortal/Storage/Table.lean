/-!
# Tables

A table is a list of named values, each name at most once. Looking up, putting and erasing are all
that stores and directories need of it.
-/

namespace AccessPortal

/-- Named values; the operations below keep names distinct. -/
abbrev Table (α : Type) := List (String × α)

namespace Table

variable {α : Type}

def find? (name : String) : Table α → Option α
  | [] => none
  | (n, value) :: rest => if n = name then some value else find? name rest

/-- Gives a name its value, in the place of the old one or at the end. -/
def put (name : String) (value : α) : Table α → Table α
  | [] => [(name, value)]
  | (n, old) :: rest => if n = name then (name, value) :: rest else (n, old) :: put name value rest

def erase (name : String) : Table α → Table α
  | [] => []
  | (n, value) :: rest => if n = name then erase name rest else (n, value) :: erase name rest

@[simp]
theorem find?_put_self (name : String) (value : α) (table : Table α) :
    (table.put name value).find? name = some value := by
  induction table with
  | nil => simp [put, find?]
  | cons first rest ih =>
    obtain ⟨n, old⟩ := first
    by_cases h : n = name <;> simp [put, find?, h, ih]

theorem find?_put_of_ne {name other : String} (h : other ≠ name) (value : α) (table : Table α) :
    (table.put name value).find? other = table.find? other := by
  induction table with
  | nil => simp [put, find?, Ne.symm h]
  | cons first rest ih =>
    obtain ⟨n, old⟩ := first
    by_cases hn : n = name
    · subst hn
      simp [put, find?, Ne.symm h]
    · by_cases ho : n = other
      · simp [put, find?, ho, h]
      · simp [put, find?, hn, ho, ih]

@[simp]
theorem find?_erase_self (name : String) (table : Table α) :
    (table.erase name).find? name = none := by
  induction table with
  | nil => rfl
  | cons first rest ih =>
    obtain ⟨n, value⟩ := first
    by_cases h : n = name <;> simp [erase, find?, h, ih]

theorem find?_erase_of_ne {name other : String} (h : other ≠ name) (table : Table α) :
    (table.erase name).find? other = table.find? other := by
  induction table with
  | nil => rfl
  | cons first rest ih =>
    obtain ⟨n, value⟩ := first
    by_cases hn : n = name
    · subst hn
      simp [erase, find?, Ne.symm h, ih]
    · by_cases ho : n = other
      · simp [erase, find?, ho, h]
      · simp [erase, find?, hn, ho, ih]

end Table
end AccessPortal

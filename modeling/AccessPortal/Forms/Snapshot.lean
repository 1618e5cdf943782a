import AccessPortal.Forms.FormSet

/-!
# Saved customizations

A snapshot is what the store keeps of the forms. It outlives the version of the portal that wrote
it, so it may name request types that are gone, and each saved form gives only the parts it has.
Entries are kept sorted by request type id, one for each id.
-/

namespace AccessPortal

/-- A saved form; what is `none` was not saved. -/
structure SavedForm where
  name : Option String := none
  description : Option String := none
  icon : Option String := none
  enabled : Option Bool := none
  fields : Option (List FormField) := none
  deriving DecidableEq, Repr, Inhabited

/-- Saved forms by request type id. -/
@[ext]
structure Snapshot where
  entries : List (String × SavedForm)
  sorted : entries.Pairwise fun a b => a.1 < b.1

namespace Snapshot

/-- Puts an entry at its place in a sorted list, where it replaces one of the same id. -/
def insertEntry (id : String) (saved : SavedForm) :
    List (String × SavedForm) → List (String × SavedForm)
  | [] => [(id, saved)]
  | entry :: rest =>
    if id < entry.1 then (id, saved) :: entry :: rest
    else if entry.1 < id then entry :: insertEntry id saved rest
    else (id, saved) :: rest

theorem mem_insertEntry_imp {id : String} {saved : SavedForm} {entry : String × SavedForm}
    {entries : List (String × SavedForm)} (h : entry ∈ insertEntry id saved entries) :
    entry = (id, saved) ∨ entry ∈ entries := by
  induction entries with
  | nil => simpa [insertEntry] using h
  | cons first rest ih =>
    rw [insertEntry] at h
    split at h
    · simpa using h
    · split at h
      · rcases List.mem_cons.mp h with rfl | h
        · exact .inr List.mem_cons_self
        · exact (ih h).imp_right (List.mem_cons_of_mem first)
      · rcases List.mem_cons.mp h with h | h
        · exact .inl h
        · exact .inr (List.mem_cons_of_mem first h)

theorem insertEntry_sorted (id : String) (saved : SavedForm)
    {entries : List (String × SavedForm)} (h : entries.Pairwise fun a b => a.1 < b.1) :
    (insertEntry id saved entries).Pairwise fun a b => a.1 < b.1 := by
  induction entries with
  | nil => simp [insertEntry]
  | cons first rest ih =>
    obtain ⟨before, sorted⟩ := List.pairwise_cons.mp h
    rw [insertEntry]
    split
    · rename_i lt
      refine List.pairwise_cons.mpr ⟨fun entry mem => ?_, h⟩
      rcases List.mem_cons.mp mem with rfl | mem
      · exact lt
      · exact String.lt_trans lt (before entry mem)
    · split
      · rename_i lt
        refine List.pairwise_cons.mpr ⟨fun entry mem => ?_, ih sorted⟩
        rcases mem_insertEntry_imp mem with rfl | mem
        · exact lt
        · exact before entry mem
      · rename_i notBefore notAfter
        have same : first.1 = id :=
          String.le_antisymm (String.not_lt.mp notBefore) (String.not_lt.mp notAfter)
        refine List.pairwise_cons.mpr ⟨fun entry mem => ?_, sorted⟩
        exact same ▸ before entry mem

def empty : Snapshot :=
  ⟨[], .nil⟩

/-- The snapshot in which `saved` is the saved form of the given id, whatever it was before. -/
def insert (snapshot : Snapshot) (id : String) (saved : SavedForm) : Snapshot :=
  ⟨insertEntry id saved snapshot.entries, insertEntry_sorted id saved snapshot.sorted⟩

/-- The saved form of the given id. -/
def get? (snapshot : Snapshot) (id : String) : Option SavedForm :=
  (snapshot.entries.find? (·.1 == id)).map (·.2)

/-- The snapshot with the given entries; of several with one id, the last stays. -/
def ofList (entries : List (String × SavedForm)) : Snapshot :=
  entries.foldl (fun snapshot (id, saved) => snapshot.insert id saved) empty

/-- The ids in a snapshot that no request type has, in ascending order. -/
def foreignIds (snapshot : Snapshot) : List String :=
  (snapshot.entries.map (·.1)).filter fun id => (RequestType.ofId? id).isNone

end Snapshot
end AccessPortal

import AccessPortal.Forms.Merging
import AccessPortal.Proofs.Json.Records

/-!
# What is stored of the forms

Saving writes forms, and loading reads saved forms: two types, of which the second lacks the request
type and may lack any other part. What is read of a saved text is a snapshot (`parse_toText`) that
has under the id of each request type all parts of its form (`get?_snapshot`).
-/

namespace AccessPortal

theorem RequestType.mem_all (type : RequestType) : type ∈ all := by
  cases type <;> decide

theorem RequestType.id_injective : Function.Injective id := by
  intro first second same
  cases first <;> cases second <;> first | rfl | exact absurd same (by decide)

/-! ## Snapshots -/

namespace Snapshot

theorem find?_insertEntry (id : String) (saved : SavedForm) (other : String)
    {entries : List (String × SavedForm)} (sorted : entries.Pairwise fun a b => a.1 < b.1) :
    (insertEntry id saved entries).find? (·.1 == other) =
      if id = other then some (id, saved) else entries.find? (·.1 == other) := by
  induction entries with
  | nil =>
      by_cases same : id = other
      · simp [insertEntry, same]
      · simp [insertEntry, same]
  | cons entry rest ih =>
      obtain ⟨before, sorted⟩ := List.pairwise_cons.mp sorted
      rw [insertEntry]
      split
      · by_cases same : id = other
        · simp [same]
        · simp [same]
      · rename_i notBefore
        split
        · rename_i after
          rw [List.find?_cons, ih sorted]
          by_cases same : id = other
          · have different : entry.1 ≠ other := by
              intro equal
              rw [equal, same] at after
              exact String.lt_irrefl _ after
            rw [beq_false_of_ne different, if_pos same]
            simp [same]
          · simp [same, List.find?_cons]
        · rename_i notAfter
          have equal : entry.1 = id :=
            String.le_antisymm (String.not_lt.mp notBefore) (String.not_lt.mp notAfter)
          by_cases same : id = other
          · simp [same]
          · have different : ¬ entry.1 = other := equal ▸ same
            simp [same, different]

theorem get?_insert (snapshot : Snapshot) (id : String) (saved : SavedForm) (other : String) :
    (snapshot.insert id saved).get? other =
      if id = other then some saved else snapshot.get? other := by
  unfold get? insert
  rw [find?_insertEntry id saved other snapshot.sorted]
  split
  · rfl
  · rfl

theorem get?_foldl_of_not_mem {id : String} {entries : List (String × SavedForm)}
    (absent : id ∉ entries.map (·.1)) (snapshot : Snapshot) :
    (entries.foldl (fun snapshot (id, saved) => snapshot.insert id saved) snapshot).get? id =
      snapshot.get? id := by
  induction entries generalizing snapshot with
  | nil => rfl
  | cons entry rest ih =>
      simp only [List.map_cons, List.mem_cons, not_or] at absent
      rw [List.foldl_cons, ih absent.2, get?_insert, if_neg (Ne.symm absent.1)]

theorem get?_foldl_of_mem {id : String} {saved : SavedForm} {entries : List (String × SavedForm)}
    (distinct : (entries.map (·.1)).Nodup) (mem : (id, saved) ∈ entries) (snapshot : Snapshot) :
    (entries.foldl (fun snapshot (id, saved) => snapshot.insert id saved) snapshot).get? id =
      some saved := by
  induction entries generalizing snapshot with
  | nil => cases mem
  | cons entry rest ih =>
      obtain ⟨fresh, distinct⟩ := List.nodup_cons.mp distinct
      rw [List.foldl_cons]
      rcases List.mem_cons.mp mem with rfl | mem
      · rw [get?_foldl_of_not_mem fresh, get?_insert, if_pos rfl]
      · exact ih distinct mem _

end Snapshot

/-! ## Saved forms -/

def RequestForm.saved (form : RequestForm) : SavedForm where
  name := some form.name
  description := some form.description
  icon := some form.icon
  enabled := some form.enabled
  fields := some form.fields

namespace RequestForm

theorem isPlain_toJson (form : RequestForm) : form.toJson.isPlain := by
  have fields : (Json.ofList FormField.toJson form.fields).isPlain :=
    FormField.lossless.list.isPlain form.fields
  simp [toJson, RequestType.toJson, Json.isPlain, Json.membersPlain, fields]

/-- A form is read as a saved one with all of its parts. -/
theorem savedForm_ofJson?_toJson (form : RequestForm) :
    SavedForm.ofJson? form.toJson = some form.saved := by
  have fields : Json.optional (Json.asList FormField.ofJson?)
      (some (Json.ofList FormField.toJson form.fields)) = some (some form.fields) :=
    FormField.lossless.list.optional_map (some form.fields)
  have text (s : String) : Json.optional Json.asString (some (.string s)) = some (some s) := rfl
  have switch (b : Bool) : Json.optional Json.asBool (some (.bool b)) = some (some b) := rfl
  rw [SavedForm.ofJson?, toJson, Json.slots_object SavedForm.layout (by simp)]
  simp [SavedForm.layout, Json.lookup, text, switch, fields, saved]

end RequestForm

namespace FormSet

theorem mem_toList {forms : FormSet} {type : RequestType} {form : RequestForm} :
    (type, form) ∈ forms.toList ↔ forms.form? type = some form := by
  unfold toList
  rw [List.mem_filterMap]
  constructor
  · intro h
    obtain ⟨other, -, found⟩ := h
    obtain ⟨found, there, same⟩ := Option.map_eq_some_iff.mp found
    obtain ⟨rfl, rfl⟩ := Prod.mk.inj same
    exact there
  · intro there
    exact ⟨type, type.mem_all, by rw [there]; rfl⟩

theorem toList_types (forms : FormSet) (types : List RequestType) :
    (types.filterMap fun type => (forms.form? type).map (type, ·)).map (·.1) =
      types.filter fun type => (forms.form? type).isSome := by
  induction types with
  | nil => rfl
  | cons type types ih =>
      cases found : forms.form? type with
      | none => simp [found, ih]
      | some form => simp [found, ih]

theorem nodup_toList (forms : FormSet) : (forms.toList.map (·.1.id)).Nodup := by
  have types : (forms.toList.map (·.1)).Nodup := by
    rw [toList, toList_types]
    exact List.Nodup.filter _ (by decide)
  have ids := types.map RequestType.id_injective
  rwa [List.map_map] at ids

theorem isPlain_toJson (forms : FormSet) : forms.toJson.isPlain :=
  Json.membersPlain_map (fun entry => entry.2.isPlain_toJson) forms.toList

def snapshot (forms : FormSet) : Snapshot :=
  .ofList (forms.toList.map fun entry => (entry.1.id, entry.2.saved))

theorem get?_snapshot (forms : FormSet) (type : RequestType) :
    forms.snapshot.get? type.id = (forms.form? type).map RequestForm.saved := by
  have ids : (forms.toList.map fun entry => (entry.1.id, entry.2.saved)).map (·.1) =
      forms.toList.map (·.1.id) := by
    simp
  cases found : forms.form? type with
  | none =>
      have absent : type.id ∉
          (forms.toList.map fun entry => (entry.1.id, entry.2.saved)).map (·.1) := by
        rw [ids]
        intro mem
        obtain ⟨⟨other, form⟩, listed, same⟩ := List.mem_map.mp mem
        obtain rfl : other = type := RequestType.id_injective same
        have there := mem_toList.mp listed
        rw [found] at there
        cases there
      exact Snapshot.get?_foldl_of_not_mem absent _
  | some form =>
      have mem : (type.id, form.saved) ∈
          forms.toList.map fun entry => (entry.1.id, entry.2.saved) :=
        List.mem_map.mpr ⟨(type, form), mem_toList.mpr found, rfl⟩
      exact Snapshot.get?_foldl_of_mem (ids ▸ forms.nodup_toList) mem _

/-- What is saved of forms is read as all of their parts. -/
theorem parse_toText (forms : FormSet) : Snapshot.parse forms.toText = some forms.snapshot := by
  have each (entry : RequestType × RequestForm) :
      (SavedForm.ofJson? entry.2.toJson).map (entry.1.id, ·) =
        some (entry.1.id, entry.2.saved) := by
    rw [entry.2.savedForm_ofJson?_toJson]
    rfl
  have read : Snapshot.ofJson? forms.toJson = some forms.snapshot :=
    congrArg (Option.bind · fun found => some (Snapshot.ofList found))
      (Json.mapM_map_of_forall each forms.toList)
  rw [Snapshot.parse, toText, Json.read_write forms.isPlain_toJson, Option.bind_some, read]

end FormSet
end AccessPortal

import AccessPortal.Proofs.Forms.Stored

/-!
# Forms, patches and snapshots are stored without loss

Forms and patches are records like those of a profile. The two maps are put together again entry by
entry from what was listed: a form set by the request types of the entries, a snapshot by the order
of their ids.
-/

namespace AccessPortal

/-! ## Records -/

theorem RequestType.ofId?_id (type : RequestType) : ofId? type.id = some type := by
  cases type <;> decide

theorem RequestType.lossless : Json.Lossless toJson ofJson? :=
  Json.lossless_name ofId?_id

theorem RequestForm.lossless : Json.Lossless toJson ofJson? where
  decode_encode form := by
    have fields : Json.required (Json.asList FormField.ofJson?)
        (some (Json.ofList FormField.toJson form.fields)) = some form.fields :=
      FormField.lossless.list.decode_encode form.fields
    have type : Json.required RequestType.ofJson? (some form.requestType.toJson) =
        some form.requestType :=
      RequestType.lossless.decode_encode form.requestType
    have text (s : String) : Json.required Json.asString (some (.string s)) = some s := rfl
    have switch (b : Bool) : Json.required Json.asBool (some (.bool b)) = some b := rfl
    rw [ofJson?, toJson, Json.slots_object layout (by simp)]
    simp [layout, Json.lookup, text, switch, type, fields]
  isPlain := isPlain_toJson
  ne_null _ := nofun

theorem SavedForm.lossless : Json.Lossless toJson ofJson? where
  decode_encode saved := by
    rw [ofJson?, toJson, Json.slots_object layout (by simp)]
    simp [layout, Json.lookup, Json.lossless_string.optional_ofOption,
      Json.lossless_bool.optional_ofOption, FormField.lossless.list.optional_ofOption]
  isPlain saved := by
    simp [toJson, Json.isPlain, Json.membersPlain, Json.lossless_string.isPlain_ofOption,
      Json.lossless_bool.isPlain_ofOption, FormField.lossless.list.isPlain_ofOption]
  ne_null _ := nofun

theorem FieldPatch.lossless : Json.Lossless toJson ofJson? where
  decode_encode patch := by
    rw [ofJson?, toJson, Json.slots_object layout (by simp)]
    simp [layout, Json.lookup, Json.lossless_string.optional_ofOption,
      Json.lossless_bool.optional_ofOption, Json.lossless_int32.optional_ofOption,
      FieldOption.lossless.list.optional_ofOption]
  isPlain patch := by
    simp [toJson, Json.isPlain, Json.membersPlain, Json.lossless_string.isPlain_ofOption,
      Json.lossless_bool.isPlain_ofOption, Json.lossless_int32.isPlain_ofOption,
      FieldOption.lossless.list.isPlain_ofOption]
  ne_null _ := nofun

theorem FormPatch.lossless : Json.Lossless toJson ofJson? where
  decode_encode patch := by
    rw [ofJson?, toJson, Json.slots_object layout (by simp)]
    simp [layout, Json.lookup, Json.lossless_string.optional_ofOption,
      Json.lossless_bool.optional_ofOption, FormField.lossless.list.optional_ofOption]
  isPlain patch := by
    simp [toJson, Json.isPlain, Json.membersPlain, Json.lossless_string.isPlain_ofOption,
      Json.lossless_bool.isPlain_ofOption, FormField.lossless.list.isPlain_ofOption]
  ne_null _ := nofun

/-! ## Form sets -/

namespace FormSet

/-- The forms of some request types, put over others. -/
theorem form?_foldl (forms others : FormSet) (types : List RequestType) (type : RequestType) :
    ((types.filterMap fun type => (forms.form? type).map (type, ·)).foldl
      (fun forms (type, form) => forms.set type form) others).form? type =
      if type ∈ types then (forms.form? type).or (others.form? type) else others.form? type := by
  induction types generalizing others with
  | nil => rfl
  | cons first types ih =>
      cases found : forms.form? first with
      | none =>
          rw [List.filterMap_cons_none (by simp [found]), ih]
          by_cases same : type = first
          · simp [same, found]
          · simp [same]
      | some form =>
          rw [List.filterMap_cons_some (by simp [found]; rfl), List.foldl_cons, ih]
          by_cases same : type = first
          · simp [same, found, set]
          · simp [same, set]

theorem ofList_toList (forms : FormSet) : ofList forms.toList = forms := by
  ext1
  funext type
  rw [ofList, toList, form?_foldl, if_pos type.mem_all]
  exact Option.or_none

theorem lossless : Json.Lossless toJson ofJson? where
  decode_encode forms := by
    have each (entry : RequestType × RequestForm) :
        ((RequestType.ofId? entry.1.id).bind fun type =>
          (RequestForm.ofJson? entry.2.toJson).map (type, ·)) = some (id entry) := by
      rw [entry.1.ofId?_id, Option.bind_some, RequestForm.lossless.decode_encode]
      rfl
    have listed : ofJson? forms.toJson = some (ofList (forms.toList.map id)) :=
      congrArg (Option.bind · fun found => some (ofList found))
        (Json.mapM_map_of_forall each forms.toList)
    rw [listed, List.map_id, ofList_toList]
  isPlain := isPlain_toJson
  ne_null _ := nofun

end FormSet

/-! ## Snapshots -/

namespace Snapshot

/-- An entry behind all others is put at the end. -/
theorem insertEntry_last {id : String} {entries : List (String × SavedForm)}
    (behind : ∀ entry ∈ entries, entry.1 < id) (saved : SavedForm) :
    insertEntry id saved entries = entries ++ [(id, saved)] := by
  induction entries with
  | nil => rfl
  | cons entry entries ih =>
      have before := behind entry List.mem_cons_self
      have notAfter : ¬ id < entry.1 := String.lt_asymm before
      have rest := ih fun entry mem => behind entry (List.mem_cons_of_mem _ mem)
      rw [insertEntry, if_neg notAfter, if_pos before, rest]
      rfl

theorem entries_foldl {entries : List (String × SavedForm)} (snapshot : Snapshot)
    (sorted : (snapshot.entries ++ entries).Pairwise fun a b => a.1 < b.1) :
    (entries.foldl (fun snapshot (id, saved) => snapshot.insert id saved) snapshot).entries =
      snapshot.entries ++ entries := by
  induction entries generalizing snapshot with
  | nil => simp
  | cons entry entries ih =>
      have behind : ∀ other ∈ snapshot.entries, other.1 < entry.1 := fun other mem =>
        (List.pairwise_append.mp sorted).2.2 other mem entry List.mem_cons_self
      have step : (snapshot.insert entry.1 entry.2).entries = snapshot.entries ++ [entry] :=
        insertEntry_last behind entry.2
      have rest : ((snapshot.insert entry.1 entry.2).entries ++ entries).Pairwise
          fun a b => a.1 < b.1 := by
        rw [step, List.append_assoc]
        exact sorted
      rw [List.foldl_cons, ih _ rest, step, List.append_assoc]
      rfl

theorem ofList_entries (snapshot : Snapshot) : ofList snapshot.entries = snapshot := by
  ext1
  exact entries_foldl empty snapshot.sorted

theorem lossless : Json.Lossless toJson ofJson? where
  decode_encode snapshot := by
    have each (entry : String × SavedForm) :
        (SavedForm.ofJson? entry.2.toJson).map (entry.1, ·) = some (id entry) := by
      rw [SavedForm.lossless.decode_encode]
      rfl
    have listed : ofJson? snapshot.toJson = some (ofList (snapshot.entries.map id)) :=
      congrArg (Option.bind · fun found => some (ofList found))
        (Json.mapM_map_of_forall each snapshot.entries)
    rw [listed, List.map_id, ofList_entries]
  isPlain snapshot := by
    have each (entry : String × SavedForm) : entry.2.toJson.isPlain :=
      SavedForm.lossless.isPlain entry.2
    exact Json.membersPlain_map each snapshot.entries
  ne_null _ := nofun

end Snapshot
end AccessPortal

import AccessPortal.Forms.Codec
import AccessPortal.Session.Cache
import AccessPortal.Proofs.Json.Lossless

/-!
# The records of the portal are stored without loss

What is written of a profile, of a cached session or of the fields of a form is decoded to what it
was written of, for all texts, times and orders and with any of the optional parts absent.
-/

namespace AccessPortal

/-! ## Accounts -/

theorem Role.ofId?_id (role : Role) : ofId? role.id = some role := by
  cases role <;> rfl

theorem Profile.lossless : Json.Lossless toJson ofJson? where
  decode_encode profile := by
    rw [ofJson?, toJson, Json.slots_object layout (by simp)]
    rfl
  isPlain _ := rfl
  ne_null _ := nofun

theorem StoredProfile.lossless : Json.Lossless toJson ofJson? where
  decode_encode stored := by
    rw [ofJson?, toJson, Json.slots_object layout (by simp)]
    simp [layout, Json.lookup, Json.required,
      Profile.lossless.decode_encode, Json.lossless_int64.decode_encode]
  isPlain _ := rfl
  ne_null _ := nofun

theorem Role.lossless : Json.Lossless toJson ofJson? :=
  Json.lossless_name ofId?_id

theorem User.lossless : Json.Lossless toJson ofJson? where
  decode_encode user := by
    rw [ofJson?, toJson, Json.slots_object layout (by simp)]
    simp [layout, Json.lookup, Json.required, Json.asString, Role.lossless.decode_encode]
  isPlain _ := rfl
  ne_null _ := nofun

theorem Credentials.lossless : Json.Lossless toJson ofJson? where
  decode_encode credentials := by
    rw [ofJson?, toJson, Json.slots_object layout (by simp)]
    rfl
  isPlain _ := rfl
  ne_null _ := nofun

theorem Grant.lossless : Json.Lossless toJson ofJson? where
  decode_encode grant := by
    have distinct : (["accessToken"] ++ ["refreshToken"] ++ ["user"]).Nodup := by decide
    rw [ofJson?, toJson, ← List.singleton_append, ← List.append_assoc, Json.slots_object layout]
    · simp [layout, Json.lookup_append, Json.lookup_memberIfSome, Json.lookup, Json.required,
        Json.asString, Json.lossless_string.optional_map, Profile.lossless.decode_encode]
    · refine distinct.sublist ?_
      simp only [List.map_append]
      exact ((List.Sublist.refl _).append (Json.names_memberIfSome ..)).append (.refl _)
  isPlain grant := by
    simp [toJson, Json.isPlain, Json.membersPlain, Json.membersPlain_append,
      Json.lossless_string.membersPlain_memberIfSome, Profile.lossless.isPlain]
  ne_null _ := nofun

/-! ## Fields -/

theorem FieldOption.lossless : Json.Lossless toJson ofJson? where
  decode_encode option := by
    rw [ofJson?, toJson, Json.slots_object layout (by simp)]
    rfl
  isPlain _ := rfl
  ne_null _ := nofun

theorem FieldType.ofId?_id (type : FieldType) : ofId? type.id = some type := by
  cases type <;> rfl

theorem FieldType.lossless : Json.Lossless toJson ofJson? :=
  Json.lossless_name ofId?_id

theorem FormField.lossless : Json.Lossless toJson ofJson? where
  decode_encode field := by
    have distinct :
        (["id", "label", "type", "enabled", "required", "order", "category"] ++ ["placeholder"]
          ++ ["description"] ++ ["options"]).Nodup := by decide
    rw [ofJson?, toJson, Json.slots_object layout]
    · simp [layout, Json.lookup_append, Json.lookup_memberIfSome, Json.lookup, Json.required,
        Json.asString, Json.asBool, Json.lossless_int32.decode_encode,
        FieldType.lossless.decode_encode, Json.lossless_string.optional_map,
        FieldOption.lossless.list.optional_map]
    · refine distinct.sublist ?_
      simp only [List.map_append]
      exact (((List.Sublist.refl _).append (Json.names_memberIfSome ..)).append
        (Json.names_memberIfSome ..)).append (Json.names_memberIfSome ..)
  isPlain field := by
    simp [toJson, Json.isPlain, Json.membersPlain, Json.membersPlain_append,
      Json.lossless_string.membersPlain_memberIfSome, FieldType.lossless.isPlain,
      FieldOption.lossless.list.membersPlain_memberIfSome, Json.lossless_int32.isPlain]
  ne_null _ := nofun

end AccessPortal

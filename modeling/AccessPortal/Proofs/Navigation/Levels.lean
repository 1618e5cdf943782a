import AccessPortal.Navigation.Codec
import AccessPortal.Proofs.Json.Lossless

/-!
# How deep a tree may be

Every level of a navigation tree opens an object and an array in its text: that of the items below,
and on the deepest level still that of the gate. So a tree is read back exactly if twice its levels
are within what may be open at a time, and the text of a deeper one is no tree to anybody.
-/

namespace AccessPortal

theorem Permission.ofId?_id (permission : Permission) : ofId? permission.id = some permission := by
  cases permission <;> decide

namespace NavigationItem

mutual

def levels : NavigationItem → Nat
  | ⟨_, _, _, none⟩ => 1
  | ⟨_, _, _, some children⟩ => treeLevels children + 1

def treeLevels : List NavigationItem → Nat
  | [] => 0
  | item :: items => max (levels item) (treeLevels items)

end

theorem levels_pos (item : NavigationItem) : 0 < item.levels := by
  obtain ⟨_, _, _, children⟩ := item
  cases children with
  | none => simp [levels]
  | some children => simp [levels]

/-! ## One item -/

theorem lossless_gatePermission (room : Nat) :
    Json.Lossless Permission.toJson (gatePermission? room) :=
  ⟨Permission.ofId?_id, fun _ => rfl, fun _ => nofun⟩

theorem slots_leaf (name path : String) (required : List Permission) :
    Json.slots layout (toJson ⟨name, path, required, none⟩) =
      some [some (.string name), some (.string path),
        some (Json.ofList Permission.toJson required), none] := by
  rw [toJson, Json.slots_object layout (by simp)]
  rfl

theorem slots_branch (name path : String) (required : List Permission)
    (items : List NavigationItem) :
    Json.slots layout (toJson ⟨name, path, required, some items⟩) =
      some [some (.string name), some (.string path),
        some (Json.ofList Permission.toJson required), some (.array (itemsToJson items))] := by
  rw [toJson, Json.slots_object layout (by simp)]
  rfl

section

variable {gate : Json → Option (List Permission)} {children : Json → Option (List NavigationItem)}

theorem ofParts?_leaf (name path : String) (required : List Permission) :
    ofParts? gate children (toJson ⟨name, path, required, none⟩) =
      (gate (Json.ofList Permission.toJson required)).map (⟨name, path, ·, none⟩) := by
  rw [ofParts?, slots_leaf]
  simp only [Option.bind_eq_bind, Option.bind_some, Json.required, Json.asString, Json.orElse,
    Json.optional]
  cases gate (Json.ofList Permission.toJson required) with
  | none => rfl
  | some _ => rfl

theorem ofParts?_branch (name path : String) (required : List Permission)
    (items : List NavigationItem) :
    ofParts? gate children (toJson ⟨name, path, required, some items⟩) =
      (gate (Json.ofList Permission.toJson required)).bind fun gate =>
        (children (.array (itemsToJson items))).map (⟨name, path, gate, some ·⟩) := by
  rw [ofParts?, slots_branch]
  simp only [Option.bind_eq_bind, Option.bind_some, Json.required, Json.asString, Json.orElse,
    Json.optional]
  cases gate (Json.ofList Permission.toJson required) with
  | none => rfl
  | some gate => cases children (.array (itemsToJson items)) <;> rfl

end

/-! ## All levels -/

mutual

/-- What is written of an item is read back if and only if there is room for two openings on each
of its levels. -/
theorem ofJsonWithin?_toJson : ∀ (item : NavigationItem) (room : Nat),
    ofJsonWithin? room item.toJson = if 2 * item.levels ≤ room then some item else none
  -- No room for the object, room for the object alone, and room for the arrays in it as well.
  | item, 0 => by
      have positive := item.levels_pos
      rw [if_neg (by omega)]
      rfl
  | ⟨name, path, gate, children⟩, 1 => by
      have positive := levels_pos ⟨name, path, gate, children⟩
      rw [if_neg (by omega), ofJsonWithin?]
      cases children with
      | none => rw [ofParts?_leaf]; rfl
      | some items => rw [ofParts?_branch]; rfl
  | ⟨name, path, gate, none⟩, room + 2 => by
      have opened : Json.asList (gatePermission? room) (Json.ofList Permission.toJson gate) =
          some gate :=
        (lossless_gatePermission room).list.decode_encode gate
      rw [ofJsonWithin?, ofParts?_leaf, opened, levels, if_pos (by omega)]
      rfl
  | ⟨name, path, gate, some items⟩, room + 2 => by
      have opened : Json.asList (gatePermission? room) (Json.ofList Permission.toJson gate) =
          some gate :=
        (lossless_gatePermission room).list.decode_encode gate
      have below : Json.asList (ofJsonWithin? room) (.array (itemsToJson items)) =
          if 2 * treeLevels items ≤ room then some items else none :=
        mapM_itemsToJson items room
      rw [ofJsonWithin?, ofParts?_branch, opened, Option.bind_some, below, levels]
      by_cases fits : 2 * treeLevels items ≤ room
      · rw [if_pos fits, if_pos (by omega)]
        rfl
      · rw [if_neg fits, if_neg (by omega)]
        rfl

theorem mapM_itemsToJson : ∀ (items : List NavigationItem) (room : Nat),
    (itemsToJson items).mapM (ofJsonWithin? room) =
      if 2 * treeLevels items ≤ room then some items else none
  | [], room => by
      rw [treeLevels, if_pos (by omega)]
      rfl
  | item :: items, room => by
      have first := ofJsonWithin?_toJson item room
      have others := mapM_itemsToJson items room
      rw [itemsToJson, List.mapM_cons, first, others, treeLevels]
      by_cases fits : 2 * item.levels ≤ room
      · by_cases allFit : 2 * treeLevels items ≤ room
        · rw [if_pos fits, if_pos allFit, if_pos (by omega)]
          rfl
        · rw [if_pos fits, if_neg allFit, if_neg (by omega)]
          rfl
      · have deep : ¬ 2 * max item.levels (treeLevels items) ≤ room := by omega
        rw [if_neg fits, if_neg deep]
        rfl

end

/-! ## Through the text -/

mutual

theorem isPlain_toJson : ∀ item : NavigationItem, item.toJson.isPlain
  | ⟨name, path, gate, none⟩ => by
      have plain := (lossless_gatePermission 0).list.isPlain gate
      simp [toJson, Json.isPlain, Json.membersPlain, plain]
  | ⟨name, path, gate, some items⟩ => by
      have plain := (lossless_gatePermission 0).list.isPlain gate
      simp [toJson, Json.isPlain, Json.membersPlain, plain, allPlain_itemsToJson items]

theorem allPlain_itemsToJson : ∀ items : List NavigationItem, Json.allPlain (itemsToJson items)
  | [] => rfl
  | item :: items => by
      simp [itemsToJson, Json.allPlain, isPlain_toJson item, allPlain_itemsToJson items]

end

theorem read_item (item : NavigationItem) :
    (Json.read item.toJson.write).bind ofJson? = if item.levels ≤ 63 then some item else none := by
  have halved : 2 * item.levels ≤ Json.maxNesting ↔ item.levels ≤ 63 := by
    rw [Json.maxNesting]
    omega
  rw [Json.read_write item.isPlain_toJson, Option.bind_some, ofJson?, ofJsonWithin?_toJson]
  simp only [halved]

/-- The array of the topmost items is open around every one of them. -/
theorem read_tree (tree : List NavigationItem) :
    (Json.read (treeToJson tree).write).bind treeOfJson? =
      if treeLevels tree ≤ 63 then some tree else none := by
  have halved : 2 * treeLevels tree ≤ Json.maxNesting - 1 ↔ treeLevels tree ≤ 63 := by
    rw [Json.maxNesting]
    omega
  have plain : (treeToJson tree).isPlain := allPlain_itemsToJson tree
  rw [Json.read_write plain, Option.bind_some, treeOfJson?, treeToJson, Json.asList,
    mapM_itemsToJson]
  simp only [halved]

end NavigationItem
end AccessPortal

import AccessPortal.Proofs.Forms.Lossless
import AccessPortal.Proofs.Navigation.Levels

/-!
# Everything that is sent or stored is read back

Only the text of a navigation tree can be deeper than what is decoded, so only there the levels
matter; every other type has a deepest place that is far from the limit.
-/

namespace AccessPortal

def Json.ReadsBack {α : Type} (encode : α → Json) (decode : Json → Option α) : Prop :=
  ∀ a, (read (encode a).write).bind decode = some a

/--
Every value comes back from its text: all strings, all orders and times, with any of the optional
parts absent. A navigation tree does so up to 63 levels, and the text of a deeper one is rejected.
-/
theorem decode_undoes_encode :
    Json.ReadsBack FieldOption.toJson FieldOption.ofJson? ∧
    Json.ReadsBack FormField.toJson FormField.ofJson? ∧
    Json.ReadsBack RequestForm.toJson RequestForm.ofJson? ∧
    Json.ReadsBack FormSet.toJson FormSet.ofJson? ∧
    Json.ReadsBack SavedForm.toJson SavedForm.ofJson? ∧
    Json.ReadsBack Snapshot.toJson Snapshot.ofJson? ∧
    Json.ReadsBack FieldPatch.toJson FieldPatch.ofJson? ∧
    Json.ReadsBack FormPatch.toJson FormPatch.ofJson? ∧
    Json.ReadsBack Profile.toJson Profile.ofJson? ∧
    Json.ReadsBack User.toJson User.ofJson? ∧
    Json.ReadsBack Credentials.toJson Credentials.ofJson? ∧
    Json.ReadsBack Grant.toJson Grant.ofJson? ∧
    Json.ReadsBack StoredProfile.toJson StoredProfile.ofJson? ∧
    (∀ item : NavigationItem, (Json.read item.toJson.write).bind NavigationItem.ofJson? =
      if item.levels ≤ 63 then some item else none) ∧
    (∀ tree : List NavigationItem,
      (Json.read (NavigationItem.treeToJson tree).write).bind NavigationItem.treeOfJson? =
        if NavigationItem.treeLevels tree ≤ 63 then some tree else none) :=
  ⟨FieldOption.lossless.parse_write, FormField.lossless.parse_write,
    RequestForm.lossless.parse_write, FormSet.lossless.parse_write,
    SavedForm.lossless.parse_write, Snapshot.lossless.parse_write,
    FieldPatch.lossless.parse_write, FormPatch.lossless.parse_write,
    Profile.lossless.parse_write, User.lossless.parse_write,
    Credentials.lossless.parse_write, Grant.lossless.parse_write,
    StoredProfile.lossless.parse_write, NavigationItem.read_item, NavigationItem.read_tree⟩

end AccessPortal

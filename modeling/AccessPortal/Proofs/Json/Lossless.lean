import AccessPortal.Json.Record
import AccessPortal.Proofs.Json.RoundTrip
import Mathlib.Data.List.Nodup

/-!
# Lossless encodings

An encoding is lossless if its decoder undoes it on every value. The laws below build lossless
encodings of records from those of their members; what they share is that a member that is there is
never `null`, so that a missing part can be told from one that is there.
-/

namespace AccessPortal
namespace Json

variable {α : Type} {encode : α → Json} {decode : Json → Option α}

structure Lossless (encode : α → Json) (decode : Json → Option α) : Prop where
  decode_encode : ∀ a, decode (encode a) = some a
  isPlain : ∀ a, (encode a).isPlain
  ne_null : ∀ a, encode a ≠ .null

theorem Lossless.parse_write (lossless : Lossless encode decode) (a : α) :
    (read (encode a).write).bind decode = some a := by
  rw [read_write (lossless.isPlain a)]
  exact lossless.decode_encode a

/-! ## Simple values -/

theorem lossless_string : Lossless .string asString :=
  ⟨fun _ => rfl, fun _ => rfl, fun _ => nofun⟩

theorem lossless_bool : Lossless .bool asBool :=
  ⟨fun _ => rfl, fun _ => rfl, fun _ => nofun⟩

theorem lossless_int32 : Lossless ofInt32 asInt32 where
  decode_encode n := by
    have low : Int32.minValue.toInt ≤ n.toInt := Int32.le_toInt n
    have high : n.toInt ≤ Int32.maxValue.toInt := Int32.toInt_le n
    rw [asInt32, ofInt32, asIntegerIn, if_pos ⟨low, high⟩, Option.map_some, Int32.ofInt_toInt]
  isPlain _ := rfl
  ne_null _ := nofun

theorem lossless_int64 : Lossless ofInt64 asInt64 where
  decode_encode n := by
    have low : Int64.minValue.toInt ≤ n.toInt := Int64.le_toInt n
    have high : n.toInt ≤ Int64.maxValue.toInt := Int64.toInt_le n
    rw [asInt64, ofInt64, asIntegerIn, if_pos ⟨low, high⟩, Option.map_some, Int64.ofInt_toInt]
  isPlain _ := rfl
  ne_null _ := nofun

/-- Values that are written as their names are told apart by them. -/
theorem lossless_name {name : α → String} {ofName? : String → Option α}
    (ofName?_name : ∀ a, ofName? (name a) = some a) :
    Lossless (fun a => .string (name a)) (asName ofName?) :=
  ⟨ofName?_name, fun _ => rfl, fun _ => nofun⟩

theorem allPlain_map (lossless : Lossless encode decode) (items : List α) :
    allPlain (items.map encode) := by
  induction items with
  | nil => rfl
  | cons item items ih => simp [allPlain, lossless.isPlain item, ih]

theorem mapM_map_of_forall {β γ : Type} {f : β → Option γ} {g : α → β} {h : α → γ}
    (each : ∀ a, f (g a) = some (h a)) (list : List α) :
    (list.map g).mapM f = some (list.map h) := by
  induction list with
  | nil => rfl
  | cons a list ih => simp [each a, ih]

theorem mapM_map_encode (lossless : Lossless encode decode) (items : List α) :
    (items.map encode).mapM decode = some items := by
  have each : ∀ item, decode (encode item) = some (id item) := lossless.decode_encode
  rw [mapM_map_of_forall each, List.map_id]

theorem Lossless.list (lossless : Lossless encode decode) :
    Lossless (ofList encode) (asList decode) :=
  ⟨mapM_map_encode lossless, allPlain_map lossless, fun _ => nofun⟩

/-! ## Optional members -/

theorem Lossless.optional_ofOption (lossless : Lossless encode decode) (a : Option α) :
    optional decode (some (ofOption encode a)) = some a := by
  cases a with
  | none => rfl
  | some a =>
      rw [ofOption, optional, lossless.decode_encode]
      · rfl
      · exact lossless.ne_null a

theorem Lossless.optional_map (lossless : Lossless encode decode) (a : Option α) :
    optional decode (a.map encode) = some a := by
  cases a with
  | none => rfl
  | some a => exact lossless.optional_ofOption (some a)

theorem Lossless.isPlain_ofOption (lossless : Lossless encode decode) (a : Option α) :
    (ofOption encode a).isPlain := by
  cases a with
  | none => rfl
  | some a => exact lossless.isPlain a

/-! ## Members of records -/

theorem lookup_append (name : String) (first second : List (String × Json)) :
    lookup name (first ++ second) = (lookup name first).or (lookup name second) := by
  induction first with
  | nil => rfl
  | cons member first ih =>
      obtain ⟨n, value⟩ := member
      simp only [List.cons_append, lookup]
      split
      · rfl
      · exact ih

theorem lookup_memberIfSome (name other : String) (a : Option α) :
    lookup name (memberIfSome other encode a) = if other == name then a.map encode else none := by
  cases a <;> simp [memberIfSome, lookup]

/-- A record whose members have different names holds in each slot what that name stands for. -/
theorem slots_object (layout : List Slot) {members : List (String × Json)}
    (distinct : (members.map (·.1)).Nodup) :
    slots layout (.object members) =
      some (layout.map fun slot => lookup slot.name members) := by
  have once : ∀ slot ∈ layout, decide (occurrences slot.name members ≤ 1) = true := by
    intro slot _
    have count : occurrences slot.name members = (members.map (·.1)).count slot.name := by
      rw [occurrences, List.count, List.countP_map]
      rfl
    rw [count]
    exact decide_eq_true (List.nodup_iff_count_le_one.mp distinct slot.name)
  rw [slots, if_pos (List.all_eq_true.mpr once)]

theorem names_memberIfSome (name : String) (a : Option α) :
    ((memberIfSome name encode a).map (·.1)).Sublist [name] := by
  cases a with
  | none => exact List.nil_sublist _
  | some a => exact List.Sublist.refl _

theorem membersPlain_append (first second : List (String × Json)) :
    membersPlain (first ++ second) = (membersPlain first && membersPlain second) := by
  induction first with
  | nil => rfl
  | cons member first ih => simp [membersPlain, ih, Bool.and_assoc]

theorem membersPlain_map {name : α → String} (plain : ∀ a, (encode a).isPlain) (entries : List α) :
    membersPlain (entries.map fun entry => (name entry, encode entry)) := by
  induction entries with
  | nil => rfl
  | cons entry entries ih => simp [membersPlain, plain entry, ih]

theorem Lossless.membersPlain_memberIfSome (lossless : Lossless encode decode) (name : String)
    (a : Option α) : membersPlain (memberIfSome name encode a) := by
  cases a with
  | none => rfl
  | some a => simp [memberIfSome, membersPlain, lossless.isPlain a]

end Json
end AccessPortal

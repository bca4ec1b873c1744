import Mathlib.Data.List.Basic
import Transit.Proofs.Civil.Text
import Transit.Proofs.WideTime
import Transit.Record.Filter
set_option autoImplicit false

/-!
# Filters are known by their JSON

Every filter writes all its fields, so different filters are written as different values
(`LawfulEncoded`).
-/

namespace Transit

open Function

namespace Json

/-- Different values are written differently. -/
class LawfulEncoded (α : Type) [Encoded α] : Prop where
  injective : Injective (Encoded.toJson : α → Json)

section Writers

variable {α : Type} {write : α → Json}

theorem ofOption_injective (injective : Injective write) (filled : ∀ a, write a ≠ .null) :
    Injective (ofOption write) := by
  intro a b same
  cases a <;> cases b
  · rfl
  · exact absurd same.symm (filled _)
  · exact absurd same (filled _)
  · exact congrArg some (injective same)

theorem ofList_injective (injective : Injective write) : Injective (ofList write) :=
  fun _ _ same => List.map_injective_iff.mpr injective (Json.arr.inj same)

theorem ofMap_injective (injective : Injective write) : Injective (ofMap write) := by
  intro xs ys same
  refine List.map_injective_iff.mpr ?_ (Json.obj.inj same)
  rintro ⟨k, v⟩ ⟨k', v'⟩ equal
  obtain ⟨rfl, values⟩ := Prod.mk.inj equal
  rw [injective values]

theorem str_injective : Injective Json.str := fun _ _ => Json.str.inj

theorem date_injective : Injective Date.toJson :=
  fun _ _ same => Date.toText_injective (Json.str.inj same)

theorem time_injective : Injective WideTime.toJson :=
  fun _ _ same => WideTime.toText_injective (Json.str.inj same)

theorem relativeDate_injective : Injective RelativeDate.toJson := by
  have names : ∀ r ∈ RelativeDate.all, ∀ s ∈ RelativeDate.all, r.name = s.name → r = s := by decide
  have all (r : RelativeDate) : r ∈ RelativeDate.all := by
    cases r with
    | today => decide
    | tomorrow => decide
    | weekday day next => revert day next; decide
  exact fun r s same => names r (all r) s (all s) (Json.str.inj same)

theorem feedSpec_injective : Injective FeedSpec.toJson := by
  intro s t same
  have names := Json.str.inj same
  revert names
  cases s <;> cases t <;> decide

theorem near_injective : Injective PointRadius.toJson := by
  intro a b same
  cases a
  cases b
  simpa [PointRadius.toJson] using same

theorem box_injective : Injective BoundingBox.toJson := by
  intro a b same
  cases a
  cases b
  simpa [BoundingBox.toJson] using same

end Writers

section Fields

@[simp] theorem ofOption_str_inj {a b : Option String} :
    ofOption .str a = ofOption .str b ↔ a = b :=
  (ofOption_injective str_injective fun _ => by simp).eq_iff

@[simp] theorem ofOption_int_inj {a b : Option Int} :
    ofOption .int a = ofOption .int b ↔ a = b :=
  (ofOption_injective (fun _ _ => Json.int.inj) fun _ => by simp).eq_iff

@[simp] theorem ofOption_bool_inj {a b : Option Bool} :
    ofOption .bool a = ofOption .bool b ↔ a = b :=
  (ofOption_injective (fun _ _ => Json.bool.inj) fun _ => by simp).eq_iff

@[simp] theorem ofOption_float_inj {a b : Option Float} :
    ofOption .float a = ofOption .float b ↔ a = b :=
  (ofOption_injective (fun _ _ => Json.float.inj) fun _ => by simp).eq_iff

@[simp] theorem ofOption_date_inj {a b : Option Date} :
    ofOption Date.toJson a = ofOption Date.toJson b ↔ a = b :=
  (ofOption_injective date_injective fun _ => by simp [Date.toJson]).eq_iff

@[simp] theorem ofOption_time_inj {a b : Option WideTime} :
    ofOption WideTime.toJson a = ofOption WideTime.toJson b ↔ a = b :=
  (ofOption_injective time_injective fun _ => by simp [WideTime.toJson]).eq_iff

@[simp] theorem ofOption_relativeDate_inj {a b : Option RelativeDate} :
    ofOption RelativeDate.toJson a = ofOption RelativeDate.toJson b ↔ a = b :=
  (ofOption_injective relativeDate_injective fun _ => by simp [RelativeDate.toJson]).eq_iff

@[simp] theorem ofOption_near_inj {a b : Option PointRadius} :
    ofOption PointRadius.toJson a = ofOption PointRadius.toJson b ↔ a = b :=
  (ofOption_injective near_injective fun _ => by simp [PointRadius.toJson]).eq_iff

@[simp] theorem ofOption_box_inj {a b : Option BoundingBox} :
    ofOption BoundingBox.toJson a = ofOption BoundingBox.toJson b ↔ a = b :=
  (ofOption_injective box_injective fun _ => by simp [BoundingBox.toJson]).eq_iff

@[simp] theorem ofTexts_inj {a b : List String} : ofTexts a = ofTexts b ↔ a = b :=
  (ofList_injective str_injective).eq_iff

@[simp] theorem ofList_int_inj {a b : List Int} : ofList .int a = ofList .int b ↔ a = b :=
  (ofList_injective fun _ _ => Json.int.inj).eq_iff

@[simp] theorem ofList_feedSpec_inj {a b : List FeedSpec} :
    ofList FeedSpec.toJson a = ofList FeedSpec.toJson b ↔ a = b :=
  (ofList_injective feedSpec_injective).eq_iff

@[simp] theorem ofMap_str_inj {a b : List (String × String)} :
    ofMap .str a = ofMap .str b ↔ a = b :=
  (ofMap_injective str_injective).eq_iff

end Fields

end Json

open Json

instance : LawfulEncoded Unit := ⟨fun _ _ _ => rfl⟩

instance : LawfulEncoded AgencyFilter :=
  ⟨fun a b same => by cases a; cases b; simpa [Encoded.toJson, AgencyFilter.toJson] using same⟩

instance : LawfulEncoded RouteFilter :=
  ⟨fun a b same => by cases a; cases b; simpa [Encoded.toJson, RouteFilter.toJson] using same⟩

instance : LawfulEncoded StopFilter :=
  ⟨fun a b same => by cases a; cases b; simpa [Encoded.toJson, StopFilter.toJson] using same⟩

instance : LawfulEncoded TripFilter :=
  ⟨fun a b same => by cases a; cases b; simpa [Encoded.toJson, TripFilter.toJson] using same⟩

instance : LawfulEncoded FeedFilter :=
  ⟨fun a b same => by cases a; cases b; simpa [Encoded.toJson, FeedFilter.toJson] using same⟩

instance : LawfulEncoded FeedVersionFilter :=
  ⟨fun a b same => by cases a; cases b; simpa [Encoded.toJson, FeedVersionFilter.toJson] using same⟩

instance : LawfulEncoded ServiceLevelFilter :=
  ⟨fun a b same => by cases a; cases b; simpa [Encoded.toJson, ServiceLevelFilter.toJson] using same⟩

instance : LawfulEncoded FeedFetchFilter :=
  ⟨fun a b same => by cases a; cases b; simpa [Encoded.toJson, FeedFetchFilter.toJson] using same⟩

instance : LawfulEncoded OperatorFilter :=
  ⟨fun a b same => by cases a; cases b; simpa [Encoded.toJson, OperatorFilter.toJson] using same⟩

instance : LawfulEncoded PlaceFilter :=
  ⟨fun a b same => by cases a; cases b; simpa [Encoded.toJson, PlaceFilter.toJson] using same⟩

instance : LawfulEncoded AgencyPlaceFilter :=
  ⟨fun a b same => by cases a; cases b; simpa [Encoded.toJson, AgencyPlaceFilter.toJson] using same⟩

instance : LawfulEncoded CalendarDateFilter :=
  ⟨fun a b same => by cases a; cases b; simpa [Encoded.toJson, CalendarDateFilter.toJson] using same⟩

instance : LawfulEncoded PathwayFilter :=
  ⟨fun a b same => by cases a; cases b; simpa [Encoded.toJson, PathwayFilter.toJson] using same⟩

instance : LawfulEncoded StopTimeFilter :=
  ⟨fun a b same => by cases a; cases b; simpa [Encoded.toJson, StopTimeFilter.toJson] using same⟩

instance : LawfulEncoded TripStopTimeFilter :=
  ⟨fun a b same => by cases a; cases b; simpa [Encoded.toJson, TripStopTimeFilter.toJson] using same⟩

instance : LawfulEncoded VehiclePositionFilter :=
  ⟨fun a b same => by cases a; cases b; simpa [Encoded.toJson, VehiclePositionFilter.toJson] using same⟩

instance : LawfulEncoded CensusDatasetFilter :=
  ⟨fun a b same => by cases a; cases b; simpa [Encoded.toJson, CensusDatasetFilter.toJson] using same⟩

instance : LawfulEncoded CensusGeographyFilter :=
  ⟨fun a b same => by cases a; cases b; simpa [Encoded.toJson, CensusGeographyFilter.toJson] using same⟩

instance : LawfulEncoded CensusSourceFilter :=
  ⟨fun a b same => by cases a; cases b; simpa [Encoded.toJson, CensusSourceFilter.toJson] using same⟩

end Transit

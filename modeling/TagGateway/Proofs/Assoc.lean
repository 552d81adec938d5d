import Mathlib.Algebra.GroupWithZero.Nat
import Mathlib.Data.List.Nodup
import TagGateway.Assoc

/-!
# The entries of a dictionary

* `Assoc.mem_keys` — a dictionary has a value for each of its keys, and the value of a key is among
  its entries (`Assoc.mem_of_get?`).
* `Assoc.keys_put` — which keys there are after one is put; a dictionary that has each key once has
  it once after a change too (`Assoc.nodup_keys_put`, `Assoc.nodup_keys_erase`).
* `Assoc.sum_put` — what a change does to the sum of all values.
-/

namespace TagGateway.Assoc

variable {κ β : Type} [BEq κ] {k : κ} {d : List (κ × β)}

theorem nodup_keys_erase (h : (d.map (·.1)).Nodup) : ((erase k d).map (·.1)).Nodup :=
  (List.filter_sublist.map _).nodup h

/-- What is put is new, and all else was there. -/
theorem mem_put {v : β} {e : κ × β} (h : e ∈ put k v d) : e.2 = v ∨ e ∈ d := by
  induction d with
  | nil =>
    rw [put, List.mem_singleton] at h
    exact Or.inl (congrArg Prod.snd h)
  | cons e' rest ih =>
    unfold put at h
    split at h
    · rcases List.mem_cons.mp h with rfl | hrest
      · exact Or.inl rfl
      · exact Or.inr (List.mem_cons_of_mem _ hrest)
    · rcases List.mem_cons.mp h with rfl | hrest
      · exact Or.inr List.mem_cons_self
      · exact (ih hrest).imp_right (List.mem_cons_of_mem _)

variable [LawfulBEq κ]

/-- A dictionary has a value for each of its keys. -/
theorem mem_keys : k ∈ d.map (·.1) ↔ ∃ v, get? k d = some v := by
  induction d with
  | nil => exact iff_of_false nofun nofun
  | cons e rest ih =>
    obtain ⟨k', v⟩ := e
    by_cases hk : k' = k
    · simp [get?, hk]
    · simp only [List.map_cons, List.mem_cons, get?, beq_iff_eq, hk, if_false, ← ih]
      exact or_iff_right (Ne.symm hk)

theorem mem_of_get? {v : β} (h : get? k d = some v) : (k, v) ∈ d := by
  induction d with
  | nil => cases h
  | cons e rest ih =>
    obtain ⟨k', v'⟩ := e
    by_cases hk : k' = k
    · simp only [get?, beq_iff_eq, hk, if_true, Option.some.injEq] at h
      simp [hk, h]
    · simp only [get?, beq_iff_eq, hk, if_false] at h
      exact List.mem_cons_of_mem _ (ih h)

theorem has_eq_isSome : has k d = (get? k d).isSome := by
  induction d with
  | nil => rfl
  | cons e rest ih =>
    simp only [has] at ih
    by_cases hk : e.1 = k <;> simp [has, get?, hk, ih]

theorem get?_eq_none_iff : get? k d = none ↔ k ∉ d.map (·.1) := by
  rw [mem_keys, Option.eq_none_iff_forall_ne_some, not_exists]

/-- A key that is put keeps its place, and is the last one if it is new. -/
theorem keys_put (k : κ) (v : β) (d : List (κ × β)) :
    (put k v d).map (·.1) =
      if (get? k d).isSome then d.map (·.1) else d.map (·.1) ++ [k] := by
  induction d with
  | nil => rfl
  | cons e rest ih =>
    by_cases hk : e.1 = k
    · simp [put, get?, hk]
    · simp only [put, get?, beq_iff_eq, hk, if_false, List.map_cons, ih]
      split <;> rfl

theorem nodup_keys_put (v : β) (h : (d.map (·.1)).Nodup) :
    ((put k v d).map (·.1)).Nodup := by
  rw [keys_put]
  split
  · exact h
  · rename_i hnew
    rw [Option.not_isSome_iff_eq_none, get?_eq_none_iff] at hnew
    exact List.nodup_append.mpr ⟨h, List.nodup_singleton k, fun a ha b hb hab =>
      hnew (List.mem_singleton.mp hb ▸ hab ▸ ha)⟩

/-- What putting a number adds to the sum of all numbers. -/
theorem sum_put (k : κ) (n : Nat) (d : List (κ × Nat)) :
    ((put k n d).map (·.2)).sum + (get? k d).getD 0 = (d.map (·.2)).sum + n := by
  induction d with
  | nil => simp [put, get?]
  | cons e rest ih =>
    by_cases hk : e.1 = k
    · simp only [put, get?, beq_iff_eq, hk, if_true, List.map_cons, List.sum_cons,
        Option.getD_some]
      omega
    · simp only [put, get?, beq_iff_eq, hk, if_false, List.map_cons, List.sum_cons]
      omega

end TagGateway.Assoc

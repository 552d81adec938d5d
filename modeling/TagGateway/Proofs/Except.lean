import Mathlib.Data.List.Forall2

/-!
# Results that may be faults

What is made step by step or item by item fails with its first fault, so that a result tells of
every part of it.

* `bind_eq_ok` — two steps succeed just if both do.
* `map_eq_of_mapM`, `map_ok_of_mapM`, `exists_of_mem_mapM` — results that are made one by one.
* `toOption_bind`, `toOption_mapM`, `toOption_foldlM` — the same for those of which only the results
  matter, and that there is none.
-/

namespace TagGateway

variable {ε α β γ : Type}

theorem bind_eq_ok {x : Except ε α} {f : α → Except ε β} {b : β} :
    x >>= f = .ok b ↔ ∃ a, x = .ok a ∧ f a = .ok b := by
  cases x <;> simp [bind, Except.bind]

/-- What the results have of the things they are made from. -/
theorem map_eq_of_mapM {f : α → Except ε β} {xs : List α} {ys : List β} {p : β → γ} {q : α → γ}
    (h : xs.mapM f = .ok ys) (hf : ∀ x y, f x = .ok y → p y = q x) : ys.map p = xs.map q := by
  induction xs generalizing ys with
  | nil =>
    cases h
    rfl
  | cons x rest ih =>
    rw [List.mapM_cons, bind_eq_ok] at h
    obtain ⟨y, hy, hrest⟩ := h
    obtain ⟨others, hothers, hys⟩ := bind_eq_ok.mp hrest
    cases hys
    rw [List.map_cons, List.map_cons, hf x y hy, ih hothers]

theorem map_ok_of_mapM {f : α → Except ε β} {xs : List α} {ys : List β}
    (h : xs.mapM f = .ok ys) : xs.map f = ys.map .ok :=
  (map_eq_of_mapM h fun _ _ hxy => hxy.symm).symm

theorem exists_of_mem_mapM {f : α → Except ε β} {xs : List α} {ys : List β} {y : β}
    (h : xs.mapM f = .ok ys) (hy : y ∈ ys) : ∃ x ∈ xs, f x = .ok y := by
  have hmem : Except.ok y ∈ xs.map f := map_ok_of_mapM h ▸ List.mem_map_of_mem hy
  exact List.mem_map.mp hmem

/-! ## Without the faults -/

theorem toOption_bind {x : Except ε α} {f : α → Except ε β} {o : Option α} {g : α → Option β}
    (hx : x.toOption = o) (hf : ∀ a, (f a).toOption = g a) : (x >>= f).toOption = o >>= g := by
  subst hx
  cases x with
  | error e => rfl
  | ok a => exact hf a

theorem toOption_mapM {f : α → Except ε β} {g : γ → Option β} {xs : List α} {ys : List γ}
    (h : List.Forall₂ (fun x y => (f x).toOption = g y) xs ys) :
    (xs.mapM f).toOption = ys.mapM g := by
  induction h with
  | nil => rfl
  | cons hxy _ ih =>
    rw [List.mapM_cons, List.mapM_cons]
    exact toOption_bind hxy fun z => toOption_bind ih fun zs => rfl

theorem toOption_foldlM {f : β → α → Except ε β} {g : β → α → Option β}
    (hf : ∀ b x, (f b x).toOption = g b x) (b : β) (xs : List α) :
    (xs.foldlM f b).toOption = xs.foldlM g b := by
  induction xs generalizing b with
  | nil => rfl
  | cons x rest ih =>
    rw [List.foldlM_cons, List.foldlM_cons]
    exact toOption_bind (hf b x) ih

end TagGateway

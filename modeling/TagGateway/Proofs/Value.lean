import Mathlib.Data.List.Basic
import TagGateway.Proofs.Except
import TagGateway.Value.Access

/-!
# Texts among values

A text equals no other value, and only texts have an order with it. Values that hold a text can
therefore be put in ascending order just if all of them are texts.

* `Value.beq_text`, `Value.get?_text_isSome` — a text as a value and as a key.
* `Value.isText_iff_of_before` — what has an order with a text is a text.
* `Value.perm_of_ascending` — values in ascending order are the same values.
* `Value.isText_of_ascending`, `Value.exists_ascending` — when a text is among them.
-/

namespace TagGateway.Value

/-! ## One text -/

theorem beq_text {v : Value} {s : String} : (v == text s) = true ↔ v = text s := by
  show v.equals (text s) = true ↔ _
  cases v <;> simp [equals, sameNumber, number?, asInt?]

theorem bne_text {v : Value} {s : String} : (v != text s) = false ↔ v = text s := by
  rw [bne, Bool.not_eq_false', beq_text]

/-- A dictionary has a value for each text that is one of its keys. -/
theorem get?_text_isSome {s : String} {entries : List (Value × Value)} :
    (Assoc.get? (text s) entries).isSome = true ↔ text s ∈ entries.map (·.1) := by
  induction entries with
  | nil => exact iff_of_false nofun nofun
  | cons e rest ih =>
    obtain ⟨k, v⟩ := e
    rw [List.map_cons, List.mem_cons, Assoc.get?]
    split
    · rename_i hk
      exact iff_of_true rfl (Or.inl (beq_text.mp hk).symm)
    · rename_i hk
      rw [ih]
      exact (or_iff_right fun heq => hk (beq_text.mpr heq.symm)).symm

/-! ## In ascending order -/

/-- A value is a text. -/
def IsText (v : Value) : Prop := ∃ s, v = text s

theorem isText_iff_of_before {v w : Value} {first : Bool} (h : v.before w = .ok first) :
    v.IsText ↔ w.IsText := by
  unfold IsText
  cases v <;> cases w <;> simp [before, number?, asInt?] at h ⊢

variable {v : Value} {vs sorted found : List Value}

theorem perm_of_insertAscending (h : insertAscending v sorted = .ok found) :
    found.Perm (v :: sorted) := by
  induction sorted generalizing found with
  | nil =>
    cases h
    exact .refl _
  | cons w rest ih =>
    obtain ⟨first, -, h⟩ := bind_eq_ok.mp h
    split at h
    · cases h
      exact .refl _
    · obtain ⟨more, hmore, hfound⟩ := bind_eq_ok.mp h
      cases hfound
      exact ((ih hmore).cons w).trans (.swap v w rest)

theorem exists_insertAscending (hv : v.IsText) (hsorted : ∀ w ∈ sorted, w.IsText) :
    ∃ found, insertAscending v sorted = .ok found := by
  induction sorted with
  | nil => exact ⟨[v], rfl⟩
  | cons w rest ih =>
    obtain ⟨s, rfl⟩ := hv
    obtain ⟨t, rfl⟩ := hsorted w List.mem_cons_self
    obtain ⟨more, hmore⟩ := ih fun w' hw' => hsorted w' (List.mem_cons_of_mem _ hw')
    rw [insertAscending, before, hmore]
    by_cases hfirst : s < t
    · exact ⟨_, by simp only [hfirst, decide_true]; rfl⟩
    · exact ⟨_, by simp only [hfirst, decide_false]; rfl⟩

/-- All of some values are texts, or none is. -/
def Alike (vs : List Value) : Prop := ∀ v ∈ vs, ∀ w ∈ vs, v.IsText ↔ w.IsText

theorem alike_of_insertAscending (h : insertAscending v sorted = .ok found)
    (hsorted : Alike sorted) : Alike (v :: sorted) := by
  cases sorted with
  | nil => simp [Alike]
  | cons w rest =>
    obtain ⟨first, hfirst, -⟩ := bind_eq_ok.mp h
    have hv (u : Value) (hu : u ∈ w :: rest) : v.IsText ↔ u.IsText :=
      (isText_iff_of_before hfirst).trans (hsorted w List.mem_cons_self u hu)
    have hall (u : Value) (hu : u ∈ v :: w :: rest) : v.IsText ↔ u.IsText := by
      rcases List.mem_cons.mp hu with rfl | hrest
      · rfl
      · exact hv u hrest
    exact fun u hu u' hu' => (hall u hu).symm.trans (hall u' hu')

/-- What a run of insertions keeps: the values, and that all are texts or none is. -/
theorem insertions_spec
    (h : vs.foldlM (fun sorted v => insertAscending v sorted) sorted = .ok found)
    (hsorted : Alike sorted) : found.Perm (sorted ++ vs) ∧ Alike (sorted ++ vs) := by
  induction vs generalizing sorted with
  | nil =>
    cases h
    rw [List.append_nil]
    exact ⟨.refl _, hsorted⟩
  | cons v rest ih =>
    rw [List.foldlM_cons] at h
    obtain ⟨more, hmore, hrest⟩ := bind_eq_ok.mp h
    have hperm := perm_of_insertAscending hmore
    have hmoved : (more ++ rest).Perm (sorted ++ v :: rest) :=
      (hperm.append_right rest).trans List.perm_middle.symm
    have halike : Alike more := fun u hu w hw =>
      alike_of_insertAscending hmore hsorted u (hperm.subset hu) w (hperm.subset hw)
    obtain ⟨hfound, hall⟩ := ih hrest halike
    exact ⟨hfound.trans hmoved, fun u hu w hw =>
      hall u (hmoved.symm.subset hu) w (hmoved.symm.subset hw)⟩

theorem perm_of_ascending (h : ascending vs = .ok found) : found.Perm vs :=
  (insertions_spec h (by simp [Alike])).1

/-- Values that are put in order are all texts if one of them is. -/
theorem isText_of_ascending (h : ascending vs = .ok found) {s : String} (hs : text s ∈ vs) :
    ∀ v ∈ vs, v.IsText :=
  fun v hv => ((insertions_spec h (by simp [Alike])).2 v hv _ hs).mpr ⟨s, rfl⟩

theorem exists_ascending (h : ∀ v ∈ vs, v.IsText) : ∃ found, ascending vs = .ok found := by
  suffices hfrom : ∀ sorted, (∀ w ∈ sorted, w.IsText) →
      ∃ found, vs.foldlM (fun sorted v => insertAscending v sorted) sorted = .ok found from
    hfrom [] (List.forall_mem_nil _)
  induction vs with
  | nil => exact fun sorted _ => ⟨sorted, rfl⟩
  | cons v rest ih =>
    intro sorted hsorted
    have hv := h v List.mem_cons_self
    obtain ⟨more, hmore⟩ := exists_insertAscending hv hsorted
    obtain ⟨found, hfound⟩ := ih (fun w hw => h w (List.mem_cons_of_mem _ hw)) more fun w hw => by
      rcases List.mem_cons.mp ((perm_of_insertAscending hmore).subset hw) with rfl | hw
      · exact hv
      · exact hsorted w hw
    exact ⟨found, by rw [List.foldlM_cons, hmore]; exact hfound⟩

end TagGateway.Value

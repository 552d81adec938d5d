import TagGateway.Text.Upper

/-!
# Upper case is reached in one step

The upper-case form of an upper-case form is that form again.  The table of mappings is checked as
data, run against run: no character that a mapping yields is moved by the table, nor is it a
lower-case ASCII letter.

* `CaseRun.Misses` — the condition on two runs, decided by their ends and strides alone.
* `CaseRun.image?_eq_none` — a run that is missed moves nothing that the other run yields.
* `upper_upper` — `upper (upper s) = upper s`.
* `upperChar_ne_nil`, `eq_of_mem_upperChar` — nothing vanishes, and characters before the letter A
  come from themselves only.
* `upper_eq_self` — a text of characters that are their own upper case is its own upper case.
-/

namespace TagGateway.Text

/-! ## Runs of the table -/

/-- The run of one character that stays where it is. -/
def CaseRun.point (n : Nat) : CaseRun := ⟨n, n, 1, 0⟩

/-- The least code point that a run yields. -/
def CaseRun.low (r : CaseRun) : Nat := ((r.first : Int) + r.shift).toNat

/-- The greatest code point that a run yields. -/
def CaseRun.high (r : CaseRun) : Nat := ((r.last : Int) + r.shift).toNat

/-- Nothing that `r` yields lies on `s`: the ranges are disjoint, or what `r` yields falls between
the places of `s`. -/
def CaseRun.misses (r s : CaseRun) : Bool :=
  Nat.blt r.high s.first || Nat.blt s.last r.low ||
    ((Nat.beq r.stride 2 || Nat.beq r.low r.high) && Nat.beq s.stride 2 &&
      Nat.beq ((r.low + s.first) % 2) 1)

/-- What the mappings yield, as runs: the runs of the table, and each letter of an expansion. -/
def yields : List CaseRun :=
  caseRuns ++ caseExpansions.flatMap fun e => e.2.map .point

/-- What is moved, as runs: by the table, by expansion, and as a lower-case ASCII letter. -/
def moved : List CaseRun :=
  ⟨0x61, 0x7A, 1, -32⟩ :: caseRuns ++ caseExpansions.map fun e => .point e.1

/-- The check of the whole table. -/
theorem yields_misses_moved : (yields.all fun r => moved.all r.misses) = true := by
  decide +kernel

/-- No run moves a character below zero. -/
theorem yields_nonneg : (yields.all fun r => decide (0 ≤ (r.first : Int) + r.shift)) = true := by
  decide +kernel

/-- A place of a run, with the code point it is moved to. -/
theorem CaseRun.image?_eq_some {r : CaseRun} {n m : Nat} (h : r.image? n = some m) :
    r.first ≤ n ∧ n ≤ r.last ∧ (n - r.first) % r.stride = 0 ∧ m = ((n : Int) + r.shift).toNat := by
  unfold CaseRun.image? at h
  split at h
  · rename_i hn
    simp only [Bool.and_eq_true, decide_eq_true_eq, beq_iff_eq] at hn
    cases h
    exact ⟨hn.1.1, hn.1.2, hn.2, rfl⟩
  · cases h

/-- **A run that is missed moves nothing that the other run yields.** -/
theorem CaseRun.image?_eq_none {r s : CaseRun} (hr : 0 ≤ (r.first : Int) + r.shift)
    (hrs : r.misses s = true) {n m : Nat} (h : r.image? n = some m) : s.image? m = none := by
  obtain ⟨hfirst, hlast, hstride, rfl⟩ := image?_eq_some h
  have hlow : (r.low : Int) = r.first + r.shift := Int.toNat_of_nonneg hr
  have hhigh : (r.high : Int) = r.last + r.shift := Int.toNat_of_nonneg (by omega)
  cases hs : s.image? ((n : Int) + r.shift).toNat with
  | none => rfl
  | some k =>
    obtain ⟨sfirst, slast, sstride, -⟩ := image?_eq_some hs
    simp only [misses, Bool.or_eq_true, Bool.and_eq_true, Nat.blt_eq, Nat.beq_eq] at hrs
    rcases hrs with (hrs | hrs) | ⟨⟨hr2, hs2⟩, hodd⟩
    · omega
    · omega
    · rw [hs2] at sstride
      rcases hr2 with hr2 | hpoint
      · rw [hr2] at hstride
        omega
      · omega

/-! ## Characters -/

/-- A code point that no mapping moves. -/
def IsSettled (m : Nat) : Prop := ∀ s ∈ moved, s.image? m = none

theorem isSettled_of_yields {r : CaseRun} (hr : r ∈ yields) {n m : Nat} (h : r.image? n = some m) :
    IsSettled m := by
  intro s hs
  have hmiss := List.all_eq_true.mp (List.all_eq_true.mp yields_misses_moved r hr) s hs
  have hnonneg := of_decide_eq_true (List.all_eq_true.mp yields_nonneg r hr)
  exact CaseRun.image?_eq_none hnonneg hmiss h

theorem CaseRun.point_image? (n : Nat) : (CaseRun.point n).image? n = some n := by
  simp [CaseRun.image?, CaseRun.point]

theorem not_expanded {m : Nat} (h : ∀ e ∈ caseExpansions, (CaseRun.point e.1).image? m = none) :
    caseExpansions.find? (·.1 == m) = none := by
  rw [List.find?_eq_none]
  intro e he hem
  have := h e he
  rw [beq_iff_eq.mp hem, CaseRun.point_image?] at this
  cases this

/-- A settled code point beyond ASCII is its own upper case. -/
theorem upperBeyondAscii_of_settled {m : Nat} (h : IsSettled m) : upperBeyondAscii m = [m] := by
  have hexp : caseExpansions.find? (·.1 == m) = none :=
    not_expanded fun e he => h _ (List.mem_append_right _ (List.mem_map_of_mem he))
  have hrun : caseRuns.findSome? (·.image? m) = none :=
    List.findSome?_eq_none_iff.mpr fun r hr => h r (by simp [moved, hr])
  unfold upperBeyondAscii
  rw [hexp, hrun]

/-- Every code point in the upper-case form of one is settled, or is that one. -/
theorem mem_upperBeyondAscii {n m : Nat} (h : m ∈ upperBeyondAscii n) :
    IsSettled m ∨ (m = n ∧ upperBeyondAscii n = [n]) := by
  unfold upperBeyondAscii at h ⊢
  split at h
  · rename_i e form he
    left
    refine isSettled_of_yields (r := .point m) ?_ (CaseRun.point_image? m)
    simp only [yields, List.mem_append, List.mem_flatMap, List.mem_map]
    exact Or.inr ⟨_, List.mem_of_find?_eq_some he, m, h, rfl⟩
  · rename_i hexp
    split at h
    · rename_i k hk
      obtain ⟨r, hr, hrk⟩ := List.exists_of_findSome?_eq_some hk
      rw [List.mem_singleton] at h
      subst h
      exact Or.inl (isSettled_of_yields (by simp [yields, hr]) hrk)
    · rename_i hrun
      rw [List.mem_singleton] at h
      subst h
      exact Or.inr ⟨rfl, rfl⟩

theorem toNat_toUpper (c : Char) :
    c.toUpper.toNat = if 0x61 ≤ c.toNat ∧ c.toNat ≤ 0x7A then c.toNat - 32 else c.toNat := by
  unfold Char.toUpper
  have ha : ('a'.val ≤ c.val ∧ c.val ≤ 'z'.val) ↔ (0x61 ≤ c.toNat ∧ c.toNat ≤ 0x7A) := by
    simp only [UInt32.le_iff_toNat_le, Char.toNat]
    exact Iff.rfl
  simp only [ha]
  split
  · rename_i h
    have hz : c.val.toNat ≤ 0x7A := h.2
    have hlow : 0x61 ≤ c.val.toNat := h.1
    show (c.val + ('A'.val - 'a'.val)).toNat = c.val.toNat - 32
    rw [UInt32.toNat_add, show ('A'.val - 'a'.val).toNat = 2 ^ 32 - 32 from rfl]
    omega
  · rfl

theorem toUpper_eq_self {c : Char} (h : ¬(0x61 ≤ c.toNat ∧ c.toNat ≤ 0x7A)) : c.toUpper = c := by
  rw [← Char.toNat_inj, toNat_toUpper, if_neg h]

/-- A settled character is its own upper case. -/
theorem upperChar_of_settled {c : Char} (h : IsSettled c.toNat) : upperChar c = [c] := by
  unfold upperChar
  split
  · have hletter := h ⟨0x61, 0x7A, 1, -32⟩ (by simp [moved])
    rw [toUpper_eq_self]
    intro hc
    simp [CaseRun.image?, hc, Nat.mod_one] at hletter
  · rw [upperBeyondAscii_of_settled h, List.map_singleton, Char.ofNat_toNat]

theorem toNat_ofNat (m : Nat) : (Char.ofNat m).toNat = m ∨ (Char.ofNat m).toNat = 0 := by
  unfold Char.ofNat
  by_cases h : m.isValidChar
  · rw [dif_pos h]
    exact Or.inl rfl
  · rw [dif_neg h]
    exact Or.inr rfl

theorem upperChar_of_ascii {c : Char} (h : c.toNat < 0x80)
    (hl : ¬(0x61 ≤ c.toNat ∧ c.toNat ≤ 0x7A)) : upperChar c = [c] := by
  unfold upperChar
  rw [if_pos h, toUpper_eq_self hl]

/-- Every character of an upper-case form is its own upper case. -/
theorem upperChar_of_mem {c d : Char} (h : d ∈ upperChar c) : upperChar d = [d] := by
  unfold upperChar at h
  split at h
  · rename_i hc
    rw [List.mem_singleton] at h
    subst h
    have hup := toNat_toUpper c
    split at hup
    · exact upperChar_of_ascii (by omega) (by omega)
    · exact upperChar_of_ascii (by omega) (by omega)
  · rename_i hc
    obtain ⟨m, hm, rfl⟩ := List.mem_map.mp h
    rcases mem_upperBeyondAscii hm with hs | ⟨rfl, hself⟩
    · rcases toNat_ofNat m with hn | hn
      · exact upperChar_of_settled (by rw [hn]; exact hs)
      · exact upperChar_of_ascii (by omega) (by omega)
    · rw [Char.ofNat_toNat]
      unfold upperChar
      rw [if_neg hc, hself, List.map_singleton, Char.ofNat_toNat]

/-- What the mappings yield is no earlier than the letter A. -/
theorem yields_late : (yields.all fun r => Nat.ble 0x41 r.low) = true := by
  decide +kernel

/-- No expansion is empty. -/
theorem expansions_ne_nil : (caseExpansions.all fun e => !e.2.isEmpty) = true := by
  decide +kernel

/-- No upper-case form is empty. -/
theorem upperChar_ne_nil (c : Char) : upperChar c ≠ [] := by
  unfold upperChar
  split
  · exact List.cons_ne_nil _ _
  · rw [ne_eq, List.map_eq_nil_iff]
    unfold upperBeyondAscii
    split
    · rename_i form he
      have := List.all_eq_true.mp expansions_ne_nil _ (List.mem_of_find?_eq_some he)
      simpa using this
    · split <;> exact List.cons_ne_nil _ _

/-- A code point in the upper-case form of one beyond ASCII is no earlier than the letter A. -/
theorem le_of_mem_upperBeyondAscii {n m : Nat} (hn : 0x41 ≤ n) (h : m ∈ upperBeyondAscii n) :
    0x41 ≤ m := by
  unfold upperBeyondAscii at h
  split at h
  · rename_i e form he
    have hyield : CaseRun.point m ∈ yields := by
      simp only [yields, List.mem_append, List.mem_flatMap, List.mem_map]
      exact Or.inr ⟨_, List.mem_of_find?_eq_some he, m, h, rfl⟩
    have hlate := Nat.le_of_ble_eq_true (List.all_eq_true.mp yields_late _ hyield)
    simpa [CaseRun.low, CaseRun.point] using hlate
  · split at h
    · rename_i k hk
      obtain ⟨r, hr, hrk⟩ := List.exists_of_findSome?_eq_some hk
      have hlate := Nat.le_of_ble_eq_true
        (List.all_eq_true.mp yields_late r (List.mem_append_left _ hr))
      obtain ⟨hfirst, -, -, hmoved⟩ := CaseRun.image?_eq_some hrk
      rw [List.mem_singleton] at h
      unfold CaseRun.low at hlate
      omega
    · rw [List.mem_singleton] at h
      omega

/-- A character before the letter A is in no other character's upper-case form. -/
theorem eq_of_mem_upperChar {c d : Char} (h : d ∈ upperChar c) (hd : d.toNat ≠ 0)
    (hearly : d.toNat < 0x41) : d = c := by
  unfold upperChar at h
  split at h
  · rw [List.mem_singleton] at h
    subst h
    have hup := toNat_toUpper c
    split at hup
    · omega
    · exact Char.toNat_inj.mp hup
  · obtain ⟨m, hm, rfl⟩ := List.mem_map.mp h
    have hlate := le_of_mem_upperBeyondAscii (by omega) hm
    rcases toNat_ofNat m with hn | hn <;> omega

/-! ## Texts -/

theorem upperChars_eq_self {cs : List Char} (h : ∀ c ∈ cs, upperChar c = [c]) :
    upperChars cs = cs := by
  unfold upperChars
  induction cs with
  | nil => rfl
  | cons c rest ih =>
    rw [List.flatMap_cons, h c List.mem_cons_self, ih fun d hd => h d (List.mem_cons_of_mem c hd)]
    rfl

/-- A text of characters that are their own upper case is its own upper case. -/
theorem upper_eq_self {s : String} (h : ∀ c ∈ s.toList, upperChar c = [c]) : upper s = s := by
  unfold upper
  rw [upperChars_eq_self h, String.ofList_toList]

/-- **Upper case is reached in one step.** -/
theorem upper_upper (s : String) : upper (upper s) = upper s := by
  apply upper_eq_self
  intro d hd
  unfold upper at hd
  rw [String.toList_ofList, upperChars, List.mem_flatMap] at hd
  obtain ⟨c, -, hd⟩ := hd
  exact upperChar_of_mem hd

end TagGateway.Text

import TagGateway.Blacklist
import TagGateway.Proofs.Text.Blank
import TagGateway.Proofs.Text.Upper

/-!
# Canonical addresses and the blacklist

* `Address.matchesPattern_prepared` — no line feed gets through, although the pattern lets one stand
  at the end: a prepared text does not end in one.
* `Address.isCanonical_of_ofValue` — what a value writes as an address is canonical.
* `Address.upper_of_isCanonical` — a canonical address is its own upper case, so that the two ways
  of comparing addresses (canonical form on insertion, upper case on look-up) agree on it.
* `Blacklist.add_of_ofValue`, `Blacklist.mem_insert` — an addition puts in the canonical form and
  nothing else, and takes nothing away.
* `Blacklist.pairwise_insert` — the list stays in ascending order, without duplicates.
-/

namespace TagGateway

namespace Address

theorem isPairs_chars {n : Nat} {cs : List Char} (h : isPairs n cs = true) :
    ∀ c ∈ cs, isUpperHex c = true ∨ c = ':' := by
  fun_induction isPairs n cs with
  | case1 a b =>
    simp only [Bool.and_eq_true] at h
    simp [h.1, h.2]
  | case2 n a b rest ih =>
    simp only [Bool.and_eq_true] at h
    intro c hc
    simp only [List.mem_cons] at hc
    rcases hc with rfl | rfl | rfl | hc
    · exact Or.inl h.1.1
    · exact Or.inl h.1.2
    · exact Or.inr rfl
    · exact ih h.2 c hc
  | case3 => cases h

/-- The characters of an address are their own upper case. -/
theorem upperChar_of_isUpperHex {c : Char} (h : isUpperHex c = true ∨ c = ':') :
    Text.upperChar c = [c] := by
  rcases h with h | rfl
  · simp only [isUpperHex, Bool.or_eq_true, Bool.and_eq_true, decide_eq_true_eq] at h
    exact Text.upperChar_of_ascii (by omega) (by omega)
  · rfl

/-- A canonical address is its own upper case. -/
theorem upper_of_isCanonical {mac : String} (h : IsCanonical mac) : Text.upper mac = mac :=
  Text.upper_eq_self fun c hc => upperChar_of_isUpperHex (isPairs_chars h c hc)

/-- A prepared text does not end in a line feed: the trimmed text does not, and no other character
has one in its upper-case form. -/
theorem getLast?_prepared (s : String) : (prepared s).getLast? ≠ some '\n' := by
  intro hlast
  unfold prepared at hlast
  rcases List.eq_nil_or_concat' (Text.trimChars s.toList) with hnil | ⟨start, last, htrim⟩
  · simp [hnil, Text.upperChars] at hlast
  · obtain ⟨form, hform⟩ : ∃ form, Text.upperChar last = form := ⟨_, rfl⟩
    have hne : form ≠ [] := hform ▸ Text.upperChar_ne_nil last
    rw [htrim, Text.upperChars, List.flatMap_append, List.flatMap_singleton, hform,
      List.map_append, List.getLast?_append_of_ne_nil _ (by simpa using hne)] at hlast
    obtain ⟨c, hc, hnewline⟩ := List.mem_map.mp (List.mem_of_getLast? hlast)
    have hcc : c = '\n' := by
      split at hnewline
      · cases hnewline
      · exact hnewline
    subst hcc
    have hsame := Text.eq_of_mem_upperChar (hform ▸ hc) (by decide) (by decide)
    exact absurd (Text.not_isBlank_of_trimChars htrim) (by rw [← hsame]; decide)

/-- A prepared text that matches the pattern has six pairs and nothing else. -/
theorem matchesPattern_prepared (s : String) :
    matchesPattern (prepared s) = isPairs 6 (prepared s) := by
  have hend : ((prepared s).getLast? == some '\n') = false :=
    beq_eq_false_iff_ne.mpr (getLast?_prepared s)
  rw [matchesPattern, hend, Bool.false_and, Bool.or_false]

theorem isCanonical_of_canonical? {s mac : String} (h : canonical? s = some mac) :
    IsCanonical mac := by
  simp only [canonical?, matchesPattern_prepared] at h
  split at h
  · rename_i hp
    cases h
    unfold IsCanonical
    rw [String.toList_ofList]
    exact hp
  · cases h

/-- What a value writes as an address is canonical. -/
theorem isCanonical_of_ofValue {v : Value} {mac : String} (h : ofValue v = .ok mac) :
    IsCanonical mac := by
  unfold ofValue at h
  split at h
  · unfold normalize at h
    split at h
    · rename_i hc
      cases h
      exact isCanonical_of_canonical? hc
    · cases h
  · cases h
  · cases h

end Address

namespace Blacklist

theorem contains_eq_true {b : Blacklist} {s : String} :
    b.contains s = true ↔ Text.upper s ∈ b.macs := by
  unfold contains
  rw [List.contains_iff_mem]

theorem contains_eq_false {b : Blacklist} {s : String} :
    b.contains s = false ↔ Text.upper s ∉ b.macs := by
  rw [← contains_eq_true, Bool.not_eq_true]

theorem mem_insert {b : Blacklist} {mac m : String} :
    m ∈ (b.insert mac).macs ↔ m = mac ∨ m ∈ b.macs :=
  mem_insertSorted

theorem pairwise_insertSorted {s : String} {l : List String} (h : l.Pairwise (· < ·)) :
    (insertSorted s l).Pairwise (· < ·) := by
  induction l with
  | nil => exact List.pairwise_singleton _ s
  | cons t rest ih =>
    obtain ⟨hfirst, hrest⟩ := List.pairwise_cons.mp h
    unfold insertSorted
    split
    · rename_i hlt
      refine List.pairwise_cons.mpr ⟨?_, h⟩
      intro a ha
      rcases List.mem_cons.mp ha with rfl | ha
      · exact hlt
      · exact String.lt_trans hlt (hfirst a ha)
    · rename_i hnlt
      split
      · exact h
      · rename_i hne
        have hlt : t < s := Std.lt_of_le_of_ne (String.not_lt.mp hnlt) (Ne.symm hne)
        refine List.pairwise_cons.mpr ⟨?_, ih hrest⟩
        intro a ha
        rcases mem_insertSorted.mp ha with rfl | ha
        · exact hlt
        · exact hfirst a ha

theorem pairwise_insert {b : Blacklist} (h : b.macs.Pairwise (· < ·)) (mac : String) :
    (b.insert mac).macs.Pairwise (· < ·) :=
  pairwise_insertSorted h

/-- An addition puts in the canonical form of the address. -/
theorem add_of_ofValue (b : Blacklist) {v : Value} {mac : String}
    (h : Address.ofValue v = .ok mac) :
    b.add v = .ok (!b.macs.contains mac, b.insert mac) := by
  unfold add
  rw [h]
  rfl

end Blacklist

end TagGateway

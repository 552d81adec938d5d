import TagGateway.Proofs.Text.Blank
import TagGateway.Settings.Lookup

/-!
# Lists that are written as one text

The items of a list are written with commas between them. To add further texts to a list, its items
are joined with them and the whole is read again. A further text may itself write a list.

* `Settings.itemsOf_intercalate` — joined texts have the items of each, in order.
* `Settings.itemsOf_of_mem` — an item writes the list of itself alone.
* **`Settings.itemsOf_rejoined`** — so the items that were there are read back as they are, and the
  items of the further texts follow.
-/

namespace TagGateway.Settings

variable {value item : String}

/-- A part has nothing in it at which it was split off. -/
theorem not_mem_of_mem_splitOn {sep : Char} {cs part : List Char} (h : part ∈ cs.splitOn sep) :
    sep ∉ part := by
  induction cs generalizing part with
  | nil =>
    rw [List.splitOn_nil, List.mem_singleton] at h
    simp [h]
  | cons c rest ih =>
    rw [List.splitOn_cons_eq_if_modifyHead] at h
    split at h
    · rcases List.mem_cons.mp h with rfl | hrest
      · simp
      · exact ih hrest
    · rename_i hc
      obtain ⟨first, others, hsplit⟩ := List.exists_cons_of_ne_nil (List.splitOn_ne_nil sep rest)
      rw [hsplit, List.modifyHead_cons] at h
      rcases List.mem_cons.mp h with rfl | hothers
      · have hfirst : sep ∉ first := ih (by simp [hsplit])
        have hne : sep ≠ c := fun heq => hc (by simp [heq])
        simp [hfirst, hne]
      · exact ih (by simp [hsplit, hothers])

/-! ## Joined texts -/

theorem itemsOf_empty : itemsOf "" = [] := by
  simp [itemsOf, Text.trimChars, Text.dropWhileEnd]

/-- A comma between two texts separates their items. -/
theorem itemsOf_append_comma (a b : String) : itemsOf (a ++ "," ++ b) = itemsOf a ++ itemsOf b := by
  have hchars : (a ++ "," ++ b).toList = a.toList ++ ',' :: b.toList := by
    simp [String.toList_append]
  unfold itemsOf
  rw [hchars, List.splitOn_append_cons_self, List.map_append, List.filter_append]

theorem itemsOf_intercalate (texts : List String) :
    itemsOf (",".intercalate texts) = texts.flatMap itemsOf := by
  induction texts with
  | nil =>
    rw [String.intercalate_nil, itemsOf_empty]
    rfl
  | cons text rest ih =>
    cases rest with
    | nil => simp [String.intercalate_singleton]
    | cons next rest =>
      rw [String.intercalate_cons_cons, itemsOf_append_comma, ih]
      rfl

/-! ## Items -/

/-- An item is a part, trimmed: it is not empty, has no comma in it and no blank at its ends. -/
theorem chars_of_mem_itemsOf (h : item ∈ itemsOf value) :
    item.isEmpty = false ∧ ',' ∉ item.toList ∧ Text.trimChars item.toList = item.toList := by
  unfold itemsOf at h
  obtain ⟨hmem, hne⟩ := List.mem_filter.mp h
  obtain ⟨part, hpart, rfl⟩ := List.mem_map.mp hmem
  rw [String.toList_ofList]
  refine ⟨by simpa using hne, ?_, Text.trimChars_trimChars part⟩
  intro hcomma
  exact not_mem_of_mem_splitOn hpart (Text.mem_trimChars hcomma)

theorem itemsOf_of_mem (h : item ∈ itemsOf value) : itemsOf item = [item] := by
  obtain ⟨hne, hcomma, htrimmed⟩ := chars_of_mem_itemsOf h
  unfold itemsOf
  rw [List.splitOn_eq_singleton hcomma, List.map_singleton, htrimmed, String.ofList_toList]
  simp [hne]

/-- **Items that are joined with further texts are read back as they are**, and are followed by the
items of those texts. -/
theorem itemsOf_rejoined (value : String) (texts : List String) :
    itemsOf (",".intercalate (itemsOf value ++ texts)) =
      itemsOf value ++ texts.flatMap itemsOf := by
  have hkept : (itemsOf value).flatMap itemsOf = itemsOf value := by
    rw [List.flatMap_congr fun item hitem => itemsOf_of_mem hitem]
    simp
  rw [itemsOf_intercalate, List.flatMap_append, hkept]

/-- Blanks and empty items go, and a further text may write several items. -/
example : itemsOf (",".intercalate (itemsOf " a ,, b" ++ ["c, d ", " ", "b"])) =
    ["a", "b", "c", "d", "b"] := by decide +kernel

end TagGateway.Settings

import Mathlib.Data.List.DropRight
import TagGateway.Text.Blank

/-!
# Trimmed texts

* `Text.mem_trimChars` — trimming adds nothing.
* `Text.trimChars_trimChars` — what is trimmed has no blanks at its ends;
  `Text.not_isBlank_of_trimChars` says so of its end.
* `Text.trimChars_eq_self` — a text without blanks is not changed.
-/

namespace TagGateway.Text

theorem trimChars_start (cs : List Char) : trimChars cs <+: cs.dropWhile isBlank :=
  List.rdropWhile_prefix isBlank (cs.dropWhile isBlank)

theorem mem_trimChars {c : Char} {cs : List Char} (h : c ∈ trimChars cs) : c ∈ cs :=
  (List.dropWhile_suffix isBlank).subset ((trimChars_start cs).subset h)

/-- To trim a text again changes nothing. -/
theorem trimChars_trimChars (cs : List Char) : trimChars (trimChars cs) = trimChars cs := by
  have hstart : (trimChars cs).dropWhile isBlank = trimChars cs := by
    rw [List.dropWhile_eq_self_iff]
    intro hlength
    have hfirst := (trimChars_start cs).getElem hlength
    rw [hfirst]
    exact List.dropWhile_eq_self_iff.mp (List.dropWhile_idempotent isBlank cs) _
  show ((trimChars cs).dropWhile isBlank).rdropWhile isBlank = trimChars cs
  rw [hstart]
  exact List.rdropWhile_idempotent isBlank (cs.dropWhile isBlank)

/-- A trimmed text does not end in a blank. -/
theorem not_isBlank_of_trimChars {cs start : List Char} {c : Char}
    (h : trimChars cs = start ++ [c]) : isBlank c = false := by
  have hne : (cs.dropWhile isBlank).rdropWhile isBlank ≠ [] := by
    show trimChars cs ≠ []
    simp [h]
  have hlast := List.rdropWhile_last_not isBlank (cs.dropWhile isBlank) hne
  have hc : ((cs.dropWhile isBlank).rdropWhile isBlank).getLast hne = c := by
    show (trimChars cs).getLast hne = c
    simp [h]
  rw [hc] at hlast
  exact Bool.eq_false_iff.mpr hlast

/-- A text without blanks is not changed. -/
theorem trimChars_eq_self {cs : List Char} (h : ∀ c ∈ cs, isBlank c = false) :
    trimChars cs = cs := by
  have hstart : cs.dropWhile isBlank = cs :=
    List.dropWhile_eq_self_iff.mpr fun hlength => by simp [h _ (List.getElem_mem hlength)]
  show (cs.dropWhile isBlank).rdropWhile isBlank = cs
  rw [hstart, List.rdropWhile_eq_self_iff]
  intro hne
  simp [h _ (List.getLast_mem hne)]

end TagGateway.Text

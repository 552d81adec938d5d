import TagGateway.Proofs.Assoc
import TagGateway.Settings.Validation

/-!
# What a setting is read as

Settings come from variables and from the options of a command line, all of which are texts. For
such settings a reading depends on the text that is written under the key and on nothing else, and
there is one way in which it can fail: the text writes no number where one is wanted.

* `Settings.IsWritten` — that all overrides are texts; `Settings.written?` — the text under a key.
* `Settings.text_eq`, `Settings.switch_eq`, `Settings.path_eq`, `Settings.list_eq` — what is read,
  which never fails.
* `Settings.wholeOf_text`, `Settings.realOf_text` — the number that a text writes.
* `Settings.whole_cases`, `Settings.real_cases` — a number is read, or the flaw names the key and
  the text.
-/

namespace TagGateway.Settings

variable {s : Settings}

/-- All overrides are texts. -/
def IsWritten (s : Settings) : Prop := ∀ e ∈ s.overrides, ∃ text, e.2 = .text text

/-- The text that is written under a key: that of an override, else that of a variable. -/
def written? (s : Settings) (key : String) : Option String :=
  match Assoc.get? key s.overrides with
  | some value => some value.display
  | none => Assoc.get? key s.place.vars

theorem IsWritten.find?_eq (h : s.IsWritten) (key : String) :
    s.find? key = (s.written? key).map .text := by
  unfold find? written?
  cases hget : Assoc.get? key s.overrides with
  | none => rfl
  | some value =>
    obtain ⟨text, htext⟩ := h _ (Assoc.mem_of_get? hget)
    have hvalue : value = .text text := htext
    subst hvalue
    rfl

/-- An override is written whatever the variables are. -/
theorem IsWritten.isSome_written?_of_has {key : String} (h : Assoc.has key s.overrides = true) :
    (s.written? key).isSome = true := by
  rw [Assoc.has_eq_isSome] at h
  obtain ⟨value, hvalue⟩ := Option.isSome_iff_exists.mp h
  simp [written?, hvalue]

theorem readWith_eq {α : Type} (h : s.IsWritten) (key : String) (fallback : α)
    (read : Value → Except Fault α) :
    s.readWith key (some fallback) read =
      (s.written? key).elim (.ok fallback) fun text => read (.text text) := by
  unfold readWith
  rw [h.find?_eq]
  cases s.written? key <;> rfl

/-! ## Texts, switches, paths and lists -/

theorem text_eq (h : s.IsWritten) (key fallback : String) :
    s.text key (some (.text fallback)) = .ok (.text ((s.written? key).getD fallback)) := by
  unfold text readWith
  rw [h.find?_eq]
  cases hwritten : s.written? key with
  | some text => rfl
  | none =>
    have hhas : ¬Assoc.has key s.overrides = true := by
      intro hhas
      have hsome := IsWritten.isSome_written?_of_has hhas
      simp [hwritten] at hsome
    simp [hhas, require]

theorem switch_eq (h : s.IsWritten) (key : String) (fallback : Bool) :
    s.switch key (some fallback) = .ok ((s.written? key).elim fallback isOn) := by
  unfold switch
  rw [readWith_eq h]
  cases s.written? key <;> rfl

theorem path_eq (h : s.IsWritten) (key fallback : String) :
    s.path key (some fallback) = s.pathOf (.text ((s.written? key).getD fallback)) := by
  unfold path
  rw [Option.map_some, readWith_eq h]
  cases s.written? key <;> rfl

theorem list_eq (h : s.IsWritten) (key : String) :
    s.list key = .ok ((s.written? key).elim [] itemsOf) := by
  unfold list
  rw [readWith_eq h]
  cases s.written? key <;> rfl

/-! ## Numbers -/

theorem wholeOf_text (key text : String) :
    wholeOf key (.text text) =
      match Decimal.readInt text with
      | .ok n => .ok n
      | .error _ => .error (.setting (.notWhole key text)) := by
  show orFlaw _ (wholeOfText text _) = _
  unfold wholeOfText
  cases Decimal.readInt text with
  | ok n => rfl
  | error e => cases e <;> rfl

theorem realOf_text (key text : String) :
    realOf key (.text text) =
      match Decimal.readFloat? text with
      | some x => .ok x
      | none => .error (.setting (.notReal key text)) := by
  show orFlaw _ (realOfText text _) = _
  unfold realOfText
  cases Decimal.readFloat? text <;> rfl

/-- A reading that fails on a text with a flaw of that text fails with that of the text under the
key. -/
theorem readWith_cases {α : Type} (h : s.IsWritten) (key : String) (fallback : α)
    {read : Value → Except Fault α} {flaw : String → Flaw}
    (hread : ∀ text, (∃ v, read (.text text) = .ok v) ∨
      read (.text text) = .error (.setting (flaw text))) :
    (∃ v, s.readWith key (some fallback) read = .ok v) ∨
      ∃ text, s.written? key = some text ∧
        s.readWith key (some fallback) read = .error (.setting (flaw text)) := by
  rw [readWith_eq h]
  cases s.written? key with
  | none => exact Or.inl ⟨fallback, rfl⟩
  | some text =>
    rcases hread text with hok | herror
    · exact Or.inl hok
    · exact Or.inr ⟨text, rfl, herror⟩

theorem whole_cases (h : s.IsWritten) (key : String) (fallback : Int) :
    (∃ n, s.whole key (some fallback) = .ok n) ∨
      ∃ text, s.written? key = some text ∧
        s.whole key (some fallback) = .error (.setting (.notWhole key text)) := by
  refine readWith_cases h key fallback ?_
  intro text
  rw [wholeOf_text]
  cases Decimal.readInt text with
  | ok n => exact Or.inl ⟨n, rfl⟩
  | error e => exact Or.inr rfl

theorem real_cases (h : s.IsWritten) (key : String) (fallback : Float) :
    (∃ x, s.real key (some fallback) = .ok x) ∨
      ∃ text, s.written? key = some text ∧
        s.real key (some fallback) = .error (.setting (.notReal key text)) := by
  refine readWith_cases h key fallback ?_
  intro text
  rw [realOf_text]
  cases Decimal.readFloat? text with
  | some x => exact Or.inl ⟨x, rfl⟩
  | none => exact Or.inr rfl

end TagGateway.Settings

import TagGateway.Payload.Reading

/-!
# What a reading finds

A reading that never refuses gives one value and one list of flaws, whatever the mode: lenient mode
notes the flaws behind those found before, strict mode ends with the first of them.

* `Reading.outcome` — what either mode makes of a value and the flaws found on the way.
* `Reading.Finds` — a reading gives this value and finds these flaws; `Finds.pure`, `Finds.check`
  and `Finds.bind` build it up along a reading; `bind_of_error` is for those that are refused.
-/

namespace TagGateway.Payload.Reading

variable {α β : Type}

/-- What a reading gives in a mode, from its value and the flaws that it finds. -/
def outcome (mode : Mode) (a : α) (found flaws : List Flaw) : Except Flaw (α × List Flaw) :=
  match mode, found with
  | .strict, first :: _ => .error first
  | _, _ => .ok (a, flaws ++ found)

@[simp] theorem outcome_lenient (a : α) (found flaws : List Flaw) :
    outcome .lenient a found flaws = .ok (a, flaws ++ found) :=
  rfl

@[simp] theorem outcome_strict_nil (a : α) (flaws : List Flaw) :
    outcome .strict a [] flaws = .ok (a, flaws) := by
  simp [outcome]

/-- In both modes a reading has the outcome of this value and these flaws. -/
def Finds (r : Mode → Reading α) (a : α) (found : List Flaw) : Prop :=
  ∀ mode flaws, r mode flaws = outcome mode a found flaws

theorem Finds.pure (a : α) : Finds (fun _ => (Pure.pure a : Reading α)) a [] := by
  intro mode flaws
  show Except.ok (a, flaws) = outcome mode a [] flaws
  cases mode with
  | lenient => rw [outcome_lenient, List.append_nil]
  | strict => rw [outcome_strict_nil]

/-- A checked field has its marker if it is flawed. -/
theorem Finds.check (flaw? : Option Flaw) (marker value : α) :
    Finds (fun mode => Reading.check mode flaw? marker value)
      (if flaw?.isSome then marker else value) flaw?.toList := by
  cases flaw? with
  | none => exact Finds.pure value
  | some flaw =>
    intro mode flaws
    cases mode with
    | lenient => rfl
    | strict => rfl

/-- A reading that goes on after one that gave a value. -/
theorem bind_of_ok {r : Reading α} (s : α → Reading β) {flaws more : List Flaw} {a : α}
    (h : r flaws = .ok (a, more)) : (r >>= s) flaws = s a more := by
  show Reading.bind r s flaws = s a more
  unfold Reading.bind
  rw [h]

/-- A reading that starts with a refused one is refused. -/
theorem bind_of_error {r : Reading α} (s : α → Reading β) {flaws : List Flaw} {flaw : Flaw}
    (h : r flaws = .error flaw) : (r >>= s) flaws = .error flaw := by
  show Reading.bind r s flaws = .error flaw
  unfold Reading.bind
  rw [h]

/-- One reading after the other finds what they find, in this order. -/
theorem Finds.bind {r : Mode → Reading α} {s : α → Mode → Reading β} {a : α} {b : β}
    {found more : List Flaw} (hr : Finds r a found) (hs : Finds (s a) b more) :
    Finds (fun mode => r mode >>= fun x => s x mode) b (found ++ more) := by
  intro mode flaws
  cases mode with
  | lenient =>
    calc (r .lenient >>= fun x => s x .lenient) flaws
        = s a .lenient (flaws ++ found) := bind_of_ok _ (hr .lenient flaws)
      _ = .ok (b, flaws ++ found ++ more) := hs .lenient _
      _ = .ok (b, flaws ++ (found ++ more)) := by rw [List.append_assoc]
  | strict =>
    cases found with
    | nil =>
      have hsame := (hr .strict flaws).trans (outcome_strict_nil a flaws)
      calc (r .strict >>= fun x => s x .strict) flaws
          = s a .strict flaws := bind_of_ok _ hsame
        _ = outcome .strict b more flaws := hs .strict flaws
    | cons first rest => exact bind_of_error _ (hr .strict flaws)

end TagGateway.Payload.Reading

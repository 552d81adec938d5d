import TagGateway.Proofs.Gateway.Course
import TagGateway.Proofs.Rehearsal.Receivers

/-!
# The stage as the surroundings of a run

On the stage a run of the gateway takes steps off a script while it waits, and shutdowns, signals,
advertisements and faults come as the script has them. None of them reaches what the run stands on.

* `Rehearsal.Shift.sameRun_attend` — the steps of a script, by induction.
* **`Rehearsal.Shift.lawful`** — the stage leaves a run alone.
-/

namespace TagGateway.Rehearsal.Shift

open Gateway

variable {x : Shift} {g : Gateway}

theorem sameRun_begin (h : g.SameRun x.gateway) : g.SameRun x.begin.gateway :=
  (keeps_attendant g x.readings).begin x.world h

/-- The steps of a script, up to the end of the listener or a request to shut down. -/
theorem sameRun_attend (script : List (String × Step)) (h : g.SameRun x.gateway) :
    g.SameRun (x.attend script).gateway ∧ (x.attend script).handlers = x.handlers := by
  induction script generalizing x with
  | nil => exact ⟨⟨h.settings, h.adapter, h.fault⟩, rfl⟩
  | cons entry rest ih =>
    have hkeeps := keeps_attendant g x.readings
    have hstep := hkeeps.cast.perform x.close.world h entry.2
    have hsettled := hkeeps.settle _ hstep
    unfold Shift.attend
    simp only
    split
    · exact ⟨hsettled, rfl⟩
    · exact ih hsettled

theorem footing_eq {y : Shift} (h : x.gateway.SameRun y.gateway)
    (hhandlers : y.handlers = x.handlers) :
    surroundings.footing (·.handlers) y = surroundings.footing (·.handlers) x := by
  show Surroundings.Footing.mk y.gateway.settings y.gateway.adapter y.gateway.fault y.handlers = _
  rw [h.settings, h.adapter, h.fault, hhandlers]
  rfl

theorem footing_eq_set (l : Listener Handler) (effects : List Bus.Effect) :
    surroundings.footing (·.handlers) { x with world := Player.set x.world l effects } =
      surroundings.footing (·.handlers) x := by
  refine footing_eq ?_ rfl
  have hgateway : gateway { x with world := Player.set x.world l effects } = x.gateway :=
    receiver_set x.world l effects
  rw [hgateway]
  exact SameRun.refl _

theorem footing_begin (x : Shift) :
    surroundings.footing (·.handlers) x.begin = surroundings.footing (·.handlers) x :=
  footing_eq (sameRun_begin (SameRun.refl _)) rfl

/-- **The stage leaves a run alone.** -/
theorem lawful : surroundings.Lawful (·.handlers) where
  gateway_update f x := rfl
  handlers_update f x := rfl
  ban_address {mac address} x haddress := keeps_listener.ban_address haddress
  ban mac x := by
    show surroundings.footing _ (x.ban mac).1 = _
    unfold Shift.ban
    split
    · rfl
    · exact footing_eq_set _ _
  serve address port x := by
    show surroundings.footing _ (x.serve address port).1 = _
    unfold Shift.serve
    simp only
    split <;> exact footing_eq ⟨rfl, rfl, rfl⟩ rfl
  closeEndpoint x := footing_eq ⟨rfl, rfl, rfl⟩ rfl
  handle n h x := rfl
  handle_previous n h x := rfl
  start x := by
    show surroundings.footing _ x.start = _
    unfold Shift.start
    split
    · rfl
    · exact footing_begin x
  wait x := by
    show surroundings.footing _ x.wait = _
    unfold Shift.wait
    split
    · rfl
    · obtain ⟨hsame, hhandlers⟩ := sameRun_attend x.script (SameRun.refl x.gateway)
      exact footing_eq hsame hhandlers
  stop x := footing_eq_set _ _
  join x := by
    have hready : surroundings.footing (·.handlers) (if x.begun then x else x.begin) =
        surroundings.footing (·.handlers) x := by
      split
      · rfl
      · exact footing_begin x
    show surroundings.footing _ x.join.1 = _
    unfold Shift.join
    simp only
    generalize (if x.begun then x else x.begin) = y at hready ⊢
    split
    · exact hready
    · refine Eq.trans ?_ hready
      exact footing_eq ((keeps_attendant y.gateway y.readings).settle y.world (SameRun.refl _)) rfl
  say n x := rfl

end TagGateway.Rehearsal.Shift

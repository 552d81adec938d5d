import TagGateway.Rehearsal.Exchange
import TagGateway.Proofs.Bus.Ledger

/-!
# A scripted bus is a link

What a step asks of a scripted bus is what may happen on a link, so that all that holds of a link
holds of it.

* `Exchange.GaveBack` — that subscriptions were given back, as on a link; `GaveBack.deliver` — that
  a signal to subscribers which react does no more.
* **`Exchange.ledger_perform`** — each step is one on a link; `Exchange.tidy_perform` — in
  particular it keeps the table of routes in order.
-/

namespace TagGateway.Rehearsal.Exchange

open Bus

variable {x y : Exchange} {ts : List Ticket}

/-- On an exchange some subscriptions were given back, as on a link. -/
structure GaveBack (x y : Exchange) (ts : List Ticket) : Prop where
  router : y.router = (ts.foldl Ledger.unsubscribe { router := x.router }).router
  dropped : y.dropped.map (·.rule x.router.service) =
    x.dropped.map (·.rule x.router.service) ++
      (ts.foldl Ledger.unsubscribe { router := x.router }).scheduled.map (·.2)

theorem GaveBack.refl (x : Exchange) : GaveBack x x [] := ⟨rfl, (List.append_nil _).symm⟩

theorem GaveBack.unsubscribe (h : GaveBack x y ts) (i : Int) :
    ∃ ts', GaveBack x (y.unsubscribe i).1 ts' := by
  unfold Exchange.unsubscribe
  cases y.ticket? i with
  | none => exact ⟨ts, h⟩
  | some t =>
    obtain ⟨new, hgiven⟩ := Ledger.givenBack_foldl { router := x.router } ts
    refine ⟨ts ++ [t], ?_, ?_⟩
    · rw [List.foldl_append]
      exact congrArg (fun r : Router => (r.unsubscribe t).1) h.router
    · rw [List.foldl_append, List.map_append, h.dropped, List.append_assoc, h.router]
      simp only [List.foldl_cons, List.foldl_nil, Ledger.unsubscribe, List.map_append, List.map_map]
      congr 2
      refine List.map_congr_left fun route _ => ?_
      exact congrArg route.rule hgiven.service.symm

/-- A subscriber that is called gives back what it has to. -/
theorem GaveBack.callOne (h : GaveBack x y ts) (route : Route) (body : Value) (t : Ticket) :
    ∃ ts', GaveBack x (receivers.callOne route body y t) ts' := by
  have hcall : ∃ ts', GaveBack x (receivers.call t body y).1 ts' := by
    simp only [receivers]
    split
    · exact ⟨ts, h⟩
    · exact ⟨ts, h⟩
    · rename_i reaction items _ _
      have hemit : GaveBack x (y.emit [.received reaction.name items]) ts := ⟨h.router, h.dropped⟩
      cases reaction.unsubscribes with
      | none =>
        simp only
        split <;> exact ⟨ts, hemit⟩
      | some i =>
        simp only
        split <;> exact hemit.unsubscribe i
  unfold Receivers.callOne
  split
  · rename_i heq
    rw [heq] at hcall
    exact hcall
  · rename_i heq
    rw [heq] at hcall
    obtain ⟨ts', hgave⟩ := hcall
    exact ⟨ts', hgave.router, hgave.dropped⟩

theorem GaveBack.deliver (x : Exchange) (route : Route) (body : Value) :
    ∃ ts, GaveBack x (receivers.deliver route body x) ts := by
  refine List.foldlRecOn (motive := fun y : Exchange => ∃ ts, GaveBack x y ts)
    ((receivers.router x).targets route) _ ⟨[], .refl x⟩ ?_
  rintro y ⟨ts, hy⟩ t -
  split
  · exact hy.callOne route body.unwrap t
  · exact ⟨ts, hy⟩

/-- Each request is one that may happen on a link. -/
theorem GaveBack.happenings (h : GaveBack x y ts) : ∃ happenings,
    y.router = (({ router := x.router } : Ledger).run happenings).router ∧
    y.dropped.map (·.rule x.router.service) = x.dropped.map (·.rule x.router.service) ++
      (({ router := x.router } : Ledger).run happenings).scheduled.map (·.2) := by
  refine ⟨ts.map .unsubscribe, ?_⟩
  have hrun : ({ router := x.router } : Ledger).run (ts.map .unsubscribe) =
      ts.foldl Ledger.unsubscribe { router := x.router } := List.foldl_map
  rw [hrun]
  exact ⟨h.router, h.dropped⟩

theorem call_frame (x : Exchange) (c : Call) :
    (x.call c).1.router = x.router ∧ (x.call c).1.dropped = x.dropped := by
  unfold call
  split
  · exact ⟨rfl, rfl⟩
  · simp only
    unfold reply
    split
    · exact ⟨rfl, rfl⟩
    · split <;> exact ⟨rfl, rfl⟩

/-- The bus answers a request for a match rule by itself. -/
theorem call_addMatch (x : Exchange) (route : Route) :
    (x.call (.toBus "AddMatch" (route.rule x.router.service))).2 =
      ({ router := x.router } : Ledger).added route (x.ownReply "AddMatch") := by
  unfold call Ledger.added Ledger.rule
  simp only
  cases x.router.message (.toBus "AddMatch" (route.rule x.router.service)) <;> rfl

/-- **A scripted bus is a link**: each step is what may happen on one. -/
theorem ledger_perform (x : Exchange) (step : BusStep) :
    ∃ happenings,
      (x.perform step).1.router = (({ router := x.router } : Ledger).run happenings).router ∧
      (x.perform step).1.dropped.map (·.rule x.router.service) =
        x.dropped.map (·.rule x.router.service) ++
          (({ router := x.router } : Ledger).run happenings).scheduled.map (·.2) := by
  have hquiet {y : Exchange} (hrouter : y.router = x.router) (hdropped : y.dropped = x.dropped) :
      ∃ happenings,
        y.router = (({ router := x.router } : Ledger).run happenings).router ∧
        y.dropped.map (·.rule x.router.service) = x.dropped.map (·.rule x.router.service) ++
          (({ router := x.router } : Ledger).run happenings).scheduled.map (·.2) :=
    ⟨[], hrouter, by rw [hdropped]; exact (List.append_nil _).symm⟩
  cases step with
  | connect fails =>
    refine ⟨[.connect fails], ?_⟩
    simp only [perform, connect, Ledger.run, List.foldl_cons, List.foldl_nil, Ledger.perform,
      Ledger.connect]
    split
    · exact ⟨rfl, (List.append_nil _).symm⟩
    · split <;> exact ⟨rfl, (List.append_nil _).symm⟩
  | disconnect =>
    refine ⟨[.disconnect], ?_⟩
    simp only [perform, disconnect]
    split <;> exact ⟨rfl, (List.append_nil _).symm⟩
  | call c => exact hquiet (x.call_frame c).1 (x.call_frame c).2
  | get path interface name => exact hquiet (x.call_frame _).1 (x.call_frame _).2
  | getAll path interface => exact hquiet (x.call_frame _).1 (x.call_frame _).2
  | subscribe name route unsubscribes raises =>
    obtain ⟨hrouter, hdropped⟩ := x.call_frame (.toBus "AddMatch" (route.rule x.router.service))
    have hadded := x.call_addMatch route
    refine ⟨[.subscribe route (x.ownReply "AddMatch")], ?_⟩
    simp only [perform, Ledger.run, List.foldl_cons, List.foldl_nil, Ledger.perform,
      Ledger.subscribe, ← hadded]
    generalize x.call (.toBus "AddMatch" (route.rule x.router.service)) = called at *
    obtain ⟨y, result⟩ := called
    have hrouter : y.router = x.router := hrouter
    have hdropped : y.dropped = x.dropped := hdropped
    cases result with
    | error f => exact ⟨hrouter, by rw [hdropped]; exact (List.append_nil _).symm⟩
    | ok v =>
      exact ⟨congrArg (fun r : Router => r.subscribed route) hrouter,
        by rw [hdropped]; exact (List.append_nil _).symm⟩
  | unsubscribe i =>
    obtain ⟨ts, hgave⟩ := (GaveBack.refl x).unsubscribe i
    have hperform : (x.perform (.unsubscribe i)).1 = (x.unsubscribe i).1 := by
      simp only [perform]
      split <;> rename_i heq <;> rw [heq]
    rw [hperform]
    exact hgave.happenings
  | drop => exact ⟨[.lost], rfl, (List.append_nil _).symm⟩
  | signal isSignal route body =>
    cases isSignal with
    | false => exact hquiet rfl rfl
    | true =>
      obtain ⟨ts, hgave⟩ := GaveBack.deliver x route body
      exact hgave.happenings

/-- The table of routes of a scripted bus stays the index of its active subscriptions. -/
theorem tidy_perform (h : x.router.Tidy) (step : BusStep) : (x.perform step).1.router.Tidy := by
  obtain ⟨happenings, hrouter, -⟩ := x.ledger_perform step
  rw [hrouter]
  exact Ledger.tidy_run h happenings

end TagGateway.Rehearsal.Exchange

import TagGateway.Proofs.Listener.Chronicle
import TagGateway.Proofs.Listener.Subscriptions

/-!
# A start that is refused

A listener that is started again refuses, and its discovery goes on as before. But all devices are
taken off as at the end of a run, so that none of them reports any more.

* `Discovery.title_of_start_eq_error` — the fault with which a start is refused.
* `Session.Held.carriesChange` — that a tracked device reports: signals carry its changes.
* `Session.refused_start_not_harmless` — a run that loses its device so;
  **`Session.refused_start_silences`** — what a refused start leaves, and what it takes.
-/

namespace TagGateway

open Bus

theorem Discovery.title_of_start_eq_error {ε : Type} {d : Discovery ε} {f : Fault}
    (h : d.start = .error f) : f.title = "RuntimeError" := by
  unfold start at h
  split at h
  · cases h
    rfl
  · split at h <;> cases h
    rfl

namespace Listener.Session

variable {κ : Type} {x : Session κ}

/-- The changes of a tracked device are carried by the signals on its route. -/
theorem Held.carriesChange (h : Held x) {e : Entry} (he : e ∈ x.listener.roster.entries)
    {body changed invalidated : Value} {names : List Value}
    (hbody : body.unwrap.elements = .ok [.text deviceInterface, changed, invalidated])
    (hnames : changed.elements = .ok names) :
    x.CarriesChange (deviceRoute e.path) body e.path names := by
  obtain ⟨hserves, htopic, -⟩ := h.sound.entries e he
  exact ⟨e.ticket, hserves.2, hserves.isActive, htopic, changed, invalidated, hbody, hnames⟩

/-- Where no device is tracked no signal carries a change. -/
theorem Held.not_carriesChange (h : Held x) (hentries : x.listener.roster.entries = [])
    (route : Route) (body : Value) (path : String) (names : List Value) :
    ¬x.CarriesChange route body path names := by
  rintro ⟨t, -, hactive, htopic, -⟩
  obtain ⟨e, he, -⟩ := h.sound.active_iff.mp ⟨hactive, htopic⟩
  rw [hentries] at he
  cases he

/-- A start that is refused clears the roster and gives all its tickets back. -/
theorem perform_refused {f : Fault} (h : x.listener.discovery.start = .error f) :
    x.perform .start = x.moved { x.listener with roster := x.listener.roster.clear.1 }
      x.listener.roster.clear.2 := by
  simp only [perform, Listener.start, h]

theorem tickets_clear (r : Roster) : Effect.tickets r.clear.2 = r.entries.map (·.ticket) := by
  simp [Roster.clear, Effect.tickets, Effect.ticket?, Function.comp_def]

/-- A move that gives nothing back leaves the link. -/
theorem moved_of_tickets_nil {l : Listener κ} {effects : List Effect}
    (h : Effect.tickets effects = []) : x.moved l effects = { x with listener := l } := by
  rw [moved, h]
  rfl

/-- Where no device is tracked a start that is refused changes nothing. -/
theorem perform_refused_of_untracked {f : Fault} (h : x.listener.discovery.start = .error f)
    (hentries : x.listener.roster.entries = []) : x.perform .start = x := by
  have hroster : x.listener.roster.clear.1 = x.listener.roster := by
    rw [Roster.clear, ← hentries]
  rw [perform_refused h, moved_of_tickets_nil (by rw [tickets_clear, hentries, List.map_nil]),
    hroster]

/-- **A refused start silences all devices.** At any point of any session a start that is refused
raises its fault and leaves discovery with its state and its queue, the task under way and the
blacklist. Yet it takes all devices off and gives their subscriptions back, and these only: each
device that was tracked was reporting before, and none is after. So nothing is changed just if no
device was tracked. -/
theorem refused_start_silences (settings : Discovery.Settings) (happenings : List (Happening κ))
    {f : Fault}
    (hrefused : ((ofSettings settings).run happenings).listener.discovery.start = .error f) :
    let x : Session κ := (ofSettings settings).run happenings
    let y := x.perform .start
    (f.title = "RuntimeError" ∧ x.listener.start.2.2 = .error f) ∧
    (y.listener.discovery = x.listener.discovery ∧ y.listener.task = x.listener.task ∧
      y.listener.roster.blacklist = x.listener.roster.blacklist) ∧
    y.listener.roster.entries = [] ∧
    (∀ t, y.router.isActive t = true ↔
      x.router.isActive t = true ∧ ∀ e ∈ x.listener.roster.entries, e.ticket ≠ t) ∧
    (∀ e ∈ x.listener.roster.entries, ∀ (body changed invalidated : Value) (names : List Value),
      body.unwrap.elements = .ok [.text deviceInterface, changed, invalidated] →
        changed.elements = .ok names → x.CarriesChange (deviceRoute e.path) body e.path names) ∧
    (∀ route body path names, ¬y.CarriesChange route body path names) ∧
    (y = x ↔ x.listener.roster.entries = []) := by
  intro x y
  have hheld : Held x := held_run settings happenings
  have hy : y = x.moved { x.listener with roster := x.listener.roster.clear.1 }
      x.listener.roster.clear.2 := perform_refused hrefused
  have hlistener : y.listener = { x.listener with roster := x.listener.roster.clear.1 } := by
    rw [hy, listener_moved]
  have hentries : y.listener.roster.entries = [] := by
    rw [hlistener]
    rfl
  have hraised : x.listener.start.2.2 = .error f := by
    have hstart : x.listener.discovery.start = .error f := hrefused
    simp only [Listener.start, hstart]
  refine ⟨⟨Discovery.title_of_start_eq_error hrefused, hraised⟩, ?_, hentries, fun t => ?_,
    fun e he body changed invalidated names hbody hnames => hheld.carriesChange he hbody hnames,
    (hheld.perform .start).not_carriesChange hentries, ?_⟩
  · rw [hlistener]
    exact ⟨rfl, rfl, rfl⟩
  · rw [hy, isActive_moved_iff, tickets_clear, List.mem_map, not_exists, and_comm]
    simp only [not_and]
  · refine ⟨fun hsame => ?_, perform_refused_of_untracked hrefused⟩
    rw [← hsame]
    exact hentries

/-- A listener at work that has admitted a device. -/
def tracking : List (Happening Unit) :=
  [.start, .reply .done, .reply .done, .reply .done, .reply .done,
    .reply (.ok { body := [.dict [(.text "/org/bluez/hci0/dev_1",
      .dict [(.text deviceInterface, .dict [])])]] }),
    .reply .done, .reply .done, .wake, .reply (.ok { body := [.text "AA:BB:CC:DD:EE:01"] }),
    .reply .done, .reply (.ok { body := [.dict []] }), .reply .done]

/-- A change of its payloads. -/
def payloadChange : Value :=
  .list [.text deviceInterface, .dict [(.text payloadProperty, .dict [])], .list []]

theorem start_tracking : ((ofSettings {}).run tracking).listener.discovery.start =
    .error (.alreadyUsed .discovering) := by
  have hstatus : ((ofSettings {}).run tracking).listener.discovery.status = .discovering := by
    decide +kernel
  unfold Discovery.start
  rw [hstatus]
  exact if_pos nofun

theorem refused_start_not_harmless :
    ¬∀ (settings : Discovery.Settings) (happenings : List (Happening Unit)) (f : Fault),
      let x : Session Unit := (ofSettings settings).run happenings
      x.listener.discovery.isLive = true → x.listener.discovery.start = .error f →
        (x.perform .start).listener.roster.entries = x.listener.roster.entries ∧
        (∀ t, (x.perform .start).router.isActive t = x.router.isActive t) ∧
        (x.perform .start).listener.roster.blacklist = x.listener.roster.blacklist ∧
        (x.perform .start).listener.discovery = x.listener.discovery ∧
        ∀ route body path names, x.CarriesChange route body path names →
          (x.perform .start).CarriesChange route body path names := by
  intro hall
  have hentries := (hall {} tracking _ (by decide +kernel) start_tracking).1
  have hlength := congrArg List.length hentries
  revert hlength
  decide +kernel

theorem tracking_silenced :
    let x : Session Unit := (ofSettings {}).run tracking
    x.listener.discovery.start = .error (.alreadyUsed .discovering) ∧
      x.listener.roster.entries.map (·.path) = ["/org/bluez/hci0/dev_1"] ∧
      (∀ e ∈ x.listener.roster.entries, x.CarriesChange (deviceRoute e.path) payloadChange e.path
        [.text payloadProperty]) ∧
      (x.perform .start).listener.discovery = x.listener.discovery ∧
      ∀ route body path names, ¬(x.perform .start).CarriesChange route body path names := by
  intro x
  obtain ⟨-, hkept, -, -, hbefore, hafter, -⟩ := refused_start_silences {} tracking start_tracking
  exact ⟨start_tracking, by decide +kernel, fun e he => hbefore e he payloadChange _ _ _ rfl rfl,
    hkept.1, hafter⟩

end Listener.Session

end TagGateway

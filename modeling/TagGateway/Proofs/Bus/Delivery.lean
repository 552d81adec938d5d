import TagGateway.Proofs.Bus.Routes

/-!
# Delivery of a signal

A signal goes to the subscriptions that its route has when it arrives. Their handlers run one after
the other, and each may change the subscriptions while it runs: subscribe, give back its own or any
other subscription, close the link, or fail.

* `Router.Change`, `Router.change` — what may become of a router; `Router.Leads` — that it has come
  about by such changes, which keep its table in order (`Leads.tidy`) and make no subscription
  active again (`Leads.isActive`).
* `Receivers.IsLawful` — that handlers do no more than that to the router.
* `Receivers.watched` — receivers with a record of the calls that are made; `Receivers.turns` — the
  calls of a delivery, which are what the record shows (`Receivers.watched_foldl`).
* `Receivers.ended_iff` — a subscription is active at its turn unless a call before it has ended it.
* **`Receivers.delivered_exactly`** — which handlers a message reaches, in which order, with what.
* `Receivers.scripted` — receivers whose handlers make the changes that a script lists.
-/

namespace TagGateway.Bus

namespace Router

/-- What may become of a router. -/
inductive Change
  | opened
  /-- A link cannot be set up. -/
  | unlinked
  | lost
  | closed
  | subscribed (route : Route)
  | unsubscribe (t : Ticket)

/-- The router after a change. -/
def change (r : Router) : Change → Router
  | .opened => r.opened
  | .unlinked => { r with link := none }
  | .lost => r.lost
  | .closed => r.close
  | .subscribed route => r.subscribed route
  | .unsubscribe t => (r.unsubscribe t).1

/-- One router has become the other by changes. -/
def Leads (r r' : Router) : Prop := ∃ changes : List Change, changes.foldl change r = r'

variable {r r' r'' : Router} {t : Ticket} {route : Route}

theorem Leads.refl (r : Router) : r.Leads r := ⟨[], rfl⟩

theorem Leads.trans (h : r.Leads r') (h' : r'.Leads r'') : r.Leads r'' := by
  obtain ⟨changes, rfl⟩ := h
  obtain ⟨more, rfl⟩ := h'
  exact ⟨changes ++ more, List.foldl_append⟩

/-! ## One change -/

theorem length_le_change (r : Router) (c : Change) :
    r.subscribers.length ≤ (r.change c).subscribers.length := by
  cases c with
  | opened | unlinked | lost => exact Nat.le_refl _
  | closed => simp [change, length_close]
  | subscribed route => simp [change]
  | unsubscribe t => simp [change]

/-- No change makes a subscription active again. -/
theorem isActive_of_change {c : Change} (hlt : t < r.subscribers.length)
    (h : (r.change c).isActive t = true) : r.isActive t = true := by
  cases c with
  | opened | unlinked | lost => exact h
  | closed =>
    have hclosed : ((r.routes.flatMap (·.2)).foldl deactivate r).isActive t = true := h
    exact (isActive_foldl_deactivate _).mp hclosed |>.2
  | subscribed route =>
    rcases (isActive_subscribed route).mp h with hbefore | hnew
    · exact hbefore
    · exact absurd hnew (Nat.ne_of_lt hlt)
  | unsubscribe t' => exact (isActive_unsubscribe.mp h).2

theorem Tidy.change (h : r.Tidy) (c : Change) : (r.change c).Tidy := by
  cases c with
  | opened | unlinked | lost => exact h.congr rfl rfl
  | closed => exact h.close
  | subscribed route => exact h.subscribed route
  | unsubscribe t => exact h.unsubscribe t

/-! ## Any changes -/

theorem Leads.length_le (h : r.Leads r') : r.subscribers.length ≤ r'.subscribers.length := by
  obtain ⟨changes, rfl⟩ := h
  induction changes generalizing r with
  | nil => exact Nat.le_refl _
  | cons c rest ih => exact Nat.le_trans (r.length_le_change c) ih

theorem Leads.isActive (h : r.Leads r') (hlt : t < r.subscribers.length)
    (hactive : r'.isActive t = true) : r.isActive t = true := by
  obtain ⟨changes, rfl⟩ := h
  induction changes generalizing r with
  | nil => exact hactive
  | cons c rest ih =>
    have hlt' : t < (r.change c).subscribers.length := Nat.lt_of_lt_of_le hlt (r.length_le_change c)
    exact isActive_of_change hlt (ih hlt' hactive)

theorem Leads.tidy (h : r.Leads r') (htidy : r.Tidy) : r'.Tidy := by
  obtain ⟨changes, rfl⟩ := h
  exact List.foldlRecOn (motive := Tidy) changes _ htidy fun _ hr c _ => hr.change c

end Router

namespace Receivers

variable {σ : Type}

/-- Whatever handlers do, they change the router only as it can be changed, and a report of their
failures leaves it as it is. -/
structure IsLawful (h : Receivers σ) : Prop where
  call : ∀ t body s, (h.router s).Leads (h.router (h.call t body s).1)
  report : ∀ n s, h.router (h.report n s) = h.router s

/-- A call of a handler, with the states around it and the failure in which it ended. -/
structure Turn (σ : Type) where
  ticket : Ticket
  body : Value
  before : σ
  after : σ
  fault : Option Fault

/-- The call of a handler in a state. -/
def turnOf (h : Receivers σ) (body : Value) (s : σ) (t : Ticket) : Turn σ :=
  ⟨t, body, s, (h.call t body s).1, (h.call t body s).2⟩

/-- The receivers with a record of the calls. -/
def watched (h : Receivers σ) : Receivers (σ × List (Turn σ)) where
  router x := h.router x.1
  call t body x := (((h.call t body x.1).1, x.2 ++ [h.turnOf body x.1 t]), (h.call t body x.1).2)
  report n x := (h.report n x.1, x.2)

/-- What a delivery does at the turn of a ticket. -/
def step (h : Receivers σ) (route : Route) (body : Value) (s : σ) (t : Ticket) : σ :=
  if (h.router s).isActive t then h.callOne route body s t else s

/-- The state in which the turn of a ticket comes, when a signal arrives in a state: the tickets
before it have had theirs. -/
def atTurn (h : Receivers σ) (route : Route) (body : Value) (s : σ) (t : Ticket) : σ :=
  (((h.router s).targets route).takeWhile (· < t)).foldl (h.step route body.unwrap) s

/-- The calls that are made when some tickets have their turns. -/
def turns (h : Receivers σ) (route : Route) (body : Value) : List Ticket → σ → List (Turn σ)
  | [], _ => []
  | t :: rest, s =>
    if (h.router s).isActive t then
      h.turnOf body s t :: turns h route body rest (h.callOne route body s t)
    else turns h route body rest s

variable {h : Receivers σ} {route : Route} {body : Value} {s : σ} {t : Ticket}
  {ts before after : List Ticket}

theorem deliver_eq (h : Receivers σ) (route : Route) (body : Value) (s : σ) :
    h.deliver route body s =
      ((h.router s).targets route).foldl (h.step route body.unwrap) s := rfl

/-! ## The record -/

theorem watched_callOne (h : Receivers σ) (route : Route) (body : Value)
    (x : σ × List (Turn σ)) (t : Ticket) :
    h.watched.callOne route body x t =
      (h.callOne route body x.1 t, x.2 ++ [h.turnOf body x.1 t]) := by
  unfold callOne
  simp only [watched]
  rcases h.call t body x.1 with ⟨s, _ | fault⟩ <;> rfl

/-- The record shows the calls that are made, and to keep it changes nothing. -/
theorem watched_foldl (h : Receivers σ) (route : Route) (body : Value) (ts : List Ticket)
    (x : σ × List (Turn σ)) :
    ts.foldl (h.watched.step route body) x =
      (ts.foldl (h.step route body) x.1, x.2 ++ h.turns route body ts x.1) := by
  induction ts generalizing x with
  | nil => simp [turns]
  | cons t rest ih =>
    have hrouter : h.watched.router x = h.router x.1 := rfl
    simp only [List.foldl_cons, turns, ih]
    cases hactive : (h.router x.1).isActive t with
    | false => simp [step, hrouter, hactive]
    | true => simp [step, hrouter, hactive, watched_callOne]

theorem watched_receive_signal (h : Receivers σ) (route : Route) (body : Value) (s : σ) :
    h.watched.receive true route body (s, []) =
      (h.receive true route body s,
        h.turns route body.unwrap ((h.router s).targets route) s) := by
  unfold receive
  rw [if_pos rfl, if_pos rfl, deliver_eq, deliver_eq, watched_foldl, List.nil_append]
  rfl

/-! ## The calls of a delivery -/

theorem turns_append (h : Receivers σ) (route : Route) (body : Value) (before after : List Ticket)
    (s : σ) :
    h.turns route body (before ++ after) s =
      h.turns route body before s ++
        h.turns route body after (before.foldl (h.step route body) s) := by
  induction before generalizing s with
  | nil => rfl
  | cons t rest ih =>
    simp only [List.cons_append, turns, List.foldl_cons, step]
    split
    · rw [ih, List.cons_append]
    · exact ih s

/-- Each ticket has one turn, in order. -/
theorem turns_sublist (ts : List Ticket) (s : σ) :
    ((h.turns route body ts s).map (·.ticket)).Sublist ts := by
  induction ts generalizing s with
  | nil => exact List.Sublist.slnil
  | cons t rest ih =>
    unfold turns
    split
    · exact (ih _).cons_cons t
    · exact (ih s).cons t

/-- A call is that of the handler of an active subscription. -/
theorem turnOf_of_mem {turn : Turn σ} (hmem : turn ∈ h.turns route body ts s) :
    turn = h.turnOf body turn.before turn.ticket ∧
      (h.router turn.before).isActive turn.ticket = true := by
  induction ts generalizing s with
  | nil => cases hmem
  | cons t rest ih =>
    unfold turns at hmem
    split at hmem
    · rename_i hactive
      rcases List.mem_cons.mp hmem with rfl | hmem
      · exact ⟨rfl, hactive⟩
      · exact ih hmem
    · exact ih hmem

/-- A delivery consists of its calls, with the reports of those that fail. -/
theorem foldl_step (h : Receivers σ) (route : Route) (body : Value) (ts : List Ticket) (s : σ) :
    ts.foldl (h.step route body) s =
      ((h.turns route body ts s).map (·.ticket)).foldl (h.callOne route body) s := by
  induction ts generalizing s with
  | nil => rfl
  | cons t rest ih =>
    simp only [List.foldl_cons, turns, step]
    split
    · rw [List.map_cons, List.foldl_cons]
      exact ih _
    · exact ih s

/-- At its turn a ticket is called if its subscription is active then. -/
theorem called_iff (h : Receivers σ) (route : Route) (body : Value) (s : σ)
    (hnodup : (before ++ t :: after).Nodup) :
    t ∈ (h.turns route body (before ++ t :: after) s).map (·.ticket) ↔
      (h.router (before.foldl (h.step route body) s)).isActive t = true := by
  obtain ⟨-, hrest, hapart⟩ := List.nodup_append.mp hnodup
  have hbefore : t ∉ (h.turns route body before s).map (·.ticket) := fun hmem =>
    hapart t ((turns_sublist before s).subset hmem) t List.mem_cons_self rfl
  rw [turns_append, List.map_append, List.mem_append, or_iff_right hbefore]
  unfold turns
  split
  · rename_i hactive
    exact iff_of_true (by simp [turnOf]) hactive
  · rename_i hinactive
    refine iff_of_false (fun hmem => ?_) hinactive
    exact (List.nodup_cons.mp hrest).1 ((turns_sublist after _).subset hmem)

/-! ## What ends a subscription -/

theorem IsLawful.callOne (hlaw : h.IsLawful) (route : Route) (body : Value) (s : σ) (t : Ticket) :
    h.router (h.callOne route body s t) = h.router (h.turnOf body s t).after := by
  unfold Receivers.callOne turnOf
  rcases h.call t body s with ⟨s', _ | fault⟩
  · rfl
  · exact hlaw.report _ s'

theorem IsLawful.step (hlaw : h.IsLawful) (route : Route) (body : Value) (s : σ) (t : Ticket) :
    (h.router s).Leads (h.router (h.step route body s t)) := by
  unfold Receivers.step
  split
  · rw [hlaw.callOne]
    exact hlaw.call t body s
  · exact .refl _

theorem IsLawful.foldl (hlaw : h.IsLawful) (route : Route) (body : Value) (ts : List Ticket)
    (s : σ) : (h.router s).Leads (h.router (ts.foldl (h.step route body) s)) := by
  induction ts generalizing s with
  | nil => exact .refl _
  | cons t rest ih => exact (hlaw.step route body s t).trans (ih _)

/-- **What is active stays active until a call ends it.** -/
theorem ended_iff (hlaw : h.IsLawful) (hactive : (h.router s).isActive t = true) :
    (h.router (ts.foldl (h.step route body) s)).isActive t = false ↔
      ∃ turn ∈ h.turns route body ts s, (h.router turn.before).isActive t = true ∧
        (h.router turn.after).isActive t = false := by
  have hlt := Router.lt_length_of_isActive hactive
  induction ts generalizing s with
  | nil => simp [turns, hactive]
  | cons t' rest ih =>
    simp only [List.foldl_cons, turns, Receivers.step]
    cases hturn : (h.router s).isActive t' with
    | false => exact ih hactive hlt
    | true =>
      have hrouter := hlaw.callOne route body s t'
      have hlt' : t < (h.router (h.callOne route body s t')).subscribers.length := by
        rw [hrouter]
        exact Nat.lt_of_lt_of_le hlt (hlaw.call t' body s).length_le
      simp only [if_true, List.exists_mem_cons_iff]
      cases hafter : (h.router (h.callOne route body s t')).isActive t with
      | true =>
        have hstill : (h.router (h.turnOf body s t').after).isActive t = true := hrouter ▸ hafter
        refine (ih hafter hlt').trans (or_iff_right fun hend => ?_).symm
        exact Bool.false_ne_true (hend.2.symm.trans hstill)
      | false =>
        have hend : (h.router (h.turnOf body s t').after).isActive t = false := hrouter ▸ hafter
        have hlater := (hlaw.foldl route body rest (h.callOne route body s t')).isActive hlt'
        rw [hafter] at hlater
        refine iff_of_true (Bool.eq_false_iff.mpr fun hactive' => ?_) (Or.inl ⟨hactive, hend⟩)
        exact Bool.false_ne_true (hlater hactive')

/-! ## All of a delivery -/

theorem takeWhile_lt (hsorted : (before ++ t :: after).Pairwise (· < ·)) :
    (before ++ t :: after).takeWhile (· < t) = before := by
  obtain ⟨-, -, hlt⟩ := List.pairwise_append.mp hsorted
  rw [List.takeWhile_append_of_pos fun t' ht' => by simpa using hlt t' ht' t List.mem_cons_self]
  simp

/-- The calls before the turn of a ticket are those of smaller tickets. -/
theorem mem_turns_before_iff (hsorted : (before ++ t :: after).Pairwise (· < ·)) {turn : Turn σ} :
    turn ∈ h.turns route body before s ↔
      turn ∈ h.turns route body (before ++ t :: after) s ∧ turn.ticket < t := by
  obtain ⟨-, hrest, hlt⟩ := List.pairwise_append.mp hsorted
  rw [turns_append, List.mem_append]
  constructor
  · intro hmem
    have hticket := (turns_sublist before s).subset (List.mem_map_of_mem hmem)
    exact ⟨Or.inl hmem, hlt _ hticket t List.mem_cons_self⟩
  · rintro ⟨hmem | hmem, hearlier⟩
    · exact hmem
    · have hticket := (turns_sublist (t :: after) _).subset (List.mem_map_of_mem hmem)
      rcases List.mem_cons.mp hticket with heq | hlater
      · exact absurd heq (Nat.ne_of_lt hearlier)
      · have hgt := (List.pairwise_cons.mp hrest).1 _ hlater
        exact absurd hgt (Nat.lt_asymm hearlier)

/-- The tickets on a route, around one of them. -/
theorem exists_split {r : Router} (htidy : r.Tidy) (hon : r.IsOn t route) :
    ∃ before after, r.targets route = before ++ t :: after ∧
      (before ++ t :: after).Pairwise (· < ·) := by
  have hmem : t ∈ r.targets route := htidy.targets route ▸ Router.mem_activeOn.mpr hon
  obtain ⟨before, after, hsplit⟩ := List.append_of_mem hmem
  refine ⟨before, after, hsplit, ?_⟩
  rw [← hsplit, htidy.targets]
  exact r.pairwise_activeOn route

/-- **What a message brings about.** Only a signal on a route with subscriptions does anything. Each
subscription that its route has on its arrival has one turn, in the order in which they subscribed,
and its handler is called with the unwrapped body just if the subscription is active then, which it
is unless the handler of an earlier one has ended it, whether a handler fails or not. No other
handler is called, and nothing is done but these calls and the reports of their failures. -/
theorem delivered_exactly (hlaw : h.IsLawful) {service : String}
    (hs : ({ service } : Router).Leads (h.router s)) (isSignal : Bool) (route : Route)
    (body : Value) :
    let (last, turns) := h.watched.receive isSignal route body (s, [])
    last = h.receive isSignal route body s ∧
    last = (turns.map (·.ticket)).foldl (h.callOne route body.unwrap) s ∧
    ((isSignal = false ∨ ∀ t, ¬(h.router s).IsOn t route) → turns = []) ∧
    (turns.map (·.ticket)).Pairwise (· < ·) ∧
    (∀ turn ∈ turns, (h.router s).IsOn turn.ticket route ∧
      (h.router turn.before).isActive turn.ticket = true ∧ turn.body = body.unwrap ∧
      h.call turn.ticket body.unwrap turn.before = (turn.after, turn.fault)) ∧
    (isSignal = true → ∀ t, (h.router s).IsOn t route →
      (t ∈ turns.map (·.ticket) ↔ (h.router (h.atTurn route body s t)).isActive t = true) ∧
      (t ∉ turns.map (·.ticket) ↔ ∃ turn ∈ turns, turn.ticket < t ∧
        (h.router turn.before).isActive t = true ∧
        (h.router turn.after).isActive t = false)) := by
  have htidy : (h.router s).Tidy := hs.tidy (Router.tidy_new service)
  cases isSignal with
  | false => exact ⟨rfl, rfl, fun _ => rfl, List.Pairwise.nil, nofun, nofun⟩
  | true =>
    rw [watched_receive_signal]
    have hsublist : ((h.turns route body.unwrap ((h.router s).targets route) s).map
        (·.ticket)).Sublist ((h.router s).targets route) := turns_sublist _ s
    have hsorted : ((h.router s).targets route).Pairwise (· < ·) := by
      rw [htidy.targets]
      exact (h.router s).pairwise_activeOn route
    refine ⟨rfl, h.foldl_step route body.unwrap _ s, fun hnone => ?_, hsorted.sublist hsublist,
      fun turn hturn => ?_, fun _ t hon => ?_⟩
    · have hempty : (h.router s).targets route = [] := by
        rw [htidy.targets]
        refine List.eq_nil_iff_forall_not_mem.mpr fun t hmem => ?_
        exact hnone.resolve_left nofun t (Router.mem_activeOn.mp hmem)
      rw [hempty]
      rfl
    · obtain ⟨heq, hactive⟩ := turnOf_of_mem hturn
      have hmem := hsublist.subset (List.mem_map_of_mem hturn)
      rw [htidy.targets] at hmem
      refine ⟨Router.mem_activeOn.mp hmem, hactive, by rw [heq]; rfl, ?_⟩
      rw [heq]
      rfl
    · obtain ⟨before, after, hsplit, hpair⟩ := exists_split htidy hon
      have hcalled := h.called_iff route body.unwrap s (hpair.imp Nat.ne_of_lt)
      have hturn : h.atTurn route body s t = before.foldl (h.step route body.unwrap) s := by
        rw [atTurn, hsplit, takeWhile_lt hpair]
      rw [hsplit, hturn]
      refine ⟨hcalled, ?_⟩
      rw [hcalled, Bool.not_eq_true, ended_iff hlaw (Router.isActive_iff_isOn.mpr ⟨route, hon⟩)]
      simp only [mem_turns_before_iff hpair, and_assoc]

/-- Receivers whose handlers do what a script says. -/
def scripted (script : Ticket → List Router.Change × Option Fault) : Receivers Router where
  router r := r
  call t _ r := ((script t).1.foldl Router.change r, (script t).2)
  report _ r := r

theorem isLawful_scripted (script : Ticket → List Router.Change × Option Fault) :
    (scripted script).IsLawful where
  call t _ _ := ⟨(script t).1, rfl⟩
  report _ _ := rfl

/-- A script for four subscriptions on a route. The handler of the first gives back the second and
itself, subscribes once more and fails; that of the third closes the link. -/
def quarrel (route : Route) (t : Ticket) : List Router.Change × Option Fault :=
  if t = 0 then
    ([.unsubscribe 1, .unsubscribe 0, .subscribed route], some (.other "RuntimeError" "failed"))
  else if t = 2 then ([.closed], none)
  else ([], none)

/-- The calls of a signal on a route with four subscriptions that follow that script. -/
def quarrelled (route : Route) : List (Turn Router) :=
  let r := (.opened :: List.replicate 4 (.subscribed route)).foldl Router.change {}
  ((scripted (quarrel route)).watched.receive true route (.list []) (r, [])).2

/-- The first and the third are called. Each of the others is inactive at its turn, and it is an
earlier call that has ended it. -/
theorem quarrelled_called :
    (quarrelled ⟨"/org/bluez", propertiesInterface, propertiesChanged⟩).map (·.ticket) = [0, 2] ∧
      ∀ t, t = 1 ∨ t = 3 →
        ∃ turn ∈ quarrelled ⟨"/org/bluez", propertiesInterface, propertiesChanged⟩,
          turn.ticket < t ∧ turn.before.isActive t = true ∧ turn.after.isActive t = false := by
  -- route and router stay variables, so that only the calls and what is on the route are computed
  generalize hroute : (⟨"/org/bluez", propertiesInterface, propertiesChanged⟩ : Route) = route
  have hcalled : (quarrelled route).map (·.ticket) = [0, 2] := by
    subst hroute
    decide +kernel
  generalize hr :
    (.opened :: List.replicate 4 (.subscribed route)).foldl Router.change ({} : Router) = r
  have hs : ({} : Router).Leads r := ⟨_, hr⟩
  have hon (t : Ticket) (ht : t = 1 ∨ t = 3) : r.IsOn t route := by
    subst hr hroute
    rcases ht with rfl | rfl <;> decide +kernel
  have hdelivered :=
    delivered_exactly (isLawful_scripted (quarrel route)) hs true route (.list [])
  have hquarrelled : quarrelled route =
      ((scripted (quarrel route)).watched.receive true route (.list []) (r, [])).2 := by
    subst hr
    rfl
  generalize (scripted (quarrel route)).watched.receive true route (.list []) (r, []) = received
    at hdelivered hquarrelled
  obtain ⟨-, -, -, -, -, hcalled_iff⟩ := hdelivered
  rw [← hquarrelled] at hcalled_iff
  refine ⟨hcalled, fun t ht => (hcalled_iff rfl t (hon t ht)).2.mp ?_⟩
  rw [hcalled]
  rcases ht with rfl | rfl <;> decide

end Receivers

end TagGateway.Bus

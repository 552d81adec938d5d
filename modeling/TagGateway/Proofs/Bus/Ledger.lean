import TagGateway.Proofs.Bus.Routes

/-!
# What the bus is told of subscriptions

For each subscription the bus accepts a match rule, and it is told to drop the rule when the
subscription is given back. Over all that happens on a link the rules that the bus holds are those
of the active subscriptions, however many of these share a route or a rule.

* `Ledger` — a link with the rules that were accepted and those that are to be dropped;
  `Ledger.Happening`, `Ledger.perform`, `Ledger.run` — what may happen on it, in any order. What
  subscribers do when a signal reaches them is left open.
* `Ledger.GivenBack` — that some subscriptions are given back and the bus is told of each;
  `Ledger.givenBack_foldl` — that any number of requests do so, and `Ledger.perform_signal` that a
  signal is no more.
* `Ledger.told_perform` — what the bus is told in one step; `Ledger.Sane` — the invariant.
* `Ledger.Balanced` — that the rules agree with the subscriptions, which `Balanced.perform` keeps.
* **`Ledger.rules_balanced`** — the table of routes and the match rules after any happenings.
-/

namespace TagGateway.Bus

/-- A link to the bus, the match rules that the bus has accepted, and those that it is to drop, with
the subscriptions that they were for. -/
structure Ledger where
  router : Router := {}
  granted : List String := []
  scheduled : List (Ticket × String) := []

namespace Ledger

/-- What may happen on a link. -/
inductive Happening
  | connect (fails : Bool)
  | disconnect
  /-- The bus loses the link. -/
  | lost
  /-- A subscription is asked for, and the bus replies to its match rule. Nothing is changed before
  the reply, so what happens meanwhile comes before. -/
  | subscribe (route : Route) (reply : BusReply)
  | unsubscribe (t : Ticket)
  /-- A signal arrives. The script says which subscriptions each subscriber gives back when it is
  called, and whether it fails then. -/
  | signal (route : Route) (body : Value) (script : Ticket → List Ticket × Option Fault)

/-- The match rule of a route. -/
def rule (x : Ledger) (route : Route) : String := route.rule x.router.service

/-- The result of asking the bus for the signals on a route. -/
def added (x : Ledger) (route : Route) (reply : BusReply) : Except Fault Value :=
  match x.router.message (.toBus "AddMatch" (x.rule route)) with
  | .error f => .error f
  | .ok _ => (Call.toBus "AddMatch" (x.rule route)).result reply

/-- Subscribe, if the bus accepts the match rule. -/
def subscribe (x : Ledger) (route : Route) (reply : BusReply) : Ledger :=
  match x.added route reply with
  | .error _ => x
  | .ok _ =>
    { x with router := x.router.subscribed route, granted := x.granted ++ [x.rule route] }

/-- Give a subscription back. -/
def unsubscribe (x : Ledger) (t : Ticket) : Ledger :=
  let (router, dropped) := x.router.unsubscribe t
  { x with
    router
    scheduled := x.scheduled ++ dropped.toList.map fun route => (t, x.rule route) }

/-- The subscribers, with what they do when they are called. -/
def receivers (script : Ticket → List Ticket × Option Fault) : Receivers Ledger where
  router x := x.router
  call t _ x := ((script t).1.foldl unsubscribe x, (script t).2)
  report _ x := x

/-- Set up the link, unless it stands. -/
def connect (x : Ledger) (fails : Bool) : Ledger :=
  if x.router.connected then x
  else if fails then { x with router := { x.router with link := none } }
  else { x with router := x.router.opened }

/-- Something happens. -/
def perform (x : Ledger) : Happening → Ledger
  | .connect fails => x.connect fails
  | .disconnect => { x with router := x.router.close }
  | .lost => { x with router := x.router.lost }
  | .subscribe route reply => x.subscribe route reply
  | .unsubscribe t => x.unsubscribe t
  | .signal route body script => (receivers script).deliver route body x

/-- All that happens, in order. -/
def run (x : Ledger) (happenings : List Happening) : Ledger := happenings.foldl perform x

variable {x x' x'' : Ledger} {new more : List (Ticket × String)} {t : Ticket} {route : Route}

theorem run_append (x : Ledger) (before after : List Happening) :
    x.run (before ++ after) = (x.run before).run after :=
  List.foldl_append

/-! ## Subscribing -/

theorem checkName_ok {part : NamePart} {text : String} (h : part.accepts text = true) :
    Call.checkName part text = .ok () :=
  if_pos h

/-- A request for a match rule can be sent to any bus. -/
theorem message_addMatch (text service : String) :
    ∃ m, (Call.toBus "AddMatch" text).message service = .ok m := by
  have hbody : wrapBody "s" (.list [.text text]) = .ok [.text text] := rfl
  have hsignature : Signature.check "s" = .ok () := rfl
  have hservice : Call.checkName .service busService = .ok () := checkName_ok (by decide +kernel)
  have hinterface : Call.checkName .interface busService = .ok () :=
    checkName_ok (by decide +kernel)
  have hpath : Call.checkName .path busPath = .ok () := checkName_ok (by decide +kernel)
  have hmember : Call.checkName .member "AddMatch" = .ok () := checkName_ok (by decide +kernel)
  simp only [Call.message, Call.toBus, hbody, hsignature, if_true, hservice, hinterface, hpath,
    hmember]
  exact ⟨_, rfl⟩

/-- A match rule is accepted just if there is a link and the bus says so. -/
theorem added_eq_ok {reply : BusReply} :
    (∃ v, x.added route reply = .ok v) ↔
      x.router.link ≠ none ∧ ∃ body, reply = .returned body := by
  unfold added Router.message
  cases x.router.link with
  | none => exact iff_of_false nofun fun h => h.1 rfl
  | some held =>
    obtain ⟨m, hm⟩ := message_addMatch (x.rule route) x.router.service
    simp only [hm]
    cases reply with
    | returned body => exact iff_of_true ⟨_, rfl⟩ ⟨nofun, body, rfl⟩
    | failed name body =>
      refine iff_of_false (fun ⟨v, hv⟩ => ?_) fun ⟨_, _, h⟩ => nomatch h
      simp only [Call.result, bind, Except.bind] at hv
      split at hv <;> cases hv
    | silence => exact iff_of_false nofun fun ⟨_, _, h⟩ => nomatch h
    | broken message => exact iff_of_false nofun fun ⟨_, _, h⟩ => nomatch h

/-- A subscription is made, or nothing changes. -/
theorem subscribe_cases (x : Ledger) (route : Route) (reply : BusReply) :
    (x.router.link ≠ none ∧ x.subscribe route reply =
      { x with router := x.router.subscribed route, granted := x.granted ++ [x.rule route] }) ∨
    x.subscribe route reply = x := by
  unfold subscribe
  cases hadded : x.added route reply with
  | error f => exact Or.inr rfl
  | ok v => exact Or.inl ⟨(added_eq_ok.mp ⟨v, hadded⟩).1, rfl⟩

/-! ## Giving back -/

/-- Some subscriptions are given back. The bus is told to drop the rule of each, if it holds the
link, and of no other. -/
structure GivenBack (x x' : Ledger) (new : List (Ticket × String)) : Prop where
  granted : x'.granted = x.granted
  link : x'.router.link = x.router.link
  service : x'.router.service = x.router.service
  length : x'.router.subscribers.length = x.router.subscribers.length
  still : ∀ {t route}, x'.router.IsOn t route → x.router.IsOn t route
  scheduled : x'.scheduled = x.scheduled ++ new
  once : (new.map (·.1)).Nodup
  told : ∀ t rule, (t, rule) ∈ new ↔ x.router.connected = true ∧
    ∃ route, x.router.IsOn t route ∧ ¬x'.router.IsOn t route ∧ x.rule route = rule

theorem GivenBack.refl (x : Ledger) : GivenBack x x [] where
  granted := rfl
  link := rfl
  service := rfl
  length := rfl
  still := id
  scheduled := (List.append_nil _).symm
  once := List.nodup_nil
  told _ _ := iff_of_false nofun fun ⟨_, _, hon, hoff, _⟩ => hoff hon

theorem GivenBack.connected (h : GivenBack x x' new) :
    x'.router.connected = x.router.connected := by
  unfold Router.connected
  rw [h.link]

theorem GivenBack.rule (h : GivenBack x x' new) (route : Route) : x'.rule route = x.rule route := by
  unfold Ledger.rule
  rw [h.service]

/-- A subscription that is given back first is not given back again. -/
theorem GivenBack.trans (h : GivenBack x x' new) (h' : GivenBack x' x'' more) :
    GivenBack x x'' (new ++ more) where
  granted := h'.granted.trans h.granted
  link := h'.link.trans h.link
  service := h'.service.trans h.service
  length := h'.length.trans h.length
  still hon := h.still (h'.still hon)
  scheduled := by rw [h'.scheduled, h.scheduled, List.append_assoc]
  once := by
    rw [List.map_append]
    refine List.nodup_append.mpr ⟨h.once, h'.once, fun t ht t' ht' htt => ?_⟩
    subst htt
    obtain ⟨⟨_, rule⟩, hmem, rfl⟩ := List.mem_map.mp ht
    obtain ⟨⟨_, rule'⟩, hmem', rfl⟩ := List.mem_map.mp ht'
    obtain ⟨-, route, hon, hoff, -⟩ := (h.told _ _).mp hmem
    obtain ⟨-, route', hon', -, -⟩ := (h'.told _ _).mp hmem'
    rw [hon.unique (h.still hon')] at hoff
    exact hoff hon'
  told t rule := by
    rw [List.mem_append, h.told, h'.told, h.connected]
    simp only [h.rule]
    constructor
    · rintro (⟨hlink, route, hon, hoff, hrule⟩ | ⟨hlink, route, hon, hoff, hrule⟩)
      · exact ⟨hlink, route, hon, fun hlater => hoff (h'.still hlater), hrule⟩
      · exact ⟨hlink, route, h.still hon, hoff, hrule⟩
    · rintro ⟨hlink, route, hon, hoff, hrule⟩
      by_cases hbetween : x'.router.IsOn t route
      · exact Or.inr ⟨hlink, route, hbetween, hoff, hrule⟩
      · exact Or.inl ⟨hlink, route, hon, hbetween, hrule⟩

/-- Giving a subscription back that is not active changes nothing. -/
theorem unsubscribe_of_inactive (h : x.router.isActive t = false) : x.unsubscribe t = x := by
  unfold unsubscribe
  rw [Router.unsubscribe_of_inactive h]
  simp

/-- An active subscription that is given back is taken off its route, and the bus is told if it
holds the link. -/
theorem unsubscribe_of_active (h : x.router.IsOn t route) :
    x.unsubscribe t = { x with
      router := (x.router.deactivate t).unroute route t
      scheduled := x.scheduled ++ if x.router.connected then [(t, x.rule route)] else [] } := by
  unfold unsubscribe
  rw [Router.unsubscribe_of_active h]
  cases x.router.connected <;> rfl

theorem givenBack_unsubscribe (x : Ledger) (t : Ticket) :
    ∃ new, GivenBack x (x.unsubscribe t) new := by
  cases hactive : x.router.isActive t with
  | false =>
    rw [unsubscribe_of_inactive hactive]
    exact ⟨[], .refl x⟩
  | true =>
    obtain ⟨route, hon⟩ := Router.isActive_iff_isOn.mp hactive
    have hrouter : (x.unsubscribe t).router = (x.router.unsubscribe t).1 := rfl
    obtain ⟨hservice, hlink⟩ := (x.router.deactivate t).unroute_frame route t
    have heq := unsubscribe_of_active hon
    refine ⟨if x.router.connected then [(t, x.rule route)] else [], ?_⟩
    refine ⟨rfl, by rw [heq]; exact hlink, by rw [heq]; exact hservice,
      by rw [hrouter, Router.length_unsubscribe], fun hon' => ?_, by rw [heq], ?_, fun t' rule => ?_⟩
    · rw [hrouter, Router.isOn_unsubscribe] at hon'
      exact hon'.2
    · split
      · exact List.nodup_singleton _
      · exact List.nodup_nil
    · rw [hrouter]
      simp only [Router.isOn_unsubscribe]
      cases x.router.connected with
      | false => exact iff_of_false nofun nofun
      | true =>
        simp only [if_true, List.mem_singleton, Prod.mk.injEq, true_and]
        constructor
        · rintro ⟨rfl, rfl⟩
          exact ⟨route, hon, fun h => h.1 rfl, rfl⟩
        · rintro ⟨route', hon', hoff, rfl⟩
          have htt : t' = t := Classical.byContradiction fun hne => hoff ⟨hne, hon'⟩
          subst htt
          exact ⟨rfl, by rw [hon.unique hon']⟩

theorem givenBack_foldl (x : Ledger) (ts : List Ticket) :
    ∃ new, GivenBack x (ts.foldl unsubscribe x) new := by
  induction ts generalizing x with
  | nil => exact ⟨[], .refl x⟩
  | cons t rest ih =>
    obtain ⟨new, hfirst⟩ := x.givenBack_unsubscribe t
    obtain ⟨more, hrest⟩ := ih (x.unsubscribe t)
    exact ⟨new ++ more, hfirst.trans hrest⟩

/-- Whatever the subscribers do, a signal does no more than give subscriptions back. -/
theorem perform_signal (x : Ledger) (route : Route) (body : Value)
    (script : Ticket → List Ticket × Option Fault) :
    ∃ ts, x.perform (.signal route body script) = List.foldl unsubscribe x ts := by
  refine List.foldlRecOn (motive := fun y : Ledger => ∃ ts, y = List.foldl unsubscribe x ts)
    (((receivers script).router x).targets route) _ ⟨[], rfl⟩ ?_
  rintro y ⟨ts, rfl⟩ t -
  split
  · refine ⟨ts ++ (script t).1, ?_⟩
    rw [List.foldl_append]
    unfold Receivers.callOne
    split <;> rename_i heq <;> exact (congrArg Prod.fst heq).symm
  · exact ⟨ts, rfl⟩

theorem givenBack_signal (x : Ledger) (route : Route) (body : Value)
    (script : Ticket → List Ticket × Option Fault) :
    ∃ new, GivenBack x (x.perform (.signal route body script)) new := by
  obtain ⟨ts, hsignal⟩ := x.perform_signal route body script
  rw [hsignal]
  exact x.givenBack_foldl ts

/-! ## One step -/

theorem router_connect (x : Ledger) (fails : Bool) :
    (x.connect fails).router.subscribers = x.router.subscribers ∧
      (x.connect fails).router.routes = x.router.routes ∧
      (x.connect fails).scheduled = x.scheduled := by
  unfold connect
  split
  · exact ⟨rfl, rfl, rfl⟩
  · split <;> exact ⟨rfl, rfl, rfl⟩

theorem tidy_foldl (h : x.router.Tidy) (ts : List Ticket) :
    (ts.foldl unsubscribe x).router.Tidy := by
  induction ts generalizing x with
  | nil => exact h
  | cons t rest ih => exact ih (h.unsubscribe t)

/-- **Each step keeps the table of routes an index of the active subscriptions.** -/
theorem tidy_perform (h : x.router.Tidy) (happening : Happening) :
    (x.perform happening).router.Tidy := by
  cases happening with
  | connect fails =>
    obtain ⟨hsubscribers, hroutes, -⟩ := x.router_connect fails
    exact h.congr hsubscribers hroutes
  | disconnect => exact h.close
  | lost => exact h.congr rfl rfl
  | subscribe route reply =>
    rcases x.subscribe_cases route reply with ⟨-, heq⟩ | heq
    · simp only [perform, heq]
      exact h.subscribed route
    · simp only [perform, heq]
      exact h
  | unsubscribe t => exact h.unsubscribe t
  | signal route body script =>
    obtain ⟨ts, hsignal⟩ := x.perform_signal route body script
    rw [hsignal]
    exact tidy_foldl h ts

theorem tidy_run (h : x.router.Tidy) (happenings : List Happening) :
    (x.run happenings).router.Tidy :=
  List.foldlRecOn (motive := fun y : Ledger => y.router.Tidy) happenings _ h
    fun _ hy happening _ => tidy_perform hy happening

/-- What one step may do to the subscriptions, and what the bus is told in it: to drop the rules of
those that end while it holds the link, if they do not end by a disconnection. -/
structure Told (x : Ledger) (happening : Happening) (x' : Ledger) (new : List (Ticket × String)) :
    Prop where
  length : x.router.subscribers.length ≤ x'.router.subscribers.length
  still : ∀ {t route}, x'.router.IsOn t route →
    x.router.IsOn t route ∨ x.router.subscribers.length ≤ t
  scheduled : x'.scheduled = x.scheduled ++ new
  once : (new.map (·.1)).Nodup
  told : ∀ t rule, (t, rule) ∈ new ↔ happening ≠ .disconnect ∧ x.router.connected = true ∧
    ∃ route, x.router.IsOn t route ∧ ¬x'.router.IsOn t route ∧ x.rule route = rule

theorem GivenBack.told_of_ne {happening : Happening} (h : GivenBack x x' new)
    (hne : happening ≠ .disconnect) : Told x happening x' new where
  length := Nat.le_of_eq h.length.symm
  still hon := Or.inl (h.still hon)
  scheduled := h.scheduled
  once := h.once
  told t rule := (h.told t rule).trans (and_iff_right hne).symm

/-- Nothing is told where no subscription ends. -/
theorem told_of_kept {happening : Happening} (hscheduled : x'.scheduled = x.scheduled)
    (hlength : x.router.subscribers.length ≤ x'.router.subscribers.length)
    (hstill : ∀ {t route}, x'.router.IsOn t route →
      x.router.IsOn t route ∨ x.router.subscribers.length ≤ t)
    (hkept : happening ≠ .disconnect → ∀ {t route}, x.router.IsOn t route →
      x'.router.IsOn t route) : Told x happening x' [] where
  length := hlength
  still := hstill
  scheduled := hscheduled.trans (List.append_nil _).symm
  once := List.nodup_nil
  told _ _ := iff_of_false nofun fun ⟨hne, _, _, hon, hoff, _⟩ => hoff (hkept hne hon)

theorem told_of_subscribers_eq {happening : Happening} (hscheduled : x'.scheduled = x.scheduled)
    (hsubscribers : x'.router.subscribers = x.router.subscribers) : Told x happening x' [] := by
  have hon {t : Ticket} {route : Route} : x'.router.IsOn t route ↔ x.router.IsOn t route := by
    unfold Router.IsOn
    rw [hsubscribers]
  exact told_of_kept hscheduled (Nat.le_of_eq (by rw [hsubscribers])) (fun h => Or.inl (hon.mp h))
    fun _ _ _ => hon.mpr

/-- **What the bus is told in one step.** -/
theorem told_perform (h : x.router.Tidy) (happening : Happening) :
    ∃ new, Told x happening (x.perform happening) new := by
  cases happening with
  | connect fails =>
    obtain ⟨hsubscribers, -, hscheduled⟩ := x.router_connect fails
    exact ⟨[], told_of_subscribers_eq hscheduled hsubscribers⟩
  | disconnect =>
    refine ⟨[], told_of_kept rfl (Nat.le_of_eq x.router.length_close.symm) (fun hon => ?_)
      fun hne => absurd rfl hne⟩
    have hactive := Router.isActive_iff_isOn.mpr ⟨_, hon⟩
    rw [show (x.perform .disconnect).router = x.router.close from rfl, h.isActive_close] at hactive
    cases hactive
  | lost => exact ⟨[], told_of_subscribers_eq rfl rfl⟩
  | subscribe route reply =>
    rcases x.subscribe_cases route reply with ⟨-, heq⟩ | heq
    · refine ⟨[], ?_⟩
      simp only [perform, heq]
      refine told_of_kept rfl ?_ (fun hon => ?_) fun _ _ _ hon => ?_
      · rw [Router.length_subscribed]
        exact Nat.le_succ _
      · exact (Router.isOn_subscribed.mp hon).imp_right fun hnew => Nat.le_of_eq hnew.1.symm
      · exact Router.isOn_subscribed.mpr (Or.inl hon)
    · simp only [perform, heq]
      exact ⟨[], told_of_subscribers_eq rfl rfl⟩
  | unsubscribe t =>
    obtain ⟨new, hgiven⟩ := x.givenBack_unsubscribe t
    exact ⟨new, hgiven.told_of_ne nofun⟩
  | signal route body script =>
    obtain ⟨new, hgiven⟩ := x.givenBack_signal route body script
    exact ⟨new, hgiven.told_of_ne nofun⟩

/-! ## The invariant -/

/-- The table of routes is in order, and the bus is told once of a subscription, which is not active
from then on. -/
structure Sane (x : Ledger) : Prop where
  tidy : x.router.Tidy
  once : (x.scheduled.map (·.1)).Nodup
  spent : ∀ t ∈ x.scheduled.map (·.1),
    t < x.router.subscribers.length ∧ x.router.isActive t = false

theorem sane_new : Sane {} := ⟨Router.tidy_new _, List.nodup_nil, nofun⟩

theorem Told.sane {happening : Happening} (h : Told x happening x' new) (hx : Sane x)
    (htidy : x'.router.Tidy) : Sane x' := by
  -- a subscription of which the bus is told was active, and is not after
  have hended : ∀ t ∈ new.map (·.1), x.router.isActive t = true ∧
      t < x.router.subscribers.length ∧ x'.router.isActive t = false := by
    intro t ht
    obtain ⟨⟨_, rule⟩, hmem, rfl⟩ := List.mem_map.mp ht
    obtain ⟨-, -, route, hon, hoff, -⟩ := (h.told _ _).mp hmem
    have hlt := (List.getElem?_eq_some_iff.mp hon).1
    refine ⟨Router.isActive_iff_isOn.mpr ⟨route, hon⟩, hlt, Bool.eq_false_iff.mpr fun hactive => ?_⟩
    obtain ⟨route', hon'⟩ := Router.isActive_iff_isOn.mp hactive
    rcases h.still hon' with hbefore | hge
    · exact hoff (hon.unique hbefore ▸ hon')
    · exact absurd hlt (Nat.not_lt_of_le hge)
  refine ⟨htidy, ?_, fun t ht => ?_⟩
  · rw [h.scheduled, List.map_append]
    refine List.nodup_append.mpr ⟨hx.once, h.once, fun t ht t' ht' htt => ?_⟩
    subst htt
    have hactive := (hended t ht').1
    rw [(hx.spent t ht).2] at hactive
    cases hactive
  · rw [h.scheduled, List.map_append, List.mem_append] at ht
    rcases ht with ht | ht
    · obtain ⟨hlt, hinactive⟩ := hx.spent t ht
      refine ⟨Nat.lt_of_lt_of_le hlt h.length, Bool.eq_false_iff.mpr fun hactive => ?_⟩
      obtain ⟨route, hon⟩ := Router.isActive_iff_isOn.mp hactive
      rcases h.still hon with hbefore | hge
      · rw [Router.isActive_iff_isOn.mpr ⟨route, hbefore⟩] at hinactive
        cases hinactive
      · exact absurd hlt (Nat.not_lt_of_le hge)
    · obtain ⟨-, hlt, hinactive⟩ := hended t ht
      exact ⟨Nat.lt_of_lt_of_le hlt h.length, hinactive⟩

theorem Sane.perform (h : Sane x) (happening : Happening) : Sane (x.perform happening) := by
  obtain ⟨new, htold⟩ := told_perform h.tidy happening
  exact htold.sane h (tidy_perform h.tidy happening)

theorem Sane.run (h : Sane x) (happenings : List Happening) : Sane (x.run happenings) :=
  List.foldlRecOn (motive := Sane) happenings _ h fun _ hy happening _ => hy.perform happening

/-! ## Match rules -/

/-- The number of active subscriptions whose match rule this is. -/
def activeWith (x : Ledger) (rule : String) : Nat :=
  x.router.subscribers.countP fun s => s.active && x.rule s.route == rule

/-- The match rules that the bus has accepted since some state, less those that it is to drop since
then, are those of the active subscriptions. -/
structure Balanced (since x : Ledger) : Prop where
  held : x.router.link ≠ some false
  unlinked : x.router.link = none → ∀ t, x.router.isActive t = false
  rules : ∃ granted scheduled, x.granted = since.granted ++ granted ∧
    x.scheduled = since.scheduled ++ scheduled ∧
    ∀ rule, granted.count rule = (scheduled.map (·.2)).count rule + x.activeWith rule

theorem activeWith_of_silent (h : ∀ t, x.router.isActive t = false) (rule : String) :
    x.activeWith rule = 0 := by
  refine List.countP_eq_zero.mpr fun s hs => ?_
  obtain ⟨t, ht⟩ := List.getElem?_of_mem hs
  have hinactive := h t
  unfold Router.isActive at hinactive
  rw [ht] at hinactive
  simp [hinactive]

theorem balanced_of_silent (hlink : x.router.link = none)
    (h : ∀ t, x.router.isActive t = false) : Balanced x x where
  held := by
    rw [hlink]
    nofun
  unlinked _ := h
  rules := by
    refine ⟨[], [], (List.append_nil _).symm, (List.append_nil _).symm, fun rule => ?_⟩
    rw [activeWith_of_silent h rule]
    rfl

/-- What an active subscription contributes to a count goes when it is given back. -/
theorem countP_deactivate (p : Route → Bool) {subscribers : List Subscriber}
    (h : subscribers[t]? = some ⟨route, true⟩) :
    subscribers.countP (fun s => s.active && p s.route) =
      (subscribers.modify t fun s => { s with active := false }).countP
        (fun s => s.active && p s.route) + if p route = true then 1 else 0 := by
  induction subscribers generalizing t with
  | nil => cases h
  | cons s rest ih =>
    cases t with
    | zero =>
      rw [List.getElem?_cons_zero, Option.some.injEq] at h
      subst h
      simp [List.countP_cons]
    | succ t =>
      rw [List.getElem?_cons_succ] at h
      rw [List.modify_succ_cons, List.countP_cons, List.countP_cons, ih h]
      omega

/-- A rule is dropped with a subscription. -/
theorem Balanced.unsubscribe {since : Ledger} (h : Balanced since x) (t : Ticket) :
    Balanced since (x.unsubscribe t) := by
  cases hactive : x.router.isActive t with
  | false =>
    rw [unsubscribe_of_inactive hactive]
    exact h
  | true =>
    obtain ⟨route, hon⟩ := Router.isActive_iff_isOn.mp hactive
    have heq := unsubscribe_of_active hon
    obtain ⟨hservice, hlink⟩ := (x.router.deactivate t).unroute_frame route t
    have hconnected : x.router.connected = true := by
      unfold Router.connected
      cases hlink : x.router.link with
      | none =>
        rw [h.unlinked hlink t] at hactive
        cases hactive
      | some held =>
        cases held with
        | false => exact absurd hlink h.held
        | true => rfl
    rw [hconnected] at heq
    obtain ⟨granted, scheduled, hgranted, hscheduled, hcount⟩ := h.rules
    refine ⟨?_, fun hnone t' => ?_, granted, scheduled ++ [(t, x.rule route)], ?_, ?_, fun rule => ?_⟩
    · rw [heq]
      exact hlink ▸ h.held
    · rw [heq] at hnone
      have hbefore := h.unlinked (hlink ▸ hnone) t
      rw [hactive] at hbefore
      cases hbefore
    · rw [heq]
      exact hgranted
    · rw [heq]
      simp only [if_true, hscheduled, List.append_assoc]
    · have hcountP : x.activeWith rule =
          (x.unsubscribe t).activeWith rule + if x.rule route == rule then 1 else 0 := by
        have hrule : (x.unsubscribe t).rule = x.rule := by
          funext route'
          rw [heq]
          exact congrArg route'.rule hservice
        unfold activeWith
        rw [hrule, heq]
        simp only [Router.subscribers_unroute, Router.deactivate]
        exact countP_deactivate (fun route' => x.rule route' == rule) hon
      have hlast : List.map (·.2) [(t, x.rule route)] = [x.rule route] := rfl
      rw [hcount rule, hcountP, List.map_append, hlast, List.count_append, List.count_singleton]
      omega

theorem Balanced.foldl {since : Ledger} (h : Balanced since x) (ts : List Ticket) :
    Balanced since (ts.foldl Ledger.unsubscribe x) := by
  induction ts generalizing x with
  | nil => exact h
  | cons t rest ih => exact ih (h.unsubscribe t)

/-- A rule is accepted with a subscription. -/
theorem Balanced.subscribed {since : Ledger} (h : Balanced since x) (hlink : x.router.link ≠ none)
    (route : Route) : Balanced since { x with
      router := x.router.subscribed route, granted := x.granted ++ [x.rule route] } := by
  obtain ⟨granted, scheduled, hgranted, hscheduled, hcount⟩ := h.rules
  refine ⟨h.held, fun hnone => absurd hnone hlink, granted ++ [x.rule route], scheduled, ?_,
    hscheduled, fun rule => ?_⟩
  · simp only [hgranted, List.append_assoc]
  · have hnew : activeWith { x with
        router := x.router.subscribed route, granted := x.granted ++ [x.rule route] } rule =
        x.activeWith rule + if x.rule route == rule then 1 else 0 := by
      simp only [activeWith, Ledger.rule, Router.subscribed, List.countP_append,
        List.countP_singleton, Bool.true_and]
      rfl
    rw [hnew, List.count_append, hcount rule, List.count_singleton]
    omega

/-- **While the link is neither closed nor lost, each step keeps the balance.** -/
theorem Balanced.perform {since : Ledger} (h : Balanced since x) {happening : Happening}
    (hopen : happening ≠ .disconnect) (hheld : happening ≠ .lost) :
    Balanced since (x.perform happening) := by
  cases happening with
  | connect fails =>
    simp only [Ledger.perform, connect]
    split
    · exact h
    · rename_i hlink
      have hnone : x.router.link = none := by
        cases hsome : x.router.link with
        | none => rfl
        | some held =>
          cases held with
          | false => exact absurd hsome h.held
          | true =>
            unfold Router.connected at hlink
            rw [hsome] at hlink
            exact absurd rfl hlink
      split
      · exact ⟨nofun, fun _ => h.unlinked hnone, h.rules⟩
      · exact ⟨nofun, nofun, h.rules⟩
  | disconnect => exact absurd rfl hopen
  | lost => exact absurd rfl hheld
  | subscribe route reply =>
    rcases x.subscribe_cases route reply with ⟨hlink, heq⟩ | heq
    · simp only [Ledger.perform, heq]
      exact h.subscribed hlink route
    · simp only [Ledger.perform, heq]
      exact h
  | unsubscribe t => exact h.unsubscribe t
  | signal route body script =>
    obtain ⟨ts, hsignal⟩ := x.perform_signal route body script
    rw [hsignal]
    exact h.foldl ts

theorem Balanced.run {since : Ledger} (h : Balanced since x) {happenings : List Happening}
    (hopen : .disconnect ∉ happenings) (hheld : .lost ∉ happenings) :
    Balanced since (x.run happenings) := by
  induction happenings generalizing x with
  | nil => exact h
  | cons happening rest ih =>
    rw [List.mem_cons, not_or] at hopen hheld
    exact ih (h.perform (Ne.symm hopen.1) (Ne.symm hheld.1)) hopen.2 hheld.2

/-- A new link, and one that was closed, have no active subscription. -/
theorem balanced_begin {before : List Happening}
    (h : before = [] ∨ ∃ earlier, before = earlier ++ [.disconnect]) :
    Balanced (({} : Ledger).run before) (({} : Ledger).run before) := by
  rcases h with rfl | ⟨earlier, rfl⟩
  · exact balanced_of_silent rfl fun _ => rfl
  · rw [run_append]
    exact balanced_of_silent rfl (sane_new.run earlier).tidy.isActive_close

/-- **The table of routes and the match rules.** After any happenings on a link: there is an entry
for a route just if the route has an active subscription, and it lists the tickets of these, each
once, in the order in which they subscribed. A subscription that fails changes nothing. The bus is
told once, and never again, to drop the rule of each subscription that ends while the bus holds the
link, unless by a disconnection, and is told of no other. So for each match rule, from the beginning
or from a disconnection until the link is closed or lost, the times it was accepted are those it is
to be dropped and one for each active subscription that it is for. -/
theorem rules_balanced (happenings : List Happening) :
    let x : Ledger := ({} : Ledger).run happenings
    ((x.router.routes.map (·.1)).Nodup ∧
      (∀ route, (∃ ts, Assoc.get? route x.router.routes = some ts) ↔ ∃ t, x.router.IsOn t route) ∧
      ∀ route ts, Assoc.get? route x.router.routes = some ts →
        ts ≠ [] ∧ ts.Pairwise (· < ·) ∧ ∀ t, t ∈ ts ↔ x.router.IsOn t route) ∧
    (∀ route reply f, x.added route reply = .error f → x.perform (.subscribe route reply) = x) ∧
    ((x.scheduled.map (·.1)).Nodup ∧
      ∀ happening, ∃ new, (x.perform happening).scheduled = x.scheduled ++ new ∧
        ∀ t rule, (t, rule) ∈ new ↔ happening ≠ .disconnect ∧ x.router.connected = true ∧
          ∃ route, x.router.IsOn t route ∧ ¬(x.perform happening).router.IsOn t route ∧
            x.rule route = rule) ∧
    ∀ before later, happenings = before ++ later →
      (before = [] ∨ ∃ earlier, before = earlier ++ [.disconnect]) →
      .disconnect ∉ later → .lost ∉ later →
        ∃ granted scheduled, x.granted = (({} : Ledger).run before).granted ++ granted ∧
          x.scheduled = (({} : Ledger).run before).scheduled ++ scheduled ∧
          ∀ rule, granted.count rule = (scheduled.map (·.2)).count rule + x.activeWith rule := by
  intro x
  have hsane : Sane x := sane_new.run happenings
  refine ⟨⟨hsane.tidy.keys, fun route => ?_, fun route ts hts => ?_⟩, fun route reply f hadded => ?_,
    ⟨hsane.once, fun happening => ?_⟩, fun before later heq hbegin hopen hheld => ?_⟩
  · rw [hsane.tidy.entries route]
    constructor
    · rintro ⟨ts, hts⟩
      split at hts
      · cases hts
      · rename_i hne
        obtain ⟨t, ht⟩ := List.exists_mem_of_ne_nil _ hne
        exact ⟨t, Router.mem_activeOn.mp ht⟩
    · rintro ⟨t, hon⟩
      exact ⟨_, if_neg (List.ne_nil_of_mem (Router.mem_activeOn.mpr hon))⟩
  · rw [hsane.tidy.entries route] at hts
    split at hts
    · cases hts
    · rename_i hne
      cases hts
      exact ⟨hne, x.router.pairwise_activeOn route, fun t => Router.mem_activeOn⟩
  · simp only [perform, subscribe, hadded]
  · obtain ⟨new, htold⟩ := told_perform hsane.tidy happening
    exact ⟨new, htold.scheduled, htold.told⟩
  · have hrun : x = (({} : Ledger).run before).run later := by
      rw [← run_append, ← heq]
    rw [hrun]
    exact ((balanced_begin hbegin).run hopen hheld).rules

/-- Two subscriptions share a route and a third is refused. A signal has the first subscriber give
back the second and itself, each twice, before it fails; later the link is closed and opened
again. -/
def shared : List Happening :=
  let changes : Route := ⟨"/org/bluez/hci0", propertiesInterface, propertiesChanged⟩
  let objects : Route := ⟨rootPath, objectsInterface, "InterfacesAdded"⟩
  [.connect false, .subscribe changes (.returned (.list [])),
    .subscribe changes (.returned (.list [])), .subscribe objects .silence,
    .subscribe objects (.returned (.list [])),
    .signal changes (.list []) fun t =>
      if t = 0 then ([1, 0, 1, 0], some (.other "RuntimeError" "failed")) else ([], none),
    .disconnect, .unsubscribe 2, .connect false, .subscribe objects (.returned (.list [])),
    .unsubscribe 0]

theorem shared_balanced :
    let x : Ledger := ({} : Ledger).run shared
    x.scheduled.map (·.1) = [1, 0] ∧ x.granted.length = 4 ∧
      Assoc.get? ⟨rootPath, objectsInterface, "InterfacesAdded"⟩ x.router.routes = some [3] ∧
      (∀ t, t ∈ [3] ↔ x.router.IsOn t ⟨rootPath, objectsInterface, "InterfacesAdded"⟩) ∧
      ∃ granted scheduled, x.granted = (({} : Ledger).run (shared.take 7)).granted ++ granted ∧
        x.scheduled = (({} : Ledger).run (shared.take 7)).scheduled ++ scheduled ∧
        ∀ rule, granted.count rule = (scheduled.map (·.2)).count rule + x.activeWith rule := by
  intro x
  obtain ⟨⟨-, -, hentries⟩, -, -, hrules⟩ := rules_balanced shared
  have hroute : Assoc.get? ⟨rootPath, objectsInterface, "InterfacesAdded"⟩ x.router.routes =
      some [3] := by decide +kernel
  refine ⟨by decide +kernel, by decide +kernel, hroute, (hentries _ _ hroute).2.2, ?_⟩
  exact hrules (shared.take 7) (shared.drop 7) (List.take_append_drop 7 shared).symm
    (Or.inr ⟨shared.take 6, rfl⟩) (by simp [shared]) (by simp [shared])

end Ledger

end TagGateway.Bus

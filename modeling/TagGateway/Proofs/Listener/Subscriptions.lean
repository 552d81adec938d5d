import Mathlib.Data.List.Nodup
import TagGateway.Proofs.Listener.Session
import TagGateway.Proofs.Roster.Custody

/-!
# What the subscriptions of a session are for

Every tracked device has its own subscription to its changes, which signals reach, and no other
subscription to the changes of a device is active. Once the setup has subscribed to the objects that
appear, a signal of one is heard for as long as the run lasts.

* `Session.Sound` — the first of these, while some tickets are still to be given back, as in
  `Custody.Sound`.
* `Session.hears` — that the listener hears of objects that appear.
* `Session.Held` — the invariant; `Held.perform`, `Session.held_run` — it holds whatever happens.
-/

namespace TagGateway

open Bus

namespace Listener

variable {κ : Type}

variable {l : Listener κ}

/-! ## What the listener asks of the link -/

/-- What a task asks. -/
def Task.request? : Task → Option Request
  | .setup s => some s.request
  | .admission a => some a.request
  | .emission e => some e.request
  | .foreign => none

theorem pending_eq_reply {request : Request} (h : l.pending = .reply request) :
    (∃ task, l.task = some task ∧ task.request? = some request) ∨
      l.discovery.pending = .reply request := by
  unfold pending at h
  split at h
  · rename_i s htask
    cases h
    exact Or.inl ⟨.setup s, htask, rfl⟩
  · rename_i a htask
    cases h
    exact Or.inl ⟨.admission a, htask, rfl⟩
  · rename_i e htask
    cases h
    exact Or.inl ⟨.emission e, htask, rfl⟩
  · cases h
  · rename_i hpending _ _ _
    cases h
    exact Or.inr hpending
  · cases h
  · cases h

theorem retry_request_cases {ε : Type} (d : Discovery ε) (r : Discovery.Retry) :
    r.request d = d.adapterCall "StartDiscovery" ∨ r.request d = .sleep r.backoff := by
  unfold Discovery.Retry.request
  split
  · exact Or.inl rfl
  · exact Or.inr rfl

/-- Only an admission subscribes to the changes of a device. -/
theorem task_of_subscribe {path interface member p : String}
    (h : l.pending = .reply (.subscribe path interface member (.device p))) :
    ∃ mac, l.task = some (.admission (.subscribing p mac)) := by
  rcases pending_eq_reply h with ⟨task, htask, hrequest⟩ | hpending
  · cases task with
    | setup s => cases s <;> cases hrequest
    | admission a =>
      cases a with
      | addressing q => cases hrequest
      | subscribing q mac =>
        cases hrequest
        exact ⟨mac, htask⟩
    | emission e => cases e <;> cases hrequest
    | foreign => cases hrequest
  · unfold Discovery.pending at hpending
    split at hpending
    case h_7 | h_8 =>
      rename_i r _
      rcases retry_request_cases l.discovery r with hr | hr <;>
        rw [hr] at hpending <;> cases hpending
    all_goals cases hpending

/-- Only a run that ends disconnects. -/
theorem phase_of_disconnect (h : l.pending = .reply .disconnect) :
    ∃ outcome, l.discovery.phase = .disconnecting outcome := by
  rcases pending_eq_reply h with ⟨task, htask, hrequest⟩ | hpending
  · cases task with
    | setup s => cases s <;> cases hrequest
    | admission a => cases a <;> cases hrequest
    | emission e => cases e <;> cases hrequest
    | foreign => cases hrequest
  · unfold Discovery.pending at hpending
    split at hpending
    case h_12 =>
      rename_i outcome hphase
      exact ⟨outcome, hphase⟩
    case h_7 | h_8 =>
      rename_i r _
      rcases retry_request_cases l.discovery r with hr | hr <;>
        rw [hr] at hpending <;> cases hpending
    all_goals cases hpending

namespace Session

/-- The signal of objects that appear. -/
def addedRoute : Route := ⟨rootPath, objectsInterface, "InterfacesAdded"⟩

/-- The tracked devices have their subscriptions, while some are still to be given back: besides
these no subscription to the changes of a device is active. -/
structure Sound (owed : List Ticket) (x : Session κ) : Prop where
  topics : x.topics.length = x.router.subscribers.length
  served : ∀ t, x.router.isActive t = true → ∃ route, x.router.Serves t route
  entries : ∀ e ∈ x.listener.roster.entries, x.router.Serves e.ticket (deviceRoute e.path) ∧
    x.topics[e.ticket]? = some (.device e.path) ∧ e.ticket ∉ owed
  paths : (x.listener.roster.entries.map (·.path)).Nodup
  owned : ∀ t path, x.router.isActive t = true → x.topics[t]? = some (.device path) →
    t ∈ owed ∨ ∃ e ∈ x.listener.roster.entries, e.ticket = t
  returned : ∀ t ∈ owed, ∃ path, x.topics[t]? = some (.device path)

variable {x : Session κ} {owed : List Ticket}

/-! ## Giving back -/

theorem Sound.giveBack {t : Ticket} (h : Sound (t :: owed) x) : Sound owed (x.giveBack t) where
  topics := h.topics.trans (x.router.length_unsubscribe t).symm
  served t' hactive := by
    obtain ⟨hne, hactive⟩ := Router.isActive_unsubscribe.mp hactive
    obtain ⟨route, hserves⟩ := h.served t' hactive
    exact ⟨route, hserves.unsubscribe hne⟩
  entries e he := by
    obtain ⟨hserves, htopic, howed⟩ := h.entries e he
    rw [List.mem_cons, not_or] at howed
    exact ⟨hserves.unsubscribe howed.1, htopic, howed.2⟩
  paths := h.paths
  owned t' path hactive htopic := by
    obtain ⟨hne, hactive⟩ := Router.isActive_unsubscribe.mp hactive
    exact (h.owned t' path hactive htopic).imp_left fun hmem =>
      (List.mem_cons.mp hmem).resolve_left hne
  returned t' ht' := h.returned t' (List.mem_cons_of_mem t ht')

/-- Once the effects of a move are carried out nothing is owed. -/
theorem Sound.moved {effects : List Effect}
    (h : Sound (Effect.tickets effects) { x with listener := l }) :
    Sound [] (x.moved l effects) := by
  have hfold (owed : List Ticket) (y : Session κ) (hy : Sound owed y) :
      Sound [] (owed.foldl Session.giveBack y) := by
    induction owed generalizing y with
    | nil => exact hy
    | cons t rest ih => exact ih _ hy.giveBack
  exact hfold _ _ h

/-! ## The tracked devices -/

theorem Sound.keep (h : Sound owed x) (hentries : l.roster.entries = x.listener.roster.entries) :
    Sound owed { x with listener := l } := by
  refine ⟨h.topics, h.served, ?_, ?_, ?_, h.returned⟩
  · simp only [hentries]
    exact h.entries
  · simp only [hentries]
    exact h.paths
  · simp only [hentries]
    exact h.owned

/-- A ticket belongs to one device. -/
theorem Sound.entry_unique (h : Sound owed x) {e e' : Entry}
    (he : e ∈ x.listener.roster.entries) (he' : e' ∈ x.listener.roster.entries)
    (hpath : e.path = e'.path) : e = e' :=
  List.inj_on_of_nodup_map h.paths he he' hpath

theorem Sound.path_eq (h : Sound owed x) {e e' : Entry}
    (he : e ∈ x.listener.roster.entries) (he' : e' ∈ x.listener.roster.entries)
    (hticket : e.ticket = e'.ticket) : e.path = e'.path := by
  have htopic := (h.entries e he).2.1
  rw [hticket, (h.entries e' he').2.1] at htopic
  exact (Topic.device.inj (Option.some.inj htopic)).symm

/-- Once nothing is owed, the active subscriptions to the changes of devices are those of the
tracked ones. -/
theorem Sound.active_iff (h : Sound [] x) {t : Ticket} {path : String} :
    x.router.isActive t = true ∧ x.topics[t]? = some (.device path) ↔
      ∃ e ∈ x.listener.roster.entries, e.path = path ∧ e.ticket = t := by
  constructor
  · rintro ⟨hactive, htopic⟩
    obtain ⟨e, he, rfl⟩ := (h.owned t path hactive htopic).resolve_left nofun
    rw [(h.entries e he).2.1] at htopic
    exact ⟨e, he, Topic.device.inj (Option.some.inj htopic), rfl⟩
  · rintro ⟨e, he, rfl, rfl⟩
    exact ⟨(h.entries e he).1.isActive, (h.entries e he).2.1⟩

/-- Devices are taken off, and their tickets are owed. -/
theorem Sound.evict (h : Sound [] x)
    (hsub : List.Sublist l.roster.entries x.listener.roster.entries)
    (howed : ∀ t, t ∈ owed ↔
      ∃ e ∈ x.listener.roster.entries, e ∉ l.roster.entries ∧ e.ticket = t) :
    Sound owed { x with listener := l } where
  topics := h.topics
  served := h.served
  entries e he := by
    obtain ⟨hserves, htopic, -⟩ := h.entries e (hsub.mem he)
    refine ⟨hserves, htopic, fun hmem => ?_⟩
    obtain ⟨e', he', hout, hticket⟩ := (howed e.ticket).mp hmem
    exact hout (h.entry_unique he' (hsub.mem he) (h.path_eq he' (hsub.mem he) hticket) ▸ he)
  paths := h.paths.sublist (hsub.map _)
  owned t path hactive htopic := by
    rcases h.owned t path hactive htopic with hnil | ⟨e, he, hticket⟩
    · cases hnil
    · by_cases hkept : e ∈ l.roster.entries
      · exact Or.inr ⟨e, hkept, hticket⟩
      · exact Or.inl ((howed t).mpr ⟨e, he, hkept, hticket⟩)
  returned t ht := by
    obtain ⟨e, he, -, rfl⟩ := (howed t).mp ht
    exact ⟨e.path, (h.entries e he).2.1⟩

/-- A path is that of one device, which is taken off with it. -/
theorem Sound.mem_removed (h : Sound owed x) {e : Entry} (he : e ∈ x.listener.roster.entries)
    {t : Ticket} : t ∈ [e.ticket] ↔ ∃ e' ∈ x.listener.roster.entries,
      e' ∉ x.listener.roster.entries.filter (·.path ≠ e.path) ∧ e'.ticket = t := by
  constructor
  · intro ht
    exact ⟨e, he, fun hkept => by simp at hkept, (List.mem_singleton.mp ht).symm⟩
  · rintro ⟨e', he', hout, rfl⟩
    have hpath : e'.path = e.path := Decidable.not_not.mp fun hne =>
      hout (List.mem_filter.mpr ⟨he', decide_eq_true hne⟩)
    rw [h.entry_unique he' he hpath]
    exact List.mem_singleton.mpr rfl

/-- A device that is new is tracked under a ticket that is owed. -/
theorem Sound.admit {path mac : String} {t : Ticket} (h : Sound [t] x)
    (hserves : x.router.Serves t (deviceRoute path)) (htopic : x.topics[t]? = some (.device path))
    (hpath : x.listener.roster.contains path = false)
    (hentries : l.roster.entries = x.listener.roster.entries ++ [⟨path, mac, t⟩]) :
    Sound [] { x with listener := l } where
  topics := h.topics
  served := h.served
  entries e he := by
    rw [hentries, List.mem_append, List.mem_singleton] at he
    rcases he with he | rfl
    · obtain ⟨hserves', htopic', -⟩ := h.entries e he
      exact ⟨hserves', htopic', List.not_mem_nil⟩
    · exact ⟨hserves, htopic, List.not_mem_nil⟩
  paths := by
    simp only [hentries, List.map_append, List.map_cons, List.map_nil]
    refine List.nodup_append.mpr ⟨h.paths, by simp, ?_⟩
    intro p hp q hq
    cases List.mem_singleton.mp hq
    rintro rfl
    exact Roster.contains_eq_false hpath hp
  owned t' path' hactive htopic' := by
    refine Or.inr ?_
    simp only [hentries]
    rcases h.owned t' path' hactive htopic' with ht' | ⟨e, he, hticket⟩
    · cases List.mem_singleton.mp ht'
      exact ⟨_, List.mem_append_right _ (List.mem_singleton.mpr rfl), rfl⟩
    · exact ⟨e, List.mem_append_left _ he, hticket⟩
  returned := nofun

/-! ## What the link does -/

/-- The tickets that a new subscription owes: that to the changes of a device has still to find its
place. -/
def owing (topic : Topic) (t : Ticket) : List Ticket :=
  match topic with
  | .device _ => [t]
  | _ => []

theorem mem_owing {topic : Topic} {t t' : Ticket} :
    t' ∈ owing topic t ↔ t' = t ∧ ∃ path, topic = .device path := by
  cases topic <;> simp [owing]

theorem Sound.subscribed (h : Sound [] x) (route : Route) (topic : Topic) :
    Sound (owing topic x.router.subscribers.length) { x with
      router := x.router.subscribed route
      topics := x.topics ++ [topic] } where
  topics := by
    rw [Router.length_subscribed, List.length_append, h.topics]
    rfl
  served t hactive := by
    rcases (Router.isActive_subscribed route).mp hactive with hactive | rfl
    · obtain ⟨route', hserves⟩ := h.served t hactive
      exact ⟨route', hserves.subscribed route⟩
    · exact ⟨route, Router.serves_subscribed _ _⟩
  entries e he := by
    obtain ⟨hserves, htopic, -⟩ := h.entries e he
    refine ⟨hserves.subscribed route, ?_, fun hmem => ?_⟩
    · rw [List.getElem?_append_left (h.topics ▸ hserves.lt_length)]
      exact htopic
    · exact Nat.ne_of_lt hserves.lt_length (mem_owing.mp hmem).1
  paths := h.paths
  owned t path hactive htopic := by
    rcases (Router.isActive_subscribed route).mp hactive with hactive | rfl
    · rw [List.getElem?_append_left (h.topics ▸ Router.lt_length_of_isActive hactive)] at htopic
      exact (h.owned t path hactive htopic).imp_left nofun
    · rw [← h.topics, List.getElem?_concat_length, Option.some.injEq] at htopic
      exact Or.inl (mem_owing.mpr ⟨rfl, path, htopic⟩)
  returned t ht := by
    obtain ⟨rfl, path, rfl⟩ := mem_owing.mp ht
    refine ⟨path, ?_⟩
    rw [← h.topics, List.getElem?_concat_length]

/-- After a disconnection no device is tracked and no subscription active. -/
theorem Sound.closed (h : Sound [] x) (hentries : l.roster.entries = [])
    (howed : owed = x.listener.roster.entries.map (·.ticket)) :
    Sound owed { x with listener := l, router := x.router.close } where
  topics := h.topics.trans (Router.length_close _).symm
  served t hactive := by
    rw [Router.isActive_close h.served] at hactive
    cases hactive
  entries := by
    simp only [hentries]
    nofun
  paths := by
    simp only [hentries]
    exact List.nodup_nil
  owned t path hactive := by
    rw [Router.isActive_close h.served] at hactive
    cases hactive
  returned t ht := by
    rw [howed] at ht
    obtain ⟨e, he, rfl⟩ := List.mem_map.mp ht
    exact ⟨e.path, (h.entries e he).2.1⟩

/-! ## Replies -/

theorem Sound.opened (h : Sound owed x) : Sound owed { x with router := x.router.opened } :=
  ⟨h.topics, h.served, h.entries, h.paths, h.owned, h.returned⟩

/-- What a reply says to the link, but for a disconnection and an admission. -/
theorem Sound.answered {r : Reply} (h : Sound [] x)
    (hlinked : ∀ outcome, x.listener.discovery.phase ≠ .disconnecting outcome)
    (hother : ∀ path mac a, x.listener.task = some (.admission (.subscribing path mac)) →
      r ≠ .ok a) : Sound [] (x.answered r).1 := by
  unfold Session.answered
  split
  · rename_i path interface member topic a hpending
    have howing : owing topic x.router.subscribers.length = [] := by
      cases topic with
      | device p =>
        obtain ⟨mac, htask⟩ := task_of_subscribe hpending
        exact absurd rfl (hother p mac a htask)
      | _ => rfl
    have hsub := h.subscribed ⟨path, interface, member⟩ topic
    rw [howing] at hsub
    exact hsub
  · exact h.opened
  · rename_i hpending
    obtain ⟨outcome, hphase⟩ := phase_of_disconnect hpending
    exact absurd hphase (hlinked outcome)
  · exact h

/-- An admission that is granted its subscription has the next free ticket. -/
theorem answered_subscribing {path mac : String} {r : Reply} {a : Answer}
    (htask : x.listener.task = some (.admission (.subscribing path mac)))
    (hr : (x.answered r).2 = .ok a) :
    a.ticket = x.router.subscribers.length ∧ (x.answered r).1 = { x with
      router := x.router.subscribed (deviceRoute path)
      topics := x.topics ++ [.device path] } := by
  have hpending : x.listener.pending = .reply (Admission.subscribing path mac).request := by
    unfold pending
    rw [htask]
  unfold Session.answered at hr ⊢
  rw [hpending] at hr ⊢
  cases r with
  | error f => cases hr
  | ok b =>
    cases hr
    exact ⟨rfl, rfl⟩

/-- A disconnection closes the link. -/
theorem answered_disconnecting {outcome : Except Fault Unit} (htask : x.listener.task = none)
    (hphase : x.listener.discovery.phase = .disconnecting outcome) (r : Reply) :
    (x.answered r).1 = { x with router := x.router.close } := by
  have hpending : x.listener.pending = .reply .disconnect := by
    unfold pending Discovery.pending
    rw [htask, hphase]
  unfold Session.answered
  rw [hpending]

/-- The link is set up with no subscription. -/
theorem isActive_connecting (htask : x.listener.task = none)
    (hphase : x.listener.discovery.phase = .connecting) {r : Reply} {t : Ticket} :
    (x.answered r).1.router.isActive t = x.router.isActive t := by
  have hpending : x.listener.pending = .reply .connect := by
    unfold pending Discovery.pending
    rw [htask, hphase]
  unfold Session.answered
  rw [hpending]
  cases r <;> rfl

/-- The setup subscribes to the objects that appear. -/
theorem answered_watching {r : Reply} {a : Answer}
    (htask : x.listener.task = some (.setup .watchingAppeared)) (hr : (x.answered r).2 = .ok a) :
    (x.answered r).1 = { x with
      router := x.router.subscribed addedRoute, topics := x.topics ++ [.appeared] } := by
  have hpending : x.listener.pending = .reply Setup.watchingAppeared.request := by
    unfold pending
    rw [htask]
  unfold Session.answered at hr ⊢
  rw [hpending] at hr ⊢
  cases r with
  | error f => cases hr
  | ok b => rfl

/-- A reply keeps the subscriptions where they belong; what it gives back is owed. -/
theorem Sound.resumed (h : Sound [] x) (hfits : x.listener.Fits)
    (hconnecting : x.listener.discovery.phase = .connecting → x.listener.roster.entries = [])
    (htakes : x.listener.takesReply = true) (r : Reply) :
    Sound (Effect.tickets (x.listener.resume (x.answered r).2).2.1)
      { (x.answered r).1 with listener := (x.listener.resume (x.answered r).2).1 } := by
  have hresumed := resumed_resume hfits htakes (x.answered r).2
  have hlistener := x.listener_answered r
  generalize (x.listener.resume (x.answered r).2).1 = l' at hresumed ⊢
  generalize Effect.tickets (x.listener.resume (x.answered r).2).2.1 = tickets at hresumed ⊢
  generalize hr' : (x.answered r).2 = r' at hresumed
  -- all replies but those to a disconnection and to an admission
  have hquiet (hlinked : ∀ outcome, x.listener.discovery.phase ≠ .disconnecting outcome)
      (hother : ∀ path mac a, x.listener.task = some (.admission (.subscribing path mac)) →
        r ≠ .ok a) (hentries : l'.roster.entries = x.listener.roster.entries) :
      Sound [] { (x.answered r).1 with listener := l' } :=
    (h.answered hlinked hother).keep (by rw [hlistener, hentries])
  cases hresumed with
  | moved d htask hmoves =>
    exact hquiet hmoves.linked (by rw [htask]; nofun) rfl
  | ended d htask hending hevents hphase =>
    rcases hending with hphase' | ⟨outcome, hphase'⟩
    · have hentries := hconnecting hphase'
      rw [hentries]
      exact hquiet (by rw [hphase']; nofun) (by rw [htask]; nofun) hentries.symm
    · rw [answered_disconnecting htask hphase']
      exact h.closed rfl rfl
  | watching a htask hr
  | listing a htask hr
  | listed a htask hr hall
  | mislisted a f htask hr hf
  | unlisted f htask hr hf
  | unprepared s f htask hr
  | addressed path mac a htask hr haddress hmac
  | ignored path mac a htask hr haddress hmac
  | unaddressed path a f htask hr hf
  | delivering path answer a notices htask hr ha htracks
  | dropped path htask hdropped
  | delivered path a htask
  | served htask =>
    exact hquiet (hfits.linked_of_task htask) (by rw [htask]; nofun) rfl
  | unadmitted a f htask hr =>
    refine hquiet (hfits.linked_of_task htask) (fun path mac b _ hb => ?_) rfl
    rw [eq_error_of_answered (hr'.trans hr)] at hb
    cases hb
  | returned path mac a htask hr hrefused =>
    obtain ⟨hticket, hlink⟩ := answered_subscribing htask (hr'.trans hr)
    rw [hlink, hticket]
    exact (h.subscribed (deviceRoute path) (.device path)).keep rfl
  | admitted path mac a htask hr hpath hmac =>
    obtain ⟨hticket, hlink⟩ := answered_subscribing htask (hr'.trans hr)
    rw [hlink]
    have hsub := h.subscribed (deviceRoute path) (.device path)
    refine Sound.admit hsub (Router.serves_subscribed _ _) ?_ hpath (by rw [hticket])
    rw [← h.topics, List.getElem?_concat_length]

/-! ## Hearing of objects -/

end Session

/-- The listener has subscribed to the objects that appear. -/
def hears (l : Listener κ) : Bool :=
  l.discovery.phase.isSetUp ||
    match l.task with
    | some (.setup .watchingDisappeared) | some (.setup .listing) => true
    | _ => false

variable {l' : Listener κ} {tickets : List Ticket}

/-- A reply after which there is no link has ended the run. -/
theorem Resumed.unlinked {r : Reply} (hfits : l.Fits) (h : Resumed l r l' tickets)
    (hphase : l'.discovery.phase = .off ∨ l'.discovery.phase = .connecting) :
    l.task = none ∧ l'.roster.entries = [] ∧
      (l.discovery.phase = .connecting ∨ ∃ o, l.discovery.phase = .disconnecting o) := by
  have hbusy {task : Task} (htask : l.task = some task) :
      ¬(l.discovery.phase = .off ∨ l.discovery.phase = .connecting) := by
    rcases hfits.phase_of_task htask with hphase | ⟨name, e, hphase⟩ <;> rw [hphase] <;> nofun
  cases h with
  | moved d htask hmoves =>
    rcases hphase with hphase | hphase
    · exact absurd hphase hmoves.running.1
    · exact absurd hphase hmoves.running.2
  | ended d htask hending hevents hphase' => exact ⟨htask, rfl, hending⟩
  | watching a htask hr
  | listing a htask hr
  | addressed path mac a htask hr haddress hmac
  | admitted path mac a htask hr hpath hmac
  | delivering path answer a notices htask hr ha htracks =>
    exact absurd hphase (hbusy htask)
  | _ => exact absurd hphase nofun

/-- A listener comes to hear of objects by its subscription. -/
theorem Resumed.hears {r : Reply} (hfits : l.Fits) (h : Resumed l r l' tickets)
    (hhears : l'.hears = true) :
    l.hears = true ∨ l.task = some (.setup .watchingAppeared) ∧ ∃ a, r = .ok a := by
  have hhandling {task : Task} (htask : l.task = some task) (hevent : ∀ s, task ≠ .setup s) :
      l.hears = true := by
    obtain ⟨name, e, hphase⟩ := hfits.handling htask hevent
    unfold Listener.hears
    rw [hphase]
    rfl
  cases h with
  | moved d htask hmoves =>
    have hsetUp : d.phase.isSetUp = true := by
      unfold Listener.hears following at hhears
      cases hphase : d.phase <;> simp_all [Discovery.Phase.isSetUp]
    unfold Fits at hfits
    rw [htask] at hfits
    refine Or.inl ?_
    unfold Listener.hears
    rw [(hmoves.setUp hsetUp).resolve_right hfits.1]
    rfl
  | ended d htask hending hevents hphase =>
    unfold Listener.hears at hhears
    rw [hphase] at hhears
    cases hhears
  | watching a htask hr => exact Or.inr ⟨htask, a, hr⟩
  | listing a htask hr
  | listed a htask hr hall
  | unlisted f htask hr hf =>
    refine Or.inl ?_
    unfold Listener.hears
    rw [htask]
    exact Bool.or_true _
  | mislisted a f htask hr hf
  | unprepared s f htask hr => cases hhears
  | addressed path mac a htask hr haddress hmac
  | ignored path mac a htask hr haddress hmac
  | unaddressed path a f htask hr hf
  | unadmitted a f htask hr
  | returned path mac a htask hr hrefused
  | admitted path mac a htask hr hpath hmac
  | delivering path answer a notices htask hr ha htracks
  | dropped path htask hdropped
  | delivered path a htask
  | served htask =>
    exact Or.inl (hhandling htask nofun)

/-- A listener that hears of objects does not disconnect. -/
theorem linked_of_hears (hfits : l.Fits) (h : l.hears = true) (outcome : Except Fault Unit) :
    l.discovery.phase ≠ .disconnecting outcome := by
  cases htask : l.task with
  | some task => exact hfits.linked_of_task htask outcome
  | none =>
    intro hphase
    unfold hears at h
    rw [hphase, htask] at h
    cases h

/-- Only a listener with a link takes an item. -/
theorem Woken.linked (h : Woken l l' tickets) :
    ¬(l'.discovery.phase = .off ∨ l'.discovery.phase = .connecting) := by
  cases h with
  | moved d hqueue hmoves => exact fun hphase => hphase.elim hmoves.running.1 hmoves.running.2
  | _ => nofun

namespace Session

variable {x y : Session κ} {es : List (Event κ)} {effects : List Effect}

/-- Signals of objects that appear reach a subscription for them. -/
def Hearing (x : Session κ) : Prop :=
  ∃ t, x.topics[t]? = some .appeared ∧ x.router.Serves t addedRoute

theorem Hearing.subscribed (h : Hearing x) (htopics : x.topics.length = x.router.subscribers.length)
    (route : Route) (topic : Topic) :
    Hearing { x with router := x.router.subscribed route, topics := x.topics ++ [topic] } := by
  obtain ⟨t, htopic, hserves⟩ := h
  refine ⟨t, ?_, hserves.subscribed route⟩
  rw [List.getElem?_append_left (htopics ▸ hserves.lt_length)]
  exact htopic

theorem Hearing.answered (h : Hearing x) (hsound : Sound [] x)
    (hlinked : ∀ outcome, x.listener.discovery.phase ≠ .disconnecting outcome) (r : Reply) :
    Hearing (x.answered r).1 := by
  unfold Session.answered
  split
  · exact h.subscribed hsound.topics _ _
  · exact h
  · rename_i hpending
    obtain ⟨outcome, hphase⟩ := phase_of_disconnect hpending
    exact absurd hphase (hlinked outcome)
  · exact h

/-- Subscriptions to the changes of devices are given back without harm. -/
theorem Hearing.moved (h : Hearing x)
    (hsound : Sound (Effect.tickets effects) { x with listener := l }) :
    Hearing (x.moved l effects) := by
  have hfold (owed : List Ticket) (y : Session κ) (hy : Sound owed y) (hhearing : Hearing y) :
      Hearing (owed.foldl giveBack y) := by
    induction owed generalizing y with
    | nil => exact hhearing
    | cons t rest ih =>
      refine ih _ hy.giveBack ?_
      obtain ⟨t', htopic, hserves⟩ := hhearing
      refine ⟨t', htopic, hserves.unsubscribe ?_⟩
      rintro rfl
      obtain ⟨path, hpath⟩ := hy.returned t' List.mem_cons_self
      rw [htopic] at hpath
      cases hpath
  exact hfold _ _ hsound h

/-! ## The invariant -/

/-- The invariant of a session. -/
structure Held (x : Session κ) : Prop where
  fits : x.listener.Fits
  sound : Sound [] x
  /-- Without a link there are no devices and no subscriptions. -/
  unlinked : x.listener.discovery.phase = .off ∨ x.listener.discovery.phase = .connecting →
    x.listener.roster.entries = [] ∧ ∀ t, x.router.isActive t = false
  hearing : x.listener.hears = true → x.Hearing

/-- A move gives its tickets back and leaves all other subscriptions. -/
theorem isActive_moved_iff {t : Ticket} : (x.moved l effects).router.isActive t = true ↔
    t ∉ Effect.tickets effects ∧ x.router.isActive t = true := by
  have hfold (tickets : List Ticket) (y : Session κ) :
      (tickets.foldl giveBack y).router.isActive t = true ↔
        t ∉ tickets ∧ y.router.isActive t = true := by
    induction tickets generalizing y with
    | nil => simp
    | cons t' rest ih =>
      rw [List.foldl_cons, ih, giveBack, Router.isActive_unsubscribe, List.mem_cons, not_or]
      exact and_left_comm.trans and_assoc.symm
  exact hfold (Effect.tickets effects) { x with listener := l }

theorem isActive_moved {t : Ticket} (h : (x.moved l effects).router.isActive t = true) :
    x.router.isActive t = true :=
  (isActive_moved_iff.mp h).2

theorem hears_congr {l l' : Listener κ} (hphase : l'.discovery.phase = l.discovery.phase)
    (htask : l'.task = l.task) : l'.hears = l.hears := by
  unfold hears
  rw [hphase, htask]

/-- What only posts events keeps the invariant. -/
theorem Held.heard (h : Held x) (hy : Heard x y es) : Held y := by
  obtain ⟨l, router, topics⟩ := y
  obtain ⟨hposted, rfl, rfl⟩ := hy
  refine ⟨hposted.fits h.fits, h.sound.keep (congrArg _ hposted.roster), ?_, ?_⟩
  · intro hphase
    rw [show l.roster = _ from hposted.roster]
    exact h.unlinked (hposted.phase ▸ hphase)
  · rw [hears_congr hposted.phase hposted.task]
    exact h.hearing

/-- What takes devices off, beside the moves of the listener, keeps the invariant. -/
theorem Held.evict (h : Held x) (hdiscovery : l.discovery = x.listener.discovery)
    (htask : l.task = x.listener.task)
    (hsub : List.Sublist l.roster.entries x.listener.roster.entries)
    (howed : ∀ t, t ∈ Effect.tickets effects ↔
      ∃ e ∈ x.listener.roster.entries, e ∉ l.roster.entries ∧ e.ticket = t) :
    Held (x.moved l effects) := by
  have hsound := h.sound.evict hsub howed
  refine ⟨?_, hsound.moved, ?_, ?_⟩
  · rw [listener_moved]
    unfold Fits
    rw [hdiscovery, htask]
    exact h.fits
  · rw [listener_moved, hdiscovery]
    intro hphase
    obtain ⟨hentries, hactive⟩ := h.unlinked hphase
    rw [hentries, List.sublist_nil] at hsub
    refine ⟨hsub, fun t => Bool.eq_false_iff.mpr fun ht => ?_⟩
    have hwas := isActive_moved ht
    rw [hactive t] at hwas
    cases hwas
  · rw [listener_moved, hears_congr (congrArg _ hdiscovery) htask]
    intro hhears
    exact Hearing.moved (h.hearing hhears) hsound

/-- A start is accepted without a link, and else takes all devices off. -/
theorem Held.start (h : Held x) : Held (x.perform .start) := by
  cases hbegins : x.begins .start with
  | true =>
    obtain ⟨-, hoff, heq⟩ := begins_eq_true hbegins
    rw [heq]
    exact ⟨⟨nofun, nofun⟩, h.sound.keep rfl, fun _ => h.unlinked (Or.inl hoff), nofun⟩
  | false =>
    unfold begins at hbegins
    simp only at hbegins
    split at hbegins
    · cases hbegins
    · rename_i f hstart
      simp only [Session.perform, Listener.start, hstart]
      refine h.evict rfl rfl (List.nil_sublist _) fun t => ?_
      simp [Roster.clear, Effect.tickets, Effect.ticket?]

theorem Held.ban (h : Held x) (mac : Value) : Held (x.perform (.ban mac)) := by
  simp only [Session.perform]
  split
  · rename_i hban
    obtain ⟨mac, -, rfl, htickets⟩ := ban_eq_ok hban
    refine h.evict rfl rfl List.filter_sublist fun t => ?_
    rw [htickets, List.mem_map]
    constructor
    · rintro ⟨e, he, rfl⟩
      obtain ⟨he, hmac⟩ := List.mem_filter.mp he
      exact ⟨e, he, fun hkept => by simp [of_decide_eq_true hmac] at hkept, rfl⟩
    · rintro ⟨e, he, hout, rfl⟩
      refine ⟨e, List.mem_filter.mpr ⟨he, decide_eq_true ?_⟩, rfl⟩
      exact Decidable.not_not.mp fun hmac => hout (List.mem_filter.mpr ⟨he, decide_eq_true hmac⟩)
  · exact h

theorem Held.remove (h : Held x) (path interfaces : Value) :
    Held (x.perform (.remove path interfaces)) := by
  simp only [Session.perform]
  split
  · rename_i hremove
    rcases Roster.remove_eq_ok hremove with ⟨rfl, htickets⟩ | ⟨e, he, rfl, htickets⟩
    · refine h.evict rfl rfl (List.Sublist.refl _) fun t => ?_
      rw [htickets]
      simp only [List.not_mem_nil, false_iff]
      rintro ⟨e, he, hout, -⟩
      exact hout he
    · refine h.evict rfl rfl List.filter_sublist fun t => ?_
      rw [htickets]
      exact h.sound.mem_removed he
  · exact h

theorem Held.resume (h : Held x) (htakes : x.listener.takesReply = true) (r : Reply) :
    Held (x.resume r) := by
  have hresumed := resumed_resume h.fits htakes (x.answered r).2
  have hsound := h.sound.resumed h.fits (fun hphase => (h.unlinked (Or.inr hphase)).1) htakes r
  have hlistener := x.listener_answered r
  simp only [Session.resume, hlistener]
  refine ⟨?_, hsound.moved, ?_, ?_⟩
  · rw [listener_moved]
    exact hresumed.fits h.fits
  · rw [listener_moved]
    intro hphase
    obtain ⟨htask, hentries, hending⟩ := hresumed.unlinked h.fits hphase
    refine ⟨hentries, fun t => Bool.eq_false_iff.mpr fun ht => ?_⟩
    have hwas := isActive_moved ht
    rcases hending with hphase | ⟨outcome, hphase⟩
    · rw [isActive_connecting htask hphase, (h.unlinked (Or.inr hphase)).2] at hwas
      cases hwas
    · rw [answered_disconnecting htask hphase, Router.isActive_close h.sound.served] at hwas
      cases hwas
  · rw [listener_moved]
    intro hhears
    refine Hearing.moved ?_ hsound
    rcases hresumed.hears h.fits hhears with hheard | ⟨htask, a, hr⟩
    · exact (h.hearing hheard).answered h.sound (linked_of_hears h.fits hheard) r
    · rw [answered_watching htask hr]
      refine ⟨x.router.subscribers.length, ?_, Router.serves_subscribed _ _⟩
      rw [← h.sound.topics, List.getElem?_concat_length]

theorem Held.reply (h : Held x) (r : Reply) : Held (x.perform (.reply r)) := by
  simp only [Session.perform]
  split
  · rename_i htakes
    exact h.resume htakes r
  · exact h

theorem Sound.woken (h : Sound [] x) {tickets : List Ticket} (hwoken : Woken x.listener l tickets) :
    Sound tickets { x with listener := l } := by
  cases hwoken with
  | removed name path interfaces e rest hqueue he =>
    exact h.evict List.filter_sublist fun t => h.mem_removed he
  | _ => exact h.keep rfl

theorem Held.wake (h : Held x) : Held (x.perform .wake) := by
  simp only [Session.perform]
  split
  · rename_i hitem
    have hwoken := woken_wake hitem
    have hsound := h.sound.woken hwoken
    refine ⟨?_, hsound.moved, ?_, ?_⟩
    · rw [listener_moved]
      exact hwoken.fits
    · rw [listener_moved]
      exact fun hphase => absurd hphase hwoken.linked
    · intro _
      refine Hearing.moved (h.hearing ?_) hsound
      unfold hears
      rw [(phase_of_hasItem hitem).1]
      rfl
  · exact h

/-- **Each happening keeps the invariant.** -/
theorem Held.perform (h : Held x) (happening : Happening κ) : Held (x.perform happening) := by
  cases happening with
  | start => exact h.start
  | stop => exact h.heard ⟨x.listener.posted_stop, rfl, rfl⟩
  | ban mac => exact h.ban mac
  | remove path interfaces => exact h.remove path interfaces
  | post name handler => exact h.heard ⟨x.listener.posted_postItem _ _, rfl, rfl⟩
  | signal route body => exact h.heard (x.heard_deliver route body)
  | reply r => exact h.reply r
  | wake => exact h.wake

theorem held_run (s : Discovery.Settings) (happenings : List (Happening κ)) :
    Held ((ofSettings s).run happenings) := by
  refine List.foldlRecOn (motive := Held) happenings _ ?_ fun x h happening _ =>
    h.perform happening
  refine ⟨⟨nofun, nofun⟩, ⟨rfl, nofun, nofun, List.nodup_nil, nofun, nofun⟩, fun _ => ⟨rfl, ?_⟩,
    nofun⟩
  exact fun _ => rfl

end Session

end Listener

end TagGateway

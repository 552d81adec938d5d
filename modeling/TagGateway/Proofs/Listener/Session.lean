import TagGateway.Proofs.Bus.Router
import TagGateway.Proofs.Listener.Delivery
import TagGateway.Proofs.Listener.Step
import TagGateway.Proofs.Value

/-!
# A listener on its link

The bus grants the subscriptions that a listener asks for, and hands it the signals that reach
them. What happens to both in the course of a run comes from outside: replies, signals, bans.

* `Listener.Session` — a listener, the routes of its link, and what each subscription is for.
* `Session.Happening`, `Session.perform`, `Session.run` — what may happen, in any order.
* `Session.brought` — the events that a signal brings, one for each active subscription on its
  route; `Session.heard_deliver` — that they are what gets into the queue.
* `Session.reply_cases`, `Session.wake_cases` — one reply and one item of the queue.
* `Session.fits_perform` — its task is always the one that discovery waits for.
* `Session.events_perform` — what goes through the queue; `Session.beside_perform` — what does not
  move the listener.
-/

namespace TagGateway

open Bus

namespace Listener

variable {κ : Type}

/-- A listener on its link to the bus. -/
structure Session (κ : Type) where
  listener : Listener κ
  router : Router := {}
  /-- What the subscriptions are for, by ticket. -/
  topics : List Topic := []

/-- The event that a subscription for some topic makes of the values of a signal. -/
def event? (topic : Topic) (body : List Value) : Option (Event κ) :=
  match topic, body with
  | .appeared, [path, interfaces] => some (.appeared path interfaces)
  | .disappeared, [path, interfaces] => some (.disappeared path interfaces)
  | .device path, [interface, changed, _] =>
    if interface != .text deviceInterface then none
    else
      match changed.elements with
      | .ok names => some (.changed path names)
      | .error _ => none
  | _, _ => none

namespace Session

/-- What may happen to a listener on its link. -/
inductive Happening (κ : Type)
  | start
  | stop
  | ban (mac : Value)
  /-- A device is taken off without an event. -/
  | remove (path interfaces : Value)
  /-- Others post a handler of their own. -/
  | post (name : String) (handler : κ)
  /-- A signal arrives from the bus. -/
  | signal (route : Route) (body : Value)
  /-- What the listener waits for has arrived. -/
  | reply (r : Reply)
  /-- The listener takes the next event. -/
  | wake

/-- The listener as the receiver of the signals on its link. -/
def receivers : Receivers (Session κ) where
  router x := x.router
  call t body x :=
    match x.topics[t]? with
    | none => (x, none)
    | some topic =>
      match topic.arguments body >>= x.listener.signal topic with
      | .ok (listener, _) => ({ x with listener }, none)
      | .error f => (x, some f)
  report _ x := x

/-- Give a subscription back. -/
def giveBack (x : Session κ) (t : Ticket) : Session κ :=
  { x with router := (x.router.unsubscribe t).1 }

/-- The listener has moved, and its effects are carried out. -/
def moved (x : Session κ) (listener : Listener κ) (effects : List Effect) : Session κ :=
  (Effect.tickets effects).foldl giveBack { x with listener }

/-- The link does what the listener waits for, if the reply says so; a subscription that it grants
has the next free ticket. -/
def answered (x : Session κ) (r : Reply) : Session κ × Reply :=
  match x.listener.pending, r with
  | .reply (.subscribe path interface member topic), .ok a =>
    ({ x with
        router := x.router.subscribed ⟨path, interface, member⟩
        topics := x.topics ++ [topic] },
      .ok { a with ticket := x.router.subscribers.length })
  | .reply .connect, .ok _ => ({ x with router := x.router.opened }, r)
  | .reply .disconnect, _ => ({ x with router := x.router.close }, r)
  | _, _ => (x, r)

/-- A reply arrives. -/
def resume (x : Session κ) (r : Reply) : Session κ :=
  let (x, r) := x.answered r
  let (listener, effects, _) := x.listener.resume r
  x.moved listener effects

/-- Something happens; what fails changes nothing. -/
def perform (x : Session κ) : Happening κ → Session κ
  | .start =>
    let (listener, effects, _) := x.listener.start
    x.moved listener effects
  | .stop => { x with listener := x.listener.stop }
  | .ban mac =>
    match x.listener.ban mac with
    | .ok (listener, effects) => x.moved listener effects
    | .error _ => x
  | .remove path interfaces =>
    match x.listener.roster.remove path interfaces with
    | .ok (roster, effects, _) => x.moved { x.listener with roster } effects
    | .error _ => x
  | .post name handler => { x with listener := (x.listener.post name (.foreign handler)).1 }
  | .signal route body => receivers.deliver route body x
  | .reply r => if x.listener.takesReply then x.resume r else x
  | .wake =>
    if x.listener.hasItem then x.moved x.listener.wake.1 x.listener.wake.2.1 else x

/-- All that happens, in order. -/
def run (x : Session κ) (happenings : List (Happening κ)) : Session κ := happenings.foldl perform x

/-- The session of a listener that was never used. -/
def ofSettings (s : Discovery.Settings) : Session κ := { listener := Listener.ofSettings s }

/-- The event that a signal brings through one of the subscriptions. -/
def through (x : Session κ) (body : Value) (t : Ticket) : Option (Event κ) :=
  match x.topics[t]? with
  | none => none
  | some topic =>
    match topic.arguments body with
    | .ok values => event? topic values
    | .error _ => none

/-- The events that a signal brings: what each active subscription on its route makes of it. -/
def brought (x : Session κ) (route : Route) (body : Value) : List (Event κ) :=
  ((x.router.targets route).filter x.router.isActive).filterMap (x.through body.unwrap)

variable {x : Session κ}

/-! ## The listener and the link -/

theorem run_append (x : Session κ) (before after : List (Happening κ)) :
    x.run (before ++ after) = (x.run before).run after :=
  List.foldl_append

@[simp] theorem listener_moved (x : Session κ) (l : Listener κ) (effects : List Effect) :
    (x.moved l effects).listener = l := by
  refine List.foldlRecOn (motive := fun y : Session κ => y.listener = l)
    (Effect.tickets effects) _ rfl ?_
  exact fun y hy t _ => hy

@[simp] theorem listener_answered (x : Session κ) (r : Reply) :
    (x.answered r).1.listener = x.listener := by
  unfold answered
  split <;> rfl

theorem listener_resume (x : Session κ) (r : Reply) :
    (x.resume r).listener = (x.listener.resume (x.answered r).2).1 := by
  simp only [resume, listener_moved, listener_answered]

/-- What fails stays a failure. -/
theorem eq_error_of_answered {r : Reply} {f : Fault} (h : (x.answered r).2 = .error f) :
    r = .error f := by
  unfold answered at h
  split at h
  · cases h
  · exact h
  · exact h
  · exact h

/-- A reply to a request for all properties says nothing to the link. -/
theorem answered_reading {path : String} (h : x.listener.task = some (.emission (.reading path)))
    (r : Reply) : x.answered r = (x, r) := by
  have hpending : x.listener.pending = .reply (.properties path) := by
    unfold pending
    rw [h]
    rfl
  unfold answered
  rw [hpending]
  rfl

/-! ## What gets into the queue -/

end Session

/-- A listener with more events in its queue, if a run works them off. -/
structure Posted (l l' : Listener κ) (events : List (Event κ)) : Prop where
  task : l'.task = l.task
  phase : l'.discovery.phase = l.discovery.phase
  roster : l'.roster = l.roster
  events : l'.discovery.events =
    l.discovery.events ++ if l.discovery.isLive then events else []

variable {l l' l'' : Listener κ} {es more : List (Event κ)}

theorem isLive_congr {d d' : Discovery (Event κ)} (h : d'.phase = d.phase) :
    d'.isLive = d.isLive := by
  unfold Discovery.isLive
  rw [h]

theorem Posted.refl (l : Listener κ) : Posted l l [] := ⟨rfl, rfl, rfl, by simp⟩

theorem Posted.trans (h : Posted l l' es) (h' : Posted l' l'' more) :
    Posted l l'' (es ++ more) where
  task := h'.task.trans h.task
  phase := h'.phase.trans h.phase
  roster := h'.roster.trans h.roster
  events := by
    rw [h'.events, h.events, isLive_congr h.phase]
    cases l.discovery.isLive <;> simp

theorem Posted.fits (h : Posted l l' es) (hfits : l.Fits) : l'.Fits := by
  unfold Fits at hfits ⊢
  rw [h.task, h.phase]
  exact hfits

/-- What happens beside the moves of a listener leaves what it waits for, and at most takes devices
off. -/
structure Beside (l l' : Listener κ) : Prop where
  task : l'.task = l.task
  phase : l'.discovery.phase = l.discovery.phase
  adapter : l'.roster.adapterPath = l.roster.adapterPath
  entries : l'.roster.entries ⊆ l.roster.entries

theorem Posted.beside (h : Posted l l' es) : Beside l l' :=
  ⟨h.task, h.phase, congrArg _ h.roster, by rw [h.roster]; exact List.Subset.refl _⟩

/-- An item that is put to discovery. -/
theorem posted_postItem (l : Listener κ) (name : String) (item : Discovery.Item (Event κ)) :
    Posted l { l with discovery := (l.discovery.postItem name item).1 } item.event?.toList := by
  unfold Discovery.postItem
  cases hlive : l.discovery.isLive with
  | true =>
    refine ⟨rfl, rfl, rfl, ?_⟩
    cases item <;> simp [Discovery.events, Discovery.Item.event?, hlive]
  | false => exact ⟨rfl, rfl, rfl, by simp [hlive]⟩

theorem posted_stop (l : Listener κ) : Posted l l.stop [] := by
  refine ⟨rfl, rfl, rfl, ?_⟩
  simp only [stop, Discovery.stop, Discovery.events]
  split <;> simp [Discovery.Item.event?]

/-- A signal that is taken posts what it brings; one that is not brings nothing. -/
theorem signal_posted (l : Listener κ) (topic : Topic) (body : List Value) :
    (∃ l' effects, l.signal topic body = .ok (l', effects) ∧
        Posted l l' (event? topic body).toList) ∨
      (∃ f, l.signal topic body = .error f) ∧ (event? topic body : Option (Event κ)) = none := by
  unfold signal
  split
  · exact Or.inl ⟨_, _, rfl, posted_postItem l _ _⟩
  · exact Or.inl ⟨_, _, rfl, posted_postItem l _ _⟩
  · exact Or.inl ⟨_, _, rfl, posted_postItem l _ (.adapterChanged _ _)⟩
  · rename_i path interface changed _
    split
    · rename_i hother
      simp only [event?, hother, if_true]
      exact Or.inl ⟨_, _, rfl, .refl l⟩
    · rename_i hdevice
      simp only [event?, hdevice, Bool.false_eq_true, if_false]
      cases hchanged : changed.elements with
      | error f => exact Or.inr ⟨⟨f, rfl⟩, rfl⟩
      | ok names => exact Or.inl ⟨_, _, rfl, posted_postItem l _ (.event _ (.changed path names))⟩
  · rename_i happeared hdisappeared _ hdevice
    refine Or.inr ⟨⟨_, rfl⟩, ?_⟩
    unfold event?
    split
    · exact (happeared _ _ rfl rfl).elim
    · exact (hdisappeared _ _ rfl rfl).elim
    · exact (hdevice _ _ _ _ rfl rfl).elim
    · rfl

/-- A ban takes off all devices with its address. -/
theorem ban_eq_ok {v : Value} {effects : List Effect} (h : l.ban v = .ok (l', effects)) :
    ∃ mac, Address.ofValue v = .ok mac ∧
      l' = { l with roster := { l.roster with
        entries := l.roster.entries.filter (·.mac ≠ mac)
        blacklist := l.roster.blacklist.insert mac } } ∧
      Effect.tickets effects = (l.roster.entries.filter (·.mac = mac)).map (·.ticket) := by
  unfold ban at h
  cases hban : l.roster.ban v with
  | error f =>
    rw [hban] at h
    cases h
  | ok banned =>
    obtain ⟨mac, hv, hroster, htickets⟩ := Roster.ban_eq_ok hban
    rw [hban] at h
    cases h
    exact ⟨mac, hv, by rw [← hroster], htickets⟩

namespace Session

variable {x y z : Session κ}

/-- A session whose listener has more events in its queue, and nothing else is changed. -/
structure Heard (x y : Session κ) (events : List (Event κ)) : Prop where
  posted : Posted x.listener y.listener events
  router : y.router = x.router
  topics : y.topics = x.topics

theorem Heard.refl (x : Session κ) : Heard x x [] := ⟨.refl x.listener, rfl, rfl⟩

theorem Heard.trans (h : Heard x y es) (h' : Heard y z more) :
    Heard x z (es ++ more) :=
  ⟨h.posted.trans h'.posted, h'.router.trans h.router, h'.topics.trans h.topics⟩

theorem Heard.through (h : Heard x y es) : y.through = x.through := by
  funext body t
  unfold Session.through
  rw [h.topics]

/-- A subscriber that is called posts what the signal brings through its subscription. -/
theorem heard_callOne (x : Session κ) (route : Route) (body : Value) (t : Ticket) :
    Heard x (receivers.callOne route body x t) (x.through body t).toList := by
  have hcall : Heard x (receivers.call t body x).1 (x.through body t).toList := by
    unfold Session.through
    simp only [receivers]
    cases x.topics[t]? with
    | none => exact .refl x
    | some topic =>
      cases harguments : topic.arguments body with
      | error f =>
        simp only [bind, Except.bind, harguments]
        exact .refl x
      | ok values =>
        simp only [bind, Except.bind, harguments]
        rcases x.listener.signal_posted topic values with
          ⟨l', effects, hsignal, hposted⟩ | ⟨⟨f, hsignal⟩, hnone⟩
        · rw [hsignal]
          exact ⟨hposted, rfl, rfl⟩
        · rw [hsignal, hnone]
          exact .refl x
  unfold Receivers.callOne
  split
  · rename_i heq
    rw [heq] at hcall
    exact hcall
  · rename_i heq
    rw [heq] at hcall
    exact hcall

/-- The subscribers of a signal are called in order, those that are active. -/
theorem heard_foldl (x : Session κ) (route : Route) (body : Value) (ts : List Ticket) :
    Heard x
      (ts.foldl (fun y t =>
        if (receivers.router y).isActive t then receivers.callOne route body y t else y) x)
      ((ts.filter x.router.isActive).filterMap (x.through body)) := by
  induction ts generalizing x with
  | nil => exact .refl x
  | cons t rest ih =>
    rw [List.foldl_cons]
    cases hactive : x.router.isActive t with
    | false =>
      have hskip : (receivers.router x).isActive t = false := hactive
      rw [if_neg (by rw [hskip]; nofun), List.filter_cons_of_neg (by simp [hactive])]
      exact ih x
    | true =>
      have hcall : (receivers.router x).isActive t = true := hactive
      have hone := x.heard_callOne route body t
      have hrest := ih (receivers.callOne route body x t)
      rw [hone.router, hone.through] at hrest
      have hboth := hone.trans hrest
      rw [if_pos hcall, List.filter_cons_of_pos hactive, List.filterMap_cons]
      cases hevent : x.through body t with
      | none =>
        rw [hevent] at hboth
        exact hboth
      | some e =>
        rw [hevent] at hboth
        exact hboth

/-- **A signal posts what it brings.** -/
theorem heard_deliver (x : Session κ) (route : Route) (body : Value) :
    Heard x (receivers.deliver route body x) (x.brought route body) :=
  x.heard_foldl route body.unwrap (x.router.targets route)

/-! ## The task fits -/

/-- A reply moves a listener that waits for one, and nothing else. -/
theorem reply_cases (hfits : x.listener.Fits) (r : Reply) :
    (x.listener.takesReply = true ∧ ∃ tickets,
      Resumed x.listener (x.answered r).2 (x.perform (.reply r)).listener tickets) ∨
    (x.listener.takesReply = false ∧ x.perform (.reply r) = x) := by
  simp only [perform]
  cases htakes : x.listener.takesReply with
  | true =>
    rw [if_pos rfl, listener_resume]
    exact Or.inl ⟨rfl, _, resumed_resume hfits htakes _⟩
  | false => exact Or.inr ⟨rfl, if_neg nofun⟩

/-- An item is taken by a listener that waits for one, and by no other. -/
theorem wake_cases (x : Session κ) :
    (x.listener.hasItem = true ∧ ∃ tickets,
      Woken x.listener (x.perform .wake).listener tickets) ∨
    (x.listener.hasItem = false ∧ x.perform .wake = x) := by
  simp only [perform]
  cases hitem : x.listener.hasItem with
  | true =>
    rw [if_pos rfl, listener_moved]
    exact Or.inl ⟨rfl, _, woken_wake hitem⟩
  | false => exact Or.inr ⟨rfl, if_neg nofun⟩

/-- **The task under way is always the one that discovery waits for.** -/
theorem fits_perform (h : x.listener.Fits) (happening : Happening κ) :
    (x.perform happening).listener.Fits := by
  cases happening with
  | start =>
    simp only [perform, listener_moved, start]
    split
    · rename_i discovery hstart
      obtain ⟨-, rfl⟩ := Discovery.start_eq_ok hstart
      exact ⟨nofun, nofun⟩
    · exact h
  | stop => exact x.listener.posted_stop.fits h
  | ban mac =>
    simp only [perform]
    split
    · rename_i hban
      obtain ⟨mac, -, rfl, -⟩ := ban_eq_ok hban
      rw [listener_moved]
      exact h
    · exact h
  | remove path interfaces =>
    simp only [perform]
    split
    · rw [listener_moved]
      exact h
    · exact h
  | post name handler =>
    exact (x.listener.posted_postItem name (.event name (.foreign handler))).fits h
  | signal route body => exact (x.heard_deliver route body).posted.fits h
  | reply r =>
    rcases reply_cases h r with ⟨-, _, hresumed⟩ | ⟨-, hsame⟩
    · exact hresumed.fits h
    · rw [hsame]
      exact h
  | wake =>
    rcases x.wake_cases with ⟨-, _, hwoken⟩ | ⟨-, hsame⟩
    · exact hwoken.fits
    · rw [hsame]
      exact h

end Session

/-! ## Through the queue -/

/-- The events that a reply brings: the objects that the service already knows. -/
def arrived (l : Listener κ) (r : Reply) : List (Event κ) :=
  match l.task, r with
  | some (.setup .listing), .ok a =>
    (listed a).1.map fun object => .appeared object.1 object.2
  | _, _ => []

theorem arrived_eq_nil {r : Reply} (h : l.task ≠ some (.setup .listing)) : l.arrived r = [] := by
  unfold arrived
  split
  · rename_i htask
    exact absurd htask h
  · rfl

/-- A task that is no handler of others waits for a reply. -/
theorem takesReply_of_task {task : Task} (htask : l.task = some task) (h : task ≠ .foreign) :
    l.takesReply = true := by
  unfold takesReply pending
  rw [htask]
  cases task with
  | foreign => exact absurd rfl h
  | _ => rfl

theorem arrived_of_idle {r : Reply} (h : l.takesReply = false) : l.arrived r = [] := by
  refine arrived_eq_nil fun htask => ?_
  rw [takesReply_of_task htask nofun] at h
  cases h

theorem arrived_error (l : Listener κ) (f : Fault) : l.arrived (.error f) = [] := by
  unfold arrived
  split
  · rename_i heq
    cases heq
  · rfl

theorem events_queued (l : Listener κ) (objects : List (Value × Value)) :
    (l.queued objects).discovery.events =
      l.discovery.events ++ objects.map fun object => .appeared object.1 object.2 := by
  simp only [queued, Discovery.events, List.filterMap_append, List.filterMap_map]
  exact congrArg _ (congrFun List.filterMap_eq_map _)

/-- A reply leaves the events that wait, and those that it brings come after them. -/
theorem Resumed.events {r : Reply} {tickets : List Ticket} (h : Resumed l r l' tickets) :
    l'.discovery.events = l.discovery.events ++ l.arrived r := by
  cases h with
  | moved d htask hmoves =>
    rw [arrived_eq_nil (by simp [htask]), List.append_nil]
    exact hmoves.events
  | ended d htask hending hevents hphase =>
    rw [arrived_eq_nil (by simp [htask]), List.append_nil]
    exact hevents
  | listed a htask hr hall
  | mislisted a f htask hr hf =>
    subst hr
    unfold arrived
    rw [htask]
    exact l.events_queued (Listener.listed a).1
  | unlisted f htask hr hf =>
    subst hr
    rw [arrived_error]
    simp [prepared, Discovery.events]
  | unprepared s f htask hr =>
    subst hr
    rw [arrived_error]
    exact (List.append_nil _).symm
  | watching a htask hr
  | listing a htask hr
  | addressed path mac a htask hr haddress hmac
  | ignored path mac a htask hr haddress hmac
  | unaddressed path a f htask hr hf
  | unadmitted a f htask hr
  | returned path mac a htask hr hrefused
  | admitted path mac a htask hr hpath hmac
  | delivering path answer a notices htask hr ha htracks
  | dropped path htask hdropped
  | delivered path a htask
  | served htask =>
    rw [arrived_eq_nil (by simp [htask])]
    exact (List.append_nil _).symm

namespace Session

/-- Whether a happening begins a run. -/
def begins (x : Session κ) : Happening κ → Bool
  | .start =>
    match x.listener.discovery.start with
    | .ok _ => true
    | .error _ => false
  | _ => false

/-- What it is to begin a run: the queue is empty and no task is under way. -/
theorem begins_eq_true {x : Session κ} {happening : Happening κ} (h : x.begins happening = true) :
    happening = .start ∧ x.listener.discovery.phase = .off ∧
      x.perform happening = { x with
        listener := { x.listener with
          discovery := { x.listener.discovery with phase := .connecting, queue := [] }
          task := none } } := by
  cases happening with
  | start =>
    unfold begins at h
    simp only at h
    split at h
    · rename_i d hstart
      obtain ⟨hoff, rfl⟩ := Discovery.start_eq_ok hstart
      refine ⟨rfl, hoff, ?_⟩
      simp only [perform, start, hstart]
      rfl
    · cases h
  | _ => cases h

/-- **Only replies, items of the queue and the beginning of a run move a listener.** -/
theorem beside_perform {x : Session κ} {happening : Happening κ}
    (hbegins : x.begins happening = false) (hreply : ∀ r, happening ≠ .reply r)
    (hwake : happening ≠ .wake) : Beside x.listener (x.perform happening).listener := by
  cases happening with
  | start =>
    unfold begins at hbegins
    simp only at hbegins
    split at hbegins
    · cases hbegins
    · rename_i hstart
      simp only [perform, listener_moved, start, hstart]
      exact ⟨rfl, rfl, rfl, List.nil_subset _⟩
  | stop => exact x.listener.posted_stop.beside
  | ban mac =>
    simp only [perform]
    split
    · rename_i hban
      obtain ⟨_, -, rfl, -⟩ := ban_eq_ok hban
      rw [listener_moved]
      exact ⟨rfl, rfl, rfl, List.filter_sublist.subset⟩
    · exact (Posted.refl _).beside
  | remove path interfaces =>
    simp only [perform]
    split
    · rename_i hremove
      rw [listener_moved]
      rcases Roster.remove_eq_ok hremove with ⟨rfl, -⟩ | ⟨e, -, rfl, -⟩
      · exact (Posted.refl _).beside
      · exact ⟨rfl, rfl, rfl, List.filter_sublist.subset⟩
    · exact (Posted.refl _).beside
  | post name handler => exact (x.listener.posted_postItem _ _).beside
  | signal route body => exact (x.heard_deliver route body).posted.beside
  | reply r => exact absurd rfl (hreply r)
  | wake => exact absurd rfl hwake

/-- The events that a happening puts into the queue, while a run works it off. -/
def arrivals (x : Session κ) (happening : Happening κ) : List (Event κ) :=
  if x.listener.discovery.isLive then
    match happening with
    | .post _ handler => [.foreign handler]
    | .signal route body => x.brought route body
    | .reply r => x.listener.arrived r
    | .start | .stop | .ban _ | .remove _ _ | .wake => []
  else []

/-- The event that a happening takes from the queue. -/
def taken? (x : Session κ) (happening : Happening κ) : Option (Event κ) :=
  match happening, x.listener.discovery.queue with
  | .wake, .event _ e :: _ => if x.listener.hasItem then some e else none
  | _, _ => none

theorem arrived_answered (x : Session κ) (r : Reply) :
    x.listener.arrived (x.answered r).2 = x.listener.arrived r := by
  unfold answered
  split
  · unfold arrived
    cases x.listener.task with
    | none => rfl
    | some task =>
      cases task with
      | setup s => cases s <;> rfl
      | _ => rfl
  · rfl
  · rfl
  · rfl

variable {x : Session κ}

/-- An event that is taken was the first of those that waited. -/
theorem taken_event {name : String} {e : Event κ} {rest : List (Discovery.Item (Event κ))}
    (hitem : x.listener.hasItem = true)
    (hqueue : x.listener.discovery.queue = .event name e :: rest) :
    x.taken? .wake = some e ∧
      x.listener.discovery.events = e :: rest.filterMap Discovery.Item.event? := by
  unfold taken? Discovery.events
  rw [hqueue]
  exact ⟨if_pos hitem, rfl⟩

theorem taken_none (h : ∀ name e rest, x.listener.discovery.queue ≠ .event name e :: rest) :
    x.taken? .wake = none := by
  unfold taken?
  split
  · rename_i heq
    exact absurd heq (h _ _ _)
  · rfl

theorem taken_of_hasItem_eq_false (hitem : x.listener.hasItem = false) :
    x.taken? .wake = none := by
  unfold taken?
  split
  · rw [hitem]
    rfl
  · rfl

theorem taken_woken {l' : Listener κ} {tickets : List Ticket} (h : Woken x.listener l' tickets)
    (hitem : x.listener.hasItem = true) :
    (x.taken? .wake).toList ++ l'.discovery.events = x.listener.discovery.events := by
  cases h with
  | moved d hqueue hmoves =>
    rw [taken_none hqueue]
    exact hmoves.events
  | addressing name path interfaces rest hqueue hpath hholds hcovers
  | refused name path interfaces rest hqueue hrefused
  | removed name path interfaces e rest hqueue he
  | unremoved name path interfaces rest hqueue
  | reading name path names rest hqueue hdue htracks
  | passed name path names rest hqueue hpassed
  | foreign name handler rest hqueue =>
    obtain ⟨htaken, hevents⟩ := taken_event hitem hqueue
    rw [htaken, hevents]
    rfl

/-- Events come only to a listener with a run. -/
theorem arrivals_reply (hfits : x.listener.Fits) (r : Reply) :
    x.arrivals (.reply r) = x.listener.arrived r := by
  unfold arrivals
  split
  · rfl
  · rename_i hdead
    refine (arrived_eq_nil fun htask => hdead ?_).symm
    unfold Discovery.isLive
    rw [hfits.preparing htask]

/-- **What goes through the queue.** The events that wait before a happening, and those that it
brings, are the one that it takes and those that wait after it. -/
theorem events_perform (hfits : x.listener.Fits) {happening : Happening κ}
    (hbegins : x.begins happening = false) :
    (x.taken? happening).toList ++ (x.perform happening).listener.discovery.events =
      x.listener.discovery.events ++ x.arrivals happening := by
  cases happening with
  | start =>
    simp only [begins] at hbegins
    simp only [arrivals, ite_self, List.append_nil, perform, listener_moved, start]
    cases hstart : x.listener.discovery.start with
    | ok d =>
      rw [hstart] at hbegins
      cases hbegins
    | error f => rfl
  | stop =>
    simp only [arrivals, ite_self]
    exact x.listener.posted_stop.events.trans (by simp)
  | ban mac =>
    simp only [arrivals, ite_self, List.append_nil, perform]
    split
    · rename_i hban
      obtain ⟨_, -, rfl, -⟩ := ban_eq_ok hban
      rw [listener_moved]
      rfl
    · rfl
  | remove path interfaces =>
    simp only [arrivals, ite_self, List.append_nil, perform]
    split
    · rw [listener_moved]
      rfl
    · rfl
  | post name handler =>
    exact (x.listener.posted_postItem name (.event name (.foreign handler))).events
  | signal route body =>
    exact (x.heard_deliver route body).posted.events
  | reply r =>
    rw [arrivals_reply hfits]
    rcases reply_cases hfits r with ⟨-, _, hresumed⟩ | ⟨hidle, hsame⟩
    · rw [← arrived_answered]
      exact hresumed.events
    · rw [hsame, arrived_of_idle hidle]
      exact (List.append_nil _).symm
  | wake =>
    simp only [arrivals, ite_self, List.append_nil]
    rcases x.wake_cases with ⟨hitem, _, hwoken⟩ | ⟨hitem, hsame⟩
    · exact taken_woken hwoken hitem
    · rw [hsame, taken_of_hasItem_eq_false hitem]
      rfl

end Session

end Listener

end TagGateway

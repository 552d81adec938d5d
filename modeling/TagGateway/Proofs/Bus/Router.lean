import TagGateway.Bus.Router

/-!
# What a subscription keeps through changes of the routes

* `Router.Serves` — a ticket belongs to an active subscription of a route, and signals on that
  route reach it.
* `Router.serves_subscribed` — a new subscription is served under the next free ticket.
* `Router.Serves.subscribed`, `Router.Serves.unsubscribe` — the frame: a subscription stays served
  while others come, and while others are given back.
* `Router.IsOn` — a ticket is that of an active subscription on a route; `Router.isOn_subscribed`
  and `Router.isOn_deactivate` — what becomes of it.
* `Router.isActive_subscribed`, `Router.isActive_unsubscribe` and `Router.isActive_close` — which
  subscriptions are active after each change.
-/

namespace TagGateway.Bus.Router

/-- A ticket belongs to an active subscription of a route, and signals on it reach the ticket. -/
def Serves (r : Router) (t : Ticket) (route : Route) : Prop :=
  r.subscribers[t]? = some ⟨route, true⟩ ∧ t ∈ r.targets route

theorem Serves.lt_length {r : Router} {t : Ticket} {route : Route} (h : r.Serves t route) :
    t < r.subscribers.length :=
  (List.getElem?_eq_some_iff.mp h.1).1

/-! ## Subscribing -/

@[simp] theorem length_subscribed (r : Router) (route : Route) :
    (r.subscribed route).subscribers.length = r.subscribers.length + 1 := by
  simp [Router.subscribed]

theorem targets_subscribed_self (r : Router) (route : Route) :
    (r.subscribed route).targets route = r.targets route ++ [r.subscribers.length] := by
  simp only [Router.targets, Router.subscribed, Assoc.get?_put_self, Option.getD_some]

theorem targets_subscribed_of_ne {r : Router} {route route' : Route} (h : route' ≠ route) :
    (r.subscribed route).targets route' = r.targets route' := by
  simp only [Router.targets, Router.subscribed, Assoc.get?_put_of_ne h]

/-- A new subscription is served under the next free ticket. -/
theorem serves_subscribed (r : Router) (route : Route) :
    (r.subscribed route).Serves r.subscribers.length route := by
  constructor
  · simp [Router.subscribed]
  · rw [targets_subscribed_self]
    exact List.mem_append_right _ List.mem_cons_self

theorem Serves.subscribed {r : Router} {t : Ticket} {route : Route} (h : r.Serves t route)
    (route' : Route) : (r.subscribed route').Serves t route := by
  constructor
  · simp only [Router.subscribed]
    rw [List.getElem?_append_left h.lt_length]
    exact h.1
  · by_cases hr : route = route'
    · subst hr
      rw [targets_subscribed_self]
      exact List.mem_append_left _ h.2
    · rw [targets_subscribed_of_ne hr]
      exact h.2

/-! ## Giving back -/

theorem mem_targets_unroute {r : Router} {t t' : Ticket} {route route' : Route}
    (ht : t ∈ r.targets route) (hne : t ≠ t') : t ∈ (r.unroute route' t').targets route := by
  have herase (hr : route = route') : t ∈ (r.targets route').erase t' := by
    subst hr
    exact (List.mem_erase_of_ne hne).mpr ht
  unfold Router.unroute
  split
  · rename_i hnil
    have hr : route ≠ route' := by
      intro hr
      have := herase hr
      rw [hnil] at this
      cases this
    simp only [Router.targets, Assoc.get?_erase_of_ne hr]
    exact ht
  · by_cases hr : route = route'
    · simp only [Router.targets, hr, Assoc.get?_put_self, Option.getD_some]
      exact herase hr
    · simp only [Router.targets, Assoc.get?_put_of_ne hr]
      exact ht

theorem subscribers_unroute (r : Router) (route : Route) (t : Ticket) :
    (r.unroute route t).subscribers = r.subscribers := by
  unfold Router.unroute
  split <;> rfl

/-- What giving a subscription back does to the table. -/
theorem unsubscribe_cases (r : Router) (t : Ticket) :
    (r.unsubscribe t).1 = r ∨
      ∃ route, (r.unsubscribe t).1 = (r.deactivate t).unroute route t := by
  unfold Router.unsubscribe
  split
  · exact Or.inr ⟨_, rfl⟩
  · exact Or.inl rfl

@[simp] theorem length_unsubscribe (r : Router) (t : Ticket) :
    (r.unsubscribe t).1.subscribers.length = r.subscribers.length := by
  rcases unsubscribe_cases r t with h | ⟨route, h⟩
  · rw [h]
  · rw [h, subscribers_unroute]
    simp [Router.deactivate]

theorem Serves.unsubscribe {r : Router} {t t' : Ticket} {route : Route} (h : r.Serves t route)
    (hne : t ≠ t') : (r.unsubscribe t').1.Serves t route := by
  rcases unsubscribe_cases r t' with hr | ⟨route', hr⟩
  · rw [hr]
    exact h
  · rw [hr]
    constructor
    · rw [subscribers_unroute]
      simp only [Router.deactivate]
      rw [List.getElem?_modify_ne _ _ (Ne.symm hne)]
      exact h.1
    · exact mem_targets_unroute (r := r.deactivate t') h.2 hne

/-! ## Active subscriptions -/

variable {r : Router} {t t' : Ticket}

theorem isActive_iff :
    r.isActive t = true ↔ ∃ route, r.subscribers[t]? = some ⟨route, true⟩ := by
  unfold Router.isActive
  split
  · rename_i s hs
    rw [hs]
    constructor
    · intro hactive
      exact ⟨s.route, congrArg some (by rw [← hactive])⟩
    · rintro ⟨route, hroute⟩
      cases hroute
      rfl
  · rename_i hnone
    rw [hnone]
    exact iff_of_false nofun nofun

theorem Serves.isActive {route : Route} (h : r.Serves t route) : r.isActive t = true :=
  isActive_iff.mpr ⟨route, h.1⟩

theorem lt_length_of_isActive (h : r.isActive t = true) : t < r.subscribers.length := by
  obtain ⟨route, hroute⟩ := isActive_iff.mp h
  exact (List.getElem?_eq_some_iff.mp hroute).1

/-- A ticket is that of an active subscription on a route. -/
def IsOn (r : Router) (t : Ticket) (route : Route) : Prop :=
  r.subscribers[t]? = some ⟨route, true⟩

instance (r : Router) (t : Ticket) (route : Route) : Decidable (r.IsOn t route) :=
  inferInstanceAs (Decidable (_ = _))

variable {route route' : Route}

theorem isActive_iff_isOn : r.isActive t = true ↔ ∃ route, r.IsOn t route := isActive_iff

/-- A subscription is on one route. -/
theorem IsOn.unique (h : r.IsOn t route) (h' : r.IsOn t route') : route = route' := by
  unfold IsOn at h h'
  rw [h] at h'
  cases h'
  rfl

theorem isOn_subscribed :
    (r.subscribed route').IsOn t route ↔
      r.IsOn t route ∨ t = r.subscribers.length ∧ route = route' := by
  unfold IsOn
  simp only [Router.subscribed, List.getElem?_append]
  split
  · rename_i hlt
    exact (or_iff_left fun h => Nat.ne_of_lt hlt h.1).symm
  · rename_i hge
    rw [List.getElem?_eq_none (Nat.le_of_not_lt hge)]
    constructor
    · intro hon
      obtain ⟨hlt, hroute⟩ := List.getElem?_eq_some_iff.mp hon
      rw [List.length_singleton, Nat.lt_one_iff] at hlt
      have hlast : t = r.subscribers.length :=
        Nat.le_antisymm (Nat.le_of_sub_eq_zero hlt) (Nat.le_of_not_lt hge)
      subst hlast
      simp only [Nat.sub_self, List.getElem_cons_zero] at hroute
      cases hroute
      exact Or.inr ⟨rfl, rfl⟩
    · rintro (hon | ⟨rfl, rfl⟩)
      · cases hon
      · simp

theorem isOn_deactivate : (r.deactivate t').IsOn t route ↔ t ≠ t' ∧ r.IsOn t route := by
  unfold IsOn
  simp only [Router.deactivate]
  by_cases htt : t' = t
  · subst htt
    refine iff_of_false (fun hon => ?_) fun h => h.1 rfl
    rw [List.getElem?_modify_eq] at hon
    obtain ⟨s, -, hs⟩ := Option.map_eq_some_iff.mp hon
    cases hs
  · rw [List.getElem?_modify_ne _ _ htt]
    exact (and_iff_right (Ne.symm htt)).symm

theorem isActive_subscribed (route : Route) :
    (r.subscribed route).isActive t = true ↔ r.isActive t = true ∨ t = r.subscribers.length := by
  simp only [isActive_iff_isOn, isOn_subscribed, exists_or, exists_eq_right]

theorem isActive_deactivate :
    (r.deactivate t').isActive t = true ↔ t ≠ t' ∧ r.isActive t = true := by
  simp only [isActive_iff_isOn, isOn_deactivate, exists_and_left]

theorem isActive_congr {r' : Router} (h : r'.subscribers = r.subscribers) (t : Ticket) :
    r'.isActive t = r.isActive t := by
  unfold Router.isActive
  rw [h]

/-- A subscription that is given back is the only one that is active no more. -/
theorem isActive_unsubscribe :
    (r.unsubscribe t').1.isActive t = true ↔ t ≠ t' ∧ r.isActive t = true := by
  unfold Router.unsubscribe
  split
  · rw [isActive_congr (subscribers_unroute _ _ _), isActive_deactivate]
  · rename_i hinactive
    rw [iff_and_self]
    rintro hactive rfl
    obtain ⟨route, hroute⟩ := isActive_iff.mp hactive
    exact hinactive route hroute

theorem isActive_foldl_deactivate (ts : List Ticket) :
    (ts.foldl Router.deactivate r).isActive t = true ↔ t ∉ ts ∧ r.isActive t = true := by
  induction ts generalizing r with
  | nil => simp
  | cons t' rest ih =>
    rw [List.foldl_cons, ih, isActive_deactivate, List.mem_cons, not_or]
    exact and_left_comm.trans and_assoc.symm

theorem mem_routed_of_mem_targets {route : Route} (h : t ∈ r.targets route) :
    t ∈ r.routes.flatMap (·.2) := by
  unfold Router.targets at h
  generalize r.routes = routes at h
  induction routes with
  | nil => cases h
  | cons entry rest ih =>
    obtain ⟨route', ts⟩ := entry
    rw [List.flatMap_cons, List.mem_append]
    by_cases hr : route' = route
    · subst hr
      simp only [Assoc.get?, beq_self_eq_true, if_true, Option.getD_some] at h
      exact Or.inl h
    · rw [Assoc.get?, if_neg (by simpa using hr)] at h
      exact Or.inr (ih h)

/-- No subscription outlives the link, if signals reach all that are active. -/
theorem isActive_close (h : ∀ t, r.isActive t = true → ∃ route, r.Serves t route) (t : Ticket) :
    r.close.isActive t = false := by
  rw [← Bool.not_eq_true]
  intro hactive
  have hclose : (r.routes.flatMap (·.2)).foldl Router.deactivate r |>.isActive t := by
    rw [← hactive]
    exact isActive_congr rfl t
  rw [isActive_foldl_deactivate] at hclose
  obtain ⟨route, hserves⟩ := h t hclose.2
  exact hclose.1 (mem_routed_of_mem_targets hserves.2)

theorem length_close (r : Router) : r.close.subscribers.length = r.subscribers.length := by
  simp only [Router.close]
  generalize r.routes.flatMap (·.2) = ts
  induction ts generalizing r with
  | nil => rfl
  | cons t rest ih =>
    rw [List.foldl_cons, ih]
    simp [Router.deactivate]

end TagGateway.Bus.Router

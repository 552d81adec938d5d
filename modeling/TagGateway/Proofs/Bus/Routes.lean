import Mathlib.Data.List.Nodup
import TagGateway.Proofs.Assoc
import TagGateway.Proofs.Bus.Router

/-!
# The table of routes

The table of routes is an index of the active subscriptions and nothing else: it has an entry for a
route just if the route has active subscriptions, and the entry lists their tickets in the order in
which they subscribed.

* `Router.activeOn` — the active subscriptions on a route, in the order of their tickets.
* `Router.Tidy` — that the table is this index; `Tidy.subscribed`, `Tidy.unsubscribe` and
  `Tidy.close` — each change of the subscriptions keeps it so.
* `Router.unsubscribe_of_active`, `Router.unsubscribe_of_inactive` — the two cases of giving back.
-/

namespace TagGateway.Bus.Router

variable {r : Router} {t t' : Ticket} {route route' : Route}

/-- The active subscriptions on a route, in the order of their tickets. -/
def activeOn (r : Router) (route : Route) : List Ticket :=
  (List.range r.subscribers.length).filter (r.IsOn · route)

theorem mem_activeOn : t ∈ r.activeOn route ↔ r.IsOn t route := by
  rw [activeOn, List.mem_filter, List.mem_range, decide_eq_true_iff, and_iff_right_iff_imp]
  exact fun hon => (List.getElem?_eq_some_iff.mp hon).1

theorem pairwise_activeOn (r : Router) (route : Route) : (r.activeOn route).Pairwise (· < ·) :=
  List.pairwise_lt_range.filter _

theorem nodup_activeOn (r : Router) (route : Route) : (r.activeOn route).Nodup :=
  List.nodup_range.filter _

/-! ## Changes of the subscriptions -/

/-- The last subscription on a route is the new one. -/
theorem activeOn_subscribed_self (r : Router) (route : Route) :
    (r.subscribed route).activeOn route = r.activeOn route ++ [r.subscribers.length] := by
  unfold activeOn
  rw [length_subscribed, List.range_succ, List.filter_append]
  congr 1
  · refine List.filter_congr fun t ht => decide_eq_decide.mpr ?_
    rw [isOn_subscribed]
    exact or_iff_left fun h => Nat.ne_of_lt (List.mem_range.mp ht) h.1
  · exact List.filter_eq_self.mpr fun t ht =>
      decide_eq_true (isOn_subscribed.mpr (Or.inr ⟨List.mem_singleton.mp ht, rfl⟩))

theorem activeOn_subscribed_of_ne (h : route ≠ route') :
    (r.subscribed route').activeOn route = r.activeOn route := by
  unfold activeOn
  rw [length_subscribed, List.range_succ, List.filter_append]
  have hold : (List.range r.subscribers.length).filter ((r.subscribed route').IsOn · route) =
      (List.range r.subscribers.length).filter (r.IsOn · route) := by
    refine List.filter_congr fun t _ => decide_eq_decide.mpr ?_
    rw [isOn_subscribed]
    exact or_iff_left fun hnew => h hnew.2
  have hnew : [r.subscribers.length].filter ((r.subscribed route').IsOn · route) = [] := by
    refine List.filter_eq_nil_iff.mpr fun t ht => ?_
    rw [decide_eq_true_iff, isOn_subscribed]
    rintro (hon | ⟨-, hroute⟩)
    · exact absurd (List.getElem?_eq_some_iff.mp hon).1
        (Nat.not_lt_of_le (Nat.le_of_eq (List.mem_singleton.mp ht).symm))
    · exact h hroute
  rw [hold, hnew, List.append_nil]

theorem activeOn_deactivate (r : Router) (t : Ticket) (route : Route) :
    (r.deactivate t).activeOn route = (r.activeOn route).filter (· ≠ t) := by
  unfold activeOn
  have hlength : (r.deactivate t).subscribers.length = r.subscribers.length := by
    simp [Router.deactivate]
  rw [hlength, List.filter_filter]
  refine List.filter_congr fun t' _ => ?_
  rw [← Bool.decide_and]
  exact decide_eq_decide.mpr isOn_deactivate

theorem activeOn_congr {r' : Router} (h : r'.subscribers = r.subscribers) (route : Route) :
    r'.activeOn route = r.activeOn route := by
  unfold activeOn
  rw [h]
  refine List.filter_congr fun t _ => decide_eq_decide.mpr ?_
  unfold IsOn
  rw [h]

/-! ## Giving back -/

theorem unsubscribe_of_active (h : r.IsOn t route) :
    r.unsubscribe t =
      ((r.deactivate t).unroute route t, if r.connected then some route else none) := by
  unfold Router.unsubscribe
  rw [show r.subscribers[t]? = some ⟨route, true⟩ from h]

theorem unsubscribe_of_inactive (h : r.isActive t = false) : r.unsubscribe t = (r, none) := by
  unfold Router.unsubscribe
  split
  · rename_i route hroute
    rw [isActive_iff.mpr ⟨route, hroute⟩] at h
    cases h
  · rfl

theorem unroute_frame (r : Router) (route : Route) (t : Ticket) :
    (r.unroute route t).service = r.service ∧ (r.unroute route t).link = r.link := by
  unfold Router.unroute
  split <;> exact ⟨rfl, rfl⟩

theorem isOn_unsubscribe :
    (r.unsubscribe t').1.IsOn t route ↔ t ≠ t' ∧ r.IsOn t route := by
  cases hactive : r.isActive t' with
  | false =>
    rw [unsubscribe_of_inactive hactive, iff_and_self]
    rintro hon rfl
    rw [isActive_iff_isOn.mpr ⟨route, hon⟩] at hactive
    cases hactive
  | true =>
    obtain ⟨route', hon⟩ := isActive_iff_isOn.mp hactive
    rw [unsubscribe_of_active hon, ← isOn_deactivate]
    unfold IsOn
    rw [subscribers_unroute]

/-! ## The index -/

/-- The table of routes is the index of the active subscriptions. -/
structure Tidy (r : Router) : Prop where
  keys : (r.routes.map (·.1)).Nodup
  entries : ∀ route, Assoc.get? route r.routes =
    if r.activeOn route = [] then none else some (r.activeOn route)

theorem tidy_new (service : String) : ({ service } : Router).Tidy := ⟨List.nodup_nil, fun _ => rfl⟩

/-- A signal reaches the active subscriptions on its route. -/
theorem Tidy.targets (h : r.Tidy) (route : Route) : r.targets route = r.activeOn route := by
  unfold Router.targets
  rw [h.entries]
  split
  · rename_i hnone
    rw [hnone]
    rfl
  · rfl

theorem Tidy.congr {r' : Router} (h : r.Tidy) (hsubscribers : r'.subscribers = r.subscribers)
    (hroutes : r'.routes = r.routes) : r'.Tidy where
  keys := hroutes ▸ h.keys
  entries route := by
    rw [hroutes, activeOn_congr hsubscribers]
    exact h.entries route

theorem Tidy.subscribed (h : r.Tidy) (route : Route) : (r.subscribed route).Tidy where
  keys := Assoc.nodup_keys_put _ h.keys
  entries route' := by
    by_cases hroute : route' = route
    · subst hroute
      rw [activeOn_subscribed_self, if_neg (List.append_ne_nil_of_right_ne_nil _ (by simp)),
        ← h.targets]
      exact Assoc.get?_put_self _ _ _
    · rw [activeOn_subscribed_of_ne hroute, ← h.entries]
      exact Assoc.get?_put_of_ne hroute _ _

/-- A ticket that is taken off its route was the only change of the subscriptions. -/
theorem Tidy.unroute (h : r.Tidy) (t : Ticket) (route : Route)
    (hothers : ∀ route', route' ≠ route → t ∉ r.activeOn route') :
    ((r.deactivate t).unroute route t).Tidy := by
  have hsame : ∀ route', route' ≠ route →
      (r.deactivate t).activeOn route' = r.activeOn route' := by
    intro route' hroute
    rw [activeOn_deactivate]
    refine List.filter_eq_self.mpr fun t' ht' => decide_eq_true ?_
    rintro rfl
    exact hothers route' hroute ht'
  have herase : ((r.deactivate t).targets route).erase t = (r.deactivate t).activeOn route := by
    have htargets : (r.deactivate t).targets route = r.activeOn route := h.targets route
    rw [htargets, activeOn_deactivate, (r.nodup_activeOn route).erase_eq_filter]
    exact List.filter_congr fun t' _ => by simp [bne, decide_not, beq_eq_decide]
  have hactive (route' : Route) : ((r.deactivate t).unroute route t).activeOn route' =
      (r.deactivate t).activeOn route' :=
    activeOn_congr (subscribers_unroute _ _ _) route'
  constructor
  · unfold Router.unroute
    split
    · exact Assoc.nodup_keys_erase h.keys
    · exact Assoc.nodup_keys_put _ h.keys
  · intro route'
    rw [hactive]
    unfold Router.unroute
    rw [herase]
    by_cases hroute : route' = route
    · subst hroute
      split
      · rename_i hnil
        rw [if_pos hnil]
        exact Assoc.get?_erase_self _ _
      · rename_i hne
        rw [if_neg hne]
        exact Assoc.get?_put_self _ _ _
    · rw [hsame route' hroute, ← h.entries]
      split
      · exact Assoc.get?_erase_of_ne hroute _
      · exact Assoc.get?_put_of_ne hroute _ _

theorem Tidy.unsubscribe (h : r.Tidy) (t : Ticket) : (r.unsubscribe t).1.Tidy := by
  cases hactive : r.isActive t with
  | false =>
    rw [unsubscribe_of_inactive hactive]
    exact h
  | true =>
    obtain ⟨route, hon⟩ := isActive_iff_isOn.mp hactive
    rw [unsubscribe_of_active hon]
    exact h.unroute t route fun route' hroute hmem => hroute ((mem_activeOn.mp hmem).unique hon)

/-- Signals reach all active subscriptions. -/
theorem Tidy.serves (h : r.Tidy) (hactive : r.isActive t = true) : ∃ route, r.Serves t route := by
  obtain ⟨route, hon⟩ := isActive_iff_isOn.mp hactive
  exact ⟨route, hon, h.targets route ▸ mem_activeOn.mpr hon⟩

theorem Tidy.isActive_close (h : r.Tidy) (t : Ticket) : r.close.isActive t = false :=
  Router.isActive_close (fun _ => h.serves) t

theorem Tidy.close (h : r.Tidy) : r.close.Tidy where
  keys := List.nodup_nil
  entries route := by
    have hnone : r.close.activeOn route = [] := by
      refine List.eq_nil_iff_forall_not_mem.mpr fun t hmem => ?_
      have hactive := isActive_iff_isOn.mpr ⟨route, mem_activeOn.mp hmem⟩
      rw [h.isActive_close t] at hactive
      cases hactive
    rw [if_pos hnone]
    rfl

end TagGateway.Bus.Router

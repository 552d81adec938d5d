import TagGateway.Roster
import TagGateway.Proofs.Address
import TagGateway.Proofs.Except

/-!
# What one step of a roster does

The cases of each operation on a roster, with its guards, so that later arguments need not open the
operations again.

* `announce_cases`, `addressed_cases`, `subscribed_ok`, `subscribed_error` — the steps of an
  admission; only the last changes the roster, and only for a path and an address that are free.
* `announce_addressing`, `addressed_ok`, `addressed_error`, `subscribed_of_taken`,
  `subscribed_of_free` — when an admission begins, and when it ends with the device refused or
  admitted.
* `remove_eq_ok`, `ban_eq_ok` — what a removal and a ban take off; those that fail change nothing.
-/

namespace TagGateway

open Bus

/-- An answer has an address just if it has a first value. -/
theorem Bus.Answer.address_eq_ok {a : Answer} {mac : String} :
    a.address = .ok mac ↔ ∃ v rest, a.body = v :: rest ∧ Text.upper v.display = mac := by
  unfold address first
  cases a.body with
  | nil => exact iff_of_false nofun nofun
  | cons v rest =>
    constructor
    · rintro ⟨⟩
      exact ⟨v, rest, rfl, rfl⟩
    · rintro ⟨_, _, ⟨⟩, rfl⟩
      rfl

/-- The ticket that an effect gives back. -/
def Bus.Effect.ticket? : Effect → Option Ticket
  | .unsubscribe t => some t
  | .notice _ => none

/-- The tickets that effects give back, in order. -/
def Bus.Effect.tickets (effects : List Effect) : List Ticket := effects.filterMap ticket?

/-- An admission that goes on no further, without a device tracked. -/
inductive Admission.Next.IsOver : Admission.Next → Prop
  | refused : IsOver .refused
  | failed (f : Fault) : IsOver (.failed f)

/-- The device that an admission is about. -/
def Admission.path : Admission → String
  | addressing path => path
  | subscribing path _ => path

namespace Roster

variable {r : Roster}

/-! ## Admission -/

theorem covers_iff {path : String} :
    r.covers path = true ↔ (r.adapterPath ++ "/").toList <+: path.toList :=
  List.isPrefixOf_iff_prefix

/-- The beginning of an admission gives nothing back; it goes on only for a path below the
adapter. -/
theorem announce_cases (path interfaces : Value) :
    Effect.tickets (r.announce path interfaces).1 = [] ∧
      ((r.announce path interfaces).2.IsOver ∨
        ∃ p, (r.announce path interfaces).2 = .wait (.addressing p) ∧ r.covers p = true) := by
  unfold announce
  split
  · exact ⟨rfl, Or.inl (.failed _)⟩
  · exact ⟨rfl, Or.inl .refused⟩
  · split
    · rename_i p _ hp
      exact ⟨rfl, Or.inr ⟨p, rfl, hp⟩⟩
    · exact ⟨rfl, Or.inl .refused⟩

theorem candidate?_eq_some {path interfaces : Value} {p : String} :
    r.candidate? path interfaces = .ok (some p) ↔
      path = .text p ∧ r.contains p = false ∧ interfaces.holds deviceInterface = .ok true := by
  unfold candidate?
  cases hkey : path.keyFault? with
  | some f =>
    refine iff_of_false nofun ?_
    rintro ⟨rfl, -, -⟩
    cases hkey
  | none =>
    simp only [bind, Except.bind, pure, Except.pure]
    cases path with
    | text q =>
      cases hcontains : r.contains q with
      | true =>
        refine iff_of_false (by simp [hcontains]) ?_
        rintro ⟨hq, hfree, -⟩
        cases hq
        rw [hcontains] at hfree
        cases hfree
      | false =>
        cases interfaces.holds deviceInterface with
        | error f => simp [hcontains]
        | ok b =>
          cases b
          · simp [hcontains]
          · simp only [hcontains, Bool.false_eq_true, if_false, if_true, Except.ok.injEq,
              Option.some.injEq, Value.text.injEq, and_true]
            constructor
            · rintro rfl
              exact ⟨rfl, hcontains⟩
            · exact fun h => h.1
    | _ =>
      refine iff_of_false ?_ nofun
      cases interfaces.holds deviceInterface with
      | error f => nofun
      | ok b => cases b <;> nofun

/-- An admission begins for a path below the adapter that is announced as a device and is not
tracked. -/
theorem announce_addressing {path interfaces : Value} {p : String} :
    (r.announce path interfaces).2 = .wait (.addressing p) ↔
      path = .text p ∧ r.contains p = false ∧ interfaces.holds deviceInterface = .ok true ∧
        r.covers p = true := by
  constructor
  · intro h
    unfold announce at h
    split at h
    · cases h
    · cases h
    · rename_i hcandidate
      split at h
      · rename_i hcovers
        cases h
        obtain ⟨hpath, hcontains, hholds⟩ := candidate?_eq_some.mp hcandidate
        exact ⟨hpath, hcontains, hholds, hcovers⟩
      · cases h
  · rintro ⟨hpath, hcontains, hholds, hcovers⟩
    have hcandidate := candidate?_eq_some.mpr ⟨hpath, hcontains, hholds⟩
    simp only [announce, hcandidate, hcovers, if_true]

/-- The address of a device is kept in upper case. -/
theorem addressed_cases (path : String) (reply : Reply) :
    Effect.tickets (r.addressed path reply).1 = [] ∧
      ((r.addressed path reply).2.IsOver ∨
        ∃ mac, (r.addressed path reply).2 = .wait (.subscribing path mac) ∧
          Text.upper mac = mac) := by
  unfold addressed
  split
  · rename_i mac hmac
    obtain ⟨answer, -, haddress⟩ := bind_eq_ok.mp hmac
    obtain ⟨v, -, -, rfl⟩ := Answer.address_eq_ok.mp haddress
    split
    · exact ⟨rfl, Or.inl .refused⟩
    · exact ⟨rfl, Or.inr ⟨_, rfl, Text.upper_upper _⟩⟩
  · split
    · exact ⟨rfl, Or.inl .refused⟩
    · exact ⟨rfl, Or.inl (.failed _)⟩

/-- A device that is blacklisted by its address is refused. -/
theorem addressed_ok (path : String) {answer : Answer} {mac : String}
    (hmac : answer.address = .ok mac) :
    (r.blacklist.contains mac = true ∧ ∃ effects,
        r.addressed path (.ok answer) = (effects, .refused) ∧ Effect.tickets effects = []) ∨
      (r.blacklist.contains mac = false ∧
        r.addressed path (.ok answer) = ([], .wait (.subscribing path mac))) := by
  have hreply : ((.ok answer : Reply) >>= Answer.address) = .ok mac := hmac
  unfold addressed
  rw [hreply]
  by_cases hbanned : r.blacklist.contains mac = true
  · exact Or.inl ⟨hbanned, _, if_pos hbanned, rfl⟩
  · exact Or.inr ⟨Bool.not_eq_true _ ▸ hbanned, if_neg hbanned⟩

/-- A reply without an address ends the admission. -/
theorem addressed_error (path : String) {reply : Reply} {f : Fault}
    (h : (reply >>= Answer.address) = .error f) :
    Effect.tickets (r.addressed path reply).1 = [] ∧ (r.addressed path reply).2.IsOver := by
  unfold addressed
  rw [h]
  simp only
  split
  · exact ⟨rfl, .refused⟩
  · exact ⟨rfl, .failed f⟩

/-- The last check of an admission, made when the subscription stands. -/
theorem subscribed_ok (path mac : String) (answer : Answer) :
    (∃ effects, r.subscribed path mac (.ok answer) = (r, effects, .refused) ∧
        Effect.tickets effects = [answer.ticket]) ∨
      (r.contains path = false ∧ r.blacklist.contains mac = false ∧
        ∃ effects, r.subscribed path mac (.ok answer) =
            ({ r with entries := r.entries ++ [⟨path, mac, answer.ticket⟩] }, effects,
              .admitted path) ∧
          Effect.tickets effects = []) := by
  unfold subscribed
  simp only
  split
  · exact Or.inl ⟨_, rfl, rfl⟩
  · rename_i hfree
    simp only [Bool.or_eq_true, not_or, Bool.not_eq_true] at hfree
    exact Or.inr ⟨hfree.1, hfree.2, _, rfl, rfl⟩

/-- A device that has come in or been blacklisted in the meantime is refused. -/
theorem subscribed_of_taken {path mac : String}
    (h : r.contains path = true ∨ r.blacklist.contains mac = true) (answer : Answer) :
    r.subscribed path mac (.ok answer) = (r, [.unsubscribe answer.ticket], .refused) := by
  have htaken : (r.contains path || r.blacklist.contains mac) = true := by
    rw [Bool.or_eq_true]
    exact h
  exact if_pos htaken

/-- A device that is free is admitted. -/
theorem subscribed_of_free {path mac : String} (hpath : r.contains path = false)
    (hmac : r.blacklist.contains mac = false) (answer : Answer) :
    ∃ effects, r.subscribed path mac (.ok answer) =
        ({ r with entries := r.entries ++ [⟨path, mac, answer.ticket⟩] }, effects,
          .admitted path) ∧
      Effect.tickets effects = [] := by
  have hfree : ¬(r.contains path || r.blacklist.contains mac) = true := by
    rw [hpath, hmac]
    decide
  exact ⟨_, if_neg hfree, rfl⟩

/-- A subscription that cannot be had ends the admission. -/
theorem subscribed_error (path mac : String) (f : Fault) :
    ∃ effects next, r.subscribed path mac (.error f) = (r, effects, next) ∧
      Effect.tickets effects = [] ∧ next.IsOver := by
  unfold subscribed
  simp only
  split
  · exact ⟨_, _, rfl, rfl, .refused⟩
  · exact ⟨_, _, rfl, rfl, .failed f⟩

/-- A device that is admitted is tracked from then on. -/
theorem contains_append {p : String} (e : Entry) :
    ({ r with entries := r.entries ++ [e] } : Roster).contains p = true ↔
      r.contains p = true ∨ p = e.path := by
  simp only [contains, List.any_append, List.any_cons, List.any_nil, Bool.or_false, Bool.or_eq_true,
    decide_eq_true_eq, @eq_comm _ p]

theorem contains_eq_false {path : String} (h : r.contains path = false) :
    path ∉ r.entries.map (·.path) := by
  intro hp
  obtain ⟨e, he, rfl⟩ := List.mem_map.mp hp
  unfold contains at h
  rw [List.any_eq_false] at h
  exact h e he (by simp)

/-! ## Removal and ban -/

theorem entryOf?_eq_ok {path : Value} {e : Entry} (h : r.entryOf? path = .ok (some e)) :
    e ∈ r.entries := by
  unfold entryOf? at h
  cases hr : r.entries.isEmpty with
  | true =>
    rw [hr] at h
    cases h
  | false =>
    simp only [hr, Bool.false_eq_true, if_false] at h
    split at h
    · cases h
    · rw [Except.ok.injEq] at h
      exact List.mem_of_find?_eq_some h
    · cases h

/-- A removal that does not fail takes off one device and gives its subscription back, or does
nothing. -/
theorem remove_eq_ok {path interfaces : Value} {r' : Roster} {effects : List Effect} {b : Bool}
    (h : r.remove path interfaces = .ok (r', effects, b)) :
    (r' = r ∧ Effect.tickets effects = []) ∨
      ∃ e ∈ r.entries, r' = { r with entries := r.entries.filter (·.path ≠ e.path) } ∧
        Effect.tickets effects = [e.ticket] := by
  unfold remove at h
  cases hi : interfaces.holds deviceInterface with
  | error f =>
    rw [hi] at h
    cases h
  | ok holds =>
    cases holds with
    | false =>
      rw [hi] at h
      cases h
      exact Or.inl ⟨rfl, rfl⟩
    | true =>
      cases he : r.entryOf? path with
      | error f =>
        rw [hi] at h
        simp only [bind, Except.bind, he, Bool.not_true, Bool.false_eq_true, if_false] at h
        cases h
      | ok found =>
        rw [hi] at h
        simp only [bind, Except.bind, he, Bool.not_true, Bool.false_eq_true, if_false] at h
        cases found with
        | none =>
          cases h
          exact Or.inl ⟨rfl, rfl⟩
        | some e =>
          cases h
          exact Or.inr ⟨e, entryOf?_eq_ok he, rfl, rfl⟩

theorem tickets_evictions (mac : String) (evicted : List Entry) :
    Effect.tickets (evicted.flatMap fun e =>
      [.unsubscribe e.ticket,
        .say .info ("Evicted blacklisted device " ++ mac ++ " (" ++ e.path ++ ")")]) =
      evicted.map (·.ticket) := by
  induction evicted with
  | nil => rfl
  | cons e rest ih =>
    rw [List.map_cons, ← ih]
    rfl

/-- A ban of an address puts its canonical form on the blacklist, takes off all devices with it and
gives their subscriptions back. -/
theorem ban_of_ofValue {v : Value} {mac : String} (h : Address.ofValue v = .ok mac) :
    ∃ effects paths, r.ban v = .ok ({ r with
        entries := r.entries.filter (·.mac ≠ mac), blacklist := r.blacklist.insert mac },
          effects, paths) ∧
      Effect.tickets effects = (r.entries.filter (·.mac = mac)).map (·.ticket) := by
  unfold ban
  rw [h]
  simp only [bind, Except.bind, Blacklist.add_of_ofValue _ h]
  refine ⟨_, _, rfl, ?_⟩
  rw [← tickets_evictions mac]
  simp only [Effect.tickets, List.filterMap_append]
  split <;> rfl

/-- A ban that does not fail is one of an address. -/
theorem ban_eq_ok {v : Value} {r' : Roster} {effects : List Effect} {paths : List String}
    (h : r.ban v = .ok (r', effects, paths)) :
    ∃ mac, Address.ofValue v = .ok mac ∧
      r' = { r with
        entries := r.entries.filter (·.mac ≠ mac), blacklist := r.blacklist.insert mac } ∧
      Effect.tickets effects = (r.entries.filter (·.mac = mac)).map (·.ticket) := by
  cases hv : Address.ofValue v with
  | error f =>
    unfold ban at h
    rw [hv] at h
    cases h
  | ok mac =>
    obtain ⟨effects', paths', heq, htickets⟩ := ban_of_ofValue (r := r) hv
    rw [heq] at h
    cases h
    exact ⟨mac, rfl, rfl, htickets⟩

/-! ## The blacklist -/

theorem blacklist_remove {path interfaces : Value} {r' : Roster} {effects : List Effect} {b : Bool}
    (h : r.remove path interfaces = .ok (r', effects, b)) : r'.blacklist = r.blacklist := by
  rcases remove_eq_ok h with ⟨rfl, -⟩ | ⟨e, -, rfl, -⟩
  · rfl
  · rfl

theorem blacklist_resume (a : Admission) (reply : Reply) :
    (r.resume a reply).1.blacklist = r.blacklist := by
  cases a with
  | addressing path => rfl
  | subscribing path mac =>
    cases reply with
    | ok answer =>
      rcases r.subscribed_ok path mac answer with ⟨effects, heq, -⟩ | ⟨-, -, effects, heq, -⟩
      · simp only [resume, heq]
      · simp only [resume, heq]
    | error f =>
      obtain ⟨effects, next, heq, -⟩ := r.subscribed_error path mac f
      simp only [resume, heq]

end Roster

end TagGateway

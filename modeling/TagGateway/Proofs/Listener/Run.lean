import TagGateway.Listener
import TagGateway.Proofs.Roster.Admission

/-!
# Runs of a listener

* `Listener.Happening` — what may happen to a listener, in any order; `Listener.perform` and
  `Listener.run` carry it out.
* `Listener.perform_ban`, `Listener.blacklist_perform` — a ban puts its address on the blacklist,
  and nothing else changes it.
* `Listener.mem_blacklist_perform` — an address that is on it stays.
-/

namespace TagGateway

open Bus

namespace Listener

variable {κ : Type}

/-- What may happen to a listener. -/
inductive Happening (κ : Type)
  | start
  | stop
  | ban (mac : Value)
  /-- A device is taken off without an event. -/
  | remove (path interfaces : Value)
  | signal (topic : Topic) (body : List Value)
  | post (name : String) (e : Event κ)
  /-- What the listener waits for has arrived. -/
  | reply (r : Reply)
  /-- The listener takes the next event. -/
  | wake

/-- Whether a reply is waited for. -/
def takesReply (l : Listener κ) : Bool :=
  match l.pending with
  | .reply _ | .foreign _ => true
  | .nothing | .item => false

/-- Something happens; what fails changes nothing. -/
def perform (l : Listener κ) : Happening κ → Listener κ
  | .start => l.start.1
  | .stop => l.stop
  | .ban mac =>
    match l.ban mac with
    | .ok (l, _) => l
    | .error _ => l
  | .remove path interfaces =>
    match l.roster.remove path interfaces with
    | .ok (roster, _, _) => { l with roster }
    | .error _ => l
  | .signal topic body =>
    match l.signal topic body with
    | .ok (l, _) => l
    | .error _ => l
  | .post name e => (l.post name e).1
  | .reply r => if l.takesReply then (l.resume r).1 else l
  | .wake => if l.hasItem then l.wake.1 else l

/-- All that happens, in order. -/
def run (l : Listener κ) (happenings : List (Happening κ)) : Listener κ :=
  happenings.foldl perform l

variable {l : Listener κ}

/-! ## The blacklist -/

theorem blacklist_ofDiscovery (l : Listener κ) (m : Discovery.Move (Event κ)) :
    (l.ofDiscovery m).1.roster.blacklist = l.roster.blacklist := by
  unfold ofDiscovery
  obtain ⟨discovery, effects, result⟩ := m
  cases result with
  | none => rfl
  | some result => rfl

theorem blacklist_conclude (l : Listener κ) (effects : List Effect) (outcome : Except Fault Unit) :
    (l.conclude effects outcome).1.roster.blacklist = l.roster.blacklist :=
  blacklist_ofDiscovery l _

theorem blacklist_continueEmission (l : Listener κ) (effects : List Effect) (next : Emission.Next) :
    (l.continueEmission effects next).1.roster.blacklist = l.roster.blacklist := by
  cases next with
  | wait e => rfl
  | ended emitted => exact blacklist_conclude l _ _
  | failed f => exact blacklist_conclude l _ _

theorem blacklist_continueAdmission (l : Listener κ) (effects : List Effect)
    (next : Admission.Next) :
    (l.continueAdmission effects next).1.roster.blacklist = l.roster.blacklist := by
  cases next with
  | wait a => rfl
  | admitted path => exact blacklist_continueEmission l _ _
  | refused => exact blacklist_conclude l _ _
  | failed f => exact blacklist_conclude l _ _

theorem blacklist_handle (l : Listener κ) (e : Event κ) (effects : List Effect) :
    (l.handle e effects).1.roster.blacklist = l.roster.blacklist := by
  cases e with
  | appeared path interfaces => exact blacklist_continueAdmission l _ _
  | disappeared path interfaces =>
    unfold handle
    simp only
    split
    · exact blacklist_conclude l _ _
    · rename_i heq
      rw [blacklist_conclude]
      exact Roster.blacklist_remove heq
  | changed path names => exact blacklist_continueEmission l _ _
  | foreign handler => rfl

theorem roster_postListed (l : Listener κ) (objects : List (Value × Value)) :
    (l.postListed objects).1.roster = l.roster := by
  unfold postListed
  refine List.foldlRecOn
    (motive := fun (acc : Listener κ × List Effect) => acc.1.roster = l.roster) objects _ rfl ?_
  intro acc hacc object _
  exact hacc

theorem blacklist_resumeSetup (l : Listener κ) (s : Setup) (reply : Reply) :
    (l.resumeSetup s reply).1.roster.blacklist = l.roster.blacklist := by
  unfold resumeSetup
  split
  · rfl
  · rfl
  · simp only [blacklist_conclude, roster_postListed]
  · split
    · exact blacklist_conclude l _ _
    · exact blacklist_conclude l _ _
  · exact blacklist_conclude l _ _

theorem blacklist_resume (l : Listener κ) (reply : Reply) :
    (l.resume reply).1.roster.blacklist = l.roster.blacklist := by
  unfold resume
  split
  · exact blacklist_ofDiscovery l _
  · exact blacklist_resumeSetup l _ _
  · simp only [blacklist_continueAdmission, Roster.blacklist_resume]
  · exact blacklist_continueEmission l _ _
  · exact blacklist_conclude l _ _

theorem blacklist_wake (l : Listener κ) : l.wake.1.roster.blacklist = l.roster.blacklist := by
  have hmove := blacklist_ofDiscovery l l.discovery.wake
  unfold wake
  simp only
  split
  · rw [blacklist_handle]
    exact hmove
  · exact hmove

theorem blacklist_start (l : Listener κ) : l.start.1.roster.blacklist = l.roster.blacklist := by
  unfold start
  split <;> rfl

/-- A signal is put to discovery and leaves the rest as it is. -/
theorem signal_eq_ok {l' : Listener κ} {topic : Topic} {body : List Value} {effects : List Effect}
    (h : l.signal topic body = .ok (l', effects)) : ∃ discovery, l' = { l with discovery } := by
  unfold signal at h
  split at h
  · cases h
    exact ⟨_, rfl⟩
  · cases h
    exact ⟨_, rfl⟩
  · cases h
    exact ⟨_, rfl⟩
  · split at h
    · cases h
      exact ⟨_, rfl⟩
    · rename_i changed _ _
      cases hc : changed.elements with
      | error f =>
        rw [hc] at h
        cases h
      | ok names =>
        rw [hc] at h
        cases h
        exact ⟨_, rfl⟩
  · cases h

/-- A ban of an address puts its canonical form on the blacklist. -/
theorem perform_ban {v : Value} {mac : String} (h : Address.ofValue v = .ok mac) :
    (l.perform (.ban v)).roster.blacklist = l.roster.blacklist.insert mac := by
  obtain ⟨effects, paths, heq, -⟩ := Roster.ban_of_ofValue (r := l.roster) h
  simp only [perform, ban, heq, bind, Except.bind, pure, Except.pure]

theorem perform_ban_of_error {v : Value} {f : Fault} (h : Address.ofValue v = .error f) :
    l.perform (.ban v) = l := by
  simp only [perform, ban, Roster.ban, h, bind, Except.bind]

/-- Nothing but a ban changes the blacklist. -/
theorem blacklist_perform {happening : Happening κ} (h : ∀ v, happening ≠ .ban v) :
    (l.perform happening).roster.blacklist = l.roster.blacklist := by
  cases happening with
  | start => exact blacklist_start l
  | stop => rfl
  | ban v => exact absurd rfl (h v)
  | remove path interfaces =>
    simp only [perform]
    split
    · rename_i heq
      exact Roster.blacklist_remove heq
    · rfl
  | signal topic body =>
    simp only [perform]
    split
    · rename_i heq
      obtain ⟨discovery, rfl⟩ := signal_eq_ok heq
      rfl
    · rfl
  | post name e => rfl
  | reply r =>
    simp only [perform]
    split
    · exact blacklist_resume l r
    · rfl
  | wake =>
    simp only [perform]
    split
    · exact blacklist_wake l
    · rfl

/-- An address that is on the blacklist stays there. -/
theorem mem_blacklist_perform {mac : String} (h : mac ∈ l.roster.blacklist.macs)
    (happening : Happening κ) : mac ∈ (l.perform happening).roster.blacklist.macs := by
  by_cases hban : ∃ v, happening = .ban v
  · obtain ⟨v, rfl⟩ := hban
    cases hv : Address.ofValue v with
    | error f =>
      rw [perform_ban_of_error hv]
      exact h
    | ok mac' =>
      rw [perform_ban hv, Blacklist.mem_insert]
      exact Or.inr h
  · rw [blacklist_perform fun v hv => hban ⟨v, hv⟩]
    exact h

end Listener

end TagGateway

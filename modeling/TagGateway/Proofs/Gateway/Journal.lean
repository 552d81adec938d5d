import TagGateway.Gateway.Run

/-!
# The journal of a run

What a run has its surroundings do can be written down while it is done, with what came of it.
Surroundings that keep such a journal go through the same run as those that do not.

* `Gateway.Deed` — what is done; `Gateway.Surroundings.logged` — surroundings with a journal;
  `Gateway.Surroundings.journal` — the journal of a run.
* `Gateway.Surroundings.Simulates` — surroundings that answer as others do, in states that belong
  together; `Gateway.Surroundings.Simulates.run` — then a run gives the same code in both.
* **`Gateway.Surroundings.logged_run`** — keeping a journal changes nothing, and
  `Gateway.Surroundings.came_of_mem_journal` — what a journal says was given was given.
-/

namespace TagGateway.Gateway

/-- Something that a run has done, with what came of it. -/
inductive Deed
  | ban (mac : String) (result : Except Fault Unit)
  | serve (address port : Value) (result : Except Fault Unit)
  | closeEndpoint
  /-- A signal is taken in another way; the last is what took it before. -/
  | handle (signal : Int) (handler previous : SignalHandler)
  | start
  | wait
  | stop
  | join (outcome : Option (Except Fault Unit))
  | say (n : Notice)

/-- What kind of deed it is. -/
inductive Deed.Kind
  | ban | serve | closeEndpoint | handle | start | wait | stop | join | say
deriving DecidableEq, Repr

/-- The kind of a deed. -/
def Deed.kind : Deed → Kind
  | .ban .. => .ban
  | .serve .. => .serve
  | .closeEndpoint => .closeEndpoint
  | .handle .. => .handle
  | .start => .start
  | .wait => .wait
  | .stop => .stop
  | .join _ => .join
  | .say _ => .say

namespace Surroundings

variable {σ τ : Type}

/-- The same surroundings with a journal of what is done. -/
def logged (e : Surroundings σ) : Surroundings (σ × List Deed) where
  gateway x := e.gateway x.1
  update f x := (e.update f x.1, x.2)
  banned x := e.banned x.1
  ban mac x :=
    let (y, r) := e.ban mac x.1
    ((y, x.2 ++ [.ban mac r]), r)
  serve address port x :=
    let (y, r) := e.serve address port x.1
    ((y, x.2 ++ [.serve address port r]), r)
  closeEndpoint x := (e.closeEndpoint x.1, x.2 ++ [.closeEndpoint])
  handle n h x :=
    let (y, previous) := e.handle n h x.1
    ((y, x.2 ++ [.handle n h previous]), previous)
  start x := (e.start x.1, x.2 ++ [.start])
  wait x := (e.wait x.1, x.2 ++ [.wait])
  stop x := (e.stop x.1, x.2 ++ [.stop])
  join x :=
    let (y, outcome) := e.join x.1
    ((y, x.2 ++ [.join outcome]), outcome)
  say n x := (e.say n x.1, x.2 ++ [.say n])

/-- What a run has done. -/
def journal (e : Surroundings σ) (p : Plan) (host : Host) (x : σ) : List Deed :=
  (e.logged.run p host (x, [])).1.2

/-! ## Surroundings that answer alike -/

/-- Two results are alike: the states belong together and what was given is the same. -/
def Alike {α : Type} (R : σ → τ → Prop) (a : σ × α) (b : τ × α) : Prop := R a.1 b.1 ∧ a.2 = b.2

theorem Alike.exists_eq {α : Type} {R : σ → τ → Prop} {a : σ × α} {b : τ × α} (h : Alike R a b) :
    ∃ x y r, a = (x, r) ∧ b = (y, r) ∧ R x y :=
  ⟨a.1, b.1, a.2, rfl, Prod.ext rfl h.2.symm, h.1⟩

/-- Surroundings answer as others do, in states that belong together, and lead to such states. -/
structure Simulates (e : Surroundings σ) (e' : Surroundings τ) (R : σ → τ → Prop) : Prop where
  gateway {x y} : R x y → e.gateway x = e'.gateway y
  banned {x y} : R x y → e.banned x = e'.banned y
  update {x y} f : R x y → R (e.update f x) (e'.update f y)
  ban {x y} mac : R x y → Alike R (e.ban mac x) (e'.ban mac y)
  serve {x y} address port : R x y → Alike R (e.serve address port x) (e'.serve address port y)
  closeEndpoint {x y} : R x y → R (e.closeEndpoint x) (e'.closeEndpoint y)
  handle {x y} n h : R x y → Alike R (e.handle n h x) (e'.handle n h y)
  start {x y} : R x y → R (e.start x) (e'.start y)
  wait {x y} : R x y → R (e.wait x) (e'.wait y)
  stop {x y} : R x y → R (e.stop x) (e'.stop y)
  join {x y} : R x y → Alike R (e.join x) (e'.join y)
  say {x y} n : R x y → R (e.say n x) (e'.say n y)

namespace Simulates

variable {e : Surroundings σ} {e' : Surroundings τ} {R : σ → τ → Prop} {x : σ} {y : τ}

theorem banAll (h : e.Simulates e' R) (items : List String) (hxy : R x y) :
    Alike R (e.banAll items x) (e'.banAll items y) := by
  induction items generalizing x y with
  | nil => exact ⟨hxy, rfl⟩
  | cons mac rest ih =>
    obtain ⟨x', y', r, hban, hban', hxy'⟩ := (h.ban mac hxy).exists_eq
    unfold Surroundings.banAll
    rw [hban, hban']
    cases r with
    | error f => exact ⟨hxy', rfl⟩
    | ok u => exact ih hxy'

theorem openEndpoint (h : e.Simulates e' R) (p : Plan) (hxy : R x y) :
    Alike R (e.openEndpoint p x) (e'.openEndpoint p y) := by
  unfold Surroundings.openEndpoint
  rw [← h.gateway hxy]
  split
  · split
    · rename_i address port _ _
      obtain ⟨x', y', r, hserve, hserve', hxy'⟩ := (h.serve address (.int port) hxy).exists_eq
      rw [hserve, hserve']
      cases r with
      | ok u => exact ⟨hxy', rfl⟩
      | error f =>
        cases hsystem : isSystemFault f with
        | true => simpa [hsystem] using ⟨h.say _ hxy', rfl⟩
        | false => simpa [hsystem] using ⟨hxy', rfl⟩
    · exact ⟨hxy, rfl⟩
    · exact ⟨hxy, rfl⟩
  · exact ⟨hxy, rfl⟩

theorem setHandlers (h : e.Simulates e' R) (handlers : List (Int × SignalHandler)) (hxy : R x y) :
    Alike R (e.setHandlers handlers x) (e'.setHandlers handlers y) := by
  induction handlers generalizing x y with
  | nil => exact ⟨hxy, rfl⟩
  | cons head rest ih =>
    obtain ⟨x', y', held, hhandle, hhandle', hxy'⟩ := (h.handle head.1 head.2 hxy).exists_eq
    obtain ⟨hstate, hprevious⟩ := ih hxy'
    unfold Surroundings.setHandlers
    rw [hhandle, hhandle']
    exact ⟨hstate, congrArg ((head.1, held) :: ·) hprevious⟩

theorem sayAll (h : e.Simulates e' R) (notices : List Notice) (hxy : R x y) :
    R (notices.foldl (fun x n => e.say n x) x) (notices.foldl (fun y n => e'.say n y) y) := by
  induction notices generalizing x y with
  | nil => exact hxy
  | cons n rest ih => exact ih (h.say n hxy)

theorem takeSignals (h : e.Simulates e' R) (p : Plan) (hxy : R x y) :
    Alike R (e.takeSignals p x) (e'.takeSignals p y) := by
  unfold Surroundings.takeSignals
  split
  · split
    · exact h.setHandlers _ hxy
    · exact ⟨h.say _ hxy, rfl⟩
  · exact ⟨hxy, rfl⟩

theorem note (h : e.Simulates e' R) (outcome : Option (Except Fault Unit)) (hxy : R x y) :
    R (e.note outcome x) (e'.note outcome y) := by
  unfold Surroundings.note
  match outcome with
  | none => exact h.say _ hxy
  | some (.ok ()) => exact h.update _ hxy
  | some (.error f) => exact h.update _ (h.say _ (h.update _ hxy))

theorem conclude (h : e.Simulates e' R) (host : Host) (hxy : R x y) :
    Alike R (e.conclude host x) (e'.conclude host y) := by
  unfold Surroundings.conclude
  rw [← h.gateway hxy]
  split
  · exact ⟨hxy, rfl⟩
  · refine ⟨?_, rfl⟩
    simp only
    split
    · unfold Surroundings.explain
      rw [← h.gateway hxy]
      exact h.say _ (h.sayAll _ hxy)
    · exact hxy

theorem listen (h : e.Simulates e' R) (p : Plan) (host : Host) (hxy : R x y) :
    Alike R (e.listen p host x) (e'.listen p host y) := by
  unfold Surroundings.listen
  obtain ⟨x₁, y₁, previous, htake, htake', h₁⟩ := (h.takeSignals p hxy).exists_eq
  simp only [htake, htake', ← h.gateway h₁]
  obtain ⟨x₂, y₂, outcome, hjoin, hjoin', h₂⟩ :=
    (h.join (h.stop (h.wait (h.start (h.say ⟨.info, "Starting Ruuvi gateway on adapter " ++
      (e.gateway x₁).adapter.display, none⟩ h₁))))).exists_eq
  simp only [hjoin, hjoin']
  have h₃ := (h.setHandlers previous (h.note outcome h₂)).1
  split
  · have h₄ := h.closeEndpoint h₃
    rw [← h.gateway h₄, ← h.banned h₄]
    exact h.conclude host (h.say _ h₄)
  · rw [← h.gateway h₃, ← h.banned h₃]
    exact h.conclude host (h.say _ h₃)

/-- **A run gives the same code in surroundings that answer alike**, and ends in states that belong
together. -/
theorem run (h : e.Simulates e' R) (p : Plan) (host : Host) (hxy : R x y) :
    Alike R (e.run p host x) (e'.run p host y) := by
  unfold Surroundings.run
  rw [← h.gateway hxy]
  split
  · exact ⟨hxy, rfl⟩
  · rename_i items _
    obtain ⟨x₁, y₁, banned, hban, hban', h₁⟩ := (h.banAll items hxy).exists_eq
    rw [hban, hban']
    cases banned with
    | error f => exact ⟨h₁, rfl⟩
    | ok u =>
      obtain ⟨x₂, y₂, opened, hopen, hopen', h₂⟩ := (h.openEndpoint p h₁).exists_eq
      simp only [hopen, hopen']
      match opened with
      | .error f => exact ⟨h₂, rfl⟩
      | .ok (some code) => exact ⟨h₂, rfl⟩
      | .ok none => exact h.listen p host h₂

end Simulates

/-! ## The journal -/

variable (e : Surroundings σ)

/-- What a deed says was given is what the surroundings give in some state. -/
def Came : Deed → Prop
  | .ban mac r => ∃ x, (e.ban mac x).2 = r
  | .serve address port r => ∃ x, (e.serve address port x).2 = r
  | .handle n h previous => ∃ x, (e.handle n h x).2 = previous
  | .join outcome => ∃ x, (e.join x).2 = outcome
  | .closeEndpoint | .start | .wait | .stop | .say _ => True

/-- A state with a journal of what came, and the same state without one. -/
def Records (x : σ × List Deed) (y : σ) : Prop := x.1 = y ∧ ∀ d ∈ x.2, e.Came d

variable {e}

theorem Records.append {x : σ × List Deed} {y : σ} {d : Deed} (h : e.Records x y) (z : σ)
    (hd : e.Came d) : e.Records (z, x.2 ++ [d]) z := by
  refine ⟨rfl, fun d' hd' => ?_⟩
  rcases List.mem_append.mp hd' with hold | hnew
  · exact h.2 d' hold
  · rw [List.mem_singleton.mp hnew]
    exact hd

theorem simulates_logged : e.logged.Simulates e e.Records where
  gateway h := congrArg e.gateway h.1
  banned h := congrArg e.banned h.1
  update f h := ⟨congrArg (e.update f) h.1, h.2⟩
  ban {x y} mac h := by
    obtain rfl := h.1
    exact ⟨h.append _ ⟨x.1, rfl⟩, rfl⟩
  serve {x y} address port h := by
    obtain rfl := h.1
    exact ⟨h.append _ ⟨x.1, rfl⟩, rfl⟩
  closeEndpoint {x y} h := by
    obtain rfl := h.1
    exact h.append _ trivial
  handle {x y} n held h := by
    obtain rfl := h.1
    exact ⟨h.append _ ⟨x.1, rfl⟩, rfl⟩
  start {x y} h := by
    obtain rfl := h.1
    exact h.append _ trivial
  wait {x y} h := by
    obtain rfl := h.1
    exact h.append _ trivial
  stop {x y} h := by
    obtain rfl := h.1
    exact h.append _ trivial
  join {x y} h := by
    obtain rfl := h.1
    exact ⟨h.append _ ⟨x.1, rfl⟩, rfl⟩
  say {x y} n h := by
    obtain rfl := h.1
    exact h.append _ trivial

/-- A run that starts with an empty journal. -/
theorem alike_logged (p : Plan) (host : Host) (x : σ) :
    Alike e.Records (e.logged.run p host (x, [])) (e.run p host x) :=
  simulates_logged.run p host ⟨rfl, by simp⟩

/-- **Keeping a journal changes nothing**: the run ends in the same state and gives the same. -/
theorem logged_run (p : Plan) (host : Host) (x : σ) :
    e.logged.run p host (x, []) =
      (((e.run p host x).1, e.journal p host x), (e.run p host x).2) := by
  obtain ⟨⟨hstate, -⟩, hresult⟩ := alike_logged (e := e) p host x
  exact Prod.ext (Prod.ext hstate rfl) hresult

/-- What a journal says was given was given. -/
theorem came_of_mem_journal {p : Plan} {host : Host} {x : σ} {d : Deed}
    (h : d ∈ e.journal p host x) : e.Came d :=
  (alike_logged p host x).1.2 d h

end Surroundings

end TagGateway.Gateway

import TagGateway.Proofs.Gateway.Blacklisting
import TagGateway.Rehearsal.Service

/-!
# What a receiver keeps in a rehearsal

A rehearsal takes signals, steps and moves in turn, and a request may have others inside it. What a
receiver keeps whenever an advertisement or a step of its own comes, it keeps throughout.

* `Rehearsal.Cast.Keeps` — an invariant of an actor;
  `Rehearsal.Cast.Keeps.perform`, by recursion over the step, and `Rehearsal.Cast.Keeps.ask`.
* `Rehearsal.Reception.Keeps` — an invariant of a receiver;
  `Rehearsal.Reception.Keeps.settle`, by induction over the moves, and
  `Rehearsal.Reception.Keeps.begin`.
* **`Rehearsal.keeps_attendant`** — the gateway as a receiver keeps what a run stands on.
-/

namespace TagGateway.Rehearsal

open Bus

section

variable {σ : Type} {c : Cast σ} {I : σ → Prop} {w : World σ}

/-- Whatever an actor does, it keeps an invariant. -/
structure Cast.Keeps (c : Cast σ) (I : σ → Prop) : Prop where
  signal {a a' topic body es} : c.signal a topic body = .ok (a', es) → I a → I a'
  receive {a} r : I a → I (c.receive a r).1
  act {w : World σ} s : I w.actor → I (c.act w s).1.actor

namespace Cast.Keeps

theorem sendTo (h : c.Keeps I) (body : Value) (topics : List Topic) (hI : I w.actor) :
    I (w.sendTo c body topics).1.actor := by
  induction topics generalizing w with
  | nil => exact hI
  | cons topic rest ih =>
    unfold World.sendTo
    cases harguments : topic.arguments body with
    | error f => exact hI
    | ok arguments =>
      cases hsignal : c.signal w.actor topic arguments with
      | error f => simpa [bind, Except.bind, hsignal] using hI
      | ok taken => simpa [bind, Except.bind, hsignal] using ih (h.signal hsignal hI)

mutual

/-- A step keeps what the actor keeps, with the steps inside it. -/
theorem perform (h : c.Keeps I) (w : World σ) (hI : I w.actor) (s : Step) :
    I (w.perform c s).1.actor := by
  cases s with
  | signal path interface member body =>
    unfold World.perform
    exact h.sendTo body _ hI
  | setProperties | unsetProperty | dropDevice | failCalls | raise =>
    unfold World.perform
    exact hI
  | batch steps =>
    unfold World.perform
    exact performAll h w hI steps
  | track path steps =>
    unfold World.perform
    exact performAll h w hI steps
  | start | stop | ban | post | announce | remove | blacklist | contains | size | clear | emit
  | change | retry | adapterChange | want | packet | shutdown | hostSignal | metrics | nothing =>
    unfold World.perform
    exact h.act _ hI

/-- So do steps one after the other, up to the first that fails. -/
theorem performAll (h : c.Keeps I) (w : World σ) (hI : I w.actor) (steps : List Step) :
    I (w.performAll c steps).1.actor := by
  match steps with
  | [] =>
    unfold World.performAll
    exact hI
  | s :: rest =>
    have hstep := perform h w hI s
    unfold World.performAll
    rcases hperform : w.perform c s with ⟨w', r⟩
    rw [hperform] at hstep
    cases r with
    | error f => exact hstep
    | ok o => exact performAll h w' hstep rest

end

theorem answerAfter (h : c.Keeps I) (w : World σ) (hI : I w.actor) (event : String)
    {answer : World σ → World σ × Reply} (hanswer : ∀ w, I w.actor → I (answer w).1.actor) :
    I (w.answerAfter c event answer).1.actor := by
  have hhooks : I (w.runHooks c event).1.actor := by
    rcases htake : w.stage.takeHooks event with ⟨stage, steps⟩
    simpa only [World.runHooks, htake] using h.performAll { w with stage } hI steps
  unfold World.answerAfter
  rcases hrun : w.runHooks c event with ⟨w', r⟩
  rw [hrun] at hhooks
  cases r with
  | error f => exact hhooks
  | ok u => exact hanswer w' hhooks

/-- A request keeps what the actor keeps, with the hooks that belong to it. -/
theorem ask (h : c.Keeps I) (w : World σ) (hI : I w.actor) (r : Request) :
    I (w.ask c r).1.actor := by
  cases r with
  | connect =>
    unfold World.ask
    simp only
    split
    · exact hI
    · refine h.answerAfter (w.see _) hI _ ?_
      exact fun w hw => hw
  | disconnect => exact hI
  | call path interface member signature body =>
    refine h.answerAfter (w.see _) hI _ ?_
    exact fun w hw => hw
  | subscribe path interface member topic =>
    refine h.answerAfter (w.see _) hI _ ?_
    exact fun w hw => hw
  | sleep duration =>
    refine h.answerAfter (w.see _) hI _ ?_
    exact fun w hw => hw
  | deliver a =>
    have hreceived := h.receive a hI
    unfold World.ask
    rcases hreceive : c.receive w.actor a with ⟨actor, es, r⟩
    rw [hreceive] at hreceived
    simp only [hreceive]
    cases r with
    | error f => exact hreceived
    | ok u =>
      refine h.answerAfter _ hreceived _ ?_
      exact fun w hw => hw

end Cast.Keeps

end

section

variable {ρ : Type} {t : Reception ρ} {I : ρ → Prop} {w : World (Player ρ)}

/-- Whatever comes to a receiver, it keeps an invariant. -/
structure Reception.Keeps (t : Reception ρ) (I : ρ → Prop) : Prop where
  receive {g} a : I g → I (t.receive g a).1
  act {w : World (Player ρ)} s : I w.actor.receiver → I (t.act w s).1.actor.receiver

theorem receiver_set (w : World (Player ρ)) (l : Listener Handler) (effects : List Effect) :
    (Player.set w l effects).actor.receiver = w.actor.receiver := by
  unfold Player.set
  rw [World.actor_apply]

theorem receiver_mark (p : Player ρ) : p.mark.receiver = p.receiver := by
  unfold Player.mark
  split <;> rfl

theorem receiver_take (w : World (Player ρ)) (m : Listener.Move Handler) :
    (Player.take w m).1.actor.receiver = w.actor.receiver := by
  show (Player.set w m.1 m.2.1).actor.mark.receiver = w.actor.receiver
  rw [receiver_mark, receiver_set]

theorem receiver_signal {p p' : Player ρ} {topic : Topic} {body : List Value} {es : List Event}
    (h : p.signal topic body = .ok (p', es)) : p'.receiver = p.receiver := by
  unfold Player.signal at h
  cases hsignal : p.listener.signal topic body with
  | error f => simp [hsignal, bind, Except.bind] at h
  | ok m =>
    simp only [hsignal, bind, Except.bind, pure, Except.pure, Except.ok.injEq, Prod.mk.injEq] at h
    rw [← h.1]

namespace Reception.Keeps

theorem playerAct (h : t.Keeps I) (w : World (Player ρ)) (hI : I w.actor.receiver) (s : Step) :
    I (Player.act t w s).1.actor.receiver := by
  unfold Player.act
  split
  · rwa [receiver_set]
  · simp only
    split
    · exact hI
    · rwa [receiver_set]
  · rwa [receiver_set]
  · simp only
    split
    · rwa [receiver_set]
    · exact hI
  · exact h.act _ hI

/-- The actor that a receiver is with its listener keeps what the receiver keeps. -/
theorem cast (h : t.Keeps I) : (Player.cast t).Keeps (I ·.receiver) where
  signal hsignal hI := by
    rw [receiver_signal hsignal]
    exact hI
  receive a hI := h.receive a hI
  act s hI := h.playerAct _ hI s

/-- One move. -/
theorem advance (h : t.Keeps I) (w : World (Player ρ)) (hI : I w.actor.receiver)
    {result : World (Player ρ) × Option (Except Fault Unit)}
    (hmove : Player.advance t w = some result) : I result.1.actor.receiver := by
  unfold Player.advance at hmove
  split at hmove
  · cases hmove
  · rename_i r _
    have hasked := h.cast.ask w hI r
    obtain rfl := Option.some.inj hmove
    rw [receiver_take]
    unfold Player.noteReply
    split <;> exact hasked
  · rename_i handler _
    have hdone := h.cast.performAll (w.see [.handled handler.1]) hI handler.2
    obtain rfl := Option.some.inj hmove
    rw [receiver_take]
    exact hdone
  · split at hmove
    · obtain rfl := Option.some.inj hmove
      rw [receiver_take]
      exact hI
    · cases hmove

/-- All moves that there are, or as many as are waited for. -/
theorem settleFor (h : t.Keeps I) (fuel : Nat) (w : World (Player ρ)) (hI : I w.actor.receiver) :
    I (Player.settleFor t fuel w).1.actor.receiver := by
  induction fuel generalizing w with
  | zero => exact hI
  | succ fuel ih =>
    unfold Player.settleFor
    split
    · exact hI
    · rename_i w' result hmove
      exact h.advance w hI hmove
    · rename_i w' hmove
      exact ih w' (h.advance w hI hmove)

theorem settle (h : t.Keeps I) (w : World (Player ρ)) (hI : I w.actor.receiver) :
    I (Player.settle t w).1.actor.receiver :=
  h.settleFor Player.patience w hI

/-- The beginning of a run. -/
theorem begin (h : t.Keeps I) (w : World (Player ρ)) (hI : I w.actor.receiver) :
    I (Player.begin t w).1.actor.receiver := by
  have hlaunched : I (Player.launch t w).1.actor.receiver := by
    unfold Player.launch
    simp only
    split
    · rwa [receiver_set]
    · refine h.settle _ ?_
      rwa [receiver_set]
  unfold Player.begin
  split
  · rename_i w' hlaunch
    rw [hlaunch] at hlaunched
    exact hlaunched
  · rename_i w' result hlaunch
    rw [hlaunch] at hlaunched
    exact hlaunched

end Reception.Keeps

end

end TagGateway.Rehearsal

/-! ## The gateway as a receiver -/

namespace TagGateway

namespace Gateway

variable {g g' : Gateway}

/-- A gateway is at the same run: its settings, its adapter and its fault are as they were. -/
structure SameRun (g g' : Gateway) : Prop where
  settings : g'.settings = g.settings
  adapter : g'.adapter = g.adapter
  fault : g'.fault = g.fault

theorem SameRun.refl (g : Gateway) : g.SameRun g := ⟨rfl, rfl, rfl⟩

theorem sameRun_record (h : g.SameRun g') (sender : String) (s : Sheet) :
    g.SameRun (g'.record sender s).1 := by
  unfold record
  simp only
  split
  · exact h
  · split
    · exact ⟨h.settings, h.adapter, h.fault⟩
    · exact ⟨h.settings, h.adapter, h.fault⟩

theorem sameRun_decode (h : g.SameRun g') (i : Intake) : g.SameRun (g'.decode i).1 := by
  unfold decode
  split
  · exact ⟨h.settings, h.adapter, h.fault⟩
  · exact h
  · exact h
  · exact sameRun_record h _ _

/-- What comes in changes the metrics and the tally. -/
theorem sameRun_take (h : g.SameRun g') (i : Intake) : g.SameRun (g'.take i).1 := by
  have hreceived : g.SameRun
      { g' with tally := { g'.tally with received := g'.tally.received + 1 } } :=
    ⟨h.settings, h.adapter, h.fault⟩
  unfold take
  simp only
  split
  · exact hreceived
  · split
    · exact sameRun_decode hreceived i
    · exact ⟨h.settings, h.adapter, h.fault⟩

theorem sameRun_takeSignal (h : g.SameRun g') {number : Value} {n : Notice} {g'' : Gateway}
    (htaken : g'.takeSignal number = .ok (g'', n)) : g.SameRun g'' := by
  unfold takeSignal at htaken
  split at htaken
  · cases htaken
    exact ⟨h.settings, h.adapter, h.fault⟩
  · cases htaken

theorem sameRun_scrape (h : g.SameRun g') (r : Metrics.Readings) :
    g.SameRun (g'.scrape r).1 := by
  unfold scrape
  split
  · exact h
  · exact ⟨h.settings, h.adapter, h.fault⟩

end Gateway

namespace Rehearsal

/-- **The gateway stays at its run** whatever comes to it in a rehearsal. -/
theorem keeps_attendant (g : Gateway) (readings : Metrics.Readings) :
    (attendant readings).Keeps g.SameRun where
  receive a h := Gateway.sameRun_take h (.ofAdvertisement a)
  act {w} s h := by
    cases s with
    | packet d => exact Gateway.sameRun_take h (.ofDraft d)
    | shutdown => exact ⟨h.settings, h.adapter, h.fault⟩
    | hostSignal number =>
      simp only [attendant]
      split
      · rename_i htaken
        exact Gateway.sameRun_takeSignal h htaken
      · exact h
    | metrics => exact Gateway.sameRun_scrape h readings
    | _ => exact h

end Rehearsal

end TagGateway

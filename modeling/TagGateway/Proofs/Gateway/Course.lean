import TagGateway.Proofs.Gateway.Blacklisting
import TagGateway.Proofs.Gateway.Journal

/-!
# The course of a run

In surroundings that do what they are asked to and leave the rest alone, it is known what a run
does, deed by deed.

* `Gateway.Surroundings.Footing` — what a run stands on; `Gateway.Surroundings.Lawful` — that nobody
  but the run changes it.
* `Gateway.Surroundings.Lawful.setHandlers` — signals are taken in other ways, by induction.
* `Gateway.listening`, `Gateway.Surroundings.Lawful.listen` — what is done while a listener works.
* **`Gateway.Surroundings.Lawful.run`** — all that a run does.
-/

namespace TagGateway.Gateway

/-- The signals that a run takes. -/
def Plan.signals (p : Plan) : List Int :=
  if p.takesSignals && p.onMainThread then endingSignals else []

theorem Plan.nodup_signals (p : Plan) : p.signals.Nodup := by
  unfold Plan.signals
  split <;> decide

/-- The fault with which a listener ended. -/
def failure? : Option (Except Fault Unit) → Option Fault
  | some (.error f) => some f
  | _ => none

/-- What is said to an operator who gets a guide to a fault. -/
def guidance (adapter : Value) (host : Host) (f : Fault) : List Notice :=
  if needsGuide f then
    (Checkup.guide adapter host f).2 ++ [⟨.error, (Checkup.guide adapter host f).1, none⟩]
  else []

/-- What is said of a listener that has been waited for. -/
def verdict : Option (Except Fault Unit) → List Notice
  | some (.ok ()) => []
  | some (.error f) => [⟨.error, "BLE listener failed: " ++ f.message, none⟩]
  | none => [⟨.warning, "BLE listener did not stop within 10 seconds", none⟩]

/-- What is said of signals that cannot reach a run. -/
def Plan.remark (p : Plan) : List Notice :=
  if p.takesSignals && !p.onMainThread then
    [⟨.debug, "Not on the main thread, signal handlers not installed", none⟩]
  else []

/-- What a run does with a listener that ends in some way, when the signals were taken by these
handlers and the last that is said is this. -/
def listening (p : Plan) (hs : SignalHandlers) (start report : String)
    (outcome : Option (Except Fault Unit)) (last : List Notice) : List Deed :=
  (p.signals.map fun n => .handle n .gateway (hs n)) ++ p.remark.map .say ++
    [.say ⟨.info, start, none⟩, .start, .wait, .stop, .join outcome] ++
    (verdict outcome).map .say ++ (p.signals.map fun n => .handle n (hs n) .gateway) ++
    (if p.serves then [.closeEndpoint] else []) ++ (⟨.info, report, none⟩ :: last).map .say

namespace Surroundings

variable {σ : Type} {e : Surroundings σ} {handlers : σ → SignalHandlers}

/-- What a run stands on. -/
structure Footing where
  settings : Settings
  adapter : Value
  fault : Option Fault
  handlers : SignalHandlers

/-- The same with signals taken in other ways. -/
def Footing.withHandlers (f : Footing) (hs : SignalHandlers) : Footing :=
  ⟨f.settings, f.adapter, f.fault, hs⟩

/-- The same with another fault of the gateway. -/
def Footing.withFault (f : Footing) (fault : Option Fault) : Footing :=
  ⟨f.settings, f.adapter, fault, f.handlers⟩

/-- What a run stands on in a state. -/
def footing (e : Surroundings σ) (handlers : σ → SignalHandlers) (x : σ) : Footing where
  settings := (e.gateway x).settings
  adapter := (e.gateway x).adapter
  fault := (e.gateway x).fault
  handlers := handlers x

/-- Surroundings that do what they are asked to and leave the rest to the run: nobody but the run
changes the settings, the adapter or the fault of its gateway, and what takes a signal changes only
when it is asked to. -/
structure Lawful (e : Surroundings σ) (handlers : σ → SignalHandlers) : Prop where
  gateway_update f x : e.gateway (e.update f x) = f (e.gateway x)
  handlers_update f x : handlers (e.update f x) = handlers x
  /-- A text that writes an address can be banned. -/
  ban_address {mac address} x : Address.normalize mac = .ok address → (e.ban mac x).2 = .ok ()
  ban mac x : e.footing handlers (e.ban mac x).1 = e.footing handlers x
  serve address port x : e.footing handlers (e.serve address port x).1 = e.footing handlers x
  closeEndpoint x : e.footing handlers (e.closeEndpoint x) = e.footing handlers x
  handle n h x : e.footing handlers (e.handle n h x).1 =
    (e.footing handlers x).withHandlers ((handlers x).set n h)
  handle_previous n h x : (e.handle n h x).2 = handlers x n
  start x : e.footing handlers (e.start x) = e.footing handlers x
  wait x : e.footing handlers (e.wait x) = e.footing handlers x
  stop x : e.footing handlers (e.stop x) = e.footing handlers x
  join x : e.footing handlers (e.join x).1 = e.footing handlers x
  say n x : e.footing handlers (e.say n x) = e.footing handlers x

/-- What adds addresses to a blacklist can ban them. -/
theorem Keeps.ban_address {blacklist : σ → Blacklist} (h : e.Keeps blacklist) {mac address : String}
    {x : σ} (haddress : Address.normalize mac = .ok address) : (e.ban mac x).2 = .ok () := by
  have hvalue : Address.ofValue (.text mac) = .ok address := haddress
  obtain ⟨y, hban, -⟩ := h (Blacklist.add_of_ofValue (blacklist x) hvalue)
  rw [hban]

namespace Lawful

/-! ## Bans and the endpoint -/

/-- Texts that write addresses are all banned, one after the other. -/
theorem banAll (laws : e.Lawful handlers) (x : σ) {items : List String}
    (hitems : ∀ item ∈ items, ∃ mac, Address.normalize item = .ok mac) :
    ∃ y, (∀ l, e.logged.banAll items (x, l) =
        ((y, l ++ items.map (.ban · (.ok ()))), .ok ())) ∧
      e.footing handlers y = e.footing handlers x := by
  induction items generalizing x with
  | nil => exact ⟨x, fun l => by simp [Surroundings.banAll], rfl⟩
  | cons item rest ih =>
    obtain ⟨mac, hmac⟩ := hitems item List.mem_cons_self
    obtain ⟨y, hrest, hy⟩ := ih (e.ban item x).1
      fun item hitem => hitems item (List.mem_cons_of_mem _ hitem)
    refine ⟨y, fun l => ?_, hy.trans (laws.ban item x)⟩
    have hban : e.logged.ban item (x, l) =
        (((e.ban item x).1, l ++ [.ban item (.ok ())]), .ok ()) := by
      simp only [logged, laws.ban_address x hmac]
    unfold Surroundings.banAll
    rw [hban]
    simp only [hrest]
    simp

/-- The endpoint is left alone, or it is opened, or it cannot be: on account of the host, which
gives the exit code, or for another reason, which ends the run. -/
theorem openEndpoint (laws : e.Lawful handlers) (p : Plan) {x : σ} {address : Value} {port : Int}
    (haddress : (e.gateway x).settings.address = .ok address)
    (hport : (e.gateway x).settings.port = .ok port) :
    ∃ y, e.footing handlers y = e.footing handlers x ∧
      ((∀ l, e.logged.openEndpoint p (x, l) =
          ((y, l ++ if p.serves then [.serve address (.int port) (.ok ())] else []), .ok none)) ∨
        ∃ f, (isSystemFault f = true ∧ ∃ n, ∀ l, e.logged.openEndpoint p (x, l) =
              ((y, l ++ [.serve address (.int port) (.error f), .say n]), .ok (some 1))) ∨
            (isSystemFault f = false ∧ ∀ l, e.logged.openEndpoint p (x, l) =
              ((y, l ++ [.serve address (.int port) (.error f)]), .error f))) := by
  have hgateway (l : List Deed) : e.logged.gateway (x, l) = e.gateway x := rfl
  have hserve (l : List Deed) : e.logged.serve address (.int port) (x, l) =
      (((e.serve address (.int port) x).1,
        l ++ [.serve address (.int port) (e.serve address (.int port) x).2]),
        (e.serve address (.int port) x).2) := rfl
  have hfooting := laws.serve address (.int port) x
  unfold Surroundings.openEndpoint
  cases p.serves with
  | false => exact ⟨x, rfl, Or.inl (by simp)⟩
  | true =>
    simp only [hgateway, haddress, hport, hserve, if_true]
    cases (e.serve address (.int port) x).2 with
    | ok u => exact ⟨_, hfooting, Or.inl fun l => rfl⟩
    | error f =>
      cases hsystem : isSystemFault f with
      | false => exact ⟨_, hfooting, Or.inr ⟨f, Or.inr ⟨hsystem, by simp [hsystem]⟩⟩⟩
      | true =>
        let n : Notice := ⟨.error, "Cannot serve metrics on " ++ address.display ++ ":" ++
          toString port ++ ": " ++ f.message, none⟩
        refine ⟨_, (laws.say n _).trans hfooting, Or.inr ⟨f, Or.inl ⟨hsystem, n, ?_⟩⟩⟩
        simp [hsystem, logged, n]

/-! ## Signals -/

/-- Signals are taken in other ways, each once, and it is noted what took each of them before. -/
theorem setHandlers (laws : e.Lawful handlers) (hs : SignalHandlers) (x : σ) {signals : List Int}
    (hnodup : signals.Nodup) :
    ∃ y, (∀ l, e.logged.setHandlers (signals.map fun n => (n, hs n)) (x, l) =
        ((y, l ++ signals.map fun n => .handle n (hs n) (handlers x n)),
          signals.map fun n => (n, handlers x n))) ∧
      e.footing handlers y = (e.footing handlers x).withHandlers
        fun n => if n ∈ signals then hs n else handlers x n := by
  induction signals generalizing x with
  | nil =>
    exact ⟨x, fun l => by simp [Surroundings.setHandlers],
      by simp [footing, Footing.withHandlers]⟩
  | cons n rest ih =>
    obtain ⟨hn, hrest⟩ := List.nodup_cons.mp hnodup
    have hfooting := laws.handle n (hs n) x
    have hset : handlers (e.handle n (hs n) x).1 = (handlers x).set n (hs n) :=
      congrArg Footing.handlers hfooting
    -- the signals that are left are still taken as they were
    have hothers : ∀ m ∈ rest, handlers (e.handle n (hs n) x).1 m = handlers x m := by
      intro m hm
      have hne : m ≠ n := fun heq => hn (heq ▸ hm)
      rw [hset]
      exact if_neg hne
    have hdeeds : (rest.map fun m => Deed.handle m (hs m) (handlers (e.handle n (hs n) x).1 m)) =
        rest.map fun m => .handle m (hs m) (handlers x m) :=
      List.map_congr_left fun m hm => by rw [hothers m hm]
    have hprevious : (rest.map fun m => (m, handlers (e.handle n (hs n) x).1 m)) =
        rest.map fun m => (m, handlers x m) :=
      List.map_congr_left fun m hm => by rw [hothers m hm]
    obtain ⟨y, hstep, hy⟩ := ih (e.handle n (hs n) x).1 hrest
    refine ⟨y, fun l => ?_, ?_⟩
    · have hhandle : e.logged.handle n (hs n) (x, l) =
          (((e.handle n (hs n) x).1, l ++ [.handle n (hs n) (handlers x n)]), handlers x n) := by
        simp only [logged, laws.handle_previous]
      rw [List.map_cons]
      unfold Surroundings.setHandlers
      rw [hhandle]
      simp only [hstep, hdeeds, hprevious]
      simp
    · rw [hy, hfooting, hset]
      refine congrArg (Footing.mk _ _ _) (funext fun m => ?_)
      by_cases hm : m = n <;> simp [SignalHandlers.set, hm, hn]

/-- The signals of a plan are taken by the gateway, and all others as before. -/
theorem takeSignals (laws : e.Lawful handlers) (p : Plan) (x : σ) :
    ∃ y, (∀ l, e.logged.takeSignals p (x, l) =
        ((y, l ++ ((p.signals.map fun n => .handle n .gateway (handlers x n)) ++
          p.remark.map .say)), p.signals.map fun n => (n, handlers x n))) ∧
      e.footing handlers y = (e.footing handlers x).withHandlers
        fun n => if n ∈ p.signals then .gateway else handlers x n := by
  unfold Surroundings.takeSignals
  cases htakes : p.takesSignals with
  | false =>
    exact ⟨x, fun l => by simp [Plan.signals, Plan.remark, htakes],
      by simp [Plan.signals, htakes, footing, Footing.withHandlers]⟩
  | true =>
    cases hmain : p.onMainThread with
    | false =>
      let n : Notice := ⟨.debug, "Not on the main thread, signal handlers not installed", none⟩
      refine ⟨e.say n x, fun l => ?_, (laws.say n x).trans ?_⟩
      · simp [Plan.signals, Plan.remark, htakes, hmain, logged, n]
      · simp [Plan.signals, htakes, hmain, footing, Footing.withHandlers]
    | true =>
      obtain ⟨y, htaken, hy⟩ := laws.setHandlers (fun _ => .gateway) x p.nodup_signals
      have hsignals : p.signals = endingSignals := by simp [Plan.signals, htakes, hmain]
      have hremark : p.remark = [] := by simp [Plan.remark, hmain]
      refine ⟨y, fun l => ?_, hy⟩
      rw [hsignals] at htaken
      simp [hsignals, hremark, htaken]

/-! ## The listener and its end -/

/-- The listener is started, waited for, asked to stop and waited for again. -/
theorem work (laws : e.Lawful handlers) (x : σ) :
    ∃ y outcome,
      (∀ l, e.logged.join (e.logged.stop (e.logged.wait (e.logged.start (x, l)))) =
        ((y, l ++ [.start, .wait, .stop, .join outcome]), outcome)) ∧
      e.footing handlers y = e.footing handlers x := by
  let working := e.stop (e.wait (e.start x))
  refine ⟨(e.join working).1, (e.join working).2, fun l => by simp [logged, working], ?_⟩
  calc e.footing handlers (e.join working).1
      = e.footing handlers working := laws.join _
    _ = e.footing handlers (e.wait (e.start x)) := laws.stop _
    _ = e.footing handlers (e.start x) := laws.wait _
    _ = e.footing handlers x := laws.start x

theorem sayAll (laws : e.Lawful handlers) (notices : List Notice) (x : σ) :
    ∃ y, (∀ l, notices.foldl (fun x n => e.logged.say n x) (x, l) =
        (y, l ++ notices.map .say)) ∧
      e.footing handlers y = e.footing handlers x := by
  induction notices generalizing x with
  | nil => exact ⟨x, fun l => by simp, rfl⟩
  | cons n rest ih =>
    obtain ⟨y, hsaid, hy⟩ := ih (e.say n x)
    refine ⟨y, fun l => ?_, hy.trans (laws.say n x)⟩
    have hstep : e.logged.say n (x, l) = (e.say n x, l ++ [.say n]) := rfl
    rw [List.foldl_cons, hstep, hsaid]
    simp

/-- A fault of the listener is kept and told. -/
theorem note (laws : e.Lawful handlers) (outcome : Option (Except Fault Unit)) {x : σ}
    (hfresh : (e.gateway x).fault = none) :
    ∃ y, (∀ l, e.logged.note outcome (x, l) = (y, l ++ (verdict outcome).map .say)) ∧
      e.footing handlers y = (e.footing handlers x).withFault (failure? outcome) := by
  have hrequest (y : σ) :
      e.footing handlers (e.update requestShutdown y) = e.footing handlers y := by
    simp only [footing, laws.gateway_update, laws.handlers_update]
    rfl
  have hkept (y : σ) (f : Fault) :
      e.footing handlers (e.update (fun g => { g with fault := some f }) y) =
        (e.footing handlers y).withFault (some f) := by
    simp only [footing, laws.gateway_update, laws.handlers_update, Footing.withFault]
  match outcome with
  | none =>
    refine ⟨_, fun l => rfl, (laws.say _ x).trans ?_⟩
    simp [footing, Footing.withFault, failure?, hfresh]
  | some (.ok ()) =>
    refine ⟨e.update requestShutdown x, fun l => ?_, (hrequest x).trans ?_⟩
    · simp [Surroundings.note, noteResult, logged, verdict]
    · simp [footing, Footing.withFault, failure?, hfresh]
  | some (.error f) =>
    exact ⟨_, fun l => rfl, (hrequest _).trans ((laws.say _ _).trans (hkept x f))⟩

theorem close (laws : e.Lawful handlers) (p : Plan) (x : σ) :
    ∃ y, (∀ l, (if p.serves then e.logged.closeEndpoint (x, l) else (x, l)) =
        (y, l ++ if p.serves then [.closeEndpoint] else [])) ∧
      e.footing handlers y = e.footing handlers x := by
  cases p.serves with
  | false => exact ⟨x, by simp, rfl⟩
  | true => exact ⟨e.closeEndpoint x, fun l => rfl, laws.closeEndpoint x⟩

/-- The exit code says whether there is a fault; a guide is given to some. -/
theorem conclude (laws : e.Lawful handlers) (host : Host) (x : σ) :
    ∃ y, (∀ l, e.logged.conclude host (x, l) =
        ((y, l ++ ((e.gateway x).fault.elim []
          (guidance (e.gateway x).adapter host)).map .say),
          .ok (if (e.gateway x).fault.isSome then 1 else 0))) ∧
      e.footing handlers y = e.footing handlers x := by
  have hgateway (l : List Deed) : e.logged.gateway (x, l) = e.gateway x := rfl
  unfold Surroundings.conclude
  simp only [hgateway]
  cases (e.gateway x).fault with
  | none => exact ⟨x, by simp, rfl⟩
  | some f =>
    cases hguide : needsGuide f with
    | false => exact ⟨x, by simp [hguide, guidance], rfl⟩
    | true =>
      obtain ⟨y, hsaid, hy⟩ := laws.sayAll (Checkup.guide (e.gateway x).adapter host f).2 x
      let n : Notice := ⟨.error, (Checkup.guide (e.gateway x).adapter host f).1, none⟩
      refine ⟨e.say n y, fun l => ?_, (laws.say n y).trans hy⟩
      simp only [explain, hgateway, hsaid, hguide, guidance, if_true, Option.elim_some,
        Option.isSome_some]
      simp [logged, n]

/-- **What is done while a listener works**, and the exit code, which says how it ended. In the end
signals are taken as before. -/
theorem listen (laws : e.Lawful handlers) (p : Plan) (host : Host) {x : σ}
    (hfresh : (e.gateway x).fault = none) :
    ∃ y start report outcome,
      (∀ l, e.logged.listen p host (x, l) =
        ((y, l ++ listening p (handlers x) start report outcome
          ((failure? outcome).elim [] (guidance (e.gateway x).adapter host))),
          .ok (if (failure? outcome).isSome then 1 else 0))) ∧
      handlers y = handlers x := by
  obtain ⟨x₁, htake, h₁⟩ := laws.takeSignals p x
  let start : Notice :=
    ⟨.info, "Starting Ruuvi gateway on adapter " ++ (e.gateway x₁).adapter.display, none⟩
  obtain ⟨x₂, outcome, hwork, h₂⟩ := laws.work (e.say start x₁)
  rw [laws.say, h₁] at h₂
  obtain ⟨x₃, hnote, h₃⟩ := laws.note outcome ((congrArg Footing.fault h₂).trans hfresh)
  obtain ⟨x₄, hrestore, h₄⟩ := laws.setHandlers (handlers x) x₃ p.nodup_signals
  obtain ⟨x₅, hclose, h₅⟩ := laws.close p x₄
  let report : Notice := ⟨.info, (e.gateway x₅).report (e.banned x₅), none⟩
  obtain ⟨y, hconclude, hy⟩ := laws.conclude host (e.say report x₅)
  have h₆ := (laws.say report x₅).trans (h₅.trans h₄)
  have hfault : (e.gateway (e.say report x₅)).fault = failure? outcome := by
    have hset := congrArg Footing.fault h₆
    exact hset.trans (congrArg Footing.fault h₃)
  have hadapter : (e.gateway (e.say report x₅)).adapter = (e.gateway x).adapter := by
    have hset := congrArg Footing.adapter h₆
    exact hset.trans ((congrArg Footing.adapter h₃).trans (congrArg Footing.adapter h₂))
  have hthen : handlers x₃ = fun n => if n ∈ p.signals then .gateway else handlers x n := by
    have hnoted := congrArg Footing.handlers h₃
    exact hnoted.trans (congrArg Footing.handlers h₂)
  refine ⟨y, start.message, report.message, outcome, fun l => ?_, ?_⟩
  · have hgiven : (p.signals.map fun n => Deed.handle n (handlers x n) (handlers x₃ n)) =
        p.signals.map fun n => .handle n (handlers x n) .gateway :=
      List.map_congr_left fun n hn => by simp only [hthen, if_pos hn]
    have hgateway (z : σ) (l : List Deed) : e.logged.gateway (z, l) = e.gateway z := rfl
    have hstart (l : List Deed) : e.logged.say ⟨.info, "Starting Ruuvi gateway on adapter " ++
        (e.gateway x₁).adapter.display, none⟩ (x₁, l) = (e.say start x₁, l ++ [.say start]) := rfl
    have hreport (l : List Deed) : e.logged.say ⟨.info, (e.gateway x₅).report
        (e.logged.banned (x₅, l)), none⟩ (x₅, l) = (e.say report x₅, l ++ [.say report]) := rfl
    unfold Surroundings.listen
    simp only [htake, hgateway, hstart, hwork, hnote, hrestore, hclose, hreport, hconclude, hfault,
      hadapter, hgiven]
    simp [listening, start, report]
  · have hlast := congrArg Footing.handlers (hy.trans h₆)
    refine hlast.trans (funext fun n => ?_)
    by_cases hn : n ∈ p.signals <;> simp [Footing.withHandlers, hthen, hn]

/-- **All that a run does**: it bans what it is to ignore and tries to open the endpoint. If that
fails it is all, else the listener works. -/
theorem run (laws : e.Lawful handlers) (p : Plan) (host : Host) {x : σ} {items : List String}
    {address : Value} {port : Int} (hitems : (e.gateway x).settings.blacklist = .ok items)
    (haddresses : ∀ item ∈ items, ∃ mac, Address.normalize item = .ok mac)
    (haddress : (e.gateway x).settings.address = .ok address)
    (hport : (e.gateway x).settings.port = .ok port) (hfresh : (e.gateway x).fault = none) :
    ∃ later, e.journal p host x = items.map (.ban · (.ok ())) ++ later ∧
      handlers (e.run p host x).1 = handlers x ∧
      ((∃ f n, isSystemFault f = true ∧
          later = [.serve address (.int port) (.error f), .say n] ∧
          (e.run p host x).2 = .ok 1) ∨
        (∃ f, isSystemFault f = false ∧ later = [.serve address (.int port) (.error f)] ∧
          (e.run p host x).2 = .error f) ∨
        ∃ start report outcome,
          later = (if p.serves then [.serve address (.int port) (.ok ())] else []) ++
            listening p (handlers x) start report outcome
              ((failure? outcome).elim [] (guidance (e.gateway x).adapter host)) ∧
          (e.run p host x).2 = .ok (if (failure? outcome).isSome then 1 else 0)) := by
  obtain ⟨x₁, hban, h₁⟩ := laws.banAll x haddresses
  have hsettings : (e.gateway x₁).settings = (e.gateway x).settings :=
    congrArg Footing.settings h₁
  obtain ⟨x₂, h₂, hopened⟩ := laws.openEndpoint p (hsettings ▸ haddress) (hsettings ▸ hport)
  have h := h₂.trans h₁
  have hhandlers : handlers x₂ = handlers x := congrArg Footing.handlers h
  have hadapter : (e.gateway x₂).adapter = (e.gateway x).adapter := congrArg Footing.adapter h
  -- the end of the run is that of the run with a journal
  have hend {y : σ} {later : List Deed} {code : Except Fault Int}
      (hlogged : e.logged.run p host (x, []) = ((y, items.map (.ban · (.ok ())) ++ later), code)) :
      (e.run p host x).1 = y ∧ e.journal p host x = items.map (.ban · (.ok ())) ++ later ∧
        (e.run p host x).2 = code := by
    rw [logged_run] at hlogged
    exact ⟨congrArg (·.1.1) hlogged, congrArg (·.1.2) hlogged, congrArg Prod.snd hlogged⟩
  have hrun : e.logged.run p host (x, []) =
      e.logged.proceed p host (x₁, [] ++ items.map (.ban · (.ok ()))) :=
    run_eq_proceed p host hitems (hban [])
  rw [List.nil_append] at hrun
  unfold proceed at hrun
  rcases hopened with hopen | ⟨f, ⟨hsystem, n, hopen⟩ | ⟨hsystem, hopen⟩⟩
  · obtain ⟨y, start, report, outcome, hlisten, hy⟩ :=
      laws.listen p host ((congrArg Footing.fault h).trans hfresh)
    rw [hopen] at hrun
    simp only [hlisten, hhandlers, hadapter, List.append_assoc] at hrun
    obtain ⟨hstate, hjournal, hcode⟩ := hend hrun
    exact ⟨_, hjournal, by rw [hstate, hy, hhandlers],
      Or.inr (Or.inr ⟨start, report, outcome, rfl, hcode⟩)⟩
  · rw [hopen] at hrun
    obtain ⟨hstate, hjournal, hcode⟩ := hend hrun
    exact ⟨_, hjournal, by rw [hstate, hhandlers], Or.inl ⟨f, n, hsystem, rfl, hcode⟩⟩
  · rw [hopen] at hrun
    obtain ⟨hstate, hjournal, hcode⟩ := hend hrun
    exact ⟨_, hjournal, by rw [hstate, hhandlers], Or.inr (Or.inl ⟨f, hsystem, rfl, hcode⟩)⟩

end Lawful

end Surroundings

end TagGateway.Gateway

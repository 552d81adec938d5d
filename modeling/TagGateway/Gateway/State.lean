import TagGateway.Advertisement.Draft
import TagGateway.Discovery
import TagGateway.Metrics.Endpoint
import TagGateway.Metrics.Host
import TagGateway.Metrics.Sensors
import TagGateway.Settings.Validation

/-!
# The gateway

What a listener hears is decoded and turned into metrics, and counted.

* `Gateway.ofSettings` reads what the gateway needs of its settings.
* `Gateway.handle` takes an advertisement: it is ignored, dropped, or decoded. `Gateway.handleDraft`
  takes one that was written by hand.
* `Gateway.scrape` gives the metrics of the sensors and of the host.
-/

namespace TagGateway

/-- What became of the advertisements so far. -/
structure Tally where
  received : Nat := 0
  decoded : Nat := 0
  /-- Advertisements whose payload was refused. -/
  dropped : Nat := 0
  /-- Advertisements in a format that is not decoded. -/
  ignored : Nat := 0
deriving DecidableEq, Repr

/-- The gateway, but for its listener. -/
structure Gateway where
  settings : Settings
  adapter : Value
  strict : Bool
  /-- Whether every advertisement is logged. -/
  verbose : Bool
  sensors : Metrics.SensorMetrics := {}
  /-- The metrics of the host, unless they are switched off. -/
  host : Option Metrics.HostMetrics
  endpoint : Metrics.Endpoint := {}
  tally : Tally := {}
  /-- A shutdown has been requested. -/
  ending : Bool := false
  /-- The last fault that ended the listener. -/
  fault : Option Fault := none

namespace Gateway

/-- The gateway with some settings, and the settings of its discovery. -/
def ofSettings (s : Settings) : Except Fault (Gateway × Discovery.Settings) := do
  let strict ← s.strict
  let verbose ← s.logPackets
  let host ← s.hostStatistics
  let adapter ← s.adapter
  let attempts ← s.retryAttempts
  let delay ← s.retryDelay
  return ({ settings := s, adapter, strict, verbose, host := if host then some {} else none },
    { adapter := adapter.display, attempts := .int attempts, delay := .float delay })

/-- The way in which payloads are read. -/
def mode (g : Gateway) : Payload.Mode := if g.strict then .strict else .lenient

/-- A notice that is given only if every advertisement is logged. -/
def remark (g : Gateway) (text : String) : List Notice :=
  if g.verbose then [⟨.debug, text, none⟩] else []

/-- Whether advertisements in a format are decoded. -/
def supports : PayloadFormat → Bool
  | .format3 | .format5 => true
  | _ => false

/-- What the gateway asks of an advertisement. -/
structure Intake where
  sender : String
  description : Except Fault String
  format : PayloadFormat
  decoded : Payload.Mode → Except Fault (Option Sheet)

/-- What an advertisement answers. -/
def Intake.ofAdvertisement (a : Advertisement) : Intake where
  sender := a.mac
  description := a.describe
  format := Payload.identify a
  decoded mode := (Payload.decode mode a).map (·.map Measurement.sheet)

/-- What a draft answers. -/
def Intake.ofDraft (d : Draft) : Intake where
  sender := d.mac.display
  description := d.describe
  format := d.identify
  decoded mode := d.decode mode

/-- The notice of a description, if every advertisement is logged. What cannot be described is not
taken then. -/
def introduction (g : Gateway) (description : Except Fault String) : Except Fault (List Notice) :=
  if g.verbose then description.map g.remark else .ok []

/-- The notice of the errors of a measurement. -/
def errorNotice (sender : String) (s : Sheet) : List Notice :=
  if s.isFlawed then
    [⟨.debug, "Measurement from " ++ sender ++ " has errors: " ++ (s.get .report).display, none⟩]
  else []

/-- Take a measurement over into the metrics. -/
def record (g : Gateway) (sender : String) (s : Sheet) :
    Gateway × List Notice × Except Fault Unit :=
  let notices := errorNotice sender s
  match g.introduction s.describe with
  | .error f => (g, notices, .error f)
  | .ok remark =>
    match g.sensors.update s with
    | (sensors, .ok ()) =>
      ({ g with sensors, tally := { g.tally with decoded := g.tally.decoded + 1 } },
        notices ++ remark, .ok ())
    | (sensors, .error f) => ({ g with sensors }, notices ++ remark, .error f)

/-- Decode an advertisement in a supported format. One whose payload is refused is dropped; another
fault on the way is not held back. -/
def decode (g : Gateway) (i : Intake) : Gateway × List Notice × Except Fault Unit :=
  match i.decoded g.mode with
  | .error (.undecodable tag flaw) =>
    ({ g with tally := { g.tally with dropped := g.tally.dropped + 1 } },
      [⟨.warning, "Dropping packet from " ++ i.sender ++ ": " ++ Payload.refusal tag flaw, none⟩],
      .ok ())
  | .error f => (g, [], .error f)
  | .ok none => (g, [], .ok ())
  | .ok (some s) => g.record i.sender s

/-- Take what comes in. -/
def take (g : Gateway) (i : Intake) : Gateway × List Notice × Except Fault Unit :=
  let g := { g with tally := { g.tally with received := g.tally.received + 1 } }
  match g.introduction i.description with
  | .error f => (g, [], .error f)
  | .ok remark =>
    if supports i.format then
      let (g, notices, r) := g.decode i
      (g, remark ++ notices, r)
    else ({ g with tally := { g.tally with ignored := g.tally.ignored + 1 } }, remark, .ok ())

/-- Take an advertisement. -/
def handle (g : Gateway) (a : Advertisement) : Gateway × List Notice × Except Fault Unit :=
  g.take (.ofAdvertisement a)

/-- Take an advertisement that was written by hand. -/
def handleDraft (g : Gateway) (d : Draft) : Gateway × List Notice × Except Fault Unit :=
  g.take (.ofDraft d)

/-- All metrics: those of the sensors, then those of the host. -/
def scrape (g : Gateway) (r : Metrics.Readings) : Gateway × List Metrics.Family × List Notice :=
  match g.host with
  | none => (g, g.sensors.families, [])
  | some host =>
    let (host, families, notices) := host.collect r
    ({ g with host := some host }, g.sensors.families ++ families, notices)

/-- Ask the gateway to end its run. -/
def requestShutdown (g : Gateway) : Gateway := { g with ending := true }

/-- The closing report of a run, with the number of addresses on the blacklist. -/
def report (g : Gateway) (banned : Nat) : String :=
  "Gateway stopped: packets=" ++ toString g.tally.received ++ " decoded=" ++
    toString g.tally.decoded ++ " decode_errors=" ++ toString g.tally.dropped ++ " ignored=" ++
    toString g.tally.ignored ++ " blacklisted=" ++ toString banned

/-- The names of the signals that the host can send. -/
def hostSignals : List (Int × String) :=
  [(1, "SIGHUP"), (2, "SIGINT"), (3, "SIGQUIT"), (4, "SIGILL"), (5, "SIGTRAP"), (6, "SIGABRT"),
    (7, "SIGBUS"), (8, "SIGFPE"), (9, "SIGKILL"), (10, "SIGUSR1"), (11, "SIGSEGV"),
    (12, "SIGUSR2"), (13, "SIGPIPE"), (14, "SIGALRM"), (15, "SIGTERM"), (16, "SIGSTKFLT"),
    (17, "SIGCHLD"), (18, "SIGCONT"), (19, "SIGSTOP"), (20, "SIGTSTP"), (21, "SIGTTIN"),
    (22, "SIGTTOU"), (23, "SIGURG"), (24, "SIGXCPU"), (25, "SIGXFSZ"), (26, "SIGVTALRM"),
    (27, "SIGPROF"), (28, "SIGWINCH"), (29, "SIGIO"), (30, "SIGPWR"), (31, "SIGSYS"),
    (34, "SIGRTMIN"), (64, "SIGRTMAX")]

/-- Take a signal of the host: it ends the run. -/
def takeSignal (g : Gateway) (number : Value) : Except Fault (Gateway × Notice) :=
  match hostSignals.find? fun (n, _) => Value.int n == number with
  | some (_, name) =>
    .ok (g.requestShutdown,
      ⟨.info, "Received " ++ name ++ ", initiating graceful shutdown...", none⟩)
  | none => .error (.noSignal number.shown)

end Gateway

end TagGateway

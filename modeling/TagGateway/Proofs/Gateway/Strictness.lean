import TagGateway.Proofs.Gateway.Handling

/-!
# Strict and lenient gateways

A strict gateway shows what a lenient one would show had it received the flawless advertisements
only, and drops those that the lenient one marks as flawed.

* `Payload.Compared` — what the two modes make of one advertisement;
  `Payload.compared` — that it is always one of the four.
* `Payload.isClean`, `Payload.isMarked` — whether lenient decoding gives a measurement without or
  with errors.
* **`Gateway.strict_shows_clean`** — the comparison of the two gateways over all advertisements.
-/

namespace TagGateway

namespace Payload

/-! ## One advertisement -/

/-- What both modes make of one advertisement: of its measurements, only those without flaws are
given in strict mode. -/
inductive Compared (a : Advertisement) : Prop
  | nothing (lenient : decode .lenient a = .ok none) (strict : decode .strict a = .ok none)
  | refused (f : Fault) (lenient : decode .lenient a = .error f)
      (strict : decode .strict a = .error f)
  | clean (m : Measurement) (hm : m.flawed = false) (lenient : decode .lenient a = .ok (some m))
      (strict : decode .strict a = .ok (some m))
  | marked (m : Measurement) (hm : m.flawed = true) (lenient : decode .lenient a = .ok (some m))
      (f : Fault) (strict : decode .strict a = .error f)

theorem compared (a : Advertisement) : Compared a := by
  obtain ⟨-, -, hnone⟩ | ⟨-, ⟨tag, flaw, hrefused⟩ | ⟨tag, m, found, -, hsettled⟩⟩ :=
    decode_cases a
  · exact .nothing (hnone _) (hnone _)
  · exact .refused _ (hrefused _) (hrefused _)
  · cases found with
    | nil => exact .clean _ rfl (hsettled _) (hsettled _)
    | cons first rest => exact .marked _ rfl (hsettled _) _ (hsettled _)

/-- Lenient decoding gives a measurement without errors. -/
def isClean (a : Advertisement) : Bool := (measured? .lenient a).any (!·.flawed)

/-- Lenient decoding gives a measurement with errors. -/
def isMarked (a : Advertisement) : Bool := (measured? .lenient a).any (·.flawed)

/-- What strict mode measures is what lenient mode measures without errors. -/
theorem measured?_strict (a : Advertisement) :
    measured? .strict a = if isClean a then measured? .lenient a else none := by
  cases compared a <;> simp_all [measured?, isClean, Except.toOption]

theorem flawed_of_measured?_strict {a : Advertisement} {m : Measurement}
    (h : measured? .strict a = some m) : m.flawed = false := by
  cases compared a <;> simp_all [measured?, Except.toOption]

theorem ignores_strict (a : Advertisement) : ignores .strict a = ignores .lenient a := by
  cases compared a <;> simp_all [ignores]

/-- Strict mode refuses what lenient mode refuses and what it marks. -/
theorem refuses_strict (a : Advertisement) :
    (if refuses .strict a = true then 1 else 0) =
      (if refuses .lenient a = true then 1 else 0) + if isMarked a = true then 1 else 0 := by
  cases compared a <;> simp_all [refuses, isMarked, measured?, Except.toOption]

/-! ## Sequences of advertisements -/

theorem filterMap_measured?_strict (as : List Advertisement) :
    as.filterMap (measured? .strict) = (as.filter isClean).filterMap (measured? .lenient) := by
  rw [List.filterMap_filter]
  exact congrArg (fun f => as.filterMap f) (funext measured?_strict)

theorem countP_refuses_strict (as : List Advertisement) :
    as.countP (refuses .strict) = as.countP (refuses .lenient) + as.countP isMarked := by
  induction as with
  | nil => rfl
  | cons a as ih =>
    rw [List.countP_cons, List.countP_cons, List.countP_cons, ih, refuses_strict,
      Nat.add_add_add_comm]

end Payload

namespace Gateway

open Metrics

/-- A gateway that has not taken anything yet. -/
structure IsFresh (g : Gateway) : Prop where
  sensors : g.sensors = {}
  tally : g.tally = {}

theorem isFresh_ofSettings {s : Settings} {g : Gateway} {d : Discovery.Settings}
    (h : ofSettings s = .ok (g, d)) : g.IsFresh := by
  simp only [ofSettings, bind, Except.bind] at h
  repeat' split at h
  all_goals cases h
  all_goals exact ⟨rfl, rfl⟩

theorem isRecordable_of_mem {mode : Payload.Mode} {as : List Advertisement}
    (has : ∀ a ∈ as, a.IsRecord) :
    ∀ m ∈ as.filterMap (Payload.measured? mode), m.IsRecordable := by
  intro m hm
  obtain ⟨a, ha, hma⟩ := List.mem_filterMap.mp hm
  exact Payload.isRecordable_of_decode (has a ha).received (Payload.decode_of_measured? hma)

/-- Metrics of measurements without flaws have no errors. -/
theorem errors_of_flawless {ms : List Measurement} (hms : ∀ m ∈ ms, m.IsRecordable)
    (hclean : ∀ m ∈ ms, m.flawed = false) {mac : String} {x : Value}
    (hx : (SensorMetrics.recordAll ms).series? .errors mac = some x) :
    x = .float (Float.ofNat 0) := by
  have hcount : (ms.filter (·.mac = mac)).countP (·.flawed) = 0 := by
    refine List.countP_eq_zero.mpr fun m hm => ?_
    rw [hclean m (List.mem_filter.mp hm).1]
    exact Bool.false_ne_true
  rw [SensorMetrics.series?_recordAll hms, Account.value?, Account.of, hcount] at hx
  split at hx <;> cases hx
  rfl

/-- **A strict gateway shows the flawless advertisements only.** Its metrics are those of a lenient
gateway that receives no others, so that no sensor has an error. On the same advertisements both
receive and ignore as many, and the strict one drops besides what the lenient one drops the
measurements that it marks as flawed. -/
theorem strict_shows_clean {strict lenient : Gateway} (hs : strict.IsFresh) (hl : lenient.IsFresh)
    (hstrict : strict.strict = true) (hlenient : lenient.strict = false)
    (as : List Advertisement) (has : ∀ a ∈ as, a.IsRecord) :
    (strict.takeAll as).sensors = (lenient.takeAll (as.filter Payload.isClean)).sensors ∧
    (∀ mac x, (strict.takeAll as).sensors.series? .errors mac = some x →
      x = .float (Float.ofNat 0)) ∧
    (strict.takeAll as).tally.received = (lenient.takeAll as).tally.received ∧
    (strict.takeAll as).tally.ignored = (lenient.takeAll as).tally.ignored ∧
    (strict.takeAll as).tally.dropped =
      (lenient.takeAll as).tally.dropped + as.countP Payload.isMarked := by
  have hmode : strict.mode = .strict := by rw [mode, hstrict, if_pos rfl]
  have hmode' : lenient.mode = .lenient := by rw [mode, hlenient]; rfl
  have hclean : ∀ a ∈ as.filter Payload.isClean, a.IsRecord :=
    fun a ha => has a (List.mem_filter.mp ha).1
  have hsensors := sensors_takeAll hs.sensors has
  have htally := tally_takeAll hs.tally has
  have htally' := tally_takeAll hl.tally has
  rw [hmode] at hsensors htally
  rw [hmode'] at htally'
  refine ⟨?_, fun mac x hx => ?_, ?_, ?_, ?_⟩
  · rw [hsensors, sensors_takeAll hl.sensors hclean, hmode', Payload.filterMap_measured?_strict]
  · rw [hsensors] at hx
    refine errors_of_flawless (isRecordable_of_mem has) (fun m hm => ?_) hx
    obtain ⟨a, -, hma⟩ := List.mem_filterMap.mp hm
    exact Payload.flawed_of_measured?_strict hma
  · rw [htally, htally']
  · rw [htally, htally']
    exact List.countP_congr fun a _ => by rw [Payload.ignores_strict]
  · rw [htally, htally']
    exact Payload.countP_refuses_strict as

/-- An advertisement of data format 5 with the address of its payload and nothing measured. -/
def unread : Advertisement where
  mac := "C0:FF:EE:00:00:01"
  manufacturer := .int 0x0499
  payload := 5 :: List.replicate 17 0 ++ [0xC0, 0xFF, 0xEE, 0, 0, 1]
  signalStrength := -70

/-- Settings with a text that says whether decoding is strict. -/
def decoding (text : String) : Settings :=
  { place := { directory := "/", vars := [("DECODE_STRICT", text)] } }

/-- The gateway that is made from such settings has not taken anything yet. -/
theorem exists_of_decoding {text : String} {strict : Bool}
    (h : (ofSettings (decoding text)).toOption.map (·.1.strict) = some strict) :
    ∃ g d, ofSettings (decoding text) = .ok (g, d) ∧ g.IsFresh ∧ g.strict = strict := by
  cases hmade : ofSettings (decoding text) with
  | error f =>
    rw [hmade] at h
    cases h
  | ok made =>
    rw [hmade] at h
    exact ⟨made.1, made.2, rfl, isFresh_ofSettings hmade, Option.some.inj h⟩

/-- One advertisement without a flaw, one from another address than it says and one of another
manufacturer: only the first is shown and only the second is dropped. -/
theorem strict_shows_clean_mixed :
    let as : List Advertisement :=
      [unread, { unread with mac := "C0:FF:EE:00:00:02" }, { unread with manufacturer := .int 76 }]
    ∃ strict lenient : Gateway,
      (∃ d, ofSettings (decoding "true") = .ok (strict, d)) ∧
      (∃ d, ofSettings (decoding "false") = .ok (lenient, d)) ∧
      (strict.takeAll as).sensors = (lenient.takeAll [unread]).sensors ∧
      (strict.takeAll as).tally.dropped = (lenient.takeAll as).tally.dropped + 1 := by
  intro as
  have has : ∀ a ∈ as, a.IsRecord := by
    simp only [as, List.forall_mem_cons]
    exact ⟨⟨rfl, by decide⟩, ⟨rfl, by decide⟩, ⟨rfl, by decide⟩, nofun⟩
  have hclean : as.filter Payload.isClean = [unread] := rfl
  have hmarked : as.countP Payload.isMarked = 1 := rfl
  have hon : (ofSettings (decoding "true")).toOption.map (·.1.strict) = some true := by
    decide +kernel
  have hoff : (ofSettings (decoding "false")).toOption.map (·.1.strict) = some false := by
    decide +kernel
  obtain ⟨strict, d, hmade, hfresh, hstrict⟩ := exists_of_decoding hon
  obtain ⟨lenient, d', hmade', hfresh', hlenient⟩ := exists_of_decoding hoff
  have hall := strict_shows_clean hfresh hfresh' hstrict hlenient as has
  rw [hclean, hmarked] at hall
  exact ⟨strict, lenient, ⟨d, hmade⟩, ⟨d', hmade'⟩, hall.1, hall.2.2.2.2⟩

end Gateway

end TagGateway

import TagGateway.Proofs.Payload.Modes

/-!
# The data formats that are decoded

Both formats have a decoder of the same shape, and the decoder of all payloads passes each to the
one that its first byte names.

* `Payload.DataFormat` — the two formats, with the tag, the size and the decoder of each;
  `DataFormat.decodes` — that the decoder refuses what is too short and settles the rest;
  `DataFormat.measurement_congr` — that what is measured depends on the raw fields.
* `DataFormat.Names` — that an advertisement says its payload is of a format;
  `Payload.decode_of_names` and `Payload.decode_of_nameless` — what the decoder of all payloads
  makes of it.
* `DataFormat.Gives` — that a measurement of a format is decoded of an advertisement, in some mode
  and by either decoder; `DataFormat.Gives.eq` — which measurement that is.
-/

namespace TagGateway.Payload

/-- The data formats that are decoded. -/
inductive DataFormat
  | three | five
deriving DecidableEq, Repr

namespace DataFormat

/-- The first byte of the payloads of a format. -/
def tag : DataFormat → Nat
  | three => 3
  | five => 5

/-- How many bytes a payload of a format has. -/
def size : DataFormat → Nat
  | three => format3Size
  | five => format5Size

/-- Decode a payload as one of a format. -/
def decode : DataFormat → Mode → Advertisement → Except Fault Measurement
  | three => decode3
  | five => decode5

/-- What a payload of a format measures. -/
def measurement : DataFormat → Advertisement → Measurement
  | three => measurement3
  | five => measurement5

/-- The flaws of a payload of a format. -/
def flaws : DataFormat → Advertisement → List Flaw
  | three => flaws3
  | five => flaws5

/-- The raw fields of a format. -/
def Raw : DataFormat → Type
  | three => Raw3
  | five => Raw5

/-- The raw fields of a payload of a format. -/
def raw : (f : DataFormat) → List UInt8 → f.Raw
  | three => Raw3.ofBytes
  | five => Raw5.ofBytes

variable {a a' : Advertisement} {m : Measurement} {mode : Mode}

theorem decodes (f : DataFormat) (a : Advertisement) :
    Decodes (fun mode => f.decode mode a) f.tag f.size a (f.measurement a) (f.flaws a) := by
  cases f with
  | three => exact decodes3 a
  | five => exact decodes5 a

theorem message_flaws (f : DataFormat) (a : Advertisement) :
    (f.flaws a).map Flaw.message = errorsAs f.tag a := by
  cases f with
  | three => exact message_flaws3 a
  | five => exact message_flaws5 a

@[simp] theorem tag_measurement (f : DataFormat) (a : Advertisement) :
    (f.measurement a).tag = f.tag := by
  cases f <;> rfl

theorem tag_inj {f g : DataFormat} (h : f.tag = g.tag) : f = g := by
  cases f with
  | three =>
    cases g with
    | three => rfl
    | five => cases h
  | five =>
    cases g with
    | three => cases h
    | five => rfl

/-- What is measured depends on the raw fields and on the sender. -/
theorem measurement_congr {f : DataFormat} (hmac : a.mac = a'.mac)
    (hsignal : a.signalStrength = a'.signalStrength) (hraw : f.raw a.payload = f.raw a'.payload) :
    f.measurement a = f.measurement a' := by
  cases f with
  | three =>
    have hraw3 : Raw3.ofBytes a.payload = Raw3.ofBytes a'.payload := hraw
    simp only [measurement, measurement3]
    rw [hraw3, hmac, hsignal]
  | five =>
    have hraw5 : Raw5.ofBytes a.payload = Raw5.ofBytes a'.payload := hraw
    simp only [measurement, measurement5]
    rw [hraw5, hmac, hsignal]

/-- What a decoder gives is the measurement of a payload that is long enough. -/
theorem eq_of_decode {f : DataFormat} (h : f.decode mode a = .ok m) :
    f.size ≤ a.payload.length ∧
      m = { f.measurement a with
        flawed := !(f.flaws a).isEmpty, report := Flaw.report (f.flaws a) } := by
  rcases Nat.lt_or_ge a.payload.length f.size with hshort | hlong
  · rw [(f.decodes a).short hshort] at h
    cases h
  · rw [(f.decodes a).long hlong] at h
    exact ⟨hlong, fields_of_settled h⟩

theorem tag_of_decode {f : DataFormat} (h : f.decode mode a = .ok m) : m.tag = f.tag := by
  obtain ⟨-, rfl⟩ := eq_of_decode h
  exact f.tag_measurement a

/-! ## Payloads that name their format -/

/-- An advertisement is of the manufacturer, and the first byte of its payload is the tag of a
format. -/
def Names (f : DataFormat) (a : Advertisement) : Prop :=
  (a.manufacturer == .int 0x0499) = true ∧ a.payload.head?.map UInt8.toNat = some f.tag

instance (f : DataFormat) (a : Advertisement) : Decidable (f.Names a) :=
  inferInstanceAs (Decidable (_ ∧ _))

/-- A measurement of a format is decoded of an advertisement, in some mode: by the decoder of that
format or by the decoder of all payloads. -/
def Gives (f : DataFormat) (a : Advertisement) (m : Measurement) : Prop :=
  ∃ mode, f.decode mode a = .ok m ∨ Payload.decode mode a = .ok (some m) ∧ m.tag = f.tag

end DataFormat

variable {a : Advertisement} {mode : Mode}

theorem ofTag_eq_format5 {tag : Nat} : PayloadFormat.ofTag tag = .format5 ↔ tag = 5 := by
  unfold PayloadFormat.ofTag
  grind

theorem ofTag_eq_format3 {tag : Nat} : PayloadFormat.ofTag tag = .format3 ↔ tag = 3 := by
  unfold PayloadFormat.ofTag
  grind

/-- A payload that names a format is decoded as one of that format. -/
theorem decode_of_names {f : DataFormat} (h : f.Names a) (mode : Mode) :
    decode mode a = (f.decode mode a).map some := by
  obtain ⟨hmanufacturer, hfirst⟩ := h
  obtain ⟨first, hhead, htag⟩ := Option.map_eq_some_iff.mp hfirst
  obtain ⟨rest, hpayload⟩ := List.head?_eq_some_iff.mp hhead
  have hidentify : identify a = .ofTag f.tag := by
    rw [← htag, identify, manufacturer, if_pos hmanufacturer, hpayload]
  unfold decode
  rw [hidentify]
  cases f <;> rfl

/-- All other payloads are not decoded. -/
theorem decode_of_nameless (h : ∀ f : DataFormat, ¬f.Names a) (mode : Mode) :
    decode mode a = .ok none := by
  have h5 := h .five
  have h3 := h .three
  have hothers : identify a ≠ .format5 ∧ identify a ≠ .format3 := by
    unfold identify
    split
    · rename_i hmanufacturer
      split
      · exact ⟨nofun, nofun⟩
      · rename_i first rest hpayload
        simp only [DataFormat.Names, hpayload, List.head?_cons, Option.map_some,
          Option.some.injEq] at h5 h3
        rw [Ne, ofTag_eq_format5, Ne, ofTag_eq_format3]
        exact ⟨fun htag => h5 ⟨hmanufacturer, htag⟩, fun htag => h3 ⟨hmanufacturer, htag⟩⟩
    · exact ⟨nofun, nofun⟩
  unfold decode
  split
  · rename_i hformat
    exact absurd hformat hothers.1
  · rename_i hformat
    exact absurd hformat hothers.2
  · rfl

/-- The decoder of all payloads gives what the decoder of the format that a payload names gives. -/
theorem decode_eq_some {m : Measurement} (h : decode mode a = .ok (some m)) :
    ∃ f : DataFormat, f.Names a ∧ f.decode mode a = .ok m := by
  by_cases hnames : ∃ f : DataFormat, f.Names a
  · obtain ⟨f, hf⟩ := hnames
    rw [decode_of_names hf] at h
    cases hm : f.decode mode a with
    | error fault =>
      rw [hm] at h
      cases h
    | ok m' =>
      rw [hm] at h
      cases h
      exact ⟨f, hf, hm⟩
  · rw [decode_of_nameless fun f hf => hnames ⟨f, hf⟩] at h
    cases h

theorem DataFormat.Gives.eq {f : DataFormat} {m : Measurement} (h : f.Gives a m) :
    f.size ≤ a.payload.length ∧
      m = { f.measurement a with
        flawed := !(f.flaws a).isEmpty, report := Flaw.report (f.flaws a) } := by
  obtain ⟨mode, hm | ⟨hm, htag⟩⟩ := h
  · exact eq_of_decode hm
  · obtain ⟨g, -, hg⟩ := decode_eq_some hm
    obtain rfl := tag_inj ((tag_of_decode hg).symm.trans htag)
    exact eq_of_decode hg

end TagGateway.Payload

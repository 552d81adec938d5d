import TagGateway.Proofs.Payload.Formats

/-!
# How decoding fails

A decoder looks at fixed places of a payload, which may have any length. It checks the length once,
before the first look, and a payload that is long enough for its format has a byte at each of those
places. So a payload is refused in the words of its format or not at all.

* `byteAt?`, `wordAt?`, `sliceAt?` — looks that fail out of range; `DataFormat.look?` — all looks of
  the decoder of a format; `DataFormat.look_of_size_le` — none of them fails in a payload that is
  long enough, and they give what the decoder goes by.
* `DataFormat.decode_congr` — a decoder goes by nothing else of a payload; `decode_of_short` — by
  nothing but the length of one that is too short.
* `DataFormat.Refuses` — a fault that names a format; **`Payload.decode_total`** — no decoder fails
  otherwise, and what the decoder of all payloads gives.
-/

namespace TagGateway.Payload

/-! ## Looks with bounds -/

/-- The byte at a place, if the payload has it. -/
def byteAt? (data : List UInt8) (i : Nat) : Except Fault Nat :=
  match data[i]? with
  | some byte => .ok byte.toNat
  | none => .error (.noPlace .bytes)

/-- The unsigned number in the two bytes at a place, if the payload has both. -/
def wordAt? (data : List UInt8) (i : Nat) : Except Fault Nat := do
  let upper ← byteAt? data i
  let lower ← byteAt? data (i + 1)
  return 256 * upper + lower

/-- So many bytes from a place on, if the payload has all of them. -/
def sliceAt? (data : List UInt8) (i count : Nat) : Except Fault (List UInt8) :=
  if i + count ≤ data.length then .ok ((data.drop i).take count) else .error (.noPlace .bytes)

/-- The raw fields of data format 5, if the payload has all of them. -/
def Raw5.ofBytes? (data : List UInt8) : Except Fault Raw5 := do
  let temperature ← wordAt? data 1
  let humidity ← wordAt? data 3
  let pressure ← wordAt? data 5
  let accelerationX ← wordAt? data 7
  let accelerationY ← wordAt? data 9
  let accelerationZ ← wordAt? data 11
  let power ← wordAt? data 13
  let movementCounter ← byteAt? data 15
  let sequence ← wordAt? data 16
  let address ← sliceAt? data 18 6
  return {
    temperature, humidity, pressure, accelerationX, accelerationY, accelerationZ
    battery := power / 32, txPower := power % 32, movementCounter, sequence, address }

/-- The raw fields of data format 3, if the payload has all of them. -/
def Raw3.ofBytes? (data : List UInt8) : Except Fault Raw3 := do
  let humidity ← byteAt? data 1
  let temperature ← byteAt? data 2
  let temperatureFraction ← byteAt? data 3
  let pressure ← wordAt? data 4
  let accelerationX ← wordAt? data 6
  let accelerationY ← wordAt? data 8
  let accelerationZ ← wordAt? data 10
  let battery ← wordAt? data 12
  return {
    humidity, temperature, temperatureFraction, pressure
    accelerationX, accelerationY, accelerationZ, battery }

variable {data : List UInt8} {i : Nat}

theorem byteAt?_of_lt (h : i < data.length) : byteAt? data i = .ok (byteAt data i) := by
  rw [byteAt?, byteAt, List.getD_eq_getElem?_getD, List.getElem?_eq_getElem h]
  rfl

theorem wordAt?_of_lt (h : i + 1 < data.length) : wordAt? data i = .ok (wordAt data i) := by
  have hi : i < data.length := by omega
  rw [wordAt?, byteAt?_of_lt hi, byteAt?_of_lt h]
  rfl

theorem sliceAt?_of_le {count : Nat} (h : i + count ≤ data.length) :
    sliceAt? data i count = .ok ((data.drop i).take count) :=
  if_pos h

theorem Raw5.ofBytes?_of_le (h : format5Size ≤ data.length) :
    ofBytes? data = .ok (ofBytes data) := by
  unfold format5Size at h
  have hword {i : Nat} (hi : i < 23) : wordAt? data i = .ok (wordAt data i) :=
    wordAt?_of_lt (by omega)
  have hbyte : byteAt? data 15 = .ok (byteAt data 15) := byteAt?_of_lt (by omega)
  have haddress : sliceAt? data 18 6 = .ok ((data.drop 18).take 6) := sliceAt?_of_le (by omega)
  rw [ofBytes?, hword (by decide), hword (by decide), hword (by decide), hword (by decide),
    hword (by decide), hword (by decide), hword (by decide), hbyte, hword (by decide), haddress]
  rfl

theorem Raw3.ofBytes?_of_le (h : format3Size ≤ data.length) :
    ofBytes? data = .ok (ofBytes data) := by
  unfold format3Size at h
  have hword {i : Nat} (hi : i < 13) : wordAt? data i = .ok (wordAt data i) :=
    wordAt?_of_lt (by omega)
  have hbyte {i : Nat} (hi : i < 14) : byteAt? data i = .ok (byteAt data i) :=
    byteAt?_of_lt (by omega)
  rw [ofBytes?, hbyte (by decide), hbyte (by decide), hbyte (by decide), hword (by decide),
    hword (by decide), hword (by decide), hword (by decide), hword (by decide)]
  rfl

/-! ## What a decoder goes by -/

namespace DataFormat

/-- The raw fields of a payload of a format, if it has all of them. -/
def raw? : (f : DataFormat) → List UInt8 → Except Fault f.Raw
  | three => Raw3.ofBytes?
  | five => Raw5.ofBytes?

/-- All looks of the decoder of a format at a payload, in order: at the tag and at the fields. -/
def look? (f : DataFormat) (data : List UInt8) : Except Fault (Nat × f.Raw) := do
  let tag ← byteAt? data 0
  let raw ← f.raw? data
  return (tag, raw)

/-- What the decoder of a format goes by: the tag and the raw fields. -/
def look (f : DataFormat) (data : List UInt8) : Nat × f.Raw := (byteAt data 0, f.raw data)

/-- No look is out of range in a payload that is long enough. -/
theorem look_of_size_le {f : DataFormat} (h : f.size ≤ data.length) :
    f.look? data = .ok (f.look data) := by
  have hraw : f.raw? data = .ok (f.raw data) := by
    cases f with
    | three => exact Raw3.ofBytes?_of_le h
    | five => exact Raw5.ofBytes?_of_le h
  have hpositive : 0 < f.size := by
    cases f <;> decide
  rw [look?, byteAt?_of_lt (by omega), hraw]
  rfl

variable {a a' : Advertisement}

/-- A payload that is too short is refused for its length, whatever its bytes. -/
theorem decode_of_short {f : DataFormat} (h : a.payload.length < f.size) (mode : Mode) :
    f.decode mode a = .error (.undecodable f.tag (.tooShort f.size a.payload.length)) :=
  (f.decodes a).short h mode

theorem envelopeFlaws_congr {tag needed : Nat} {data' : List UInt8}
    (hlength : data.length = data'.length) (htag : byteAt data 0 = byteAt data' 0) :
    envelopeFlaws tag needed data = envelopeFlaws tag needed data' := by
  rw [envelopeFlaws, envelopeFlaws, sizeFlaw?, sizeFlaw?, tagFlaw?, tagFlaw?, hlength, htag]

theorem flaws_congr {f : DataFormat} (hmac : a.mac = a'.mac)
    (hlength : a.payload.length = a'.payload.length)
    (hlook : f.look a.payload = f.look a'.payload) :
    f.flaws a = f.flaws a' := by
  have htag : byteAt a.payload 0 = byteAt a'.payload 0 := congrArg Prod.fst hlook
  cases f with
  | three => exact envelopeFlaws_congr hlength htag
  | five =>
    have hraw : Raw5.ofBytes a.payload = Raw5.ofBytes a'.payload := congrArg Prod.snd hlook
    have henvelope : envelopeFlaws 5 format5Size a.payload =
        envelopeFlaws 5 format5Size a'.payload := envelopeFlaws_congr hlength htag
    simp only [flaws, flaws5]
    rw [hraw, hmac, henvelope]

/-- Besides the looks and the sender, a decoder goes by the length of a payload only. -/
theorem decode_congr {f : DataFormat} (hmac : a.mac = a'.mac)
    (hsignal : a.signalStrength = a'.signalStrength)
    (hlength : a.payload.length = a'.payload.length)
    (hlook : f.size ≤ a.payload.length → f.look a.payload = f.look a'.payload) (mode : Mode) :
    f.decode mode a = f.decode mode a' := by
  rcases Nat.lt_or_ge a.payload.length f.size with hshort | hlong
  · have hshort' : a'.payload.length < f.size := by omega
    rw [decode_of_short hshort, decode_of_short hshort', hlength]
  · have hlong' : f.size ≤ a'.payload.length := by omega
    have hseen := hlook hlong
    have hraw : f.raw a.payload = f.raw a'.payload := congrArg Prod.snd hseen
    calc f.decode mode a
        = settled mode f.tag (f.measurement a) (f.flaws a) := (f.decodes a).long hlong mode
      _ = settled mode f.tag (f.measurement a') (f.flaws a') := by
        rw [measurement_congr hmac hsignal hraw, flaws_congr hmac hlength hseen]
      _ = f.decode mode a' := ((f.decodes a').long hlong' mode).symm

/-! ## Refusals -/

/-- A fault says that a payload cannot be decoded as one of a format. -/
def Refuses (f : DataFormat) (fault : Fault) : Prop :=
  fault.title = "DecodeError" ∧
    ∃ words, fault.message = "Data format " ++ toString f.tag ++ " conversion failed: " ++ words

theorem refuses_undecodable (f : DataFormat) (flaw : Flaw) :
    f.Refuses (.undecodable f.tag flaw) :=
  ⟨rfl, flaw.message, rfl⟩

theorem refuses_of_decode {f : DataFormat} {mode : Mode} {fault : Fault}
    (h : f.decode mode a = .error fault) : f.Refuses fault := by
  rcases Nat.lt_or_ge a.payload.length f.size with hshort | hlong
  · rw [decode_of_short hshort] at h
    cases h
    exact f.refuses_undecodable _
  · rw [(f.decodes a).long hlong] at h
    unfold settled at h
    split at h
    · cases h
      exact f.refuses_undecodable _
    · cases h

/-- In lenient mode only the length of a payload can refuse it. -/
theorem lenient_fails_iff (f : DataFormat) (a : Advertisement) :
    (∃ fault, f.decode .lenient a = .error fault) ↔ a.payload.length < f.size := by
  constructor
  · rintro ⟨fault, h⟩
    rcases Nat.lt_or_ge a.payload.length f.size with hshort | hlong
    · exact hshort
    · rw [(f.decodes a).long hlong] at h
      cases h
  · intro hshort
    exact ⟨_, decode_of_short hshort .lenient⟩

/-- The first byte of a payload is the tag of a format exactly when it is 3 or 5. -/
theorem exists_head_iff (a : Advertisement) :
    (∃ f : DataFormat, a.payload.head?.map UInt8.toNat = some f.tag) ↔
      ∃ first rest, a.payload = first :: rest ∧ (first = 3 ∨ first = 5) := by
  cases hpayload : a.payload with
  | nil => simp
  | cons first rest =>
    have hthree : first = 3 ↔ first.toNat = 3 := UInt8.toNat_inj.symm
    have hfive : first = 5 ↔ first.toNat = 5 := UInt8.toNat_inj.symm
    simp only [List.head?_cons, Option.map_some, Option.some.injEq, List.cons.injEq]
    constructor
    · rintro ⟨f, hf⟩
      refine ⟨first, rest, ⟨rfl, rfl⟩, ?_⟩
      cases f with
      | three => exact Or.inl (hthree.mpr hf)
      | five => exact Or.inr (hfive.mpr hf)
    · rintro ⟨_, _, ⟨rfl, rfl⟩, hfirst | hfirst⟩
      · exact ⟨.three, hthree.mp hfirst⟩
      · exact ⟨.five, hfive.mp hfirst⟩

end DataFormat

variable {a : Advertisement} {mode : Mode}

/-- The decoder of all payloads gives nothing exactly for those that name no format. -/
theorem decode_eq_none_iff :
    decode mode a = .ok none ↔ ∀ f : DataFormat, ¬f.Names a := by
  constructor
  · intro h f hf
    rw [decode_of_names hf] at h
    cases hdecoded : f.decode mode a with
    | error fault =>
      rw [hdecoded] at h
      cases h
    | ok m =>
      rw [hdecoded] at h
      cases h
  · intro h
    exact decode_of_nameless h mode

/-- **Decoding refuses in the words of a format or not at all.** No decoder fails but by a fault
that names its format: every look at a payload that is long enough is in range, and of one that is
too short only the length counts. The decoder of all payloads gives nothing exactly when the
manufacturer is another one, the payload is empty, or its first byte is neither 3 nor 5; otherwise
it gives a measurement of the format that this byte says, or a refusal that names that format. -/
theorem decode_total (mode : Mode) (a : Advertisement) :
    (∀ f : DataFormat,
      (a.payload.length < f.size → f.decode mode a =
        .error (.undecodable f.tag (.tooShort f.size a.payload.length))) ∧
      (f.size ≤ a.payload.length → f.look? a.payload = .ok (f.look a.payload)) ∧
      (∀ a', a.mac = a'.mac → a.signalStrength = a'.signalStrength →
        a.payload.length = a'.payload.length →
        (f.size ≤ a.payload.length → f.look? a.payload = f.look? a'.payload) →
        f.decode mode a = f.decode mode a') ∧
      (∀ fault, f.decode mode a = .error fault → f.Refuses fault) ∧
      ((∃ fault, f.decode .lenient a = .error fault) ↔ a.payload.length < f.size)) ∧
    (decode mode a = .ok none ↔
      (a.manufacturer == .int 0x0499) = false ∨ a.payload = [] ∨
        ∃ first rest, a.payload = first :: rest ∧ first ≠ 3 ∧ first ≠ 5) ∧
    (decode mode a = .ok none ∨
      ∃ f : DataFormat, a.payload.head?.map UInt8.toNat = some f.tag ∧
        ((∃ m, decode mode a = .ok (some m) ∧ m.tag = f.tag ∧ f.decode mode a = .ok m) ∨
          ∃ fault, decode mode a = .error fault ∧ f.Refuses fault)) := by
  refine ⟨?formats, ?nothing, ?otherwise⟩
  case formats =>
    intro f
    refine ⟨fun h => DataFormat.decode_of_short h mode, DataFormat.look_of_size_le, ?_,
      fun fault => DataFormat.refuses_of_decode, f.lenient_fails_iff a⟩
    intro a' hmac hsignal hlength hlook
    refine DataFormat.decode_congr hmac hsignal hlength ?_ mode
    intro hlong
    have hlong' : f.size ≤ a'.payload.length := by omega
    have hseen := hlook hlong
    rw [DataFormat.look_of_size_le hlong, DataFormat.look_of_size_le hlong'] at hseen
    exact Except.ok.inj hseen
  case nothing =>
    rw [decode_eq_none_iff]
    cases hmanufacturer : a.manufacturer == .int 0x0499 with
    | false => simp [DataFormat.Names, hmanufacturer]
    | true =>
      have hnames : (∃ f : DataFormat, f.Names a) ↔
          ∃ first rest, a.payload = first :: rest ∧ (first = 3 ∨ first = 5) := by
        rw [← DataFormat.exists_head_iff]
        simp only [DataFormat.Names, hmanufacturer, true_and]
      rw [← not_exists, hnames]
      cases a.payload with
      | nil => simp
      | cons first rest => simp
  case otherwise =>
    by_cases hnames : ∃ f : DataFormat, f.Names a
    · obtain ⟨f, hf⟩ := hnames
      refine Or.inr ⟨f, hf.2, ?_⟩
      rw [decode_of_names hf]
      cases hdecoded : f.decode mode a with
      | error fault => exact Or.inr ⟨fault, rfl, DataFormat.refuses_of_decode hdecoded⟩
      | ok m => exact Or.inl ⟨m, rfl, DataFormat.tag_of_decode hdecoded, rfl⟩
    · exact Or.inl (decode_of_nameless (fun f hf => hnames ⟨f, hf⟩) mode)

end TagGateway.Payload

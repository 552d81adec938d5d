import Mathlib.Algebra.GroupWithZero.Nat
import TagGateway.Measurement.Sheet
import TagGateway.Proofs.Payload.Exactness
import TagGateway.Proofs.Payload.Formats

/-!
# Each part of a measurement has bits of its own

Two payloads that agree on the bits of one part of a measurement give the same value of that part,
however much they differ elsewhere: in the other bits, in the tag, in what follows behind the format
and in the sender. The errors of the other parts do not show in it either, in either mode.

* `Payload.bitAt` — the bits of a payload, the most significant one of each byte first.
* `Payload.Part` — the parts of a measurement; `DataFormat.span` — the bits of each.
* `byteAt_div_congr`, `byteAt_mod_congr` — the upper and the lower bits of a byte determine its
  quotient and its remainder; `DataFormat.of_measurement_congr` — hence each part.
* **`Payload.own_bits_only`** — two runs of decoding, and what bytes behind the format do.
-/

namespace TagGateway

/-- An advertisement with more bytes behind its payload. -/
def Advertisement.followedBy (a : Advertisement) (extra : List UInt8) : Advertisement :=
  { a with payload := a.payload ++ extra }

namespace Payload

/-! ## Bits -/

/-- The bit at a place, counted from the most significant bit of the first byte. -/
def bitAt (data : List UInt8) (k : Nat) : Bool := (byteAt data (k / 8)).testBit (7 - k % 8)

/-- Two payloads have the same bits from a place on, so many of them. -/
def SameBits (data data' : List UInt8) (first count : Nat) : Prop :=
  ∀ k ∈ List.range' first count, bitAt data k = bitAt data' k

instance (data data' : List UInt8) (first count : Nat) :
    Decidable (SameBits data data' first count) :=
  inferInstanceAs (Decidable (∀ k ∈ List.range' first count, bitAt data k = bitAt data' k))

variable {data data' : List UInt8} {first count : Nat}

theorem SameBits.mono (h : SameBits data data' first count) {first' count' : Nat}
    (hfirst : first ≤ first') (hlast : first' + count' ≤ first + count) :
    SameBits data data' first' count' := by
  intro k hk
  rw [List.mem_range'_1] at hk
  exact h k (List.mem_range'_1.mpr (by omega))

theorem bitAt_mul_add (data : List UInt8) (i : Nat) {j : Nat} (hj : j < 8) :
    bitAt data (8 * i + (7 - j)) = (byteAt data i).testBit j := by
  have hbyte : (8 * i + (7 - j)) / 8 = i := by omega
  have hbit : 7 - (8 * i + (7 - j)) % 8 = j := by omega
  rw [bitAt, hbyte, hbit]

/-- No byte has bits from the eighth on. -/
theorem testBit_byteAt (data : List UInt8) (i : Nat) {j : Nat} (hj : 8 ≤ j) :
    (byteAt data i).testBit j = false := by
  have hbound : byteAt data i < 2 ^ j :=
    Nat.lt_of_lt_of_le (byteAt_lt data i) (Nat.pow_le_pow_right Nat.two_pos hj)
  exact Nat.testBit_lt_two_pow hbound

/-- The upper bits of a byte determine its quotient. -/
theorem byteAt_div_congr {i low : Nat} (h : SameBits data data' (8 * i) (8 - low)) :
    byteAt data i / 2 ^ low = byteAt data' i / 2 ^ low := by
  refine Nat.eq_of_testBit_eq fun j => ?_
  rw [Nat.testBit_div_two_pow, Nat.testBit_div_two_pow]
  rcases Nat.lt_or_ge (j + low) 8 with hj | hj
  · rw [← bitAt_mul_add data i hj, ← bitAt_mul_add data' i hj]
    exact h _ (List.mem_range'_1.mpr (by omega))
  · rw [testBit_byteAt data i hj, testBit_byteAt data' i hj]

/-- The lower bits of a byte determine its remainder. -/
theorem byteAt_mod_congr {i low : Nat} (hlow : low ≤ 8)
    (h : SameBits data data' (8 * i + (8 - low)) low) :
    byteAt data i % 2 ^ low = byteAt data' i % 2 ^ low := by
  refine Nat.eq_of_testBit_eq fun j => ?_
  rw [Nat.testBit_mod_two_pow, Nat.testBit_mod_two_pow]
  rcases Nat.lt_or_ge j low with hj | hj
  · have hj8 : j < 8 := by omega
    rw [← bitAt_mul_add data i hj8, ← bitAt_mul_add data' i hj8]
    rw [h _ (List.mem_range'_1.mpr (by omega))]
  · rw [decide_eq_false (Nat.not_lt.mpr hj), Bool.false_and, Bool.false_and]

theorem byteAt_congr {i : Nat} (h : SameBits data data' (8 * i) 8) :
    byteAt data i = byteAt data' i := by
  have hquotient : byteAt data i / 2 ^ 0 = byteAt data' i / 2 ^ 0 := byteAt_div_congr h
  rw [Nat.pow_zero, Nat.div_one, Nat.div_one] at hquotient
  exact hquotient

theorem wordAt_congr {i : Nat} (h : SameBits data data' (8 * i) 16) :
    wordAt data i = wordAt data' i := by
  have hupper : byteAt data i = byteAt data' i := byteAt_congr (h.mono (by omega) (by omega))
  have hlower : byteAt data (i + 1) = byteAt data' (i + 1) :=
    byteAt_congr (h.mono (by omega) (by omega))
  rw [wordAt, wordAt, hupper, hlower]

/-- The upper eleven bits of a word. -/
theorem wordAt_div_congr {i : Nat} (h : SameBits data data' (8 * i) 11) :
    wordAt data i / 32 = wordAt data' i / 32 := by
  have hupper : byteAt data i = byteAt data' i := byteAt_congr (h.mono (by omega) (by omega))
  have hlower : byteAt data (i + 1) / 2 ^ 5 = byteAt data' (i + 1) / 2 ^ 5 :=
    byteAt_div_congr (h.mono (by omega) (by omega))
  unfold wordAt
  omega

/-- The lower five bits of a word. -/
theorem wordAt_mod_congr {i : Nat} (h : SameBits data data' (8 * i + 11) 5) :
    wordAt data i % 32 = wordAt data' i % 32 := by
  have hlower : byteAt data (i + 1) % 2 ^ 5 = byteAt data' (i + 1) % 2 ^ 5 :=
    byteAt_mod_congr (by decide) (h.mono (by omega) (by omega))
  unfold wordAt
  omega

/-- The bytes from a place on, as long as there are enough. -/
theorem take_drop_congr {i n : Nat} (h : SameBits data data' (8 * i) (8 * n))
    (hlong : i + n ≤ data.length) (hlong' : i + n ≤ data'.length) :
    (data.drop i).take n = (data'.drop i).take n := by
  refine List.ext_getElem (by simp; omega) fun j hj _ => ?_
  rw [List.length_take] at hj
  have hjn : j < n := by omega
  have hbyte : byteAt data (i + j) = byteAt data' (i + j) :=
    byteAt_congr (h.mono (by omega) (by omega))
  have hdata : i + j < data.length := by omega
  have hdata' : i + j < data'.length := by omega
  simp only [byteAt, List.getD_eq_getElem?_getD, List.getElem?_eq_getElem hdata,
    List.getElem?_eq_getElem hdata', Option.getD_some] at hbyte
  simp only [List.getElem_take, List.getElem_drop]
  exact UInt8.toNat_inj.mp hbyte

/-! ## Parts of measurements -/

/-- The parts of a measurement, each axis of the acceleration by itself. -/
inductive Part
  | temperature | humidity | pressure
  | acceleration (axis : Axis)
  | batteryVoltage | txPower | movementCounter | sequence | mac
deriving DecidableEq, Repr

/-- The value of a part, if the measurement has it. -/
def Part.of (p : Part) (m : Measurement) : Option Value :=
  match p with
  | temperature => some (.ofNumber m.temperature)
  | humidity => some (.ofNumber m.humidity)
  | pressure => some (.ofNumber m.pressure)
  | acceleration .x => some (.ofNumber m.acceleration.x)
  | acceleration .y => some (.ofNumber m.acceleration.y)
  | acceleration .z => some (.ofNumber m.acceleration.z)
  | batteryVoltage => some (.ofNumber m.batteryVoltage)
  | txPower => m.transmission.map fun t => .ofNumber t.txPower
  | movementCounter => m.transmission.map fun t => .ofNumber t.movementCounter
  | sequence => m.transmission.map fun t => .ofNumber t.sequence
  | mac => some (.text m.mac)

/-- The bits of a part: the place of the first one and how many there are. Data format 3 has no bits
for transmission data and the address. -/
def DataFormat.span : DataFormat → Part → Nat × Nat
  | five, .temperature => (8, 16)
  | five, .humidity => (24, 16)
  | five, .pressure => (40, 16)
  | five, .acceleration .x => (56, 16)
  | five, .acceleration .y => (72, 16)
  | five, .acceleration .z => (88, 16)
  | five, .batteryVoltage => (104, 11)
  | five, .txPower => (115, 5)
  | five, .movementCounter => (120, 8)
  | five, .sequence => (128, 16)
  | five, .mac => (144, 48)
  | three, .humidity => (8, 8)
  | three, .temperature => (16, 16)
  | three, .pressure => (32, 16)
  | three, .acceleration .x => (48, 16)
  | three, .acceleration .y => (64, 16)
  | three, .acceleration .z => (80, 16)
  | three, .batteryVoltage => (96, 16)
  | three, .txPower | three, .movementCounter | three, .sequence | three, .mac => (0, 0)

/-- Two payloads have the same bits of a part. -/
def DataFormat.SamePart (f : DataFormat) (p : Part) (a a' : Advertisement) : Prop :=
  SameBits a.payload a'.payload (f.span p).1 (f.span p).2

instance (f : DataFormat) (p : Part) (a a' : Advertisement) : Decidable (f.SamePart p a a') :=
  inferInstanceAs (Decidable (SameBits _ _ _ _))

variable {a a' : Advertisement} {p : Part}

/-- The parts of a measurement of data format 5 depend on its raw fields. -/
theorem of_measurement5_congr (hlong : 24 ≤ a.payload.length) (hlong' : 24 ≤ a'.payload.length)
    (h : DataFormat.SamePart .five p a a') (hmac : p = .mac → a.mac = a'.mac) :
    p.of (measurement5 a) = p.of (measurement5 a') := by
  unfold DataFormat.SamePart at h
  cases p with
  | temperature =>
    have hraw : (Raw5.ofBytes a.payload).temperature = (Raw5.ofBytes a'.payload).temperature :=
      wordAt_congr h
    simp only [Part.of, measurement5]
    rw [hraw]
  | humidity =>
    have hraw : (Raw5.ofBytes a.payload).humidity = (Raw5.ofBytes a'.payload).humidity :=
      wordAt_congr h
    simp only [Part.of, measurement5]
    rw [hraw]
  | pressure =>
    have hraw : (Raw5.ofBytes a.payload).pressure = (Raw5.ofBytes a'.payload).pressure :=
      wordAt_congr h
    simp only [Part.of, measurement5]
    rw [hraw]
  | acceleration axis =>
    cases axis with
    | x =>
      have hraw : (Raw5.ofBytes a.payload).accelerationX =
          (Raw5.ofBytes a'.payload).accelerationX := wordAt_congr h
      simp only [Part.of, measurement5]
      rw [hraw]
    | y =>
      have hraw : (Raw5.ofBytes a.payload).accelerationY =
          (Raw5.ofBytes a'.payload).accelerationY := wordAt_congr h
      simp only [Part.of, measurement5]
      rw [hraw]
    | z =>
      have hraw : (Raw5.ofBytes a.payload).accelerationZ =
          (Raw5.ofBytes a'.payload).accelerationZ := wordAt_congr h
      simp only [Part.of, measurement5]
      rw [hraw]
  | batteryVoltage =>
    have hraw : (Raw5.ofBytes a.payload).battery = (Raw5.ofBytes a'.payload).battery :=
      wordAt_div_congr h
    simp only [Part.of, measurement5]
    rw [hraw]
  | txPower =>
    have hraw : (Raw5.ofBytes a.payload).txPower = (Raw5.ofBytes a'.payload).txPower :=
      wordAt_mod_congr h
    simp only [Part.of, measurement5, Option.map_some]
    rw [hraw]
  | movementCounter =>
    have hraw : (Raw5.ofBytes a.payload).movementCounter =
        (Raw5.ofBytes a'.payload).movementCounter := byteAt_congr h
    simp only [Part.of, measurement5, Option.map_some]
    rw [hraw]
  | sequence =>
    have hraw : (Raw5.ofBytes a.payload).sequence = (Raw5.ofBytes a'.payload).sequence :=
      wordAt_congr h
    simp only [Part.of, measurement5, Option.map_some]
    rw [hraw]
  | mac =>
    have hraw : (Raw5.ofBytes a.payload).address = (Raw5.ofBytes a'.payload).address :=
      take_drop_congr (n := 6) h hlong hlong'
    simp only [Part.of, measurement5]
    rw [hraw, hmac rfl]

theorem of_measurement3_congr (h : DataFormat.SamePart .three p a a')
    (hmac : p = .mac → a.mac = a'.mac) : p.of (measurement3 a) = p.of (measurement3 a') := by
  unfold DataFormat.SamePart at h
  cases p with
  | temperature =>
    have hwhole : (Raw3.ofBytes a.payload).temperature = (Raw3.ofBytes a'.payload).temperature :=
      byteAt_congr (h.mono (by decide) (by decide))
    have hfraction : (Raw3.ofBytes a.payload).temperatureFraction =
        (Raw3.ofBytes a'.payload).temperatureFraction :=
      byteAt_congr (h.mono (by decide) (by decide))
    simp only [Part.of, measurement3]
    rw [hwhole, hfraction]
  | humidity =>
    have hraw : (Raw3.ofBytes a.payload).humidity = (Raw3.ofBytes a'.payload).humidity :=
      byteAt_congr h
    simp only [Part.of, measurement3]
    rw [hraw]
  | pressure =>
    have hraw : (Raw3.ofBytes a.payload).pressure = (Raw3.ofBytes a'.payload).pressure :=
      wordAt_congr h
    simp only [Part.of, measurement3]
    rw [hraw]
  | acceleration axis =>
    cases axis with
    | x =>
      have hraw : (Raw3.ofBytes a.payload).accelerationX =
          (Raw3.ofBytes a'.payload).accelerationX := wordAt_congr h
      simp only [Part.of, measurement3]
      rw [hraw]
    | y =>
      have hraw : (Raw3.ofBytes a.payload).accelerationY =
          (Raw3.ofBytes a'.payload).accelerationY := wordAt_congr h
      simp only [Part.of, measurement3]
      rw [hraw]
    | z =>
      have hraw : (Raw3.ofBytes a.payload).accelerationZ =
          (Raw3.ofBytes a'.payload).accelerationZ := wordAt_congr h
      simp only [Part.of, measurement3]
      rw [hraw]
  | batteryVoltage =>
    have hraw : (Raw3.ofBytes a.payload).battery = (Raw3.ofBytes a'.payload).battery :=
      wordAt_congr h
    simp only [Part.of, measurement3]
    rw [hraw]
  | txPower => simp only [Part.of, measurement3]
  | movementCounter => simp only [Part.of, measurement3]
  | sequence => simp only [Part.of, measurement3]
  | mac =>
    simp only [Part.of, measurement3]
    rw [hmac rfl]

theorem DataFormat.of_measurement_congr {f : DataFormat} (hlong : f.size ≤ a.payload.length)
    (hlong' : f.size ≤ a'.payload.length) (h : f.SamePart p a a')
    (hmac : p = .mac → a.mac = a'.mac) : p.of (f.measurement a) = p.of (f.measurement a') := by
  cases f with
  | three => exact of_measurement3_congr h hmac
  | five => exact of_measurement5_congr hlong hlong' h hmac

/-! ## Bytes behind the format -/

theorem byteAt_append {i : Nat} (h : i < data.length) (extra : List UInt8) :
    byteAt (data ++ extra) i = byteAt data i := by
  rw [byteAt, byteAt, List.getD_eq_getElem?_getD, List.getD_eq_getElem?_getD,
    List.getElem?_append_left h]

theorem wordAt_append {i : Nat} (h : i + 1 < data.length) (extra : List UInt8) :
    wordAt (data ++ extra) i = wordAt data i := by
  have hi : i < data.length := by omega
  rw [wordAt, wordAt, byteAt_append hi, byteAt_append h]

theorem ofBytes5_append (h : 24 ≤ data.length) (extra : List UInt8) :
    Raw5.ofBytes (data ++ extra) = Raw5.ofBytes data := by
  have hword {i : Nat} (hi : i < 23) : wordAt (data ++ extra) i = wordAt data i :=
    wordAt_append (by omega) extra
  have hbyte : byteAt (data ++ extra) 15 = byteAt data 15 := byteAt_append (by omega) extra
  have haddress : ((data ++ extra).drop 18).take 6 = (data.drop 18).take 6 := by
    rw [List.drop_append_of_le_length (by omega),
      List.take_append_of_le_length (by rw [List.length_drop]; omega)]
  simp only [Raw5.ofBytes, hword (show 1 < 23 by decide), hword (show 3 < 23 by decide),
    hword (show 5 < 23 by decide), hword (show 7 < 23 by decide), hword (show 9 < 23 by decide),
    hword (show 11 < 23 by decide), hword (show 13 < 23 by decide),
    hword (show 16 < 23 by decide), hbyte, haddress]

theorem ofBytes3_append (h : 14 ≤ data.length) (extra : List UInt8) :
    Raw3.ofBytes (data ++ extra) = Raw3.ofBytes data := by
  have hword {i : Nat} (hi : i < 13) : wordAt (data ++ extra) i = wordAt data i :=
    wordAt_append (by omega) extra
  have hbyte {i : Nat} (hi : i < 13) : byteAt (data ++ extra) i = byteAt data i :=
    byteAt_append (by omega) extra
  simp only [Raw3.ofBytes, hbyte (show 1 < 13 by decide), hbyte (show 2 < 13 by decide),
    hbyte (show 3 < 13 by decide), hword (show 4 < 13 by decide), hword (show 6 < 13 by decide),
    hword (show 8 < 13 by decide), hword (show 10 < 13 by decide),
    hword (show 12 < 13 by decide)]

theorem DataFormat.raw_append {f : DataFormat} (h : f.size ≤ data.length) (extra : List UInt8) :
    f.raw (data ++ extra) = f.raw data := by
  cases f with
  | three => exact ofBytes3_append h extra
  | five => exact ofBytes5_append h extra

/-- Bytes behind the format are not measured. -/
theorem DataFormat.measurement_followedBy {f : DataFormat} (h : f.size ≤ a.payload.length)
    (extra : List UInt8) : f.measurement (a.followedBy extra) = f.measurement a :=
  measurement_congr rfl rfl (raw_append h extra)

/-- The size is the first thing that a longer payload has wrong, and the only one more. -/
theorem envelopeFlaws_append {needed : Nat} (tag : Nat) (h : data.length = needed)
    (hneeded : 0 < needed) {extra : List UInt8} (hextra : extra ≠ []) :
    envelopeFlaws tag needed (data ++ extra) =
      .size needed (data ++ extra).length :: envelopeFlaws tag needed data := by
  have hlength : (data ++ extra).length ≠ needed := by
    have := List.length_pos_iff.mpr hextra
    rw [List.length_append]
    omega
  have htag : tagFlaw? tag (data ++ extra) = tagFlaw? tag data := by
    rw [tagFlaw?, tagFlaw?, byteAt_append (by omega)]
  rw [envelopeFlaws, envelopeFlaws, sizeFlaw?, if_neg hlength, sizeFlaw?, if_pos h, htag]
  rfl

theorem DataFormat.flaws_followedBy {f : DataFormat} (h : a.payload.length = f.size)
    {extra : List UInt8} (hextra : extra ≠ []) :
    f.flaws (a.followedBy extra) =
      .size f.size (a.followedBy extra).payload.length :: f.flaws a := by
  cases f with
  | three => exact envelopeFlaws_append 3 h (by decide) hextra
  | five =>
    have hraw : Raw5.ofBytes (a.followedBy extra).payload = Raw5.ofBytes a.payload :=
      ofBytes5_append (Nat.le_of_eq h.symm) extra
    have henvelope : envelopeFlaws 5 format5Size (a.followedBy extra).payload =
        .size format5Size (a.followedBy extra).payload.length ::
          envelopeFlaws 5 format5Size a.payload :=
      envelopeFlaws_append 5 h (by decide) hextra
    simp only [flaws, flaws5]
    rw [hraw, henvelope]
    rfl

theorem DataFormat.names_followedBy {f : DataFormat} (h : f.Names a) (extra : List UInt8) :
    f.Names (a.followedBy extra) := by
  obtain ⟨hmanufacturer, hfirst⟩ := h
  refine ⟨hmanufacturer, ?_⟩
  cases hpayload : a.payload with
  | nil =>
    rw [hpayload] at hfirst
    cases hfirst
  | cons first rest =>
    rw [hpayload] at hfirst
    simp only [Advertisement.followedBy, hpayload, List.cons_append]
    exact hfirst

/-! ## Two runs -/

/-- **Each part of a measurement depends on its own bits only.** Of two advertisements, decoded as
one format in any modes, the payloads of which have the same bits of a part, the measurements have
the same value of it; the address depends on the sender too. So bytes behind the format change no
value. They put one error in front of the others in lenient mode, and strict mode refuses them for
that. -/
theorem own_bits_only (f : DataFormat) (a a' : Advertisement) :
    (∀ m m', f.Gives a m → f.Gives a' m' → ∀ p : Part, f.SamePart p a a' →
      (p = .mac → a.mac = a'.mac) → p.of m = p.of m') ∧
    ∀ extra, a.payload.length = f.size → extra ≠ [] →
      let longer := a.followedBy extra
      let first := "Expected data size " ++ toString f.size ++ ", got " ++
        toString longer.payload.length
      errorsAs f.tag longer = first :: errorsAs f.tag a ∧
      (∃ m, f.decode .lenient a = .ok m ∧ m.report = " - ".intercalate (errorsAs f.tag a) ∧
        f.decode .lenient longer = .ok { m with
          flawed := true, report := " - ".intercalate (first :: errorsAs f.tag a) } ∧
        (f.Names a → Payload.decode .lenient a = .ok (some m) ∧
          Payload.decode .lenient longer = .ok (some { m with
            flawed := true, report := " - ".intercalate (first :: errorsAs f.tag a) }))) ∧
      ∃ fault, f.decode .strict longer = .error fault ∧
        fault.message = "Data format " ++ toString f.tag ++ " conversion failed: " ++ first := by
  constructor
  · intro m m' hm hm' p hsame hmac
    obtain ⟨hlong, rfl⟩ := hm.eq
    obtain ⟨hlong', rfl⟩ := hm'.eq
    exact DataFormat.of_measurement_congr hlong hlong' hsame hmac
  · intro extra hsize hextra longer first
    have hflaws : f.flaws longer = .size f.size longer.payload.length :: f.flaws a :=
      DataFormat.flaws_followedBy hsize hextra
    have hmeasured : f.measurement longer = f.measurement a :=
      DataFormat.measurement_followedBy (Nat.le_of_eq hsize.symm) extra
    have herrors : errorsAs f.tag longer = first :: errorsAs f.tag a := by
      rw [← f.message_flaws, ← f.message_flaws, hflaws]
      rfl
    have hlong : f.size ≤ longer.payload.length := by
      simp only [longer, Advertisement.followedBy, List.length_append]
      omega
    have hshorter := (f.decodes a).long (Nat.le_of_eq hsize.symm) .lenient
    have hlonger := (f.decodes longer).long hlong
    rw [hflaws, hmeasured] at hlonger
    have hreport : Flaw.report (f.flaws a) = " - ".intercalate (errorsAs f.tag a) := by
      rw [← f.message_flaws]
      rfl
    have hreport' : Flaw.report (.size f.size longer.payload.length :: f.flaws a) =
        " - ".intercalate (first :: errorsAs f.tag a) := by
      rw [← f.message_flaws]
      rfl
    have hlenient := hlonger .lenient
    simp only [settled, hreport] at hshorter
    simp only [settled, hreport', List.isEmpty_cons, Bool.not_false] at hlenient
    refine ⟨herrors, ⟨_, hshorter, rfl, hlenient, ?_⟩, _, hlonger .strict, rfl⟩
    intro hnames
    rw [decode_of_names hnames, decode_of_names (DataFormat.names_followedBy hnames extra),
      hshorter, hlenient]
    exact ⟨rfl, rfl⟩

/-- A flawless payload. -/
def flawless : Advertisement where
  mac := "CB:B8:33:4C:88:4F"
  manufacturer := .int 0x0499
  payload := [5, 0x12, 0xFC, 0x53, 0x94, 0xC3, 0x7C, 0, 4, 0xFF, 0xFC, 4, 0x0C, 0xAC, 0x36, 0x42,
    0, 0xCD, 0xCB, 0xB8, 0x33, 0x4C, 0x88, 0x4F]

/-- A payload of another sender, with another tag and a byte too many, that has the temperature and
the transmit power of `flawless`, and nothing else of it. -/
def altered : Advertisement where
  mac := "AA:BB:CC:DD:EE:FF"
  payload := [7, 0x12, 0xFC, 0xFF, 0xFF, 0xFF, 0xFF, 0x80, 0, 0x80, 0, 0x80, 0, 0xFF, 0xF6, 0xFF,
    0xFF, 0xFF, 0, 0, 0, 0, 0, 0, 0]
  signalStrength := -70

/-- Strict decoding of the one and lenient decoding of the other agree where the bits do. -/
theorem own_bits_only_altered :
    ∃ m m', decode .strict flawless = .ok (some m) ∧ decode5 .lenient altered = .ok m' ∧
      m'.flawed = true ∧ Part.temperature.of m = Part.temperature.of m' ∧
      Part.txPower.of m = Part.txPower.of m' := by
  have hnames : DataFormat.Names .five flawless := by decide
  have hflaws : flaws5 flawless = [] := by decide
  have hclean := (decodes5 flawless).long (by decide) .strict
  have hmarked := (decodes5 altered).long (by decide) .lenient
  rw [hflaws] at hclean
  have hgives : DataFormat.Gives .five flawless _ := ⟨.strict, Or.inl hclean⟩
  have hgives' : DataFormat.Gives .five altered _ := ⟨.lenient, Or.inl hmarked⟩
  have hparts := (own_bits_only .five flawless altered).1 _ _ hgives hgives'
  refine ⟨_, _, ?_, hmarked, ?_, hparts .temperature (by decide) nofun,
    hparts .txPower (by decide) nofun⟩
  · rw [decode_of_names hnames]
    exact congrArg (Except.map some) hclean
  · decide

end Payload

end TagGateway

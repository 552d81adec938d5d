import Mathlib.Data.List.Forall2
import TagGateway.CommandLine.Answer

/-!
# Payloads written as text

A payload is written with two digits for each byte, in either case. A mark may stand in front, and
colons and spaces anywhere, also inside the mark or between the digits of a byte.

* `Payload.Writes` — that digits write bytes, by the digits of numbers; `Payload.Spaced` — that a
  text has separators put in; `Payload.IsWritten` — that a text writes a payload.
* `Payload.Pairs` — the texts without separators and mark that are read, with what is read;
  `Payload.readPairs_eq_ok` says that these are all, and `Payload.ofHex?_eq_some` says so of texts.
* `Payload.IsSpoilt` — that a text has a character which is neither a digit nor a blank, or an odd
  number of digits.
* **`Payload.written_read`** — what is written is read, and what is spoilt is refused.
-/

namespace TagGateway.Payload

open TagGateway.CommandLine (DecodeOptions decodeReport)
open TagGateway.Text (hexValue?)

/-! ## Writing -/

/-- A character is the digit of a number, in either case. -/
def IsDigitOf (n : Nat) (c : Char) : Prop := c = Text.hexDigit n ∨ c = Address.upperHexDigit n

instance (n : Nat) (c : Char) : Decidable (IsDigitOf n c) := inferInstanceAs (Decidable (_ ∨ _))

/-- The two numbers below sixteen that make a byte. -/
def halves (b : UInt8) : List Nat := [b.toNat / 16, b.toNat % 16]

/-- Digits write bytes: two for each, in either case. -/
def Writes (digits : List Char) (bs : List UInt8) : Prop :=
  List.Forall₂ IsDigitOf (bs.flatMap halves) digits

/-- Characters with colons and spaces put in anywhere. -/
inductive Spaced : List Char → List Char → Prop
  | nil : Spaced [] []
  | keep {c : Char} {cs ds : List Char} : Spaced cs ds → Spaced (c :: cs) (c :: ds)
  | put {c : Char} {cs ds : List Char} : c = ':' ∨ c = ' ' → Spaced cs ds → Spaced cs (c :: ds)

/-- A text writes a payload: a mark or none, the digits of the bytes, and separators. -/
def IsWritten (text : String) (bs : List UInt8) : Prop :=
  ∃ mark ∈ [[], ['0', 'x'], ['0', 'X']], ∃ digits, Writes digits bs ∧
    Spaced (mark ++ digits) text.toList

/-! ## Digits and blanks -/

/-- All digits, in either case. -/
def digits : List Char := "0123456789abcdefABCDEF".toList

/-- All blanks of ASCII. -/
def blanks : List Char := " \t\n\x0b\x0c\r".toList

theorem hexValue?_of_isDigitOf {n : Nat} {c : Char} (hn : n < 16) (h : IsDigitOf n c) :
    hexValue? c = some n := by
  have hall : ∀ n < 16, hexValue? (Text.hexDigit n) = some n ∧
      hexValue? (Address.upperHexDigit n) = some n := by decide
  rcases h with rfl | rfl
  · exact (hall n hn).1
  · exact (hall n hn).2

theorem mem_iff_toNat_mem {c : Char} {cs : List Char} : c ∈ cs ↔ c.toNat ∈ cs.map Char.toNat :=
  (List.mem_map_of_injective fun _ _ => Char.toNat_inj.mp).symm

theorem isSome_hexValue?_iff {c : Char} : (hexValue? c).isSome = true ↔ c ∈ digits := by
  have hcodes : digits.map Char.toNat = [48, 49, 50, 51, 52, 53, 54, 55, 56, 57, 97, 98, 99, 100,
      101, 102, 65, 66, 67, 68, 69, 70] := by decide
  rw [mem_iff_toNat_mem, hcodes]
  simp only [hexValue?, Bool.and_eq_true, decide_eq_true_eq, List.mem_cons, List.not_mem_nil,
    or_false]
  split
  · exact iff_of_true rfl (by omega)
  · split
    · exact iff_of_true rfl (by omega)
    · split
      · exact iff_of_true rfl (by omega)
      · exact iff_of_false nofun (by omega)

theorem isGap_iff {c : Char} : isGap c = true ↔ c ∈ blanks := by
  have hcodes : blanks.map Char.toNat = [32, 9, 10, 11, 12, 13] := by decide
  rw [mem_iff_toNat_mem, hcodes]
  have hspace : c = ' ' ↔ c.toNat = 32 := Char.toNat_inj.symm
  simp only [isGap, Bool.or_eq_true, Bool.and_eq_true, decide_eq_true_eq, beq_iff_eq, hspace,
    List.mem_cons, List.not_mem_nil, or_false]
  omega

/-- No digit is a blank. -/
theorem isGap_of_hexValue? {n : Nat} {c : Char} (h : hexValue? c = some n) : isGap c = false := by
  have hdigit : c ∈ digits := isSome_hexValue?_iff.mp (by rw [h]; rfl)
  have hall : digits.all (fun d => isGap d == false) = true := by decide
  exact eq_of_beq (List.all_eq_true.mp hall c hdigit)

/-! ## Reading -/

/-- What is read from characters without separators and mark: two digits make a byte, and blanks
may stand before, between and after bytes. -/
inductive Pairs : List Char → List UInt8 → Prop
  | nil : Pairs [] []
  | gap {c : Char} {cs : List Char} {bs : List UInt8} :
      isGap c = true → Pairs cs bs → Pairs (c :: cs) bs
  | byte {c d : Char} {high low : Nat} {cs : List Char} {bs : List UInt8} :
      hexValue? c = some high → hexValue? d = some low → Pairs cs bs →
      Pairs (c :: d :: cs) (UInt8.ofNat (16 * high + low) :: bs)

/-- Reading gives what there is to be read, and fails where there is nothing. -/
theorem readPairs_eq_ok (place : Nat) {cs : List Char} {bs : List UInt8} :
    readPairs place cs = .ok bs ↔ Pairs cs bs := by
  constructor
  · intro h
    fun_induction readPairs place cs generalizing bs with
    | case1 place =>
      cases h
      exact .nil
    | case2 place a rest hgap ih => exact .gap hgap (ih h)
    | case3 => cases h
    | case4 => cases h
    | case5 => cases h
    | case6 place a hgap high b rest ha low hb ih =>
      cases hrest : readPairs (place + 2) rest with
      | error f =>
        rw [hrest] at h
        cases h
      | ok more =>
        rw [hrest] at h
        cases h
        exact .byte ha hb (ih hrest)
  · intro h
    induction h generalizing place with
    | nil => rfl
    | gap hgap _ ih =>
      unfold readPairs
      rw [if_pos hgap, ih]
    | byte hc hd _ ih =>
      unfold readPairs
      simp only [isGap_of_hexValue? hc, hc, hd, ih]
      rfl

/-- What is left of a text without its separators and then without its mark. -/
def remainder (text : String) : List Char :=
  withoutMark (text.toList.filter fun c => !isSeparator c)

theorem ofHex?_eq_some {text : String} {bs : List UInt8} :
    ofHex? text = some bs ↔ Pairs (remainder text) bs := by
  rw [← readPairs_eq_ok 0]
  unfold ofHex? remainder
  cases readPairs 0 (withoutMark (text.toList.filter fun c => !isSeparator c)) with
  | error place => exact iff_of_false nofun nofun
  | ok read => simp [Except.toOption]

/-! ## What is written is read -/

/-- Digits that write bytes are read as these bytes. -/
theorem Writes.pairs {ds : List Char} {bs : List UInt8} (h : Writes ds bs) : Pairs ds bs := by
  induction bs generalizing ds with
  | nil =>
    cases h
    exact .nil
  | cons b bs ih =>
    have hb : b.toNat < 256 := b.toNat_lt
    obtain ⟨c, more, hc, hmore, rfl⟩ := List.forall₂_cons_left_iff.mp h
    obtain ⟨d, rest, hd, hrest, rfl⟩ := List.forall₂_cons_left_iff.mp hmore
    have hsum : UInt8.ofNat (16 * (b.toNat / 16) + b.toNat % 16) = b := by
      rw [Nat.div_add_mod, UInt8.ofNat_toNat]
    rw [← hsum]
    exact .byte (hexValue?_of_isDigitOf (by omega) hc) (hexValue?_of_isDigitOf (by omega) hd)
      (ih hrest)

/-- Bytes are written with digits only. -/
theorem Writes.mem {ds : List Char} {bs : List UInt8} (h : Writes ds bs) :
    ∀ c ∈ ds, c ∈ digits := by
  have hhalf : ∀ n ∈ bs.flatMap halves, n < 16 := by
    intro n hn
    obtain ⟨b, -, hb⟩ := List.mem_flatMap.mp hn
    have := b.toNat_lt
    simp only [halves, List.mem_cons, List.not_mem_nil, or_false] at hb
    omega
  unfold Writes at h
  generalize bs.flatMap halves = numbers at h hhalf
  induction h with
  | nil => nofun
  | cons hdigit _ ih =>
    intro c hc
    rcases List.mem_cons.mp hc with rfl | hc
    · have hvalue := hexValue?_of_isDigitOf (hhalf _ List.mem_cons_self) hdigit
      exact isSome_hexValue?_iff.mp (by rw [hvalue]; rfl)
    · exact ih (fun n hn => hhalf n (List.mem_cons_of_mem _ hn)) c hc

/-- All that is read is digits and blanks. -/
theorem Pairs.mem {cs : List Char} {bs : List UInt8} (h : Pairs cs bs) :
    ∀ c ∈ cs, c ∈ digits ∨ c ∈ blanks := by
  induction h with
  | nil => nofun
  | gap hgap _ ih =>
    intro c hc
    rcases List.mem_cons.mp hc with rfl | hc
    · exact Or.inr (isGap_iff.mp hgap)
    · exact ih c hc
  | byte hhigh hlow _ ih =>
    intro c hc
    rcases List.mem_cons.mp hc with rfl | hc
    · exact Or.inl (isSome_hexValue?_iff.mp (by rw [hhigh]; rfl))
    · rcases List.mem_cons.mp hc with rfl | hc
      · exact Or.inl (isSome_hexValue?_iff.mp (by rw [hlow]; rfl))
      · exact ih c hc

/-- Each byte that is read takes two digits. -/
theorem Pairs.countP {cs : List Char} {bs : List UInt8} (h : Pairs cs bs) :
    cs.countP (· ∈ digits) = 2 * bs.length := by
  have hdigit {c : Char} {n : Nat} (hc : hexValue? c = some n) : c ∈ digits :=
    isSome_hexValue?_iff.mp (by rw [hc]; rfl)
  have hgap {c : Char} (hc : isGap c = true) : c ∉ digits := by
    intro hmem
    obtain ⟨n, hn⟩ := Option.isSome_iff_exists.mp (isSome_hexValue?_iff.mpr hmem)
    rw [isGap_of_hexValue? hn] at hc
    cases hc
  induction h with
  | nil => rfl
  | gap hc _ ih => rw [List.countP_cons_of_neg (by simpa using hgap hc), ih]
  | byte hhigh hlow _ ih =>
    rw [List.countP_cons_of_pos (by simpa using hdigit hhigh),
      List.countP_cons_of_pos (by simpa using hdigit hlow), ih, List.length_cons]
    omega

/-- Without the separators that were put in, the rest is what it was without them. -/
theorem Spaced.filter_eq {cs ds : List Char} (h : Spaced cs ds) :
    (ds.filter fun c => !isSeparator c) = cs.filter fun c => !isSeparator c := by
  induction h with
  | nil => rfl
  | keep _ ih => simp only [List.filter_cons, ih]
  | put hc _ ih =>
    rw [List.filter_cons_of_neg, ih]
    rcases hc with rfl | rfl <;> decide

/-- Digits have no mark in front. -/
theorem withoutMark_of_digits {ds : List Char} (h : ∀ c ∈ ds, c ∈ digits) :
    withoutMark ds = ds := by
  unfold withoutMark
  split
  · exact absurd (h 'x' (by simp)) (by decide)
  · exact absurd (h 'X' (by simp)) (by decide)
  · rfl

/-- Without separators and mark, the digits are left. -/
theorem remainder_of_spaced {text : String} {mark ds : List Char}
    (hmark : mark ∈ [[], ['0', 'x'], ['0', 'X']]) (hds : ∀ c ∈ ds, c ∈ digits)
    (h : Spaced (mark ++ ds) text.toList) : remainder text = ds := by
  have hseparator : digits.all (fun c => !isSeparator c) = true := by decide
  have hfilter : (ds.filter fun c => !isSeparator c) = ds :=
    List.filter_eq_self.mpr fun c hc => List.all_eq_true.mp hseparator c (hds c hc)
  rw [remainder, h.filter_eq, List.filter_append, hfilter]
  simp only [List.mem_cons, List.not_mem_nil, or_false] at hmark
  rcases hmark with rfl | rfl | rfl
  · exact withoutMark_of_digits hds
  · rfl
  · rfl

/-! ## What is spoilt is refused -/

/-- A text that cannot be read: without its separators and its mark it has a character that is
neither a digit nor a blank, or an odd number of digits. -/
def IsSpoilt (text : String) : Prop :=
  (∃ c ∈ remainder text, c ∉ digits ∧ c ∉ blanks) ∨
    (remainder text).countP (· ∈ digits) % 2 = 1

instance (text : String) : Decidable (IsSpoilt text) :=
  decidable_of_iff
    ((remainder text).any (fun c => decide (c ∉ digits ∧ c ∉ blanks)) = true ∨
      (remainder text).countP (· ∈ digits) % 2 = 1)
    (by simp only [IsSpoilt, List.any_eq_true, decide_eq_true_eq])

theorem IsSpoilt.ofHex?_eq_none {text : String} (h : IsSpoilt text) : ofHex? text = none := by
  cases hread : ofHex? text with
  | none => rfl
  | some bs =>
    have hpairs := ofHex?_eq_some.mp hread
    rcases h with ⟨c, hc, hdigit, hblank⟩ | hodd
    · exact absurd (hpairs.mem c hc) (not_or.mpr ⟨hdigit, hblank⟩)
    · rw [hpairs.countP] at hodd
      omega

/-- **Payloads as text.** What writes a payload is read as this payload, with digits in either case,
with a mark or without, and with colons and spaces anywhere. A text with a character that is neither
a digit nor a blank, or with an odd number of digits, is no payload, and the command to decode it is
refused for that, whatever its options are. -/
theorem written_read (text : String) :
    (∀ bs, IsWritten text bs → ofHex? text = some bs) ∧
      (IsSpoilt text → ofHex? text = none ∧
        ∀ o : DecodeOptions, o.payload = text →
          decodeReport o = .error (.notHexadecimal text)) := by
  constructor
  · rintro bs ⟨mark, hmark, ds, hwrites, hspaced⟩
    rw [ofHex?_eq_some, remainder_of_spaced hmark hwrites.mem hspaced]
    exact hwrites.pairs
  · intro hspoilt
    have hnone := hspoilt.ofHex?_eq_none
    refine ⟨hnone, fun o ho => ?_⟩
    have hrefused : o.advertisement = .error (.notHexadecimal text) := by
      unfold DecodeOptions.advertisement
      rw [ho, hnone]
    unfold decodeReport
    rw [hrefused]
    rfl

/-- Two bytes, with a mark that has a space inside and digits in both cases; and texts with a letter
that is no digit, with one digit too few, and with a mark behind the first. -/
theorem marked_read :
    ofHex? " 0 X:0a: F:f" = some [0x0A, 0xFF] ∧
      decodeReport ⟨"05g1", none, "0x0499", 0, false⟩ = .error (.notHexadecimal "05g1") ∧
      ofHex? "05:1\t" = none ∧ ofHex? "0x0x05" = none := by
  refine ⟨(written_read _).1 _ ⟨['0', 'X'], by decide, "0aFf".toList, ?_, ?_⟩,
    ((written_read _).2 (by decide)).2 _ rfl, ((written_read _).2 (by decide)).1,
    ((written_read _).2 (by decide)).1⟩
  · unfold Writes
    decide
  · exact .put (.inr rfl) (.keep (.put (.inr rfl) (.keep (.put (.inl rfl) (.keep (.keep
      (.put (.inl rfl) (.put (.inr rfl) (.keep (.put (.inl rfl) (.keep .nil)))))))))))

end TagGateway.Payload

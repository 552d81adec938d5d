import Mathlib.Data.List.Basic
import TagGateway.Decimal.Numeral
import TagGateway.Proofs.Address.Canonical

/-!
# Addresses of bytes

Bytes are written with two upper-case digits for each and colons between them, so that they can be
read off again. Six bytes make an address in the form in which addresses are compared and listed.

* `Address.hexNumber?` — the number that a part writes; `Address.map_hexNumber?_ofBytes` — that the
  parts of a text between its colons write the bytes from which it was made.
* `Address.ofBytes_injective` — so no two lists of bytes are written alike.
* `Address.isCanonical_ofBytes` — six bytes make a canonical address.
-/

namespace TagGateway.Address

open TagGateway.Text (hexValue?)

variable {bs : List UInt8}

/-! ## Reading back -/

/-- The number that hexadecimal digits write, in either case. No digits write none. -/
def hexNumber? (cs : List Char) : Option Nat :=
  if cs.isEmpty then none else (cs.mapM hexValue?).map (Decimal.ofDigitsIn 16)

/-- The digits of numbers below sixteen are upper-case, and have these numbers as their values. -/
theorem upperHexDigit_spec : ∀ n < 16,
    isUpperHex (upperHexDigit n) = true ∧ hexValue? (upperHexDigit n) = some n := by
  decide

/-- Both halves of a byte are below sixteen. -/
theorem halves_lt (b : UInt8) : b.toNat / 16 < 16 ∧ b.toNat % 16 < 16 := by
  have hb := b.toNat_lt
  omega

theorem isUpperHex_of_mem_byteChars {b : UInt8} {c : Char} (h : c ∈ byteChars b) :
    isUpperHex c = true := by
  obtain ⟨hhigh, hlow⟩ := halves_lt b
  simp only [byteChars, List.mem_cons, List.not_mem_nil, or_false] at h
  rcases h with rfl | rfl
  · exact (upperHexDigit_spec _ hhigh).1
  · exact (upperHexDigit_spec _ hlow).1

/-- The digits of a byte write this byte. -/
theorem hexNumber?_byteChars (b : UInt8) : hexNumber? (byteChars b) = some b.toNat := by
  obtain ⟨hhigh, hlow⟩ := halves_lt b
  have hdigits : (byteChars b).mapM hexValue? = some [b.toNat / 16, b.toNat % 16] := by
    simp [byteChars, (upperHexDigit_spec _ hhigh).2, (upperHexDigit_spec _ hlow).2]
  have hsum : Decimal.ofDigitsIn 16 [b.toNat / 16, b.toNat % 16] = b.toNat := by
    show 16 * (16 * 0 + b.toNat / 16) + b.toNat % 16 = b.toNat
    omega
  have hne : (byteChars b).isEmpty = false := rfl
  rw [hexNumber?, hne, hdigits, Option.map_some, hsum]
  rfl

theorem pairChars_eq (bs : List UInt8) : pairChars bs = [':'].intercalate (bs.map byteChars) := by
  fun_induction pairChars bs with
  | case1 => rfl
  | case2 b => simp
  | case3 b rest hrest ih =>
    obtain ⟨c, rest, rfl⟩ := List.exists_cons_of_ne_nil hrest
    simp [ih]

/-- At its colons a text of bytes falls into the digits of each. -/
theorem splitOn_ofBytes (h : bs ≠ []) : (ofBytes bs).toList.splitOn ':' = bs.map byteChars := by
  have hcolon : ∀ part ∈ bs.map byteChars, ':' ∉ part := by
    intro part hpart hmem
    obtain ⟨b, -, rfl⟩ := List.mem_map.mp hpart
    exact absurd (isUpperHex_of_mem_byteChars hmem) (by decide)
  rw [ofBytes, String.toList_ofList, pairChars_eq]
  exact List.splitOn_intercalate ':' hcolon (by simpa using h)

/-- The parts of a text of bytes write these bytes. -/
theorem map_hexNumber?_ofBytes (h : bs ≠ []) :
    ((ofBytes bs).toList.splitOn ':').map hexNumber? = bs.map fun b => some b.toNat := by
  rw [splitOn_ofBytes h, List.map_map]
  exact List.map_congr_left fun b _ => hexNumber?_byteChars b

/-- No two lists of bytes are written alike. -/
theorem ofBytes_injective : Function.Injective ofBytes := by
  -- the text of no bytes has one part too, which is empty and writes no number
  have hnone : ((ofBytes []).toList.splitOn ':').map hexNumber? = [none] := rfl
  have hempty {bs : List UInt8} (h : ofBytes [] = ofBytes bs) : bs = [] := by
    by_contra hne
    obtain ⟨b, rest, rfl⟩ := List.exists_cons_of_ne_nil hne
    have hparts := map_hexNumber?_ofBytes hne
    rw [← h, hnone] at hparts
    cases hparts
  intro bs bs' h
  by_cases hbs : bs = []
  · subst hbs
    exact (hempty h).symm
  by_cases hbs' : bs' = []
  · subst hbs'
    exact hempty h.symm
  have hsome : Function.Injective fun b : UInt8 => some b.toNat :=
    fun b b' hb => UInt8.toNat_inj.mp (Option.some.inj hb)
  apply List.map_injective_iff.mpr hsome
  rw [← map_hexNumber?_ofBytes hbs, h, map_hexNumber?_ofBytes hbs']

/-! ## Canonical form -/

theorem isPairs_pairChars (b : UInt8) (rest : List UInt8) :
    isPairs (rest.length + 1) (pairChars (b :: rest)) = true := by
  have hdigits (b : UInt8) : isUpperHex (upperHexDigit (b.toNat / 16)) = true ∧
      isUpperHex (upperHexDigit (b.toNat % 16)) = true :=
    ⟨(upperHexDigit_spec _ (halves_lt b).1).1, (upperHexDigit_spec _ (halves_lt b).2).1⟩
  induction rest generalizing b with
  | nil => simp [pairChars, byteChars, isPairs, hdigits b]
  | cons c rest ih =>
    simp [pairChars, byteChars, isPairs, hdigits b, ih c]

/-- Six bytes make a canonical address. -/
theorem isCanonical_ofBytes (h : bs.length = 6) : IsCanonical (ofBytes bs) := by
  obtain ⟨b, rest, rfl⟩ := List.exists_cons_of_length_eq_add_one h
  have hrest : rest.length = 5 := by simpa using h
  have hpairs := isPairs_pairChars b rest
  rw [hrest] at hpairs
  rw [IsCanonical, ofBytes, String.toList_ofList]
  exact hpairs

end TagGateway.Address

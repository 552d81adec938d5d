import Mathlib.Data.List.Sort
import TagGateway.Proofs.Address.Canonical

/-!
# What a blacklist lists and answers

An address is put in by its canonical form and looked up by the upper-case form of a text, which is
neither trimmed nor freed of hyphens. The two agree because all that is listed is canonical, and
what is canonical is its own upper case.

* `Blacklist.Lists` — that a blacklist has the addresses which some texts write, each once and in
  ascending order; `Lists.insert` and `Lists.refuse` — the two steps; `Lists.unique` — that there is
  only one such blacklist.
* `Blacklist.Call` — additions and look-ups; `Blacklist.perform` — one call, `Blacklist.after` —
  many; `Lists.perform` and `Lists.after` — what they leave listed.
* `Blacklist.IsLowered` — that a text is another one with some letters in lower case.
* `Blacklist.Answers` — what a blacklist lists and how it answers the next call;
  **`Blacklist.answers_after`** — that it does so after any calls, from any first addresses.
-/

namespace TagGateway.Blacklist

variable {b : Blacklist} {texts : List String} {text mac : String}

/-! ## What is listed -/

/-- A blacklist has the addresses that some texts write, each once and in ascending order. -/
structure Lists (b : Blacklist) (items : List String) : Prop where
  ascending : b.macs.Pairwise (· < ·)
  mem_iff : ∀ mac, mac ∈ b.macs ↔ ∃ item ∈ items, Address.normalize item = .ok mac

theorem lists_nil : ({} : Blacklist).Lists [] where
  ascending := List.Pairwise.nil
  mem_iff mac := by simp

/-- A text that writes an address puts it in. -/
theorem Lists.insert (h : b.Lists texts) (htext : Address.normalize text = .ok mac) :
    (b.insert mac).Lists (texts ++ [text]) where
  ascending := pairwise_insert h.ascending mac
  mem_iff m := by
    have hlast : Address.normalize text = .ok m ↔ m = mac := by
      rw [htext, Except.ok.injEq]
      exact eq_comm
    have hsplit : (∃ item ∈ texts ++ [text], Address.normalize item = .ok m) ↔
        (∃ item ∈ texts, Address.normalize item = .ok m) ∨ m = mac := by
      simp only [List.mem_append, List.mem_singleton, or_and_right, exists_or, exists_eq_left,
        hlast]
    rw [mem_insert, h.mem_iff, hsplit, or_comm]

/-- A text that writes no address makes no difference. -/
theorem Lists.refuse (h : b.Lists texts) {fault : Fault}
    (htext : Address.normalize text = .error fault) : b.Lists (texts ++ [text]) where
  ascending := h.ascending
  mem_iff m := by
    have hlast : ¬Address.normalize text = .ok m := by
      rw [htext]
      nofun
    rw [h.mem_iff]
    simp only [List.mem_append, List.mem_singleton, or_and_right, exists_or, exists_eq_left,
      or_iff_left hlast]

/-- Two blacklists in ascending order that have the same addresses are the same. -/
theorem eq_of_mem_iff {b' : Blacklist} (h : b.macs.Pairwise (· < ·))
    (h' : b'.macs.Pairwise (· < ·)) (hsame : ∀ mac, mac ∈ b.macs ↔ mac ∈ b'.macs) : b = b' := by
  have hmacs : b.macs = b'.macs := h.eq_of_mem_iff h' hsame
  cases b
  cases b'
  exact congrArg Blacklist.mk hmacs

/-- There is only one such blacklist. -/
theorem Lists.unique {b' : Blacklist} (h : b.Lists texts) (h' : b'.Lists texts) : b = b' :=
  eq_of_mem_iff h.ascending h'.ascending fun mac => by rw [h.mem_iff, h'.mem_iff]

/-- To put in an address that is listed changes nothing. -/
theorem insert_of_mem (h : b.macs.Pairwise (· < ·)) (hmac : mac ∈ b.macs) :
    b.insert mac = b := by
  refine eq_of_mem_iff (pairwise_insert h mac) h fun m => ?_
  rw [mem_insert, or_iff_right_of_imp]
  rintro rfl
  exact hmac

/-- All that is listed is canonical. -/
theorem Lists.isCanonical (h : b.Lists texts) (hmac : mac ∈ b.macs) : Address.IsCanonical mac := by
  obtain ⟨text, -, htext⟩ := (h.mem_iff mac).mp hmac
  exact Address.isCanonical_of_ofValue (v := .text text) htext

/-! ## Calls -/

/-- A call on a blacklist. -/
inductive Call
  | add (text : String)
  | contains (text : String)
deriving DecidableEq, Repr

/-- The text that a call is to put in. -/
def Call.added? : Call → Option String
  | add text => some text
  | contains _ => none

/-- The texts that calls are to put in, in order. -/
def added (calls : List Call) : List String := calls.filterMap Call.added?

/-- The answer to a call, and the blacklist after it. A call that fails changes nothing. -/
def perform (b : Blacklist) : Call → Except Fault Bool × Blacklist
  | .add text =>
    match b.add (.text text) with
    | .ok (new, b') => (.ok new, b')
    | .error fault => (.error fault, b)
  | .contains text => (b.holds (.text text), b)

/-- The blacklist after calls. -/
def after (b : Blacklist) (calls : List Call) : Blacklist :=
  calls.foldl (fun b call => (b.perform call).2) b

theorem add_of_normalize_eq_ok (b : Blacklist) (h : Address.normalize text = .ok mac) :
    b.add (.text text) = .ok (!b.macs.contains mac, b.insert mac) :=
  add_of_ofValue b h

theorem add_of_normalize_eq_error (b : Blacklist) {fault : Fault}
    (h : Address.normalize text = .error fault) : b.add (.text text) = .error fault := by
  have hvalue : Address.ofValue (.text text) = .error fault := h
  rw [add, hvalue]
  rfl

theorem perform_add_of_ok (b : Blacklist) (h : Address.normalize text = .ok mac) :
    b.perform (.add text) = (.ok (!b.macs.contains mac), b.insert mac) := by
  rw [perform, add_of_normalize_eq_ok b h]

theorem perform_add_of_error (b : Blacklist) {fault : Fault}
    (h : Address.normalize text = .error fault) : b.perform (.add text) = (.error fault, b) := by
  rw [perform, add_of_normalize_eq_error b h]

/-- A look-up compares the upper-case form, to put which in upper case again changes nothing. -/
theorem perform_contains (b : Blacklist) (text : String) :
    b.perform (.contains text) = (.ok (decide (Text.upper text ∈ b.macs)), b) := by
  have hholds : b.holds (.text text) = .ok (b.contains (Text.upper text)) := rfl
  rw [perform, hholds, contains, Text.upper_upper, List.contains_eq_mem]

theorem Lists.perform (h : b.Lists texts) (call : Call) :
    (b.perform call).2.Lists (texts ++ call.added?.toList) := by
  cases call with
  | add text =>
    cases hnormal : Address.normalize text with
    | ok mac =>
      rw [perform_add_of_ok b hnormal]
      exact h.insert hnormal
    | error fault =>
      rw [perform_add_of_error b hnormal]
      exact h.refuse hnormal
  | contains text =>
    rw [perform_contains]
    simpa [Call.added?] using h

theorem Lists.after (h : b.Lists texts) (calls : List Call) :
    (b.after calls).Lists (texts ++ added calls) := by
  induction calls generalizing b texts with
  | nil => simpa [added, Blacklist.after] using h
  | cons call rest ih =>
    have hadded : added (call :: rest) = call.added?.toList ++ added rest := by
      cases call <;> rfl
    rw [hadded, ← List.append_assoc]
    exact ih (h.perform call)

/-! ## Growth -/

theorem sublist_insertSorted (s : String) (l : List String) : l.Sublist (insertSorted s l) := by
  induction l with
  | nil => exact List.nil_sublist _
  | cons t rest ih =>
    unfold insertSorted
    split
    · exact List.sublist_cons_self s (t :: rest)
    · split
      · exact List.Sublist.refl _
      · exact ih.cons_cons t

theorem sublist_perform (b : Blacklist) (call : Call) :
    b.macs.Sublist (b.perform call).2.macs := by
  cases call with
  | add text =>
    cases hnormal : Address.normalize text with
    | ok mac =>
      rw [perform_add_of_ok b hnormal]
      exact sublist_insertSorted mac b.macs
    | error fault =>
      rw [perform_add_of_error b hnormal]
  | contains text =>
    rw [perform_contains]

theorem sublist_after (b : Blacklist) (calls : List Call) :
    b.macs.Sublist (b.after calls).macs := by
  induction calls generalizing b with
  | nil => exact List.Sublist.refl _
  | cons call rest ih => exact (sublist_perform b call).trans (ih (b.perform call).2)

/-! ## Letters in either case -/

/-- A text is another one with some of its letters in lower case. -/
def IsLowered (text mac : String) : Prop :=
  List.Forall₂ (fun c d => c = d ∨ c = d.toLower) text.toList mac.toList

/-- A canonical address with letters in lower case has this address as its upper-case form. -/
theorem upper_of_isLowered (h : IsLowered text mac) (hmac : Address.IsCanonical mac) :
    Text.upper text = mac := by
  have hdigits : "0123456789ABCDEF".toList.all
      (fun d => Text.upperChar d.toLower == [d]) = true := by decide
  have hlower {d : Char} (hd : Address.isUpperHex d = true ∨ d = ':') :
      Text.upperChar d.toLower = [d] := by
    rcases hd with hd | rfl
    · exact eq_of_beq (List.all_eq_true.mp hdigits d (Address.isUpperHex_iff.mp hd))
    · rfl
  have hchars := Address.isPairs_chars hmac
  have hupper : Text.upperChars text.toList = mac.toList := by
    unfold IsLowered at h
    generalize text.toList = cs at h
    generalize mac.toList = ds at h hchars
    induction h with
    | nil => rfl
    | @cons c d cs ds hcd _ ih =>
      have hd := hchars d List.mem_cons_self
      have hc : Text.upperChar c = [d] := by
        rcases hcd with rfl | rfl
        · exact Address.upperChar_of_isUpperHex hd
        · exact hlower hd
      rw [Text.upperChars, List.flatMap_cons, hc]
      exact congrArg (d :: ·) (ih fun e he => hchars e (List.mem_cons_of_mem d he))
  rw [Text.upper, hupper, String.ofList_toList]

/-! ## Answers -/

/-- What a blacklist lists when it has been given some texts, and how it answers the next call. -/
structure Answers (b : Blacklist) (texts : List String) : Prop where
  lists : b.Lists texts
  size : b.size = b.macs.length
  /-- A text is new if the address that it writes is not listed. -/
  new_iff : ∀ text, (b.perform (.add text)).1 = .ok true ↔
    ∃ mac, Address.normalize text = .ok mac ∧ mac ∉ b.macs
  /-- It is known if the address is listed, and then nothing changes. -/
  known_iff : ∀ text, b.perform (.add text) = (.ok false, b) ↔
    ∃ mac, Address.normalize text = .ok mac ∧ mac ∈ b.macs
  /-- It is refused if it writes no address, and then nothing changes. -/
  refused_iff : ∀ text, b.perform (.add text) = (.error (.invalidAddress text), b) ↔
    ∀ mac, Address.normalize text ≠ .ok mac
  /-- A text is contained if its upper-case form is listed. -/
  contains : ∀ text, b.perform (.contains text) = (.ok (decide (Text.upper text ∈ b.macs)), b)
  /-- So a listed address is contained however the case of its letters is. -/
  alike : ∀ mac ∈ b.macs, ∀ text, Text.upper text = Text.upper mac ∨ IsLowered text mac →
    b.perform (.contains text) = (.ok true, b)
  /-- Nothing is ever taken off. -/
  lasting : ∀ calls, b.macs.Sublist (b.after calls).macs

/-- Whatever a text writes decides how its addition is answered. -/
theorem Lists.answers (h : b.Lists texts) : b.Answers texts where
  lists := h
  size := rfl
  new_iff text := by
    cases hnormal : Address.normalize text with
    | ok mac => simp [perform_add_of_ok b hnormal]
    | error fault => simp [perform_add_of_error b hnormal]
  known_iff text := by
    cases hnormal : Address.normalize text with
    | ok mac =>
      rw [perform_add_of_ok b hnormal]
      by_cases hmac : mac ∈ b.macs
      · simp [insert_of_mem h.ascending hmac, hmac]
      · simp [hmac]
    | error fault => simp [perform_add_of_error b hnormal]
  refused_iff text := by
    cases hnormal : Address.normalize text with
    | ok mac => simp [perform_add_of_ok b hnormal]
    | error fault =>
      have hfault : fault = .invalidAddress text := Address.eq_of_normalize_eq_error hnormal
      simp [perform_add_of_error b hnormal, hfault]
  contains text := perform_contains b text
  alike mac hmac text htext := by
    have hcanonical := h.isCanonical hmac
    have hupper : Text.upper text = mac := by
      rcases htext with hsame | hlowered
      · rw [hsame, Address.upper_of_isCanonical hcanonical]
      · exact upper_of_isLowered hlowered hcanonical
    rw [perform_contains, hupper, decide_eq_true hmac]
  lasting calls := sublist_after b calls

/-! ## First addresses -/

/-- First addresses are put in one after the other, as by calls. -/
theorem foldlM_add (b : Blacklist) (initial : List String)
    (h : ∀ text ∈ initial, ∃ mac, Address.normalize text = .ok mac) :
    (initial.map Value.text).foldlM (fun b item => return (← b.add item).2) b =
      (.ok (b.after (initial.map .add)) : Except Fault Blacklist) := by
  induction initial generalizing b with
  | nil => rfl
  | cons text rest ih =>
    obtain ⟨mac, hmac⟩ := h text List.mem_cons_self
    have hrest := ih (b.insert mac) fun t ht => h t (List.mem_cons_of_mem text ht)
    have hafter : b.after ((text :: rest).map .add) =
        (b.insert mac).after (rest.map .add) := by
      rw [List.map_cons, Blacklist.after, List.foldl_cons, perform_add_of_ok b hmac]
      rfl
    rw [List.map_cons, List.foldlM_cons, add_of_normalize_eq_ok b hmac, hafter, ← hrest]
    rfl

theorem ofValue_of_accepted {initial : List String}
    (h : ∀ text ∈ initial, ∃ mac, Address.normalize text = .ok mac) :
    ofValue (.list (initial.map .text)) = .ok (({} : Blacklist).after (initial.map .add)) :=
  foldlM_add {} initial h

/-- The first text that writes no address ends the construction. -/
theorem ofValue_of_refused {before later : List String} {fault : Fault}
    (hbefore : ∀ text ∈ before, ∃ mac, Address.normalize text = .ok mac)
    (htext : Address.normalize text = .error fault) :
    ofValue (.list ((before ++ text :: later).map .text)) = .error fault := by
  have hlater (b : Blacklist) : ((text :: later).map Value.text).foldlM
      (fun b item => return (← b.add item).2) b = (.error fault : Except Fault Blacklist) := by
    rw [List.map_cons, List.foldlM_cons, add_of_normalize_eq_error b htext]
    rfl
  show ((before ++ text :: later).map Value.text).foldlM
    (fun b item => return (← b.add item).2) ({} : Blacklist) = _
  rw [List.map_append, List.foldlM_append, foldlM_add {} before hbefore]
  exact hlater _

theorem added_map_add (texts : List String) : added (texts.map .add) = texts := by
  rw [added, List.filterMap_map]
  exact List.filterMap_some

/-- Of some texts either all write addresses, or there is a first one that does not. -/
theorem accepted_or_refused (initial : List String) :
    (∀ text ∈ initial, ∃ mac, Address.normalize text = .ok mac) ∨
      ∃ before text later, initial = before ++ text :: later ∧
        (∀ t ∈ before, ∃ mac, Address.normalize t = .ok mac) ∧
        Address.normalize text = .error (.invalidAddress text) := by
  induction initial with
  | nil => exact .inl nofun
  | cons text rest ih =>
    cases hnormal : Address.normalize text with
    | error fault =>
      have hfault := Address.eq_of_normalize_eq_error hnormal
      exact .inr ⟨[], text, rest, rfl, nofun, hfault ▸ hnormal⟩
    | ok mac =>
      rcases ih with haccepted | ⟨before, refused, later, rfl, hbefore, hrefused⟩
      · exact .inl (List.forall_mem_cons.mpr ⟨⟨mac, hnormal⟩, haccepted⟩)
      · exact .inr ⟨text :: before, refused, later, rfl,
          List.forall_mem_cons.mpr ⟨⟨mac, hnormal⟩, hbefore⟩, hrefused⟩

/-- **What a blacklist lists and answers.** A blacklist is made of any first texts if they all write
addresses; otherwise the first that does not is reported. After any calls it has the canonical forms
of the first texts and of those that were added since, each once and in ascending order; this list
decides every answer, a refused addition changes nothing, and nothing is ever taken off. -/
theorem answers_after (initial : List String) :
    (∀ text, (Fault.invalidAddress text).title = "ValueError") ∧
    ((∃ b, ofValue (.list (initial.map .text)) = .ok b ∧
      (∀ text ∈ initial, ∃ mac, Address.normalize text = .ok mac) ∧
      ∀ calls, (b.after calls).Answers (initial ++ added calls)) ∨
    ∃ before text later, initial = before ++ text :: later ∧
      (∀ t ∈ before, ∃ mac, Address.normalize t = .ok mac) ∧
      (∀ mac, Address.normalize text ≠ .ok mac) ∧
      ofValue (.list (initial.map .text)) = .error (.invalidAddress text)) := by
  refine ⟨fun _ => rfl, ?_⟩
  rcases accepted_or_refused initial with haccepted | ⟨before, text, later, rfl, hbefore, htext⟩
  · refine .inl ⟨_, ofValue_of_accepted haccepted, haccepted, fun calls => ?_⟩
    have hinitial : (({} : Blacklist).after (initial.map .add)).Lists initial := by
      have hlists := lists_nil.after (initial.map .add)
      rwa [added_map_add, List.nil_append] at hlists
    exact (hinitial.after calls).answers
  · refine .inr ⟨before, text, later, rfl, hbefore, ?_, ofValue_of_refused hbefore htext⟩
    rw [htext]
    nofun

/-- A ligature is two letters in upper case, blanks and hyphens count on addition only. -/
example :
    let b := ({} : Blacklist).after [.add " aa-bb-cc-dd-ee-\ufb00", .add "00:00:00:00:00:01\n"]
    b.macs = ["00:00:00:00:00:01", "AA:BB:CC:DD:EE:FF"] ∧
      b.contains "Aa:bB:cc:dd:EE:\ufb00" = true ∧ b.contains " aa-bb-cc-dd-ee-ff" = false := by
  decide +kernel

end TagGateway.Blacklist

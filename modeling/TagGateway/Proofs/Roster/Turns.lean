import Mathlib.Algebra.GroupWithZero.Nat
import TagGateway.Proofs.Roster.Custody

/-!
# Operations and admissions in turn

Announcements and bans on a roster, with the steps of the admissions under way between them, in any
order. The bus does not fail, and each device keeps the address that it has.

* `Custody.Turn` — an operation or a step of an admission; `Custody.follow` — a schedule of them.
* `Custody.Proceeded`, `Custody.Operated` — what one turn does, with its guards; `Custody.proceeded`
  and `Custody.operated` show that there is nothing else.
* `Custody.left` — the steps that are left, at most; `Custody.Sound.completes` — that all admissions
  come to an end.
-/

namespace TagGateway

open Bus

namespace Roster

/-- The device that an admission is about, until it is tracked. -/
def Attempt.device? : Attempt → Option String
  | asking a | granted a _ => some a.path
  | announcing _ => none

/-- The steps that are left of an admission, at most. -/
def Attempt.left : Attempt → Nat
  | asking (.addressing _) => 4
  | asking (.subscribing ..) => 3
  | granted .. => 2
  | announcing _ => 1

theorem Attempt.after_of_isOver {next : Admission.Next} (h : next.IsOver) : after next = [] := by
  cases h <;> rfl

end Roster

namespace Custody

open Roster (Attempt)

/-! ## Schedules -/

/-- An operation on a roster. -/
inductive Operation
  | announce (path interfaces : Value)
  | ban (mac : Value)

/-- A turn: an operation, or a step of the admission at a place. -/
inductive Turn
  | operation (o : Operation)
  | proceed (place : Nat)

/-- The operation of a turn. -/
def Turn.operation? : Turn → Option Operation
  | operation o => some o
  | proceed _ => none

/-- The operations of a schedule, in order. -/
def operations (schedule : List Turn) : List Operation := schedule.filterMap Turn.operation?

/-- The reply to the admission at a place: the address that its device has, or that what it asked
for is done. -/
def answer (address : String → Value) (c : Custody) (place : Nat) : Reply :=
  match c.attempts[place]? with
  | some (.asking (.addressing path)) => .ok { body := [address path] }
  | _ => .done

/-- What happens in a turn. -/
def happening (address : String → Value) (c : Custody) : Turn → Happening
  | .operation (.announce path interfaces) => .announce path interfaces
  | .operation (.ban mac) => .ban mac
  | .proceed place => .proceed place (answer address c place)

/-- Take a turn. -/
def take (address : String → Value) (c : Custody) (turn : Turn) : Custody :=
  c.perform (happening address c turn)

/-- Follow a schedule. -/
def follow (address : String → Value) (c : Custody) (schedule : List Turn) : Custody :=
  schedule.foldl (take address) c

/-- The address under which a device is tracked. -/
def macOf (address : String → Value) (path : String) : String := Text.upper (address path).display

variable {address : String → Value} {c c' : Custody} {adapter : String} {place : Nat}
  {a : Attempt}

theorem contains_macOf {b : Blacklist} {path : String} :
    b.contains (macOf address path) = true ↔ macOf address path ∈ b.macs := by
  rw [Blacklist.contains_eq_true, macOf, Text.upper_upper]

/-! ## Giving back -/

theorem foldl_giveBack (c : Custody) (tickets : List Ticket) :
    (tickets.foldl giveBack c).roster = c.roster ∧
      (tickets.foldl giveBack c).attempts = c.attempts ∧
      (tickets.foldl giveBack c).obtained = c.obtained := by
  induction tickets generalizing c with
  | nil => exact ⟨rfl, rfl, rfl⟩
  | cons t rest ih => exact ih (c.giveBack t)

/-! ## Single turns -/

/-- What the admission at a place does in its turn. -/
inductive Proceeded (address : String → Value) (c : Custody) (place : Nat) :
    Attempt → Custody → Prop
  | announced (path : String) :
      Proceeded address c place (.announcing path)
        { c with attempts := c.attempts.eraseIdx place }
  | ignored (path : String) : macOf address path ∈ c.roster.blacklist.macs →
      Proceeded address c place (.asking (.addressing path))
        { c with attempts := c.attempts.eraseIdx place }
  | resolved (path : String) : macOf address path ∉ c.roster.blacklist.macs →
      Proceeded address c place (.asking (.addressing path)) { c with
        attempts := c.attempts.eraseIdx place ++
          [.asking (.subscribing path (macOf address path))] }
  | granted (path mac : String) :
      Proceeded address c place (.asking (.subscribing path mac))
        (c.grant place (.subscribing path mac) (deviceRoute path))
  | rejected (path mac : String) (t : Ticket) :
      c.roster.contains path = true ∨ c.roster.blacklist.contains mac = true →
      Proceeded address c place (.granted (.subscribing path mac) t)
        ({ c with attempts := c.attempts.eraseIdx place }.giveBack t)
  | tracked (path mac : String) (t : Ticket) : c.roster.contains path = false →
      c.roster.blacklist.contains mac = false →
      Proceeded address c place (.granted (.subscribing path mac) t) { c with
        roster := { c.roster with entries := c.roster.entries ++ [⟨path, mac, t⟩] }
        attempts := c.attempts.eraseIdx place ++ [.announcing path] }

theorem carryOut_of_tickets {effects : List Effect} {tickets : List Ticket}
    (h : Effect.tickets effects = tickets) : c.carryOut effects = tickets.foldl giveBack c := by
  rw [carryOut, h]

/-- **The admission at a place goes on in one of these ways.** -/
theorem proceeded (hsound : Sound adapter [] c)
    (ha : c.attempts[place]? = some a) :
    Proceeded address c place a (c.take address (.proceed place)) := by
  cases a with
  | announcing path =>
    simp only [take, happening, Custody.perform, Custody.proceed, ha]
    exact .announced path
  | granted a t =>
    obtain ⟨-, path, mac, rfl, -⟩ := hsound.attempts _ (List.mem_of_getElem? ha)
    simp only [take, happening, Custody.perform, Custody.proceed, ha, advance, Roster.resume]
    by_cases htaken : c.roster.contains path = true ∨ c.roster.blacklist.contains mac = true
    · rw [Roster.subscribed_of_taken htaken]
      simp only [Attempt.after, List.append_nil]
      exact .rejected path mac t htaken
    · rw [not_or, Bool.not_eq_true, Bool.not_eq_true] at htaken
      obtain ⟨effects, heq, htickets⟩ :=
        Roster.subscribed_of_free htaken.1 htaken.2 { ticket := t }
      simp only [heq, carryOut_of_tickets htickets]
      exact .tracked path mac t htaken.1 htaken.2
  | asking a =>
    cases a with
    | addressing path =>
      have htake : c.take address (.proceed place) =
          c.advance place (.addressing path) (.ok { body := [address path] }) := by
        simp only [take, happening, answer, Custody.perform, Custody.proceed, ha]
        rfl
      rw [htake]
      simp only [advance, Roster.resume]
      have haddress : ({ body := [address path] } : Answer).address =
        .ok (macOf address path) := rfl
      rcases c.roster.addressed_ok path haddress with
        ⟨hmac, effects, heq, htickets⟩ | ⟨hmac, heq⟩
      · simp only [heq, carryOut_of_tickets htickets, Attempt.after, List.append_nil]
        exact .ignored path (contains_macOf.mp hmac)
      · rw [heq]
        have hfree : c.roster.blacklist.contains (macOf address path) = false := hmac
        refine .resolved path fun hlisted => ?_
        rw [contains_macOf.mpr hlisted] at hfree
        cases hfree
    | subscribing path mac =>
      have htake : c.take address (.proceed place) =
          c.grant place (.subscribing path mac) (deviceRoute path) := by
        simp only [take, happening, answer, Custody.perform, Custody.proceed, ha]
        rfl
      rw [htake]
      exact .granted path mac

/-- What an operation does in its turn. -/
inductive Operated (c : Custody) : Operation → Custody → Prop
  | passed (path interfaces : Value) :
      (∀ p, path = .text p → interfaces.holds deviceInterface = .ok true →
        c.roster.covers p = true → c.roster.contains p = true) →
      Operated c (.announce path interfaces) c
  | begun (p : String) (interfaces : Value) : interfaces.holds deviceInterface = .ok true →
      Operated c (.announce (.text p) interfaces)
        { c with attempts := c.attempts ++ [.asking (.addressing p)] }
  | invalid (v : Value) : (∀ mac, Address.ofValue v ≠ .ok mac) → Operated c (.ban v) c
  | banned (v : Value) (mac : String) : Address.ofValue v = .ok mac →
      Operated c (.ban v)
        (((c.roster.entries.filter (·.mac = mac)).map (·.ticket)).foldl giveBack { c with
          roster := { c.roster with
            entries := c.roster.entries.filter (·.mac ≠ mac)
            blacklist := c.roster.blacklist.insert mac } })

theorem operated_announce (address : String → Value) (c : Custody) (path interfaces : Value) :
    Operated c (.announce path interfaces)
      (c.take address (.operation (.announce path interfaces))) := by
  obtain ⟨htickets, hnext⟩ := c.roster.announce_cases path interfaces
  simp only [take, happening, Custody.perform, carryOut_of_tickets htickets, List.foldl_nil]
  rcases hnext with hover | ⟨p, hwait, -⟩
  · rw [Attempt.after_of_isOver hover, List.append_nil]
    refine .passed path interfaces ?_
    intro p hp hholds hcovers
    cases hcontains : c.roster.contains p with
    | true => rfl
    | false =>
      rw [Roster.announce_addressing.mpr ⟨hp, hcontains, hholds, hcovers⟩] at hover
      cases hover
  · obtain ⟨rfl, -, hholds, -⟩ := Roster.announce_addressing.mp hwait
    rw [hwait]
    exact .begun p interfaces hholds

theorem operated_ban (address : String → Value) (c : Custody) (v : Value) :
    Operated c (.ban v) (c.take address (.operation (.ban v))) := by
  simp only [take, happening, Custody.perform]
  cases hv : Address.ofValue v with
  | ok mac =>
    obtain ⟨effects, paths, heq, htickets⟩ := Roster.ban_of_ofValue (r := c.roster) hv
    simp only [heq, carryOut_of_tickets htickets]
    exact .banned v mac hv
  | error f =>
    have hfails : c.roster.ban v = .error f := by
      unfold Roster.ban
      rw [hv]
      rfl
    simp only [hfails]
    refine .invalid v fun mac hmac => ?_
    rw [hv] at hmac
    cases hmac

/-- **An operation does one of these.** -/
theorem operated (address : String → Value) (c : Custody) (o : Operation) :
    Operated c o (c.take address (.operation o)) := by
  cases o with
  | announce path interfaces => exact operated_announce address c path interfaces
  | ban v => exact operated_ban address c v

/-! ## Admissions end -/

/-- An admission and those that are left without it. -/
theorem perm_eraseIdx (ha : c.attempts[place]? = some a) :
    (a :: c.attempts.eraseIdx place).Perm c.attempts := by
  obtain ⟨hlt, hget⟩ := List.getElem?_eq_some_iff.mp ha
  have hperm := List.getElem_cons_eraseIdx_perm hlt
  rw [hget] at hperm
  exact hperm

/-- The steps that are left of all admissions, at most. -/
def left (c : Custody) : Nat := (c.attempts.map Attempt.left).sum

theorem left_eraseIdx (ha : c.attempts[place]? = some a) :
    c.left = a.left + ((c.attempts.eraseIdx place).map Attempt.left).sum := by
  rw [left, ← ((perm_eraseIdx ha).map Attempt.left).sum_nat, List.map_cons, List.sum_cons]

theorem left_proceeded (ha : c.attempts[place]? = some a)
    (hstep : Proceeded address c place a c') : c'.left < c.left := by
  rw [left_eraseIdx ha]
  cases hstep with
  | announced path | ignored path | rejected path mac t =>
    simp only [left, Custody.giveBack, Attempt.left]
    omega
  | resolved path | granted path mac | tracked path mac t =>
    simp only [left, Custody.grant, Attempt.left, List.map_append, List.sum_append, List.map_cons,
      List.map_nil, List.sum_cons, List.sum_nil]
    omega

/-- Whatever is under way, all admissions come to their ends when it is their turn. -/
theorem Sound.completes (h : Sound adapter [] c) (address : String → Value) :
    ∃ n, (c.follow address (List.replicate n (.proceed 0))).attempts = [] := by
  induction hleft : c.left using Nat.strongRecOn generalizing c with
  | _ k ih =>
    cases hattempts : c.attempts with
    | nil => exact ⟨0, hattempts⟩
    | cons a rest =>
      have ha : c.attempts[0]? = some a := by rw [hattempts, List.getElem?_cons_zero]
      have hstep : Proceeded address c 0 a (c.take address (.proceed 0)) := proceeded h ha
      have hless := left_proceeded ha hstep
      rw [hleft] at hless
      obtain ⟨n, hn⟩ := ih _ hless (h.perform _) rfl
      exact ⟨n + 1, hn⟩

end Custody

end TagGateway

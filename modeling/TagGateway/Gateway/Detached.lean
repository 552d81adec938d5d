import TagGateway.Gateway.Run

/-!
# A run without a message bus

The run of a gateway on a host where nothing answers: the listener ends at once because it cannot
reach the bus, and all that is left of the run is what it tells the operator.

* `Detached.run` gives the notices of such a run and its exit code.
-/

namespace TagGateway.Gateway

/-- A gateway without a bus, and what it has told the operator. -/
structure Detached where
  gateway : Gateway
  blacklist : Blacklist := {}
  handlers : SignalHandlers := fun _ => .host
  said : List Notice := []

namespace Detached

/-- The fault that ends the listener. -/
def noBus : Fault := .unreachable "Cannot connect to the system bus: no connection available"

/-- Have the listener ignore an address. -/
def ban (mac : String) (x : Detached) : Detached × Except Fault Unit :=
  match x.blacklist.add (.text mac) with
  | .ok (_, blacklist) => ({ x with blacklist }, .ok ())
  | .error f => (x, .error f)

/-- What a run without a bus works with. -/
def surroundings : Surroundings Detached where
  gateway := gateway
  update f x := { x with gateway := f x.gateway }
  banned x := x.blacklist.size
  ban := ban
  serve _ _ x := (x, .ok ())
  closeEndpoint x := x
  handle n h x := ({ x with handlers := x.handlers.set n h }, x.handlers n)
  start x := x
  wait x := x
  stop x := x
  join x := (x, some (.error noBus))
  say n x := { x with said := x.said ++ [n] }

/-- Run a gateway with some settings: the notices, and the exit code. -/
def run (s : Settings) (host : Host) : Except Fault (List Notice × Int) := do
  let (gateway, _) ← Gateway.ofSettings s
  let (x, code) := surroundings.run ⟨false, false, true⟩ host { gateway }
  return (x.said, ← code)

end Detached

end TagGateway.Gateway

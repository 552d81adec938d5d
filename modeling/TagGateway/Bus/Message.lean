import TagGateway.Bus.Variant

/-!
# Messages on the system bus

A call is sent as a message and answered by a reply, or by nothing; a signal reaches everyone who
asked the bus for it by a match rule.

* `Route` is what a subscription asks for; `Route.rule` is its match rule.
* `Call.message` is the message of a call, if it can be made; `Call.result` reads the reply.
-/

namespace TagGateway.Bus

/-- The name of the bus itself, among the services on it. -/
def busService : String := "org.freedesktop.DBus"

/-- The path of the bus itself. -/
def busPath : String := "/org/freedesktop/DBus"

/-- What a subscription asks for: one signal of one object. -/
structure Route where
  path : String
  interface : String
  member : String
deriving DecidableEq, Repr

/-- The match rule that asks the bus for the signals of a sender on a route. -/
def Route.rule (r : Route) (sender : String) : String :=
  "type='signal',sender='" ++ sender ++ "',path='" ++ r.path ++ "',interface='" ++ r.interface ++
    "',member='" ++ r.member ++ "'"

/-- A message to a service. -/
structure Message where
  destination : String
  path : String
  interface : String
  member : String
  signature : String
  body : List Value

/-- What comes back after a message. The body of a reply is a list of values as a rule. -/
inductive BusReply
  | returned (body : Value)
  /-- An error reply; it may have no name. -/
  | failed (name : Option String) (body : Value)
  /-- No reply. -/
  | silence
  /-- The message cannot be sent. -/
  | broken (message : String)

/-- A method call. -/
structure Call where
  path : String
  interface : String
  member : String
  signature : String := ""
  body : Value := .list []

namespace Call

/-- A call to the bus itself. -/
def toBus (member : String) (rule : String) : Call :=
  { path := busPath, interface := busService, member, signature := "s", body := .list [.text rule] }

/-- The fault of a call, with the name of its error reply. -/
def fault (c : Call) (what : String) (name : Option String := none) : Fault :=
  .callFailed (c.interface ++ "." ++ c.member ++ " on " ++ c.path ++ what) name

/-- Refuse a text that does not have the form of a name. -/
def checkName (part : NamePart) (text : String) : Except Fault Unit :=
  if part.accepts text then .ok () else .error (.invalidName part text)

/-- The message of a call to a service, or to the bus if it has its path. All its parts have to be
what they stand for. -/
def message (c : Call) (service : String) : Except Fault Message := do
  let body ← wrapBody c.signature c.body
  (Signature.check c.signature).mapError Fault.invalidSignature
  let destination := if c.path = busPath then busService else service
  checkName .service destination
  checkName .interface c.interface
  checkName .path c.path
  checkName .member c.member
  return {
    destination, path := c.path, interface := c.interface, member := c.member
    signature := c.signature, body }

/-- What an error reply tells: the first value of its body, if the body is not empty. -/
def detail (body : Value) : Except Fault String :=
  if body.isTrue then (body.item (.int 0)).map Value.display else .ok ""

/-- The result of a call that got a reply. -/
def result (c : Call) : BusReply → Except Fault Value
  | .returned body => .ok body.unwrap
  | .failed name body => do
    let detail ← detail body
    throw (c.fault (" failed: " ++ name.getD Value.null.display ++ " - " ++ detail) name)
  | .silence => .error (c.fault ": no reply")
  | .broken message => .error (c.fault (" failed: " ++ message))

end Call

end TagGateway.Bus

import StartupGate.Text.Blank
import StartupGate.Worker
/-!
# Exchanges over HTTP

A `Network` says what becomes of the n-th request that a worker sends to an address: how long it
takes, whether the worker is told to stop meanwhile, and the reply or the fault. `Network.ofScripts`
plays a script for each address and has no route to any other.

`pingUrl` is the address of the ping route of a service, and a reply counts as success from 200 to
299.
-/

namespace StartupGate.Http

/-- A reply to a request. -/
structure Reply where
  status : Int
  body : String := ""
deriving Repr, DecidableEq

/-- What becomes of one request. -/
structure Exchange where
  elapsed : Seconds := .whole 0
  cancels : Bool := false
  answer : Except Fault Reply

/-- What becomes of the n-th request of a worker to an address. -/
abbrev Network := String → Nat → Exchange

/-- The fault of a request to an address that cannot be reached. -/
def noRoute (url : String) : Fault := .request "ConnectionError" (some ("no route to " ++ url))

/-- The network that plays a script for each address. -/
def Network.ofScripts (scripts : List (String × List Exchange)) : Network := fun url n =>
  match (scripts.lookup url).bind fun s => Script.item? s n with
  | some e => e
  | none => { answer := .error (noRoute url) }

/-- The network without any route. -/
def Network.offline : Network := Network.ofScripts []

/-- Sends a request. -/
def get (net : Network) (url : String) (timeout : Option Float)
    (headers : Option (List (String × String)) := none) : Step Reply := fun w =>
  let e := net url (w.requests.count url)
  let w := { w.record (.get url timeout headers) with requests := w.requests.bump url }
  Worker.undergo e.elapsed e.cancels e.answer w

/-- The ping route of a service. -/
def pingRoute : String := "/api/v2/ping"

/-- The address of the ping route below a base address. -/
def pingUrl (base : String) : String := Text.dropSlashes base ++ pingRoute

/-- Asks a service for a sign of life and gives the status of the reply. -/
def ping (net : Network) (base : String) (timeout : Option Float) : Step Int := fun w =>
  match get net (pingUrl base) timeout none w with
  | (.ok reply, w) => (.ok reply.status, w)
  | (.error f, w) => (.error f, w)

/-- Whether a status tells of success. -/
def isSuccess (status : Int) : Bool := 200 ≤ status && status < 300

end StartupGate.Http

import HostNet.Host.Pass
import HostNet.Wire.RouteCodec
/-!
Routes and rules through a routing socket. Every call sends one request under a number of its own
and waits for what the kernel says about that number; there is no pipelining. The other end of the
socket is a parameter: it takes a message and queues datagrams in return.
-/
namespace HostNet

open HostNet.Wire

/-- What one receive gives. -/
abbrev Datagram : Type :=
  Except Errno (List UInt8)

/-- The other end of a socket with state `κ`: it refuses a message, or takes it and adds datagrams
to what is to be received. -/
abbrev Peer (κ : Type) : Type :=
  List UInt8 → κ → Except Errno (List Datagram) × κ

/-- An open socket and what surrounds it. -/
structure Connection (κ : Type) where
  /-- Port the kernel knows the socket by. -/
  port : UInt32
  /-- Number of the next request. -/
  seq : UInt32
  /-- What is to be received, in order. -/
  inbox : List Datagram
  /-- The messages that were sent, in order. -/
  sent : List (List UInt8)
  /-- Interfaces by name. -/
  interfaces : List (String × UInt32)
  peer : κ

namespace Connection

/-- Bytes that one receive takes; the rest of a longer datagram is lost. -/
def receiveLimit : Nat := 32768

/-- Steps of opening a socket. -/
inductive OpenStep where
  | create
  | bind
  | readPort
  /-- Ask for detailed error reports, which not every kernel has. -/
  | detailedErrors
deriving DecidableEq, Repr

/-- What a failing step of opening means. Only the request for detailed error reports may fail. -/
def openFault : OpenStep → Errno → Outcome
  | .detailedErrors, _ => .ok ()
  | _, errno => .error (.io (.os errno))

def fresh {κ : Type} (port : UInt32) (inbox : List Datagram)
    (interfaces : List (String × UInt32)) (peer : κ) : Connection κ :=
  ⟨port, 1, inbox, [], interfaces, peer⟩

def messages (datagram : List UInt8) : List (Except Fault Message) :=
  Message.readAll (datagram.take receiveLimit)

def reported (payload : List UInt8) : Outcome :=
  match Message.outcomeCode payload with
  | .error fault => .error fault
  | .ok code => if code = 0 then .ok () else .error (Fault.ofCode code)

/-- The outcome of a request in the messages of a datagram, if they hold one: the first report
under its number, or the first failure to read on. -/
def findOutcome (seq : UInt32) : List (Except Fault Message) → Option Outcome
  | [] => none
  | .error fault :: _ => some (.error fault)
  | .ok message :: rest =>
    if message.header.seq = seq ∧ message.header.isError then some (reported message.payload)
    else findOutcome seq rest

/-- The outcome of a request in what is to be received, and what is left of it. -/
def awaitOutcome (seq : UInt32) : List Datagram → Outcome × List Datagram
  | [] => (.error (.io (.os Errno.wouldBlock)), [])
  | .error errno :: rest => (.error (.io (.os errno)), rest)
  | .ok datagram :: rest =>
    match findOutcome seq (messages datagram) with
    | some outcome => (outcome, rest)
    | none => awaitOutcome seq rest

/-- A dump while it is read. -/
inductive Dump where
  /-- More messages are to come. -/
  | partway (payloads : List (List UInt8))
  /-- The end was seen. -/
  | complete (payloads : List (List UInt8))
  | failed (fault : Fault)
deriving DecidableEq, Repr

/-- The dump after the messages of one more datagram. -/
def collect (seq : UInt32) : (payloads : List (List UInt8)) → List (Except Fault Message) → Dump
  | payloads, [] => .partway payloads
  | _, .error fault :: _ => .failed fault
  | payloads, .ok message :: rest =>
    if message.header.seq ≠ seq then collect seq payloads rest
    else if message.header.isError then
      match reported message.payload with
      | .ok () => .complete payloads
      | .error fault => .failed fault
    else if message.header.isDone then .complete payloads
    else collect seq (payloads ++ [message.payload]) rest

/-- The payloads of a dump in what is to be received, and what is left of it. -/
def awaitDump (seq : UInt32) :
    (payloads : List (List UInt8)) → List Datagram →
      Except Fault (List (List UInt8)) × List Datagram
  | _, [] => (.error (.io (.os Errno.wouldBlock)), [])
  | _, .error errno :: rest => (.error (.io (.os errno)), rest)
  | payloads, .ok datagram :: rest =>
    match collect seq payloads (messages datagram) with
    | .partway payloads => awaitDump seq payloads rest
    | .complete payloads => (.ok payloads, rest)
    | .failed fault => (.error fault, rest)

variable {κ : Type}

/-- Send a request under the next number. The number is used up even if sending fails. -/
def send (peer : Peer κ) (request : Request) (connection : Connection κ) :
    Outcome × Connection κ :=
  let message := request.encode connection.seq connection.port
  let next := connection.seq + 1
  match peer message connection.peer with
  | (.error errno, state) =>
    (.error (.io (.os errno)), { connection with seq := next, peer := state })
  | (.ok answers, state) =>
    (.ok (), { connection with
      seq := next
      inbox := connection.inbox ++ answers
      sent := connection.sent ++ [message]
      peer := state })

/-- Send a request and wait for its outcome. -/
def request (peer : Peer κ) (request : Request) (connection : Connection κ) :
    Outcome × Connection κ :=
  match send peer request connection with
  | (.error fault, after) => (.error fault, after)
  | (.ok (), after) =>
    let (outcome, inbox) := awaitOutcome connection.seq after.inbox
    (outcome, { after with inbox := inbox })

/-- Send a dump request and collect the payloads of the answer. -/
def dump (peer : Peer κ) (request : Request) (connection : Connection κ) :
    Except Fault (List (List UInt8)) × Connection κ :=
  match send peer request connection with
  | (.error fault, after) => (.error fault, after)
  | (.ok (), after) =>
    let (payloads, inbox) := awaitDump connection.seq [] after.inbox
    (payloads, { after with inbox := inbox })

/-- The index of an interface, which a name with a NUL or an index of 0 does not give. -/
def interfaceIndex (connection : Connection κ) (name : String) : Except Fault UInt32 :=
  if name.toList.contains '\x00' then
    .error (.invalidMessage ("invalid interface name: " ++ Text.quoted name))
  else
    match connection.interfaces.lookup name with
    | none => .error (.interfaceNotFound name)
    | some index => if index = 0 then .error (.interfaceNotFound name) else .ok index

def routeIndex (connection : Connection κ) (route : Route) : Except Fault (Option UInt32) :=
  match route.dev with
  | none => .ok none
  | some name => (connection.interfaceIndex name).map some

/-- The outcome with the purpose of the request added to what the kernel reports. -/
def inContext (operation : String) : Outcome → Outcome :=
  Except.mapError (Fault.withContext operation)

/-- Add a route. A device that cannot be found is refused before anything is sent. -/
def addRoute (peer : Peer κ) (route : Route) (connection : Connection κ) :
    Outcome × Connection κ :=
  match connection.routeIndex route with
  | .error fault => (.error fault, connection)
  | .ok index =>
    let (outcome, after) := connection.request peer (routeAddRequest route index)
    (inContext ("add route " ++ route.text) outcome, after)

/-- Delete a route. A device that cannot be found is refused before anything is sent. -/
def delRoute (peer : Peer κ) (route : Route) (connection : Connection κ) :
    Outcome × Connection κ :=
  match connection.routeIndex route with
  | .error fault => (.error fault, connection)
  | .ok index =>
    let (outcome, after) := connection.request peer (routeDeleteRequest route index)
    (inContext ("delete route " ++ route.text) outcome, after)

def rulePurpose : RuleVerb → Rule → String
  | .add, rule => "add rule " ++ rule.text
  | .delete, rule => "delete rule " ++ rule.text

/-- Add or delete a rule. A name the kernel does not take is refused before anything is sent. -/
def changeRule (peer : Peer κ) (verb : RuleVerb) (rule : Rule) (connection : Connection κ) :
    Outcome × Connection κ :=
  match ruleRequest verb rule with
  | .error fault => (.error fault, connection)
  | .ok request =>
    let (outcome, after) := connection.request peer request
    (inContext (rulePurpose verb rule) outcome, after)

/-- The modelled rules of a family in the payloads of a dump, in order, or the first failure to
read one. -/
def readRules (family : Family) : List (List UInt8) → Except Fault (List Rule)
  | [] => .ok []
  | payload :: payloads =>
    match readRule payload with
    | .error fault => .error fault
    | .ok rule? =>
      match readRules family payloads with
      | .error fault => .error fault
      | .ok rules => .ok ((rule?.filter (·.family == family)).toList ++ rules)

/-- The rules of a family, in the order of the kernel. -/
def listRules (peer : Peer κ) (family : Family) (connection : Connection κ) :
    Except Fault (List Rule) × Connection κ :=
  let (payloads, after) := connection.dump peer (ruleDumpRequest family)
  (payloads.bind (readRules family), after)

/-- The other end that follows a script of refusals; its datagrams are queued beforehand. -/
def scripted : Peer (List (Option Errno))
  | _, [] => (.ok [], [])
  | _, none :: rest => (.ok [], rest)
  | _, some errno :: rest => (.error errno, rest)

end Connection

end HostNet

import HostNet.Document.Json
import HostNet.Document.NodeForm
/-!
Node objects as an API server gives them out. A name is sent as it is, so that a question mark in it
begins a query, and a number sign ends what is sent.
-/
namespace HostNet

/-- What an API server answers. -/
structure ApiResponse where
  status : Nat
  body : String
deriving DecidableEq, Repr

/-- An API server with state `σ`. It is asked for paths. -/
abbrev ApiServer (σ : Type) : Type :=
  (path : String) → σ → ApiResponse × σ

namespace ApiServer

/-- The path of all node objects. -/
def nodesPath : String := "/api/v1/nodes/"

/-- The part of a name that belongs to the path. -/
def pathPart (name : String) : List Char :=
  name.toList.takeWhile fun c => c != '?' && c != '#'

/-- The part of a name that belongs to the query, which a question mark begins. -/
def queryPart (name : String) : List Char :=
  ((name.toList.takeWhile (· != '#')).dropWhile (· != '?')).drop 1

/-- The path of a node object. -/
def nodePath (name : String) : String :=
  nodesPath ++ String.ofList (pathPart name)

/-- Whether a character is neither blank nor a control character. -/
def isSent (c : Char) : Bool :=
  '\x20' < c && c != '\x7f'

/-- Whether a character may stand in a path as it is. -/
def isPathChar (c : Char) : Bool :=
  isSent c && !(['<', '>', '\x60'].contains c)

/-- Whether a character may stand in a query as it is. -/
def isQueryChar (c : Char) : Bool :=
  isSent c && !(['"', '<', '>'].contains c)

/-- The largest number of bytes in the address of a request. -/
def addressLimit : Nat := 65534

/-- Whether a name can be asked for: it is not empty, every character may stand where it does, and
the address, which has one more question mark at its end, is not too long. -/
def isSendable (name : String) : Bool :=
  !name.isEmpty && (pathPart name).all isPathChar && (queryPart name).all isQueryChar &&
    nodesPath.utf8ByteSize + name.utf8ByteSize + 1 ≤ addressLimit

/-- Whether a number is the status of a response. -/
def isStatus (status : Nat) : Bool :=
  100 ≤ status && status ≤ 999

/-- The node object in a response. Statuses from 400 to 599 are refusals. -/
def nodeOf (response : ApiResponse) : Except Fault Node :=
  if !isStatus response.status || (400 ≤ response.status && response.status < 600) then
    .error .nodeUnavailable
  else
    match (Json.read? response.body).bind (Node.ofDocument? Json.levels) with
    | some node => .ok node
    | none => .error .nodeUnavailable

/-- The node objects of an API server. A name that cannot be sent is not asked for. -/
def nodes {σ : Type} (server : ApiServer σ) : NodeSource σ := fun name state =>
  if isSendable name then
    let (response, after) := server (nodePath name) state
    (nodeOf response, after)
  else (.error .nodeUnavailable, state)

/-- The API server that gives the same response to every request, and keeps the paths. -/
def fixed (response : ApiResponse) : ApiServer (List String) :=
  fun path paths => (response, paths ++ [path])

end ApiServer

end HostNet

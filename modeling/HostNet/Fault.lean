import HostNet.Errno
import HostNet.Text.Blank
import HostNet.Text.Quoted
/-!
What can go wrong, by cause, and how each cause is classified. Converging looks at the kind
alone, so this is the one place that knows what an error number or an exit status means.
-/
namespace HostNet

/-- Classification of a failed call. -/
inductive Kind where
  /-- The resource is already present. -/
  | alreadyExists
  /-- The resource is absent. -/
  | notFound
  /-- Anything else, with the error number or exit status. -/
  | other (code : Int32)
deriving DecidableEq, Repr

def Kind.text : Kind → String
  | alreadyExists => "already exists"
  | notFound => "not found"
  | other code => "code " ++ toString code.toInt

/-- Why a file or socket operation failed. -/
inductive IoCause where
  /-- The operating system gave an error number. -/
  | os (errno : Errno)
  /-- A value was looked up and is absent. -/
  | absent
  /-- The content is not well-formed text. -/
  | illFormed
  /-- A file name holds a NUL. -/
  | nulInName
deriving DecidableEq, Repr

namespace IoCause

def message : IoCause → String
  | os errno => errno.message
  | absent => "entity not found"
  | illFormed => "stream did not contain valid UTF-8"
  | nulInName => "file name contained an unexpected NUL byte"

/-- The kind of a cause. Causes without an error number count as `-1`. -/
def kind : IoCause → Kind
  | os errno =>
    if errno = Errno.noEntry then .notFound
    else if errno = Errno.alreadyExists then .alreadyExists
    else .other errno
  | absent => .notFound
  | illFormed => .other (-1)
  | nulInName => .other (-1)

end IoCause

inductive ChainOp where
  | create
  | clear
  | delete
  | append
  | deleteRule
deriving DecidableEq, Repr

namespace ChainOp

def name : ChainOp → String
  | create => "new-chain"
  | clear => "clear-chain"
  | delete => "delete-chain"
  | append => "append"
  | deleteRule => "delete-rule"

def ofName? (name : String) : Option ChainOp :=
  [create, clear, delete, append, deleteRule].find? (·.name == name)

/-- Whether the tool's output says that a chain, a rule or a file is missing. -/
def saysMissing (message : String) : Bool :=
  Text.mentions message "No chain/target/match" ||
    Text.mentions message "does a matching rule exist" ||
    Text.mentions message "No such file or directory"

/-- What an exit status and output of the filter tool mean for an operation. The tool exits with 1
for most failures, and with 2 for bad parameters, which on some versions includes deleting a rule
that is not there. -/
def classify (op : ChainOp) (status : Int32) (message : String) : Kind :=
  match op with
  | create =>
    if status = 1 || Text.mentions message "Chain already exists" then .alreadyExists
    else .other status
  | clear | delete =>
    if saysMissing message || (status = 1 && message.isEmpty) then .notFound
    else .other status
  | deleteRule => if status = 2 || saysMissing message then .notFound else .other status
  | append => .other status

end ChainOp

/-- A failure, by cause. -/
inductive Fault where
  /-- A socket operation failed. -/
  | io (cause : IoCause)
  /-- The kernel refused a request. -/
  | kernel (errno : Errno)
  /-- The kernel refused a request whose purpose is known. -/
  | refused (operation : String) (errno : Errno)
  /-- A message ended too early. -/
  | truncated (expected actual : Nat)
  /-- A message or a name has the wrong form. -/
  | invalidMessage (reason : String)
  /-- No interface has this name. -/
  | interfaceNotFound (name : String)
  /-- The filter tool exited with a failure status. -/
  | filter (op : ChainOp) (table chain : String) (status : Int32) (message : String)
  /-- The filter tool could not be located. -/
  | filterUnavailable (reason : String)
  /-- A kernel parameter could not be read or written. -/
  | sysctl (key : String) (cause : IoCause)
  /-- The node has no pod network. -/
  | missingPodCidr (node : String)
  /-- The pod network is malformed or has no usable gateway address. -/
  | invalidPodCidr (node cidr reason : String)
  /-- The node reports no usable internal address. -/
  | missingInternalIp (node : String)
  /-- The node reports an internal address that is none. -/
  | invalidAddress (node address : String)
  /-- The API server gave no node object. -/
  | nodeUnavailable
deriving DecidableEq, Repr

namespace Fault

/-- The failure the kernel reports by a code, which is a negated error number. -/
def ofCode (code : Int32) : Fault :=
  .kernel (-code)

def message : Fault → String
  | io cause => "I/O error: " ++ cause.message
  | kernel errno =>
    "kernel error: " ++ errno.message ++ " (errno " ++ toString errno.toInt ++ ")"
  | refused operation errno =>
    operation ++ ": " ++ errno.message ++ " (errno " ++ toString errno.toInt ++ ")"
  | truncated expected actual =>
    "message truncated: expected " ++ toString expected ++ " bytes, got " ++ toString actual
  | invalidMessage reason => "invalid message: " ++ reason
  | interfaceNotFound name => "interface not found: " ++ name
  | filter op table chain status message =>
    "iptables " ++ op.name ++ " " ++ table ++ "/" ++ chain ++ " failed (" ++
      (op.classify status message).text ++ "): " ++ message
  | filterUnavailable reason => "iptables unavailable: " ++ reason
  | sysctl key cause => "sysctl " ++ key ++ ": " ++ cause.message
  | missingPodCidr node => "node " ++ node ++ " has no pod CIDR"
  | invalidPodCidr node cidr reason =>
    "node " ++ node ++ " has invalid pod CIDR " ++ Text.quoted cidr ++ ": " ++ reason
  | missingInternalIp node => "node " ++ node ++ " has no internal IP"
  | invalidAddress node address =>
    "node " ++ node ++ " reports invalid address " ++ Text.quoted address
  | nodeUnavailable => "kubernetes API error"

def errno? : Fault → Option Errno
  | kernel errno => some errno
  | refused _ errno => some errno
  | _ => none

/-- The purpose of the request, added to what the kernel reports; other failures stay as they
are. -/
def withContext (operation : String) : Fault → Fault
  | kernel errno => refused operation errno
  | fault => fault

def kindOfErrno (errno : Errno) : Kind :=
  if errno = Errno.alreadyExists then .alreadyExists
  else if errno = Errno.noEntry || errno = Errno.noProcess then .notFound
  else .other errno

def kind : Fault → Kind
  | kernel errno => kindOfErrno errno
  | refused _ errno => kindOfErrno errno
  | filter op _ _ status message => op.classify status message
  | interfaceNotFound _ => .notFound
  | io cause => cause.kind
  | sysctl _ cause => cause.kind
  | _ => .other (-1)

/-- The wanted object is there already. -/
def isAlreadyExists (fault : Fault) : Bool :=
  fault.kind == .alreadyExists

/-- The object to remove is absent. -/
def isNotFound (fault : Fault) : Bool :=
  fault.kind == .notFound

/-- Context never changes the kind. -/
@[simp] theorem kind_withContext (operation : String) (fault : Fault) :
    (fault.withContext operation).kind = fault.kind := by
  cases fault <;> rfl

end Fault

end HostNet

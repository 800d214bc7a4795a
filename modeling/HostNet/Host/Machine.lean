import HostNet.Host.Connection
import HostNet.Host.Iptables
import HostNet.Host.Procfs
/-!
A whole machine as a host: routes and rules through its routing socket, chains through its filter
tool, and kernel parameters through its files.
-/
namespace HostNet

/-- The three ways a machine is reached, with the state at the other end of each. -/
structure Machine (κ τ φ : Type) where
  connection : Connection κ
  filter : Iptables τ
  files : φ

/-- What answers at the other ends. -/
structure Machine.Ends (κ τ φ : Type) where
  peer : Peer κ
  tool : FilterTool τ
  files : Files φ
  /-- Root directory of the kernel parameters. -/
  root : String

namespace Machine

variable {κ τ φ : Type}

/-- Calls go to the part of the machine they concern. -/
def host (ends : Ends κ τ φ) : Host (Machine κ τ φ)
  | .setSysctl key value, machine =>
    let (reply, files) := Procfs.set ends.files ends.root key value machine.files
    (reply, { machine with files := files })
  | .addRoute route, machine =>
    let (reply, connection) := machine.connection.addRoute ends.peer route
    (reply, { machine with connection := connection })
  | .delRoute route, machine =>
    let (reply, connection) := machine.connection.delRoute ends.peer route
    (reply, { machine with connection := connection })
  | .addRule rule, machine =>
    let (reply, connection) := machine.connection.changeRule ends.peer .add rule
    (reply, { machine with connection := connection })
  | .delRule rule, machine =>
    let (reply, connection) := machine.connection.changeRule ends.peer .delete rule
    (reply, { machine with connection := connection })
  | .listRules family, machine =>
    let (reply, connection) := machine.connection.listRules ends.peer family
    (reply, { machine with connection := connection })
  | .newChain chain, machine =>
    let (reply, filter) := machine.filter.newChain ends.tool chain
    (reply, { machine with filter := filter })
  | .clearChain chain, machine =>
    let (reply, filter) := machine.filter.clearChain ends.tool chain
    (reply, { machine with filter := filter })
  | .deleteChain chain, machine =>
    let (reply, filter) := machine.filter.deleteChain ends.tool chain
    (reply, { machine with filter := filter })
  | .appendUnique chain rule, machine =>
    let (reply, filter) := machine.filter.appendUnique ends.tool chain rule
    (reply, { machine with filter := filter })
  | .deleteRule chain rule, machine =>
    let (reply, filter) := machine.filter.deleteRule ends.tool chain rule
    (reply, { machine with filter := filter })

end Machine

end HostNet

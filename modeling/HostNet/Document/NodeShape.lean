import HostNet.Document.Shape
/-!
The shape of a node object: its metadata, what is wanted of the node, and what the node reports.
Each part of it is optional, and unknown members are passed over.
-/
namespace HostNet.Node

def textRecord (names : List String) : Shape :=
  .record (names.map fun name => (name, .text))

def managedFieldsShape : Shape :=
  .record [
    ("apiVersion", .text),
    ("fieldsType", .text),
    ("fieldsV1", .anything),
    ("manager", .text),
    ("operation", .text),
    ("subresource", .text),
    ("time", .instant)]

/-- The shape of a reference to an object that owns this one. -/
def ownerShape : Shape :=
  .record [
    ("apiVersion", .text),
    ("blockOwnerDeletion", .flag),
    ("controller", .flag),
    ("kind", .text),
    ("name", .text),
    ("uid", .text)]

/-- The shape of what every object says about itself. -/
def metadataShape : Shape :=
  .record [
    ("annotations", .table .text),
    ("creationTimestamp", .instant),
    ("deletionGracePeriodSeconds", .integer 64),
    ("deletionTimestamp", .instant),
    ("finalizers", .list .text),
    ("generateName", .text),
    ("generation", .integer 64),
    ("labels", .table .text),
    ("managedFields", .list managedFieldsShape),
    ("name", .text),
    ("namespace", .text),
    ("ownerReferences", .list ownerShape),
    ("resourceVersion", .text),
    ("selfLink", .text),
    ("uid", .text)]

def configSourceShape : Shape :=
  .record [
    ("configMap", textRecord ["kubeletConfigKey", "name", "namespace", "resourceVersion", "uid"])]

/-- The shape of a mark that keeps work off the node. -/
def taintShape : Shape :=
  .record [("effect", .text), ("key", .text), ("timeAdded", .instant), ("value", .text)]

def specShape : Shape :=
  .record [
    ("configSource", configSourceShape),
    ("externalID", .text),
    ("podCIDR", .text),
    ("podCIDRs", .list .text),
    ("providerID", .text),
    ("taints", .list taintShape),
    ("unschedulable", .flag)]

def conditionShape : Shape :=
  .record [
    ("lastHeartbeatTime", .instant),
    ("lastTransitionTime", .instant),
    ("message", .text),
    ("reason", .text),
    ("status", .text),
    ("type", .text)]

def configStatusShape : Shape :=
  .record [
    ("active", configSourceShape),
    ("assigned", configSourceShape),
    ("error", .text),
    ("lastKnownGood", configSourceShape)]

def imageShape : Shape :=
  .record [("names", .list .text), ("sizeBytes", .integer 64)]

def systemShape : Shape :=
  textRecord ["architecture", "bootID", "containerRuntimeVersion", "kernelVersion",
    "kubeProxyVersion", "kubeletVersion", "machineID", "operatingSystem", "osImage", "systemUUID"]

def runtimeHandlerShape : Shape :=
  .record [("features", .record [("recursiveReadOnlyMounts", .flag)]), ("name", .text)]

def statusShape : Shape :=
  .record [
    ("addresses", .list (textRecord ["address", "type"])),
    ("allocatable", .table .text),
    ("capacity", .table .text),
    ("conditions", .list conditionShape),
    ("config", configStatusShape),
    ("daemonEndpoints", .record [("kubeletEndpoint", .record [("Port", .integer 32)])]),
    ("images", .list imageShape),
    ("nodeInfo", systemShape),
    ("phase", .text),
    ("runtimeHandlers", .list runtimeHandlerShape),
    ("volumesAttached", .list (textRecord ["devicePath", "name"])),
    ("volumesInUse", .list .text)]

/-- The shape of a node object. -/
def shape : Shape :=
  .record [("metadata", metadataShape), ("spec", specShape), ("status", statusShape)]

end HostNet.Node

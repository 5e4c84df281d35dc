import CameraHotplug.Settings

/-!
Device nodes: the entries of the device directory whose name is the configured prefix followed by a
canonical decimal, the suffix.
-/

namespace CameraHotplug

structure DeviceNode where
  name : String
  path : Path
  suffix : UInt32
  deriving DecidableEq, Repr

namespace DeviceNode

def named? (directory : Path) (lead name : String) : Option DeviceNode := do
  let suffix ← Decimal.read? (← Text.strip? lead.toList name.toList)
  return ⟨name, directory.join name, suffix⟩

/-- The file that holds the name which the kernel gives to the node. -/
def nameAttribute (node : DeviceNode) (sysfsRoot : Path) : Path :=
  (sysfsRoot.join node.name).join "name"

end DeviceNode

namespace Settings

def logicalId? (settings : Settings) (node : DeviceNode) : Option LogicalId :=
  LogicalId.forSuffix? node.suffix settings.idOffset settings.version

/-- The node of an entry name. A node whose suffix has no id is none. -/
def node? (settings : Settings) (name : String) : Option DeviceNode :=
  (DeviceNode.named? settings.deviceDirectory settings.nodePrefix name).filter fun node =>
    (settings.logicalId? node).isSome

/-- A node that discovery may touch. -/
def candidate? (settings : Settings) (name : String) : Option DeviceNode :=
  (settings.node? name).filter fun node => !settings.isInternal node.suffix

/-- The path of the node that an id stands for. -/
def nodePath? (settings : Settings) (id : LogicalId) : Option Path :=
  (id.suffix? settings.idOffset).map fun suffix =>
    settings.deviceDirectory.join (settings.nodePrefix ++ Decimal.text suffix)

end Settings

end CameraHotplug

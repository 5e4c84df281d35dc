import CameraHotplug.Kernel

/-!
What a video node tells about itself.
-/

namespace CameraHotplug

structure Capability where
  driver : String
  card : String
  busInfo : String
  capabilities : UInt32
  deviceCaps : UInt32
  deriving DecidableEq, Repr

namespace Capability

/-- From the fields as the kernel fills them in. -/
def ofFields (driver card busInfo : List UInt8) (capabilities deviceCaps : UInt32) :
    Capability where
  driver := Kernel.fieldText driver
  card := Kernel.fieldText card
  busInfo := Kernel.fieldText busInfo
  capabilities := capabilities
  deviceCaps := deviceCaps

/-- The capabilities of the node itself, where its driver gives them, and of the whole device
otherwise. -/
def nodeCaps (capability : Capability) : UInt32 :=
  if capability.capabilities &&& Kernel.deviceCapabilities = 0 then capability.capabilities
  else capability.deviceCaps

def isCapture (capability : Capability) : Bool :=
  capability.nodeCaps &&& Kernel.anyCapture ≠ 0

end Capability

end CameraHotplug

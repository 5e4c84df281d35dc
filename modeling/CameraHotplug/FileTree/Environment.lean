import CameraHotplug.Environment
import CameraHotplug.FileTree

/-!
Plain files in the place of devices. They open and have attributes, but answer no device request.
-/

namespace CameraHotplug

def FileTree.environment : Environment FileTree Unit Unit where
  readDirectory directory := fun tree => (tree.readNames directory.bytes, tree)
  openNode path _ := fun tree => (tree.openFile path.bytes, tree)
  queryCapability _ := fun tree => (.error .wrongDevice, tree)
  enumerateFormat _ _ _ := fun tree => (.error .wrongDevice, tree)
  readAttribute path := fun tree => (tree.readText path.bytes, tree)
  openWatch directory := fun tree =>
    (if tree.doesExist directory.bytes then .ok () else .error .pathNotFound, tree)
  wait _ := fun tree => (.ok [], tree)
  construct _ path := fun tree => (.failed (.deviceInit path IoError.wrongDevice.message), tree)
  pause _ := fun tree => ((), tree)

end CameraHotplug

import CameraHotplug.Error
import CameraHotplug.Json
import CameraHotplug.LogicalId

/-!
Logical ids as others hand them in: by name, and in JSON as a string that holds the name.
-/

namespace CameraHotplug.LogicalId

def parse (name : String) : Except Error LogicalId :=
  match read? name with
  | some id => .ok id
  | none => .error (.invalidDeviceName name)

def toJson (id : LogicalId) : Json :=
  .string id.text

def readJson : Json.Reader LogicalId := fun chars =>
  (Json.readString chars).bind fun (name, rest) =>
    match read? name with
    | some id => .ok (id, rest)
    | none => .error .unsuitable

def readDocument (text : String) : Except Error LogicalId :=
  (Json.readDocument readJson text).mapError .json

end CameraHotplug.LogicalId

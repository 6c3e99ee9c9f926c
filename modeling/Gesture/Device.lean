import Gesture.Path

namespace Gesture

inductive DeviceError where
  | relativePath
  | notOpen
  deriving DecidableEq, Repr

def DeviceError.message : DeviceError → String
  | .relativePath => "Device path must be absolute"
  | .notOpen => "Must be inside an appropriate context manager"

structure Device where
  path : Path
  absolute : path.isAbsolute
  file : Option Nat

namespace Device

def ofPath (path : Path) : Except DeviceError Device :=
  if absolute : path.isAbsolute then .ok ⟨path, absolute, none⟩ else .error .relativePath

def fileNumber (d : Device) : Except DeviceError Nat :=
  match d.file with
  | some number => .ok number
  | none => .error .notOpen

end Device

end Gesture

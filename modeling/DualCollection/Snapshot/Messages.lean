import DualCollection.Control.Exception

/-!
# The messages of the snapshot

What the snapshot uses of the images and of the arm states that are published.
-/

namespace DualCollection

/-- `builtin_interfaces/Time` -/
structure Time where
  /-- The seconds. -/
  sec : Int32
  /-- The nanoseconds. -/
  nanosec : UInt32
  deriving DecidableEq

/-- `stamp_ns` -/
def stampNs (stamp : Time) : ℤ := stamp.sec.toInt * 1000000000 + stamp.nanosec.toNat

/-- `sensor_msgs/Image` -/
structure Image where
  /-- `header.stamp` -/
  stamp : Time
  /-- The number of rows. -/
  height : UInt32
  /-- The number of columns. -/
  width : UInt32
  /-- How a pixel is encoded. -/
  encoding : String
  /-- The length of a row. -/
  step : UInt32
  /-- The pixels. -/
  data : List UInt8
  deriving DecidableEq

/-- `ArmState`, with numbers in `D`. -/
structure ArmState (D : Type) where
  /-- `header.stamp` -/
  stamp : Time
  /-- Where the joints are. -/
  jointPositions : Fin 6 → D
  /-- Where the gripper is. -/
  gripperPosition : D
  deriving DecidableEq

/-- The three cameras. -/
inductive Camera
  | left
  | overview
  | right
  deriving DecidableEq

variable (D : Type) in
/-- `VlaSnapshot` -/
structure VlaSnapshot where
  /-- The image of a camera. -/
  camera : Camera → Image
  /-- The state of an arm. -/
  arm : Side → ArmState D
  /-- The time of the snapshot. -/
  cutoffNs : ℤ

theorem stampNs_bounds (stamp : Time) :
    -(2 ^ 31 * 1000000000) ≤ stampNs stamp ∧ stampNs stamp < 2 ^ 31 * 1000000000 + 2 ^ 32 := by
  have hsec := stamp.sec.le_toInt
  have hsec' := stamp.sec.toInt_lt
  have hnano := stamp.nanosec.toNat_lt
  unfold stampNs
  omega

end DualCollection

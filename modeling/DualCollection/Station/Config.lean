import DualCollection.Control.Exception
import DualCollection.Json.Value

/-!
# The station configuration

`load_station_config` of `production/config.py`, from the document on, and
`station_config_payload` of `station/store.py`.

A version and an SDK type are kept as they are in the document: `1`, `1.0` and `true` are equal in
Python.  `lower` is that of ASCII; beyond it, no character becomes a hexadecimal digit.
-/

namespace DualCollection

/-- The exceptions of the configuration. -/
inductive StationError
  | valueError (text : String)
  | typeError (text : String)
  | keyError (text : String)
  | osError (text : String)
  /-- Another subclass of `BaseException`. -/
  | baseException (text : String)
  deriving DecidableEq

/-! ### Strings -/

/-- `str.isspace`, of a character. -/
def isspace (c : Char) : Bool :=
  let n := c.toNat
  (9 ≤ n && n ≤ 13) || (28 ≤ n && n ≤ 32) || n == 0x85 || n == 0xa0 || n == 0x1680 ||
    (0x2000 ≤ n && n ≤ 0x200a) || n == 0x2028 || n == 0x2029 || n == 0x202f || n == 0x205f ||
    n == 0x3000

/-- `strip` -/
def strip (s : String) : String := String.ofList ((s.toList.dropWhile isspace).rdropWhile isspace)

/-- `lower` -/
def lower (s : String) : String := String.ofList (s.toList.map Char.toLower)

/-- The characters of a USB number. -/
def hexDigits : List Char := "0123456789abcdef".toList

/-- A list of names, as Python shows it. -/
def showNames (names : List String) : String :=
  "[" ++ ", ".intercalate (names.map fun name => "\x27" ++ name ++ "\x27") ++ "]"

/-! ### Configurations -/

/-- `ArmConfig` -/
structure ArmConfig where
  /-- `role` -/
  role : String
  /-- `usb_serial` -/
  usbSerial : String
  /-- `can_interface` -/
  canInterface : String
  deriving DecidableEq

/-- `CameraConfig` -/
structure CameraConfig where
  /-- `role` -/
  role : String
  /-- `serial_number` -/
  serialNumber : String
  deriving DecidableEq

/-- `PedalConfig` -/
structure PedalConfig where
  /-- `role` -/
  role : String
  /-- `vendor_id` -/
  vendorId : String
  /-- `product_id` -/
  productId : String
  /-- `serial_number` -/
  serialNumber : String
  deriving DecidableEq

/-- `TriggerConfig` -/
structure TriggerConfig where
  /-- `activate` -/
  activate : PedalConfig
  /-- `abort` -/
  abort : PedalConfig
  deriving DecidableEq

/-- `StationConfig` -/
structure StationConfig where
  /-- `schema_version` -/
  schemaVersion : Json
  /-- `station_id` -/
  stationId : String
  /-- `ros_domain_id` -/
  rosDomainId : Option ℤ
  /-- `sdk_type` -/
  sdkType : Json
  /-- `arms` -/
  arms : List ArmConfig
  /-- `cameras` -/
  cameras : List CameraConfig
  /-- `triggers` -/
  triggers : Option TriggerConfig

namespace StationConfig

/-- `ARM_ROLES` -/
def armRoles : List String := ["left", "right"]

/-- `CAMERA_ROLES` -/
def cameraRoles : List String := ["left", "right", "overview"]

/-- `TRIGGER_ROLES` -/
def triggerRoles : List String := ["activate", "abort"]

/-- `MIN_ROS_DOMAIN_ID` -/
def minRosDomainId : ℤ := 0

/-- `MAX_ROS_DOMAIN_ID` -/
def maxRosDomainId : ℤ := 232

/-- `STATION_SCHEMA_VERSION` -/
def stationSchemaVersion : ℤ := 5

/-! ### Loading -/

/-- Two lists of keys are the same set. -/
def sameKeys (keys expected : List String) : Bool :=
  keys.all (fun k => expected.contains k) && expected.all fun k => keys.contains k

/-- `_require_exact_keys`, with the dictionary that is required. -/
def requireExactKeys (value : Json) (expected : List String) (label : String) :
    Except StationError (List (String × Json)) :=
  match value with
  | .obj fields =>
    if sameKeys (fields.map Prod.fst) expected then .ok fields
    else .error (.valueError (label ++ " keys must be exactly " ++ showNames expected.mergeSort))
  | _ => .error (.valueError (label ++ " keys must be exactly " ++ showNames expected.mergeSort))

/-- `fields[key]` -/
def item (fields : List (String × Json)) (key : String) : Except StationError Json :=
  match fields.lookup key with
  | some value => .ok value
  | none => .error (.keyError key)

/-- `_non_empty_string` -/
def nonEmptyString (value : Json) (label : String) : Except StationError String :=
  match value with
  | .str s =>
    if strip s = "" then .error (.valueError (label ++ " must be a non-empty string"))
    else .ok (strip s)
  | _ => .error (.valueError (label ++ " must be a non-empty string"))

/-- `_usb_hex_id` -/
def usbHexId (value : Json) (label : String) : Except StationError String := do
  let normalized := lower (← nonEmptyString value label)
  if normalized.toList.length ≠ 4 ∨ normalized.toList.any (fun c => !hexDigits.contains c) then
    .error (.valueError (label ++ " must be four hexadecimal characters"))
  else .ok normalized

/-- `validate_ros_domain_id` -/
def validateRosDomainId (value : Json) : Except StationError ℤ :=
  match value with
  | .int z =>
    if minRosDomainId ≤ z ∧ z ≤ maxRosDomainId then .ok z
    else .error (.valueError "ros_domain_id must be an integer from 0 through 232")
  | _ => .error (.valueError "ros_domain_id must be an integer from 0 through 232")

/-- `value in numbers`: a list or a dictionary cannot be looked up. -/
def inSet (value : Json) (numbers : List ℚ) : Except StationError Bool :=
  if value.isContainer then .error (.typeError "unhashable type")
  else .ok (numbers.any fun q => value.number == some q)

/-- `_camera_serial` -/
def cameraSerial (value : Json) (role : String) : Except StationError String :=
  match value with
  | .str s => nonEmptyString (.str s) ("camera " ++ role ++ " serial_number")
  | .obj fields =>
    if sameKeys (fields.map Prod.fst) ["serial_number"] then do
      let serial ← item fields "serial_number"
      nonEmptyString serial ("camera " ++ role ++ " serial_number")
    else .error (.valueError
      ("camera " ++ role ++ " must be a serial string or serial_number object"))
  | _ => .error (.valueError
      ("camera " ++ role ++ " must be a serial string or serial_number object"))

/-- A pedal of `_trigger_config`. -/
def pedalConfig (fields : List (String × Json)) (role : String) :
    Except StationError PedalConfig := do
  let value ← item fields role
  let pedal ← requireExactKeys value ["vendor_id", "product_id", "serial_number"]
    ("trigger " ++ role)
  let vendorId ← usbHexId (← item pedal "vendor_id") ("trigger " ++ role ++ " vendor_id")
  let productId ← usbHexId (← item pedal "product_id") ("trigger " ++ role ++ " product_id")
  let serialNumber ← nonEmptyString (← item pedal "serial_number")
    ("trigger " ++ role ++ " serial_number")
  return { role, vendorId, productId, serialNumber }

/-- `_trigger_config` -/
def triggerConfig (value : Json) : Except StationError TriggerConfig := do
  let fields ← requireExactKeys value triggerRoles "triggers"
  let activate ← pedalConfig fields "activate"
  let abort ← pedalConfig fields "abort"
  if activate.serialNumber = abort.serialNumber then
    .error (.valueError "trigger pedals must use different serial numbers")
  else .ok { activate, abort }

/-- The arms that have been read, by their roles. -/
abbrev Arms := List (String × ArmConfig)

/-- The message about the roles of the arms. -/
def armRolesMessage : String := "arm roles must be exactly " ++ showNames armRoles

/-- An arm. -/
def addArm (arms : Arms) (value : Json) : Except StationError Arms := do
  let fields ← requireExactKeys value ["name", "usb_serial", "can_interface"] "arm"
  let role ← nonEmptyString (← item fields "name") "arm name"
  if role ∉ armRoles ∨ role ∈ arms.map Prod.fst then .error (.valueError armRolesMessage)
  else do
    let usbSerial ← nonEmptyString (← item fields "usb_serial") ("arm " ++ role ++ " usb_serial")
    let canInterface ← nonEmptyString (← item fields "can_interface")
      ("arm " ++ role ++ " can_interface")
    return arms ++ [(role, ArmConfig.mk role usbSerial canInterface)]

/-- `arms_by_role` -/
def armsByRole (value : Json) : Except StationError Arms :=
  match value with
  | .arr values => values.foldlM addArm []
  | _ => .error (.valueError "arms must be an array")

/-- `arms_by_role[role]` -/
def armOf (arms : Arms) (role : String) : Except StationError ArmConfig :=
  match arms.lookup role with
  | some arm => .ok arm
  | none => .error (.keyError role)

/-- A camera. -/
def cameraConfig (fields : List (String × Json)) (role : String) :
    Except StationError CameraConfig := do
  let serialNumber ← cameraSerial (← item fields role) role
  return { role, serialNumber }

/-- The keys of the version `1`. -/
def keysV1 : List String := ["schema_version", "station_id", "sdk_type", "arms", "cameras"]

/-- The keys of the version `2`. -/
def keysV2 : List String :=
  ["schema_version", "station_id", "sdk_type", "arms", "cameras", "triggers"]

/-- The keys of the versions `3` and `5`. -/
def keysV3 : List String :=
  ["schema_version", "station_id", "ros_domain_id", "sdk_type", "arms", "cameras", "triggers"]

/-- The keys of the version `4`. -/
def keysV4 : List String :=
  ["schema_version", "station_id", "ros_domain_id", "sdk_type", "arms", "cameras", "triggers",
    "task_upload_routes"]

/-- The keys that a version requires. -/
def versionKeys (version : Json) : Except StationError (List String) :=
  if version.number = some 1 then .ok keysV1
  else if version.number = some 2 then .ok keysV2
  else (inSet version [3, stationSchemaVersion]).bind fun known =>
    if known then .ok keysV3
    else if version.number = some 4 then .ok keysV4
    else .error (.valueError "station schema_version must be 1, 2, 3, 4, or 5")

/-- `version >= n`, of a version that has been accepted. -/
def atLeast (version : Json) (n : ℚ) : Bool :=
  match version.number with
  | some q => n ≤ q
  | none => false

/-- What the versions from `n` on have. -/
def since {α : Type} (version : Json) (n : ℚ) (read : Except StationError α) :
    Except StationError (Option α) :=
  if atLeast version n then read.map some else .ok none

/-- `load_station_config`, when the document has been read. -/
def ofPayload (payload : List (String × Json)) : Except StationError StationConfig := do
  let schemaVersion := (payload.lookup "schema_version").getD .null
  let keys ← versionKeys schemaVersion
  let fields ← requireExactKeys (.obj payload) keys "station"
  let stationId ← nonEmptyString (← item fields "station_id") "station_id"
  let rosDomainId ← since schemaVersion 3 (item fields "ros_domain_id" >>= validateRosDomainId)
  let sdkType ← item fields "sdk_type"
  let known ← inSet sdkType [1, 2]
  if !known then .error (.valueError "sdk_type must be 1 or 2")
  else do
    let arms ← armsByRole (← item fields "arms")
    if !sameKeys (arms.map Prod.fst) armRoles then .error (.valueError armRolesMessage)
    else do
      let camerasValue ← requireExactKeys (← item fields "cameras") cameraRoles "cameras"
      let cameras ← cameraRoles.mapM (cameraConfig camerasValue)
      let triggers ← since schemaVersion 2 (item fields "triggers" >>= triggerConfig)
      if ¬ (arms.map (fun arm => arm.2.usbSerial) ++ cameras.map CameraConfig.serialNumber).Nodup then
        .error (.valueError "station device serial numbers must be unique")
      else if ¬ (arms.map fun arm => arm.2.canInterface).Nodup then
        .error (.valueError "arm CAN interfaces must be unique")
      else do
        let arms ← armRoles.mapM (armOf arms)
        return { schemaVersion, stationId, rosDomainId, sdkType, arms, cameras, triggers }

/-- `load_station_config`; the file may not be readable. -/
def load {W : Type} (codec : Json.Codec W) (read : Except String W) :
    Except StationError StationConfig :=
  match read.bind codec.loads with
  | .error text => .error (.valueError ("cannot read station config: " ++ text))
  | .ok (.obj payload) => ofPayload payload
  | .ok _ => .error (.valueError "station config must be an object")

/-! ### Writing -/

/-- The version that is written. -/
def writtenVersion (version : Json) : Json :=
  if [3, 4, (stationSchemaVersion : ℚ)].any fun q => version.number == some q then
    .int stationSchemaVersion
  else version

/-- Put a value into a dictionary, in the place of one that is there. -/
def insertKey (fields : List (String × Json)) (f : String × Json) : List (String × Json) :=
  if f.1 ∈ fields.map Prod.fst then fields.map fun g => if g.1 = f.1 then f else g
  else fields ++ [f]

/-- A dictionary that is built key by key. -/
def dict (fields : List (String × Json)) : Json := .obj (fields.foldl insertKey [])

/-- An arm. -/
def armPayload (arm : ArmConfig) : Json :=
  .obj [("name", .str arm.role), ("usb_serial", .str arm.usbSerial),
    ("can_interface", .str arm.canInterface)]

/-- A camera. -/
def cameraPayload (camera : CameraConfig) : String × Json :=
  (camera.role, .obj [("serial_number", .str camera.serialNumber)])

/-- A pedal. -/
def pedalPayload (pedal : PedalConfig) : String × Json :=
  (pedal.role, .obj [("vendor_id", .str pedal.vendorId), ("product_id", .str pedal.productId),
    ("serial_number", .str pedal.serialNumber)])

/-- `station_config_payload` -/
def payload (station : StationConfig) : List (String × Json) :=
  [("schema_version", writtenVersion station.schemaVersion),
    ("station_id", .str station.stationId),
    ("sdk_type", station.sdkType),
    ("arms", .arr (station.arms.map armPayload)),
    ("cameras", dict (station.cameras.map cameraPayload))] ++
  (match station.triggers with
    | some triggers =>
      [("triggers", dict [pedalPayload triggers.activate, pedalPayload triggers.abort])]
    | none => []) ++
  (match station.rosDomainId with
    | some rosDomainId => [("ros_domain_id", .int rosDomainId)]
    | none => [])

end StationConfig

end DualCollection

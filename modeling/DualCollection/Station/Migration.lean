import DualCollection.Station.Config
import Mathlib.Data.List.DropRight

/-!
# Loading what was written

`Valid` is what `load_station_config` makes sure of (`ofPayload_valid`), and it is all that is needed
for what `station_config_payload` writes to be loaded (`ofPayload_payload`).  The configuration
that is loaded then is the one that was written, with the version that was written (`migrated`).
-/

namespace DualCollection

/-! ### Strings -/

/-- A string that is not changed by `strip`, and not empty. -/
structure Trimmed (s : String) : Prop where
  /-- It has no spaces around it. -/
  strip : strip s = s
  /-- It is not empty. -/
  nonempty : s ≠ ""

/-- A list without spaces around it. -/
theorem strip_list (cs : List Char) :
    (((cs.dropWhile isspace).rdropWhile isspace).dropWhile isspace).rdropWhile isspace =
      (cs.dropWhile isspace).rdropWhile isspace := by
  have hfront : ((cs.dropWhile isspace).rdropWhile isspace).dropWhile isspace =
      (cs.dropWhile isspace).rdropWhile isspace := by
    rw [List.dropWhile_eq_self_iff]
    intro hpos
    -- the first character is the first one of the list without spaces in front
    have hpre := List.rdropWhile_prefix isspace (cs.dropWhile isspace)
    have hpos' : 0 < (cs.dropWhile isspace).length := lt_of_lt_of_le hpos hpre.length_le
    rw [hpre.getElem hpos]
    exact List.dropWhile_eq_self_iff.1 (List.dropWhile_idempotent isspace cs) hpos'
  rw [hfront, List.rdropWhile_idempotent]

theorem strip_strip (s : String) : strip (strip s) = strip s := by
  unfold strip
  rw [String.toList_ofList, strip_list]

theorem strip_of_forall {s : String} (h : ∀ c ∈ s.toList, isspace c = false) : strip s = s := by
  have hfront : s.toList.dropWhile isspace = s.toList := by
    rw [List.dropWhile_eq_self_iff]
    intro hpos
    rw [h _ (List.getElem_mem hpos)]
    exact Bool.false_ne_true
  have hback : s.toList.rdropWhile isspace = s.toList := by
    rw [List.rdropWhile_eq_self_iff]
    intro hne
    rw [h _ (List.getLast_mem hne)]
    exact Bool.false_ne_true
  rw [strip, hfront, hback, String.ofList_toList]

/-! ### What is accepted -/

/-- A number that a USB descriptor has. -/
structure HexId (s : String) : Prop where
  /-- It has four characters. -/
  length : s.toList.length = 4
  /-- They are hexadecimal. -/
  digits : ∀ c ∈ s.toList, c ∈ hexDigits

/-- A character of a USB number is no space, and is not changed by `lower`. -/
theorem hexDigit {c : Char} (h : c ∈ hexDigits) : isspace c = false ∧ c.toLower = c := by
  have hall : hexDigits.all (fun c => !isspace c && c.toLower == c) = true := rfl
  have hc := List.all_eq_true.1 hall c h
  rw [Bool.and_eq_true, Bool.not_eq_true', beq_iff_eq] at hc
  exact hc

namespace HexId

variable {s : String}

theorem trimmed (h : HexId s) : Trimmed s where
  strip := strip_of_forall fun c hc => (hexDigit (h.digits c hc)).1
  nonempty := by
    rintro rfl
    cases h.length

theorem lower (h : HexId s) : DualCollection.lower s = s := by
  have hmap : s.toList.map Char.toLower = s.toList.map id :=
    List.map_congr_left fun c hc => (hexDigit (h.digits c hc)).2
  rw [DualCollection.lower, hmap, List.map_id, String.ofList_toList]

end HexId

namespace StationConfig

theorem nonEmptyString_ok {value : Json} {label s : String}
    (h : nonEmptyString value label = .ok s) : Trimmed s := by
  cases value with
  | str text =>
    simp only [nonEmptyString] at h
    split at h
    · cases h
    · rename_i hne
      cases h
      exact ⟨strip_strip text, hne⟩
  | _ => cases h

/-- A string that was read is read again. -/
theorem nonEmptyString_of {s : String} (h : Trimmed s) (label : String) :
    nonEmptyString (.str s) label = .ok s := by
  rw [nonEmptyString, h.strip, if_neg h.nonempty]

theorem usbHexId_ok {value : Json} {label s : String} (h : usbHexId value label = .ok s) :
    HexId s := by
  obtain ⟨text, -, h⟩ := bind_eq_ok h
  dsimp only at h
  split at h
  · cases h
  · rename_i hs
    cases h
    push Not at hs
    refine ⟨hs.1, fun c hc => ?_⟩
    by_contra hdigit
    refine hs.2 (List.any_eq_true.2 ⟨c, hc, ?_⟩)
    rw [Bool.not_eq_true', List.contains_eq_mem, decide_eq_false_iff_not]
    exact hdigit

theorem usbHexId_of {s : String} (h : HexId s) (label : String) :
    usbHexId (.str s) label = .ok s := by
  have hdigits : ¬ s.toList.any (fun c => !hexDigits.contains c) = true := by
    rw [List.any_eq_true]
    rintro ⟨c, hc, hdigit⟩
    rw [Bool.not_eq_true', List.contains_eq_mem, decide_eq_false_iff_not] at hdigit
    exact hdigit (h.digits c hc)
  simp only [usbHexId, nonEmptyString_of h.trimmed, bind, Except.bind, h.lower]
  exact if_neg fun hbad => hbad.elim (fun hlength => hlength h.length) hdigits

/-- An id of a ROS domain. -/
def RosDomain (z : ℤ) : Prop := minRosDomainId ≤ z ∧ z ≤ maxRosDomainId

theorem validateRosDomainId_ok {value : Json} {z : ℤ} (h : validateRosDomainId value = .ok z) :
    RosDomain z := by
  cases value with
  | int z' =>
    simp only [validateRosDomainId] at h
    split at h
    · rename_i hz
      cases h
      exact hz
    · cases h
  | _ => cases h

theorem validateRosDomainId_of {z : ℤ} (h : RosDomain z) :
    validateRosDomainId (.int z) = .ok z := if_pos h

theorem inSet_ok {value : Json} {numbers : List ℚ} (h : inSet value numbers = .ok true) :
    ∃ q ∈ numbers, value.number = some q := by
  unfold inSet at h
  split at h
  · cases h
  · rw [Except.ok.injEq, List.any_eq_true] at h
    obtain ⟨q, hq, hnumber⟩ := h
    exact ⟨q, hq, beq_iff_eq.1 hnumber⟩

/-- A number is looked up. -/
theorem inSet_of {value : Json} {q : ℚ} {numbers : List ℚ} (h : value.number = some q) :
    inSet value numbers = .ok (numbers.contains q) := by
  have hcontainer : value.isContainer = false := by
    cases value with
    | arr xs => cases h
    | obj fields => cases h
    | _ => rfl
  have hany : (numbers.any fun q' => some q == some q') = numbers.contains q := by
    rw [List.contains_eq_any_beq]
    rfl
  simp only [inSet, hcontainer, Bool.false_eq_true, if_false, h, hany]

end StationConfig

/-! ### Devices -/

open StationConfig

/-- What is read of an arm. -/
structure ArmConfig.Valid (arm : ArmConfig) : Prop where
  /-- `usb_serial` -/
  usbSerial : Trimmed arm.usbSerial
  /-- `can_interface` -/
  canInterface : Trimmed arm.canInterface

/-- What is read of a pedal. -/
structure PedalConfig.Valid (pedal : PedalConfig) : Prop where
  /-- `vendor_id` -/
  vendorId : HexId pedal.vendorId
  /-- `product_id` -/
  productId : HexId pedal.productId
  /-- `serial_number` -/
  serialNumber : Trimmed pedal.serialNumber

/-- What is read of the pedals. -/
structure TriggerConfig.Valid (triggers : TriggerConfig) : Prop where
  /-- The role of the first pedal. -/
  activateRole : triggers.activate.role = "activate"
  /-- The role of the second pedal. -/
  abortRole : triggers.abort.role = "abort"
  /-- The first pedal. -/
  activate : triggers.activate.Valid
  /-- The second pedal. -/
  abort : triggers.abort.Valid
  /-- They are different. -/
  apart : triggers.activate.serialNumber ≠ triggers.abort.serialNumber

/-- What has been read of the arms. -/
structure StationConfig.ArmsRead (arms : Arms) : Prop where
  /-- No role is there twice. -/
  nodup : (arms.map Prod.fst).Nodup
  /-- Each is read under its role. -/
  roles : ∀ x ∈ arms, x.1 ∈ armRoles ∧ x.2.role = x.1
  /-- Each was read. -/
  valid : ∀ x ∈ arms, x.2.Valid

namespace StationConfig

theorem cameraSerial_ok {value : Json} {role s : String} (h : cameraSerial value role = .ok s) :
    Trimmed s := by
  unfold cameraSerial at h
  split at h
  · exact nonEmptyString_ok h
  · split at h
    · obtain ⟨serial, -, h⟩ := bind_eq_ok h
      exact nonEmptyString_ok h
    · cases h
  · cases h

theorem cameraConfig_ok {fields : List (String × Json)} {role : String} {camera : CameraConfig}
    (h : cameraConfig fields role = .ok camera) :
    camera.role = role ∧ Trimmed camera.serialNumber := by
  obtain ⟨value, -, h⟩ := bind_eq_ok h
  obtain ⟨serial, hserial, h⟩ := bind_eq_ok h
  cases h
  exact ⟨rfl, cameraSerial_ok hserial⟩

theorem cameraConfig_of {fields : List (String × Json)} {camera : CameraConfig}
    (hlookup : fields.lookup camera.role = some (cameraPayload camera).2)
    (h : Trimmed camera.serialNumber) : cameraConfig fields camera.role = .ok camera := by
  have hitem : item fields camera.role = .ok (cameraPayload camera).2 := by
    rw [item, hlookup]
  have hserial : cameraSerial (cameraPayload camera).2 camera.role = .ok camera.serialNumber :=
    nonEmptyString_of h _
  simp only [cameraConfig, hitem, bind, Except.bind, hserial]
  rfl

theorem pedalConfig_ok {fields : List (String × Json)} {role : String} {pedal : PedalConfig}
    (h : pedalConfig fields role = .ok pedal) : pedal.role = role ∧ pedal.Valid := by
  obtain ⟨value, -, h⟩ := bind_eq_ok h
  obtain ⟨keys, -, h⟩ := bind_eq_ok h
  obtain ⟨vendor, -, h⟩ := bind_eq_ok h
  obtain ⟨vendorId, hvendor, h⟩ := bind_eq_ok h
  obtain ⟨product, -, h⟩ := bind_eq_ok h
  obtain ⟨productId, hproduct, h⟩ := bind_eq_ok h
  obtain ⟨serial, -, h⟩ := bind_eq_ok h
  obtain ⟨serialNumber, hserial, h⟩ := bind_eq_ok h
  cases h
  exact ⟨rfl, usbHexId_ok hvendor, usbHexId_ok hproduct, nonEmptyString_ok hserial⟩

theorem pedalConfig_of {fields : List (String × Json)} {pedal : PedalConfig}
    (hlookup : fields.lookup pedal.role = some (pedalPayload pedal).2) (h : pedal.Valid) :
    pedalConfig fields pedal.role = .ok pedal := by
  have hitem : item fields pedal.role = .ok (pedalPayload pedal).2 := by
    rw [item, hlookup]
  simp only [pedalConfig, hitem, bind, Except.bind]
  have hkeys (label : String) : requireExactKeys (pedalPayload pedal).2
      ["vendor_id", "product_id", "serial_number"] label = .ok [("vendor_id", .str pedal.vendorId),
        ("product_id", .str pedal.productId), ("serial_number", .str pedal.serialNumber)] := rfl
  have hvendor : item [("vendor_id", .str pedal.vendorId), ("product_id", .str pedal.productId),
    ("serial_number", .str pedal.serialNumber)] "vendor_id" = .ok (.str pedal.vendorId) := rfl
  have hproduct : item [("vendor_id", .str pedal.vendorId), ("product_id", .str pedal.productId),
    ("serial_number", .str pedal.serialNumber)] "product_id" = .ok (.str pedal.productId) := rfl
  have hserial : item [("vendor_id", .str pedal.vendorId), ("product_id", .str pedal.productId),
    ("serial_number", .str pedal.serialNumber)] "serial_number" = .ok (.str pedal.serialNumber) :=
    rfl
  simp only [hkeys, hvendor, hproduct, hserial, usbHexId_of h.vendorId, usbHexId_of h.productId,
    nonEmptyString_of h.serialNumber]
  rfl

theorem triggerConfig_ok {value : Json} {triggers : TriggerConfig}
    (h : triggerConfig value = .ok triggers) : triggers.Valid := by
  obtain ⟨fields, -, h⟩ := bind_eq_ok h
  obtain ⟨activate, hactivate, h⟩ := bind_eq_ok h
  obtain ⟨abort, habort, h⟩ := bind_eq_ok h
  split at h
  · cases h
  · rename_i hne
    cases h
    obtain ⟨hrole, hvalid⟩ := pedalConfig_ok hactivate
    obtain ⟨hrole', hvalid'⟩ := pedalConfig_ok habort
    exact ⟨hrole, hrole', hvalid, hvalid', hne⟩

theorem addArm_ok {arms arms' : Arms} {value : Json} (harms : ArmsRead arms)
    (h : addArm arms value = .ok arms') : ArmsRead arms' := by
  obtain ⟨fields, -, h⟩ := bind_eq_ok h
  obtain ⟨name, -, h⟩ := bind_eq_ok h
  obtain ⟨role, -, h⟩ := bind_eq_ok h
  split at h
  · cases h
  · rename_i hrole
    push Not at hrole
    obtain ⟨usb, -, h⟩ := bind_eq_ok h
    obtain ⟨usbSerial, husb, h⟩ := bind_eq_ok h
    obtain ⟨can, -, h⟩ := bind_eq_ok h
    obtain ⟨canInterface, hcan, h⟩ := bind_eq_ok h
    cases h
    refine ⟨?_, fun x hx => ?_, fun x hx => ?_⟩
    · rw [List.map_append]
      refine List.nodup_append.2 ⟨harms.nodup, List.nodup_singleton _, fun a ha b hb hab => ?_⟩
      obtain rfl : b = role := List.mem_singleton.1 hb
      exact hrole.2 (hab ▸ ha)
    · rcases List.mem_append.1 hx with hx | hx
      · exact harms.roles x hx
      · rw [List.mem_singleton.1 hx]
        exact ⟨hrole.1, rfl⟩
    · rcases List.mem_append.1 hx with hx | hx
      · exact harms.valid x hx
      · rw [List.mem_singleton.1 hx]
        exact ⟨nonEmptyString_ok husb, nonEmptyString_ok hcan⟩

theorem armsByRole_ok {value : Json} {arms : Arms} (h : armsByRole value = .ok arms) :
    ArmsRead arms := by
  have hnone : ArmsRead [] := ⟨List.nodup_nil, by simp, by simp⟩
  cases value with
  | arr values => exact foldlM_ok (fun arms x arms' => addArm_ok) hnone h
  | _ => cases h

/-- The arms that were read, in the order of their roles. -/
theorem armOf_ok {arms : Arms} {ordered : List ArmConfig} (harms : ArmsRead arms)
    (hkeys : sameKeys (arms.map Prod.fst) armRoles = true)
    (h : armRoles.mapM (armOf arms) = .ok ordered) :
    (arms.map Prod.snd).Perm ordered ∧ ordered.map ArmConfig.role = armRoles := by
  rw [sameKeys, Bool.and_eq_true, List.all_eq_true, List.all_eq_true] at hkeys
  have hperm : (arms.map Prod.fst).Perm armRoles := by
    rw [List.perm_ext_iff_of_nodup harms.nodup (by simp [armRoles])]
    intro role
    constructor
    · intro hrole
      exact List.contains_iff_mem.1 (hkeys.1 role hrole)
    · intro hrole
      exact List.contains_iff_mem.1 (hkeys.2 role hrole)
  have hlength : arms.length = 2 := by
    have := hperm.length_eq
    rwa [List.length_map] at this
  obtain ⟨⟨k₁, a₁⟩, ⟨k₂, a₂⟩, rfl⟩ := List.length_eq_two.1 hlength
  have hrole₁ := harms.roles (k₁, a₁) (by simp)
  have hrole₂ := harms.roles (k₂, a₂) (by simp)
  have hne : k₁ ≠ k₂ := by simpa using harms.nodup
  simp only [armRoles, List.mem_cons, List.not_mem_nil, or_false] at hrole₁ hrole₂
  obtain ⟨rfl | rfl, hrole₁⟩ := hrole₁
  · obtain ⟨rfl | rfl, hrole₂⟩ := hrole₂
    · exact absurd rfl hne
    · obtain rfl : [a₁, a₂] = ordered := Except.ok.inj h
      exact ⟨.refl _, by simp [hrole₁, hrole₂, armRoles]⟩
  · obtain ⟨rfl | rfl, hrole₂⟩ := hrole₂
    · obtain rfl : [a₂, a₁] = ordered := Except.ok.inj h
      exact ⟨.swap _ _ _, by simp [hrole₁, hrole₂, armRoles]⟩
    · exact absurd rfl hne

theorem since_ok {α : Type} {version : Json} {n : ℚ} {read : Except StationError α}
    {value : Option α} (h : since version n read = .ok value) :
    value.isSome = atLeast version n ∧ ∀ a ∈ value, read = .ok a := by
  unfold since at h
  split at h
  · rename_i hversion
    cases read with
    | error err => cases h
    | ok a =>
      cases h
      refine ⟨hversion.symm, fun a' ha => ?_⟩
      rw [Option.mem_def, Option.some.injEq] at ha
      rw [ha]
  · rename_i hversion
    cases h
    exact ⟨(Bool.eq_false_of_not_eq_true hversion).symm, by simp⟩

theorem versionKeys_ok {version : Json} {keys : List String}
    (h : versionKeys version = .ok keys) :
    ∃ n : ℕ, 1 ≤ n ∧ n ≤ 5 ∧ version.number = some (n : ℚ) := by
  unfold versionKeys at h
  split at h
  · rename_i hversion
    exact ⟨1, le_rfl, by decide, by rw [hversion, Nat.cast_one]⟩
  split at h
  · rename_i hversion
    exact ⟨2, by decide, by decide, by rw [hversion, Nat.cast_ofNat]⟩
  obtain ⟨known, hknown, h⟩ := bind_eq_ok h
  split at h
  · rename_i hversion
    rw [hversion] at hknown
    obtain ⟨q, hq, hnumber⟩ := inSet_ok hknown
    rcases List.mem_cons.1 hq with rfl | hq
    · exact ⟨3, by decide, by decide, by rw [hnumber, Nat.cast_ofNat]⟩
    · rw [List.mem_singleton] at hq
      exact ⟨5, by decide, le_rfl, by rw [hnumber, hq]; rfl⟩
  split at h
  · rename_i hversion
    exact ⟨4, by decide, by decide, by rw [hversion, Nat.cast_ofNat]⟩
  · cases h

/-- What `load_station_config` makes sure of. -/
structure Valid (c : StationConfig) : Prop where
  /-- `schema_version` -/
  schemaVersion : ∃ n : ℕ, 1 ≤ n ∧ n ≤ 5 ∧ c.schemaVersion.number = some (n : ℚ)
  /-- `station_id` -/
  stationId : Trimmed c.stationId
  /-- The versions from `3` on have an id of a ROS domain. -/
  hasRosDomainId : c.rosDomainId.isSome = atLeast c.schemaVersion 3
  /-- `ros_domain_id` -/
  rosDomainId : ∀ z ∈ c.rosDomainId, RosDomain z
  /-- `sdk_type` -/
  sdkType : c.sdkType.number = some 1 ∨ c.sdkType.number = some 2
  /-- There is an arm of every role. -/
  armRoles : c.arms.map ArmConfig.role = armRoles
  /-- `arms` -/
  arms : ∀ arm ∈ c.arms, arm.Valid
  /-- There is a camera of every role. -/
  cameraRoles : c.cameras.map CameraConfig.role = cameraRoles
  /-- `cameras` -/
  cameras : ∀ camera ∈ c.cameras, Trimmed camera.serialNumber
  /-- The versions from `2` on have pedals. -/
  hasTriggers : c.triggers.isSome = atLeast c.schemaVersion 2
  /-- `triggers` -/
  triggers : ∀ t ∈ c.triggers, t.Valid
  /-- No device is there twice. -/
  serials : (c.arms.map ArmConfig.usbSerial ++ c.cameras.map CameraConfig.serialNumber).Nodup
  /-- No interface is there twice. -/
  interfaces : (c.arms.map ArmConfig.canInterface).Nodup

theorem cameras_ok {fields : List (String × Json)} {roles : List String}
    {cameras : List CameraConfig} (h : roles.mapM (cameraConfig fields) = .ok cameras) :
    cameras.map CameraConfig.role = roles ∧
      ∀ camera ∈ cameras, Trimmed camera.serialNumber := by
  have hall := mapM_ok (fun role camera => cameraConfig_ok) h
  clear h
  induction hall with
  | nil => simp
  | cons hcamera _ ih =>
    obtain ⟨hroles, hvalid⟩ := ih
    refine ⟨by rw [List.map_cons, hroles, hcamera.1], ?_⟩
    rw [List.forall_mem_cons]
    exact ⟨hcamera.2, hvalid⟩

/-- What is loaded is valid. -/
theorem ofPayload_valid {payload : List (String × Json)} {c : StationConfig}
    (h : ofPayload payload = .ok c) : c.Valid := by
  obtain ⟨keys, hkeys, h⟩ := bind_eq_ok h
  obtain ⟨fields, -, h⟩ := bind_eq_ok h
  obtain ⟨idValue, -, h⟩ := bind_eq_ok h
  obtain ⟨stationId, hstation, h⟩ := bind_eq_ok h
  obtain ⟨rosDomainId, hros, h⟩ := bind_eq_ok h
  obtain ⟨sdkType, -, h⟩ := bind_eq_ok h
  obtain ⟨known, hknown, h⟩ := bind_eq_ok h
  split at h
  · cases h
  rename_i hsdk
  rw [Bool.not_eq_true', Bool.not_eq_false] at hsdk
  rw [hsdk] at hknown
  obtain ⟨armsValue, -, h⟩ := bind_eq_ok h
  obtain ⟨arms, harms, h⟩ := bind_eq_ok h
  split at h
  · cases h
  rename_i hroles
  rw [Bool.not_eq_true', Bool.not_eq_false] at hroles
  obtain ⟨camerasItem, -, h⟩ := bind_eq_ok h
  obtain ⟨camerasValue, -, h⟩ := bind_eq_ok h
  obtain ⟨cameras, hcameras, h⟩ := bind_eq_ok h
  obtain ⟨triggers, htriggers, h⟩ := bind_eq_ok h
  split at h
  · cases h
  rename_i hserials
  split at h
  · cases h
  rename_i hinterfaces
  obtain ⟨ordered, hordered, h⟩ := bind_eq_ok h
  cases h
  rw [not_not] at hserials hinterfaces
  have hread := armsByRole_ok harms
  obtain ⟨hperm, hrole⟩ := armOf_ok hread hroles hordered
  obtain ⟨hcameraRoles, hcameraSerials⟩ := cameras_ok hcameras
  obtain ⟨hhasRos, hros⟩ := since_ok hros
  obtain ⟨hhasTriggers, htriggers⟩ := since_ok htriggers
  refine ⟨versionKeys_ok hkeys, nonEmptyString_ok hstation, hhasRos, fun z hz => ?_, ?_, hrole,
    fun arm harm => ?_, hcameraRoles, hcameraSerials, hhasTriggers, fun t ht => ?_, ?_, ?_⟩
  · obtain ⟨value, -, hvalue⟩ := bind_eq_ok (hros z hz)
    exact validateRosDomainId_ok hvalue
  · obtain ⟨q, hq, hnumber⟩ := inSet_ok hknown
    rcases List.mem_cons.1 hq with rfl | hq
    · exact .inl hnumber
    · rw [List.mem_singleton.1 hq] at hnumber
      exact .inr hnumber
  · obtain ⟨x, hx, rfl⟩ := List.mem_map.1 (hperm.mem_iff.2 harm)
    exact hread.valid x hx
  · obtain ⟨value, -, hvalue⟩ := bind_eq_ok (htriggers t ht)
    exact triggerConfig_ok hvalue
  · -- the order of the arms does not matter
    have husb := (hperm.map ArmConfig.usbSerial).append_right
      (cameras.map CameraConfig.serialNumber)
    rw [List.map_map] at husb
    exact husb.nodup_iff.1 hserials
  · have hcan := hperm.map ArmConfig.canInterface
    rw [List.map_map] at hcan
    exact hcan.nodup_iff.1 hinterfaces

/-! ### What is written -/

theorem foldl_insertKey {fields acc : List (String × Json)}
    (h : ((acc ++ fields).map Prod.fst).Nodup) : fields.foldl insertKey acc = acc ++ fields := by
  induction fields generalizing acc with
  | nil => rw [List.foldl_nil, List.append_nil]
  | cons f fields ih =>
    have hf : f.1 ∉ acc.map Prod.fst := by
      rw [List.map_append, List.map_cons, List.nodup_append] at h
      exact fun hmem => h.2.2 _ hmem _ List.mem_cons_self rfl
    rw [List.foldl_cons, insertKey, if_neg hf, ih (by rwa [List.append_assoc]), List.append_assoc,
      List.singleton_append]

/-- A dictionary that is built from different keys. -/
theorem dict_of_nodup {fields : List (String × Json)} (h : (fields.map Prod.fst).Nodup) :
    dict fields = .obj fields := by
  rw [dict, foldl_insertKey (by rwa [List.nil_append]), List.nil_append]

/-- The pedals are read again. -/
theorem triggerConfig_of {triggers : TriggerConfig} (h : triggers.Valid) :
    triggerConfig (dict [pedalPayload triggers.activate, pedalPayload triggers.abort]) =
      .ok triggers := by
  obtain ⟨activate, abort⟩ := triggers
  have hfirst : activate.role = "activate" := h.activateRole
  have hsecond : abort.role = "abort" := h.abortRole
  have hkeys : [pedalPayload activate, pedalPayload abort].map Prod.fst = triggerRoles := by
    simp [pedalPayload, hfirst, hsecond, triggerRoles]
  have hdict : dict [pedalPayload activate, pedalPayload abort] =
      .obj [pedalPayload activate, pedalPayload abort] :=
    dict_of_nodup (by rw [hkeys]; simp [triggerRoles])
  have hexact : requireExactKeys (.obj [pedalPayload activate, pedalPayload abort]) triggerRoles
      "triggers" = .ok [pedalPayload activate, pedalPayload abort] := by
    rw [requireExactKeys, hkeys]
    rfl
  have hactivate : pedalConfig [pedalPayload activate, pedalPayload abort] "activate" =
      .ok activate := by
    have hpedal : pedalConfig [pedalPayload activate, pedalPayload abort] activate.role =
        .ok activate := pedalConfig_of (by simp [pedalPayload]) h.activate
    rwa [hfirst] at hpedal
  have habort : pedalConfig [pedalPayload activate, pedalPayload abort] "abort" = .ok abort := by
    have hpedal : pedalConfig [pedalPayload activate, pedalPayload abort] abort.role =
        .ok abort := pedalConfig_of
          (by simp [pedalPayload, List.lookup, hfirst, hsecond]) h.abort
    rwa [hsecond] at hpedal
  simp only [triggerConfig, hdict, hexact, hactivate, habort, bind, Except.bind]
  exact if_neg h.apart

/-- The cameras are read again. -/
theorem cameras_of {cameras : List CameraConfig} (hroles : cameras.map CameraConfig.role = cameraRoles)
    (h : ∀ camera ∈ cameras, Trimmed camera.serialNumber) :
    ∃ fields, requireExactKeys (dict (cameras.map cameraPayload)) cameraRoles "cameras" =
      .ok fields ∧ cameraRoles.mapM (cameraConfig fields) = .ok cameras := by
  have hkeys : (cameras.map cameraPayload).map Prod.fst = cameraRoles := by
    rw [List.map_map, ← hroles]
    rfl
  refine ⟨cameras.map cameraPayload, ?_, ?_⟩
  · rw [dict_of_nodup (by rw [hkeys]; simp [cameraRoles]), requireExactKeys, hkeys]
    rfl
  · have hlength : cameras.length = 3 := by
      have := congrArg List.length hroles
      rwa [List.length_map] at this
    obtain ⟨c₁, c₂, c₃, rfl⟩ := List.length_eq_three.1 hlength
    simp only [List.map_cons, List.map_nil, cameraRoles, List.cons.injEq, and_true] at hroles
    obtain ⟨h₁, h₂, h₃⟩ := hroles
    have hcamera (c : CameraConfig) (hc : c ∈ [c₁, c₂, c₃]) :
        cameraConfig ([c₁, c₂, c₃].map cameraPayload) c.role = .ok c := by
      refine cameraConfig_of ?_ (h c hc)
      simp only [List.mem_cons, List.not_mem_nil, or_false] at hc
      obtain rfl | rfl | rfl := hc <;> simp [cameraPayload, List.lookup, h₁, h₂, h₃]
    have hcamera₁ := hcamera c₁ (by simp)
    have hcamera₂ := hcamera c₂ (by simp)
    have hcamera₃ := hcamera c₃ (by simp)
    rw [h₁] at hcamera₁
    rw [h₂] at hcamera₂
    rw [h₃] at hcamera₃
    simp only [cameraRoles, List.mapM_cons, List.mapM_nil, hcamera₁, hcamera₂, hcamera₃, bind,
      Except.bind]
    rfl

/-- An arm is read again. -/
theorem addArm_of (arms : Arms) {arm : ArmConfig} (hrole : arm.role = "left" ∨ arm.role = "right")
    (harms : arm.role ∉ arms.map Prod.fst) (h : arm.Valid) :
    addArm arms (armPayload arm) = .ok (arms ++ [(arm.role, arm)]) := by
  have hexact : requireExactKeys (armPayload arm) ["name", "usb_serial", "can_interface"] "arm" =
      .ok [("name", .str arm.role), ("usb_serial", .str arm.usbSerial),
        ("can_interface", .str arm.canInterface)] := rfl
  have hname : item [("name", .str arm.role), ("usb_serial", .str arm.usbSerial),
      ("can_interface", .str arm.canInterface)] "name" = .ok (.str arm.role) := rfl
  have husb : item [("name", .str arm.role), ("usb_serial", .str arm.usbSerial),
      ("can_interface", .str arm.canInterface)] "usb_serial" = .ok (.str arm.usbSerial) := rfl
  have hcan : item [("name", .str arm.role), ("usb_serial", .str arm.usbSerial),
      ("can_interface", .str arm.canInterface)] "can_interface" = .ok (.str arm.canInterface) := rfl
  have hroleOk : nonEmptyString (.str arm.role) "arm name" = .ok arm.role := by
    rcases hrole with hrole | hrole <;> rw [hrole] <;> rfl
  have hnot : ¬ (arm.role ∉ armRoles ∨ arm.role ∈ arms.map Prod.fst) := by
    rw [not_or, not_not]
    exact ⟨by simpa [armRoles] using hrole, harms⟩
  simp only [addArm, hexact, hname, hroleOk, if_neg hnot, husb, hcan,
    nonEmptyString_of h.usbSerial, nonEmptyString_of h.canInterface, bind, Except.bind]
  rfl

/-- The arms are read again. -/
theorem arms_of {arms : List ArmConfig} (hroles : arms.map ArmConfig.role = armRoles)
    (h : ∀ arm ∈ arms, arm.Valid) : ∃ read, armsByRole (.arr (arms.map armPayload)) = .ok read ∧
      sameKeys (read.map Prod.fst) armRoles = true ∧ read.map Prod.snd = arms ∧
        armRoles.mapM (armOf read) = .ok arms := by
  have hlength : arms.length = 2 := by
    have := congrArg List.length hroles
    rwa [List.length_map] at this
  obtain ⟨a₁, a₂, rfl⟩ := List.length_eq_two.1 hlength
  simp only [List.map_cons, List.map_nil, armRoles, List.cons.injEq, and_true] at hroles
  obtain ⟨h₁, h₂⟩ := hroles
  have hadd₁ := addArm_of [] (.inl h₁) (by simp) (h a₁ (by simp))
  have hadd₂ := addArm_of [(a₁.role, a₁)] (.inr h₂) (by simp [h₁, h₂]) (h a₂ (by simp))
  refine ⟨[(a₁.role, a₁), (a₂.role, a₂)], ?_, ?_, rfl, ?_⟩
  · simp only [armsByRole, List.map_cons, List.map_nil, List.foldlM_cons, List.foldlM_nil, hadd₁,
      List.nil_append, bind, Except.bind, hadd₂]
    rfl
  · rw [List.map_cons, List.map_cons, h₁, h₂]
    rfl
  · rw [h₁, h₂]
    rfl

/-- A document is loaded, if its sections are read. -/
theorem ofPayload_of {payload : List (String × Json)} {c : StationConfig} {keys : List String}
    (hversion : payload.lookup "schema_version" = some c.schemaVersion)
    (hkeys : versionKeys c.schemaVersion = .ok keys)
    (hexact : sameKeys (payload.map Prod.fst) keys = true)
    (hid : payload.lookup "station_id" = some (.str c.stationId))
    (hsdk : payload.lookup "sdk_type" = some c.sdkType)
    (harms : payload.lookup "arms" = some (.arr (c.arms.map armPayload)))
    (hcameras : payload.lookup "cameras" = some (dict (c.cameras.map cameraPayload)))
    (hros : since c.schemaVersion 3 (item payload "ros_domain_id" >>= validateRosDomainId) =
      .ok c.rosDomainId)
    (htriggers : since c.schemaVersion 2 (item payload "triggers" >>= triggerConfig) =
      .ok c.triggers) (h : c.Valid) : ofPayload payload = .ok c := by
  obtain ⟨read, hread, hroles, harm, hordered⟩ := arms_of h.armRoles h.arms
  obtain ⟨fields, hfields, hcamera⟩ := cameras_of h.cameraRoles h.cameras
  have hrequired : requireExactKeys (.obj payload) keys "station" = .ok payload := if_pos hexact
  have hitem {key : String} {value : Json} (hlookup : payload.lookup key = some value) :
      item payload key = .ok value := by rw [item, hlookup]
  have hknown : inSet c.sdkType [1, 2] = .ok true := by
    rcases h.sdkType with hnumber | hnumber <;> rw [inSet_of hnumber] <;> rfl
  have hserials : (read.map (fun arm => arm.2.usbSerial) ++
      c.cameras.map CameraConfig.serialNumber).Nodup := by
    have hnodup := h.serials
    rw [← harm, List.map_map] at hnodup
    exact hnodup
  have hinterfaces : (read.map fun arm => arm.2.canInterface).Nodup := by
    have hnodup := h.interfaces
    rw [← harm, List.map_map] at hnodup
    exact hnodup
  simp only [ofPayload, hversion, Option.getD_some, bind, Except.bind, hkeys, hrequired, hitem hid,
    nonEmptyString_of h.stationId, hitem hsdk, hknown, hitem harms, hread, hroles,
    hitem hcameras, hfields, hcamera]
  simp only [bind, Except.bind] at hros htriggers
  simp only [hros, htriggers, hserials, hinterfaces, hordered, not_true_eq_false, if_false,
    Bool.not_true, Bool.false_eq_true]
  rfl

/-! ### Versions -/

theorem since_of {α : Type} {version : Json} {n : ℚ} {read : Except StationError α}
    {value : Option α} (h : value.isSome = atLeast version n) (hread : ∀ a ∈ value, read = .ok a) :
    since version n read = .ok value := by
  cases value with
  | none => rw [since, ← h, Option.isSome_none, if_neg Bool.false_ne_true]
  | some a =>
    rw [since, ← h, Option.isSome_some, if_pos rfl, hread a rfl]
    rfl

theorem atLeast_of {version : Json} {q : ℚ} (h : version.number = some q) (n : ℚ) :
    atLeast version n = decide (n ≤ q) := by
  rw [atLeast, h]

theorem writtenVersion_low {version : Json} {n : ℕ} (h : version.number = some (n : ℚ))
    (hn : n ≤ 2) : writtenVersion version = version := by
  have hle : (n : ℚ) ≤ 2 := by exact_mod_cast hn
  refine if_neg fun hany => ?_
  obtain ⟨q, hq, hnumber⟩ := List.any_eq_true.1 hany
  rw [h, beq_iff_eq, Option.some.injEq] at hnumber
  simp only [List.mem_cons, List.not_mem_nil, or_false] at hq
  have hfive : ((stationSchemaVersion : ℤ) : ℚ) = 5 := by
    rw [stationSchemaVersion]
    norm_num
  rcases hq with rfl | rfl | rfl <;> linarith

theorem writtenVersion_high {version : Json} {n : ℕ} (h : version.number = some (n : ℚ))
    (hn : 3 ≤ n) (hn' : n ≤ 5) : writtenVersion version = .int stationSchemaVersion := by
  refine if_pos (List.any_eq_true.2 ⟨(n : ℚ), ?_, ?_⟩)
  · interval_cases n <;> simp [stationSchemaVersion]
  · rw [h, beq_self_eq_true]

@[simp] theorem writtenVersion_writtenVersion (version : Json) :
    writtenVersion (writtenVersion version) = writtenVersion version := by
  by_cases h : ([3, 4, (stationSchemaVersion : ℚ)].any fun q => version.number == some q) = true
  · have hwritten : writtenVersion version = .int stationSchemaVersion := if_pos h
    rw [hwritten]
    exact ite_self _
  · have hwritten : writtenVersion version = version := if_neg h
    rw [hwritten, hwritten]

/-- The version that is written has the same sections. -/
theorem writtenVersion_number {version : Json} {n : ℕ} (h : version.number = some (n : ℚ))
    (hn : 1 ≤ n) (hn' : n ≤ 5) : ∃ m : ℕ, 1 ≤ m ∧ m ≤ 5 ∧
      (writtenVersion version).number = some (m : ℚ) ∧ (n ≤ 2 → m = n) ∧ (3 ≤ n → m = 5) := by
  by_cases hlow : n ≤ 2
  · refine ⟨n, hn, hn', by rw [writtenVersion_low h hlow, h], fun _ => rfl, fun hhigh => ?_⟩
    omega
  · refine ⟨5, by decide, le_rfl, ?_, fun h => absurd h hlow, fun _ => rfl⟩
    rw [writtenVersion_high h (by omega) hn']
    rfl

theorem atLeast_writtenVersion {version : Json} {n k : ℕ} (h : version.number = some (n : ℚ))
    (hn : 1 ≤ n) (hn' : n ≤ 5) (hk : k ≤ 3) :
    atLeast (writtenVersion version) k = atLeast version k := by
  obtain ⟨m, -, -, hm, hlow, hhigh⟩ := writtenVersion_number h hn hn'
  rw [atLeast_of hm, atLeast_of h]
  norm_cast
  refine decide_eq_decide.2 ?_
  omega

/-- The configuration with the version that is written. -/
def migrated (c : StationConfig) : StationConfig :=
  { c with schemaVersion := writtenVersion c.schemaVersion }

@[simp] theorem migrated_migrated (c : StationConfig) : c.migrated.migrated = c.migrated := by
  rw [migrated, migrated, writtenVersion_writtenVersion]

/-- A configuration that was migrated is written as the one that it was. -/
@[simp] theorem payload_migrated (c : StationConfig) : c.migrated.payload = c.payload := by
  rw [payload, payload, migrated, writtenVersion_writtenVersion]

theorem Valid.migrated {c : StationConfig} (h : c.Valid) : c.migrated.Valid := by
  obtain ⟨n, hn, hn', hversion⟩ := h.schemaVersion
  obtain ⟨m, hm, hm', hwritten, -, -⟩ := writtenVersion_number hversion hn hn'
  have htwo := atLeast_writtenVersion (k := 2) hversion hn hn' (by decide)
  have hthree := atLeast_writtenVersion (k := 3) hversion hn hn' le_rfl
  exact {
    schemaVersion := ⟨m, hm, hm', hwritten⟩
    stationId := h.stationId
    hasRosDomainId := h.hasRosDomainId.trans hthree.symm
    rosDomainId := h.rosDomainId
    sdkType := h.sdkType
    armRoles := h.armRoles
    arms := h.arms
    cameraRoles := h.cameraRoles
    cameras := h.cameras
    hasTriggers := h.hasTriggers.trans htwo.symm
    triggers := h.triggers
    serials := h.serials
    interfaces := h.interfaces }

/-! ### Reading what was written -/

theorem payload_triggers {c : StationConfig} {t : TriggerConfig} (h : c.triggers = some t) :
    c.payload.lookup "triggers" =
      some (dict [pedalPayload t.activate, pedalPayload t.abort]) := by
  simp [payload, h, List.lookup]

theorem payload_rosDomainId {c : StationConfig} {z : ℤ} (h : c.rosDomainId = some z) :
    c.payload.lookup "ros_domain_id" = some (.int z) := by
  cases ht : c.triggers <;> simp [payload, h, ht, List.lookup]

/-- The keys that are written are those of the version. -/
theorem payload_keys {c : StationConfig} (h : c.Valid) : ∃ keys,
    versionKeys (writtenVersion c.schemaVersion) = .ok keys ∧
      sameKeys (c.payload.map Prod.fst) keys = true := by
  obtain ⟨n, hn, hn', hversion⟩ := h.schemaVersion
  have htriggers := h.hasTriggers
  have hros := h.hasRosDomainId
  rw [atLeast_of hversion] at htriggers hros
  by_cases hone : n = 1
  · subst hone
    have hnone : c.triggers = none := by simpa using htriggers
    have hnone' : c.rosDomainId = none := by simpa using hros
    refine ⟨keysV1, ?_, ?_⟩
    · rw [writtenVersion_low hversion (by decide), versionKeys, hversion, if_pos (by simp)]
    · rw [payload, hnone, hnone']
      rfl
  by_cases htwo : n = 2
  · subst htwo
    have hsome : c.triggers.isSome = true := by simpa using htriggers
    have hnone : c.rosDomainId = none := by
      rw [← Option.not_isSome_iff_eq_none, hros]
      norm_num
    obtain ⟨t, ht⟩ := Option.isSome_iff_exists.1 hsome
    refine ⟨keysV2, ?_, ?_⟩
    · rw [writtenVersion_low hversion le_rfl, versionKeys, hversion, if_neg (by norm_num),
        if_pos (by simp)]
    · rw [payload, ht, hnone]
      rfl
  · have hhigh : 3 ≤ n := by omega
    have hle : (3 : ℚ) ≤ n := by exact_mod_cast hhigh
    obtain ⟨t, ht⟩ := Option.isSome_iff_exists.1
      (htriggers.trans (decide_eq_true (by linarith)))
    obtain ⟨z, hz⟩ := Option.isSome_iff_exists.1 (hros.trans (decide_eq_true hle))
    refine ⟨keysV3, ?_, ?_⟩
    · rw [writtenVersion_high hversion hhigh hn']
      rfl
    · rw [payload, ht, hz]
      rfl

/-- What is written is loaded with the version that was written. -/
theorem ofPayload_payload {c : StationConfig} (h : c.Valid) : ofPayload c.payload = .ok c.migrated := by
  obtain ⟨keys, hkeys, hexact⟩ := payload_keys h
  have hvalid := h.migrated
  refine ofPayload_of rfl hkeys hexact rfl rfl rfl rfl (since_of hvalid.hasRosDomainId fun z hz => ?_)
    (since_of hvalid.hasTriggers fun t ht => ?_) hvalid
  · have hlookup : c.payload.lookup "ros_domain_id" = some (.int z) := payload_rosDomainId hz
    rw [item, hlookup]
    exact validateRosDomainId_of (h.rosDomainId z hz)
  · have hlookup : c.payload.lookup "triggers" =
        some (dict [pedalPayload t.activate, pedalPayload t.abort]) := payload_triggers ht
    rw [item, hlookup]
    exact triggerConfig_of (h.triggers t ht)

theorem plain_of_number {value : Json} {n : ℕ} (h : value.number = some (n : ℚ)) (hn : n ≤ 5) :
    value.plain = true := by
  cases value with
  | int z =>
    rw [Json.number, Option.some.injEq] at h
    have hz : z = n := by exact_mod_cast h
    rw [Json.plain, Json.small, hz, decide_eq_true_iff]
    omega
  | float q =>
    obtain rfl : q = some (n : ℚ) := h
    rw [Json.plain, Json.small, Rat.num_natCast, Rat.den_natCast, Bool.and_eq_true,
      decide_eq_true_iff, decide_eq_true_iff]
    exact ⟨rfl, by omega⟩
  | bool b => rfl
  | _ => cases h

theorem plainList_of {xs : List Json} (h : ∀ x ∈ xs, x.plain = true) : Json.plainList xs = true := by
  induction xs with
  | nil => rfl
  | cons x xs ih =>
    rw [List.forall_mem_cons] at h
    rw [Json.plainList, h.1, ih h.2, Bool.and_self]

theorem plainFields_of {fields : List (String × Json)} (h : ∀ f ∈ fields, f.2.plain = true) :
    Json.plainFields fields = true := by
  induction fields with
  | nil => rfl
  | cons f fields ih =>
    rw [List.forall_mem_cons] at h
    rw [Json.plainFields, h.1, ih h.2, Bool.and_self]

/-- A dictionary of different keys. -/
theorem plain_obj {fields : List (String × Json)} (hnodup : (fields.map Prod.fst).Nodup)
    (h : ∀ f ∈ fields, f.2.plain = true) : (Json.obj fields).plain = true := by
  rw [Json.plain, decide_eq_true hnodup, plainFields_of h, Bool.and_self]

theorem cameras_plain {c : StationConfig} (h : c.Valid) :
    (dict (c.cameras.map cameraPayload)).plain = true := by
  have hnodup : ((c.cameras.map cameraPayload).map Prod.fst).Nodup := by
    have hroles : (c.cameras.map cameraPayload).map Prod.fst = cameraRoles := by
      rw [List.map_map, ← h.cameraRoles]
      rfl
    rw [hroles]
    simp [cameraRoles]
  rw [dict_of_nodup hnodup]
  refine plain_obj hnodup fun f hf => ?_
  obtain ⟨camera, -, rfl⟩ := List.mem_map.1 hf
  rfl

theorem triggers_plain {t : TriggerConfig} (h : t.Valid) :
    (dict [pedalPayload t.activate, pedalPayload t.abort]).plain = true := by
  have hnodup : ([pedalPayload t.activate, pedalPayload t.abort].map Prod.fst).Nodup := by
    simp [pedalPayload, h.activateRole, h.abortRole]
  rw [dict_of_nodup hnodup]
  refine plain_obj hnodup fun f hf => ?_
  rcases List.mem_cons.1 hf with rfl | hf
  · rfl
  · rw [List.mem_singleton.1 hf]
    rfl

/-- What is written is plain. -/
theorem payload_plain {c : StationConfig} (h : c.Valid) : (Json.obj c.payload).plain = true := by
  refine plain_obj ?_ fun f hf => ?_
  · cases ht : c.triggers <;> cases hz : c.rosDomainId <;> simp [payload, ht, hz]
  simp only [payload, List.mem_append, List.mem_cons, List.not_mem_nil, or_false] at hf
  rcases hf with ((rfl | rfl | rfl | rfl | rfl) | hf) | hf
  · obtain ⟨n, hn, hn', hversion⟩ := h.schemaVersion
    obtain ⟨m, -, hm, hwritten, -, -⟩ := writtenVersion_number hversion hn hn'
    exact plain_of_number hwritten hm
  · rfl
  · rcases h.sdkType with hnumber | hnumber
    · exact plain_of_number (n := 1) (by rw [hnumber, Nat.cast_one]) (by decide)
    · exact plain_of_number (n := 2) (by rw [hnumber, Nat.cast_ofNat]) (by decide)
  · rw [Json.plain]
    refine plainList_of fun x hx => ?_
    obtain ⟨arm, -, rfl⟩ := List.mem_map.1 hx
    rfl
  · exact cameras_plain h
  · cases ht : c.triggers with
    | none => simp [ht] at hf
    | some t =>
      rw [ht] at hf
      rw [List.mem_singleton.1 hf]
      exact triggers_plain (h.triggers t ht)
  · cases hz : c.rosDomainId with
    | none => simp [hz] at hf
    | some z =>
      rw [hz] at hf
      rw [List.mem_singleton.1 hf]
      obtain ⟨hlow, hhigh⟩ := h.rosDomainId z hz
      rw [minRosDomainId] at hlow
      rw [maxRosDomainId] at hhigh
      rw [Json.plain, Json.small, decide_eq_true_iff]
      omega

/-! ### The texts -/

section Codec

variable {W : Type} {codec : Json.Codec W}

/-- What is loaded is valid. -/
theorem load_valid {read : Except String W} {c : StationConfig} (h : load codec read = .ok c) :
    c.Valid := by
  unfold load at h
  split at h
  · cases h
  · exact ofPayload_valid h
  · cases h

/-- The text of a configuration that was loaded is loaded as the configuration that is written. -/
theorem load_dumps (hcodec : codec.Faithful) {c : StationConfig} (h : c.Valid) :
    load codec (.ok (codec.dumps (.obj c.payload))) = .ok c.migrated := by
  have hloads : codec.loads (codec.dumps (.obj c.payload)) = .ok (.obj c.payload) :=
    hcodec _ (payload_plain h)
  rw [load, Except.bind, hloads]
  exact ofPayload_payload h

end Codec

end StationConfig

end DualCollection

import Switch2Bt.Codec.Octets

/-!
# Manufacturer data (`switch2d.py`, advertising)

`parseManufacturerData` reads vendor, product and reconnect address out of the manufacturer data
of an advertisement; `parseReconnectMac` classifies the reconnect address.
-/

namespace Switch2Bt

/-- Source: `switch2d.py` `NINTENDO_MFR_ID` -/
def nintendoMfrId : ℕ := 0x0553
/-- Source: `switch2d.py` `NINTENDO_VID` -/
def nintendoVid : ℕ := 0x057E
/-- Source: `switch2d.py` `PRO_CONTROLLER2_PID` -/
def proController2Pid : ℕ := 0x2069
/-- Source: `switch2d.py` `PRO_CONTROLLER2_PID_LE` -/
def proController2PidLe : Octets := [0x69, 0x20]

/-- The pairing status derived from a reconnect address. -/
structure PairingStatus where
  pairingMode : Option Bool
  pairedToHost : Option Bool
  pairedToOtherHost : Option Bool
deriving DecidableEq, Repr

/-- Whether a text is one of the falsy values `None` and `""`. -/
def falsyText : Option String → Bool
  | none => true
  | some t => t.isEmpty

/-- Strip the separators of an address text.
Source: `switch2d.py` `parse_reconnect_mac` (`cleaned`) -/
def cleanMac (t : String) : String :=
  String.ofList (((t.toList.filter (· != ':')).filter (· != '-')).filter (· != '.'))

/-- Derive the pairing status from the reconnect address.
Source: `switch2d.py` `parse_reconnect_mac` -/
def parseReconnectMac (reconnectMac : Octets) (hostMac : Option String) : PairingStatus :=
  let isZero := reconnectMac == List.replicate 6 0
  let hostBytes := if !falsyText hostMac && !isZero then
    hostMac.bind fun t => Octets.ofHex (cleanMac t) else none
  let hostParseable := hostBytes.isSome
  let matchesHost := hostBytes == some reconnectMac
  if falsyText hostMac then ⟨some isZero, none, none⟩
  else if !hostParseable then ⟨some isZero, none, none⟩
  else ⟨some isZero, some matchesHost, some (!isZero && !matchesHost)⟩

/-- What an advertisement says. -/
structure AdvInfo where
  vendorId : Option ℕ
  productId : Option ℕ
  reconnectMac : Option Octets
  status : PairingStatus
deriving DecidableEq, Repr

/-- Parse manufacturer data.
Source: `switch2d.py` `parse_manufacturer_data` -/
def parseManufacturerData (mfgData : Octets) : AdvInfo :=
  if 16 ≤ mfgData.length then
    { vendorId := some (mfgData.slice 3 5).leNat
      productId := some (mfgData.slice 5 7).leNat
      reconnectMac := some (mfgData.slice 10 16)
      status := parseReconnectMac (mfgData.slice 10 16) none }
  else ⟨none, none, none, ⟨none, none, none⟩⟩

/-- Vendor, product and reconnect address are parsed together or not at all. -/
theorem parseManufacturerData_isSome (mfgData : Octets) :
    (parseManufacturerData mfgData).vendorId.isSome = decide (16 ≤ mfgData.length) ∧
    (parseManufacturerData mfgData).productId.isSome = decide (16 ≤ mfgData.length) ∧
    (parseManufacturerData mfgData).reconnectMac.isSome = decide (16 ≤ mfgData.length) := by
  unfold parseManufacturerData
  split <;> simp [*]

end Switch2Bt

import Switch2Bt.Hosts.Scanners

/-!
# The GATT bridge (`switch2_btstack_bridge.c`)

`Globals` is the state of the program, and its three packet handlers are functions of the state that
give the state afterwards and the calls they make. What the calls do is BTstack's affair: see
`Switch2Bt.Bridge.Stack`.
-/

namespace Switch2Bt.Bridge

open Octets Sw2d

/-! ## Constants -/

/-- Source: `switch2_btstack_bridge.c` `UUID_INPUT_REPORT` -/
def uuidInputReport : Octets :=
  [0xab, 0x7d, 0xe9, 0xbe, 0x89, 0xfe, 0x49, 0xad, 0x82, 0x8f, 0x11, 0x8f, 0x09, 0xdf, 0x7f, 0xd2]

/-- Source: `switch2_btstack_bridge.c` `UUID_COMMAND_WRITE` -/
def uuidCommandWrite : Octets :=
  [0x64, 0x9d, 0x4a, 0xc9, 0x8e, 0xb7, 0x4e, 0x6c, 0xaf, 0x44, 0x1e, 0xa5, 0x4f, 0xe5, 0xf0, 0x05]

/-- Source: `switch2_btstack_bridge.c` `PAIR_KEY_1` -/
def pairKey1 : Octets :=
  [0x00, 0xea, 0xbd, 0x47, 0x13, 0x89, 0x35, 0x42, 0xc6, 0x79, 0xee, 0x07, 0xf2, 0x53, 0x2c, 0x6c,
    0x31]

/-- Source: `switch2_btstack_bridge.c` `PAIR_KEY_2` -/
def pairKey2 : Octets :=
  [0x00, 0x40, 0xb0, 0x8a, 0x5f, 0xcd, 0x1f, 0x9b, 0x41, 0x12, 0x5c, 0xac, 0xc6, 0x3f, 0x38, 0xa0,
    0x73]

/-- Source: `switch2_btstack_bridge.c` `HOST_MAC` -/
def hostMac : Octets := [0xD8, 0x3A, 0xDD, 0xE5, 0x69, 0xED]

/-- Source: `btstack` `HCI_CON_HANDLE_INVALID` -/
def hciConHandleInvalid : UInt16 := 0xffff

/-! ## State -/

/-- Source: `switch2_btstack_bridge.c` `app_state_t` -/
inductive AppState where
  | scanning
  | connecting
  | connected
  | serviceDiscovering
  | charDiscovering
  | waitEncryption
  | pairing
  | notifying
  | ready
deriving DecidableEq, Repr

/-- A characteristic as BTstack describes it.
Source: `btstack` `gatt_client_characteristic_t` -/
structure Characteristic where
  startHandle : UInt16
  valueHandle : UInt16
  endHandle : UInt16
  properties : UInt16
  uuid128 : Octets
deriving DecidableEq, Repr

/-- A characteristic of zeros (`memset`). -/
def Characteristic.zero : Characteristic := ⟨0, 0, 0, 0, List.replicate 16 0⟩

/-- The globals of the bridge. `discoverServices` holds the first `discover_service_count` entries
of the two arrays.
Source: `switch2_btstack_bridge.c` -/
structure Globals where
  appState : AppState
  remoteAddr : Addr
  remoteAddrType : UInt8
  connHandle : UInt16
  discoverServices : List (UInt16 × UInt16)
  cmdWriteChar : Characteristic
  inputReportChar : Characteristic
  pairStep : ℕ
deriving DecidableEq, Repr

/-- The globals at the start. -/
def Globals.init : Globals where
  appState := .scanning
  remoteAddr := Vector.replicate 6 0
  remoteAddrType := 0
  connHandle := hciConHandleInvalid
  discoverServices := []
  cmdWriteChar := .zero
  inputReportChar := .zero
  pairStep := 0

/-- Both characteristics are found. -/
def Globals.Found (b : Globals) : Prop :=
  b.inputReportChar.valueHandle ≠ 0 ∧ b.cmdWriteChar.valueHandle ≠ 0

instance (b : Globals) : Decidable b.Found := inferInstanceAs (Decidable (_ ∧ _))

/-- The calls of BTstack. -/
inductive Call where
  | gapSetConnectionParameters
  | gapSetScanParameters
  | gapStartScan
  | gapStopScan
  | gapConnect (addr : Addr) (addrType : UInt8)
  | gapDisconnect (handle : UInt16)
  | smRequestPairing (handle : UInt16)
  | smJustWorksConfirm (handle : UInt16)
  | smNumericComparisonConfirm (handle : UInt16)
  /-- Discover the characteristics with a UUID in the whole handle range. -/
  | discoverByUuid128 (handle : UInt16) (uuid : Octets)
  | writeValue (handle valueHandle : UInt16) (payload : Octets)
  /-- Enable notifications in the CCCD of a characteristic. -/
  | writeConfiguration (handle : UInt16) (c : Characteristic)
  | listenForUpdates (handle : UInt16) (c : Characteristic)
deriving DecidableEq, Repr

/-- What the handlers look at. -/
inductive Packet where
  | btstackState (working : Bool)
  | advertisingReport (addr : Addr) (addrType : UInt8) (data : Octets)
  | leConnectionComplete (status : UInt8) (handle : UInt16)
  | encryptionChange (status : UInt8)
  | disconnectionComplete
  | numericComparisonRequest (handle : UInt16)
  | justWorksRequest (handle : UInt16)
  | pairingComplete (status : UInt8)
  | serviceQueryResult (startHandle endHandle : UInt16)
  | characteristicQueryResult (c : Characteristic)
  | queryComplete (attStatus : UInt8)
  | other
deriving DecidableEq, Repr

/-! ## Pair sequence -/

/-- Source: `switch2_btstack_bridge.c` `build_cmd` -/
def buildCmd (cmdId subId : UInt8) (data : Octets) : Octets :=
  [cmdId, 0x91, 0x01, subId, 0x00, UInt8.ofNat data.length, 0x00, 0x00] ++ data

/-- The payload of a step of the pair sequence.
Source: `switch2_btstack_bridge.c` `write_pair_step` (`switch`) -/
def pairPayload : ℕ → Option Octets
  | 0 => some (buildCmd 0x15 0x01 ([0x00, 0x02] ++ hostMac ++ hostMac))
  | 1 => some (buildCmd 0x15 0x04 pairKey1)
  | 2 => some (buildCmd 0x15 0x02 pairKey2)
  | 3 => some (buildCmd 0x15 0x03 [0x00])
  | _ => none

/-- Source: `switch2_btstack_bridge.c` `write_pair_step` -/
def writePairStep (b : Globals) : List Call :=
  match pairPayload b.pairStep with
  | some payload => [.writeValue b.connHandle b.cmdWriteChar.valueHandle payload]
  | none => []

/-! ## Handlers -/

/-- The first result with an empty slot fills it: the input report, then the command write.
Source: `switch2_btstack_bridge.c` `gatt_client_handler`
(`GATT_EVENT_CHARACTERISTIC_QUERY_RESULT`) -/
def storeCharacteristic (c : Characteristic) (b : Globals) : Globals :=
  if b.inputReportChar.valueHandle = 0 then { b with inputReportChar := c }
  else if b.cmdWriteChar.valueHandle = 0 then { b with cmdWriteChar := c }
  else b

/-- A completed operation moves the state on.
Source: `switch2_btstack_bridge.c` `gatt_client_handler` (`GATT_EVENT_QUERY_COMPLETE`) -/
def queryComplete (att : UInt8) (b : Globals) : Globals × List Call :=
  if att ≠ 0 then (b, [.gapDisconnect b.connHandle])
  else
    match b.appState with
    | .charDiscovering =>
        if b.inputReportChar.valueHandle = 0 then
          (b, [.discoverByUuid128 b.connHandle uuidInputReport])
        else if b.cmdWriteChar.valueHandle = 0 then
          (b, [.discoverByUuid128 b.connHandle uuidCommandWrite])
        else
          let b := { b with appState := .pairing, pairStep := 0 }
          (b, writePairStep b)
    | .pairing =>
        let b := { b with pairStep := b.pairStep + 1 }
        if b.pairStep < 4 then (b, writePairStep b)
        else
          let b := { b with appState := .notifying }
          (b, [.writeConfiguration b.connHandle b.inputReportChar])
    | .notifying =>
        ({ b with appState := .ready }, [.listenForUpdates b.connHandle b.inputReportChar])
    | _ => (b, [])

/-- Source: `switch2_btstack_bridge.c` `gatt_client_handler` -/
def gattClientHandler (p : Packet) (b : Globals) : Globals × List Call :=
  match p with
  | .serviceQueryResult s e =>
      (if b.discoverServices.length < 32 then
        { b with discoverServices := b.discoverServices ++ [(s, e)] } else b, [])
  | .characteristicQueryResult c => (storeCharacteristic c b, [])
  | .queryComplete att => queryComplete att b
  | _ => (b, [])

/-- Forget the characteristics, and query the first one.
Source: `switch2_btstack_bridge.c` `sm_packet_handler` (`SM_EVENT_PAIRING_COMPLETE`),
`packet_handler` (`HCI_EVENT_ENCRYPTION_CHANGE`) -/
def startDiscovery (b : Globals) : Globals × List Call :=
  if b.appState = .waitEncryption then
    ({ b with
      appState := .charDiscovering
      discoverServices := []
      cmdWriteChar := .zero
      inputReportChar := .zero }, [.discoverByUuid128 b.connHandle uuidInputReport])
  else (b, [])

/-- Source: `switch2_btstack_bridge.c` `sm_packet_handler` -/
def smPacketHandler (p : Packet) (b : Globals) : Globals × List Call :=
  match p with
  | .numericComparisonRequest handle => (b, [.smNumericComparisonConfirm handle])
  | .justWorksRequest handle =>
      ({ b with appState := .waitEncryption }, [.smJustWorksConfirm handle])
  | .pairingComplete _ => startDiscovery b
  | _ => (b, [])

/-- Source: `switch2_btstack_bridge.c` `packet_handler` -/
def packetHandler (p : Packet) (b : Globals) : Globals × List Call :=
  match p with
  | .btstackState working =>
      if working then
        ({ b with appState := .scanning },
          [.gapSetConnectionParameters, .gapSetScanParameters, .gapStartScan])
      else (b, [])
  | .advertisingReport addr addrType data =>
      if b.appState = .scanning ∧
          Scanners.advIsNintendo data (UInt8.ofNat data.length) 0 = true then
        ({ b with appState := .connecting, remoteAddr := addr, remoteAddrType := addrType },
          [.gapStopScan, .gapConnect addr addrType])
      else (b, [])
  | .leConnectionComplete status handle =>
      let b := { b with connHandle := handle }
      if status ≠ 0 then ({ b with appState := .scanning }, [.gapStartScan])
      else ({ b with appState := .connected }, [.smRequestPairing handle])
  | .encryptionChange _ => startDiscovery b
  | .disconnectionComplete =>
      ({ b with
        connHandle := hciConHandleInvalid
        cmdWriteChar := .zero
        inputReportChar := .zero
        discoverServices := []
        appState := .scanning }, [.gapSetScanParameters, .gapStartScan])
  | p => gattClientHandler p b

end Switch2Bt.Bridge

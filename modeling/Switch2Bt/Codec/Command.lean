import Switch2Bt.Codec.Octets

/-!
# Command frames (`switch2d.py`, command building)

`buildCommand` is `build_command`, `buildSetmacPayload` the data of the SetMAC pair subcommand,
and `pairPayloads` the four frames of the pair sequence.
-/

namespace Switch2Bt

/-- The Python exceptions the daemon can meet. -/
inductive PyErr where
  | typeError
  | valueError
  | overflowError
  | attributeError
  | timeoutError
  /-- An error of the Bluetooth stack. -/
  | bleakError
deriving DecidableEq, Repr

/-- Source: `switch2d.py` `PAIR_CMD` -/
def pairCmd : UInt8 := 0x15
/-- Source: `switch2d.py` `PAIR_SUB_SET_MAC` -/
def pairSubSetMac : UInt8 := 0x01
/-- Source: `switch2d.py` `PAIR_SUB_KEY_1` -/
def pairSubKey1 : UInt8 := 0x04
/-- Source: `switch2d.py` `PAIR_SUB_KEY_2` -/
def pairSubKey2 : UInt8 := 0x02
/-- Source: `switch2d.py` `PAIR_SUB_FINISH` -/
def pairSubFinish : UInt8 := 0x03

/-- Source: `switch2d.py` `PAIR_KEY_1` -/
def pairKey1 : Octets := [
  0x00, 0xea, 0xbd, 0x47, 0x13, 0x89, 0x35, 0x42,
  0xc6, 0x79, 0xee, 0x07, 0xf2, 0x53, 0x2c, 0x6c, 0x31]

/-- Source: `switch2d.py` `PAIR_KEY_2` -/
def pairKey2 : Octets := [
  0x00, 0x40, 0xb0, 0x8a, 0x5f, 0xcd, 0x1f, 0x9b,
  0x41, 0x12, 0x5c, 0xac, 0xc6, 0x3f, 0x38, 0xa0, 0x73]

/-- A command frame. The length must fit one octet: `bytes` raises on a larger item.
Source: `switch2d.py` `build_command` -/
def buildCommand (cmdId subId : UInt8) (data : Octets) : Except PyErr Octets :=
  if data.length < 256 then
    .ok ([cmdId, 0x91, 0x01, subId, 0x00, UInt8.ofNat data.length, 0x00, 0x00] ++ data)
  else .error .valueError

/-- The SetMAC data: `00 02` and twice the host address.
Source: `switch2d.py` `_build_setmac_payload` -/
def buildSetmacPayload (hostMac : String) : Except PyErr Octets :=
  match Octets.ofHex (String.ofList (hostMac.toList.filter (· != ':'))) with
  | some macBytes => .ok ([0x00, 0x02] ++ macBytes ++ macBytes)
  | none => .error .valueError

/-- A step of the pair sequence: its name, subcommand and data. -/
structure PairStep where
  name : String
  subId : UInt8
  data : Octets

/-- The four steps of the pair sequence, given the SetMAC data.
Source: `switch2d.py` `stage_pair` (`pair_steps`) -/
def pairSteps (setmac : Octets) : List PairStep := [
  ⟨"setmac", pairSubSetMac, setmac⟩,
  ⟨"key1", pairSubKey1, pairKey1⟩,
  ⟨"key2", pairSubKey2, pairKey2⟩,
  ⟨"finish", pairSubFinish, [0x00]⟩]

end Switch2Bt

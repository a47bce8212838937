import Switch2Bt.Codec.Octets

/-!
# The events of `/dev/uhid`

A process that opened `/dev/uhid` writes events that create a HID device, feed it and destroy it,
and reads events that the kernel sends to the device. How an event lies in memory is the kernel's
affair (`linux/uhid.h`): where a program writes one, its octets are a parameter,
`UhidEvent → Octets`.
-/

namespace Switch2Bt.Uhid

/-- What a device is created with. -/
structure UhidCreate where
  name : List Char
  uniq : List Char
  bus : UInt16
  vendor : UInt32
  product : UInt32
  version : UInt32
  country : UInt32
  rdSize : ℕ
  rdData : Octets
deriving DecidableEq, Repr

/-- The events the two programs write and the one they read. -/
inductive UhidEvent where
  /-- `UHID_CREATE` -/
  | create (c : UhidCreate)
  /-- `UHID_CREATE2` -/
  | create2 (c : UhidCreate)
  /-- `UHID_DESTROY` -/
  | destroy
  /-- `UHID_INPUT`, with the octets that count. -/
  | input (data : Octets)
  /-- `UHID_INPUT2`, with the octets that count. -/
  | input2 (data : Octets)
  /-- `UHID_OUTPUT`, with the octets that count. -/
  | output (data : Octets)
  /-- Any other type. -/
  | other (type : UInt32)
deriving DecidableEq, Repr

/-- Source: `linux/input.h` `BUS_BLUETOOTH` -/
def busBluetooth : UInt16 := 0x05

/-- The room for data in an event.
Source: `linux/uhid.h` `UHID_DATA_MAX` -/
def uhidDataMax : ℕ := 4096

/-- The path of the device file. -/
def devUhid : List Char := "/dev/uhid".toList

end Switch2Bt.Uhid

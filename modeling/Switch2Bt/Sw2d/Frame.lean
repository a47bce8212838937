import Mathlib.Data.Vector.Basic
import Switch2Bt.Codec.Octets
import Switch2Bt.Codec.Reads

/-!
# HCI frames (`hci_transport_user.c`, frame parser)

`Frame` is `hci_user_frame_t`, `Frame.parse` what `hci_user_read_frame` writes into it for the
octets of one `read()`. The parser assigns some fields for some packets only, so a frame keeps
fields of what was read into it before; the buffer keeps the octets past the last read.
-/

namespace Switch2Bt.Sw2d

open Octets

/-- Source: `hci_transport_user.h` `HCI_COMMAND_PKT` -/
def hciCommandPkt : UInt8 := 0x01
/-- Source: `hci_transport_user.h` `HCI_ACLDATA_PKT` -/
def hciAcldataPkt : UInt8 := 0x02
/-- Source: `hci_transport_user.h` `HCI_EVENT_PKT` -/
def hciEventPkt : UInt8 := 0x04

/-- Source: `hci_transport_user.h` `EVT_DISCONN_COMPLETE` -/
def evtDisconnComplete : UInt8 := 0x05
/-- Source: `hci_transport_user.h` `EVT_ENCRYPT_CHANGE` -/
def evtEncryptChange : UInt8 := 0x08
/-- Source: `hci_transport_user.h` `EVT_CMD_COMPLETE` -/
def evtCmdComplete : UInt8 := 0x0e
/-- Source: `hci_transport_user.h` `EVT_CMD_STATUS` -/
def evtCmdStatus : UInt8 := 0x0f
/-- Source: `hci_transport_user.h` `EVT_LE_META` -/
def evtLeMeta : UInt8 := 0x3e
/-- Source: `hci_transport_user.h` `EVT_LE_CONN_COMPLETE` -/
def evtLeConnComplete : UInt8 := 0x01
/-- Source: `sw2d_final.c` `EVT_LE_LTK_REQUEST` -/
def evtLeLtkRequest : UInt8 := 0x05

/-- The little-endian word at a position.
Source: `hci_transport_user.c` `get_le16` -/
def getLe16 (data : Octets) (i : ℕ) : UInt16 :=
  (data.octet i).toUInt16 ||| ((data.octet (i + 1)).toUInt16 <<< 8)

/-- The octets of a little-endian word.
Source: `hci_transport_user.c` `put_le16` -/
def putLe16 (v : UInt16) : Octets := [v.toUInt8, (v >>> 8).toUInt8]

/-- A word is its two octets. -/
theorem getLe16_toNat (data : Octets) (i : ℕ) :
    (getLe16 data i).toNat = (data.octet i).toNat + 256 * (data.octet (i + 1)).toNat := by
  have hlow := (data.octet i).toNat_lt
  have hhigh := (data.octet (i + 1)).toNat_lt
  have hshift : (data.octet (i + 1)).toNat <<< 8 % 2 ^ 16 =
      (data.octet (i + 1)).toNat <<< 8 := by
    rw [Nat.shiftLeft_eq]
    omega
  unfold getLe16
  rw [UInt16.toNat_or, UInt8.toNat_toUInt16, UInt16.toNat_shiftLeft, UInt8.toNat_toUInt16,
    show (8 : UInt16).toNat % 16 = 8 from rfl, hshift, Nat.or_comm,
    ← Nat.shiftLeft_add_eq_or_of_lt (by omega), Nat.shiftLeft_eq]
  omega

/-- A word behind the first octets. -/
theorem getLe16_drop (data : Octets) (k i : ℕ) :
    getLe16 (data.drop k) i = getLe16 data (k + i) := by
  unfold getLe16
  rw [octet_drop, octet_drop, Nat.add_assoc]

/-- Reading the little-endian word at a position.
Source: `sw2d_final.c`, `sw2d.c` `get_le16` -/
def readLe16 (i : ℕ) : Reads ℕ UInt8 UInt16 := do
  let lo ← Reads.cell i
  let hi ← Reads.cell (i + 1)
  pure (lo.toUInt16 ||| (hi.toUInt16 <<< 8))

@[simp] theorem readLe16_run (data : Octets) (i : ℕ) :
    (readLe16 i).run data.octet = getLe16 data i := rfl

theorem readLe16_sat {mem : ℕ → UInt8} {P : ℕ → Prop} {i : ℕ} (h : P i) (h' : P (i + 1)) :
    (readLe16 i).Sat mem P fun _ => True :=
  Reads.Sat.cell_bind h (Reads.Sat.cell_bind h' (Reads.Sat.pure trivial))

/-- A parsed frame; `payloadOff` is the distance of `payload` from the start of the buffer `raw`.
Source: `hci_transport_user.h` `hci_user_frame_t` -/
structure Frame where
  pktType : UInt8
  evtCode : UInt8
  subevent : UInt8
  status : UInt8
  opcode : UInt16
  handle : UInt16
  cid : UInt16
  aclLen : UInt16
  l2capLen : UInt16
  payloadOff : ℕ
  payloadLen : UInt16
  raw : Octets
  rawLen : UInt16
deriving DecidableEq, Repr

/-- The octet `payload[i]`. -/
def Frame.payload (f : Frame) (i : ℕ) : UInt8 := f.raw.octet (f.payloadOff + i)

/-- The word at `payload + i`. -/
def Frame.payloadLe16 (f : Frame) (i : ℕ) : UInt16 := getLe16 f.raw (f.payloadOff + i)

/-- The first `n` octets at `payload`. -/
def Frame.payloadTake (f : Frame) (n : ℕ) : Octets := (List.range n).map f.payload

@[simp] theorem Frame.payloadTake_length (f : Frame) (n : ℕ) : (f.payloadTake n).length = n := by
  simp [payloadTake]

theorem Frame.payloadTake_octet (f : Frame) {n i : ℕ} (h : i < n) :
    (f.payloadTake n).octet i = f.payload i := by
  simp [payloadTake, octet, h]

/-- The event branch of the parser.
Source: `hci_transport_user.c` `hci_user_read_frame` (`HCI_EVENT_PKT`) -/
def Frame.parseEvent (f : Frame) : Frame :=
  let f := { f with
    evtCode := f.raw.octet 1
    payloadOff := 3
    payloadLen := (f.raw.octet 2).toUInt16
    subevent := 0
    status := 0
    opcode := 0 }
  let f := if f.evtCode = evtLeMeta ∧ 2 ≤ f.payloadLen then { f with subevent := f.payload 0 }
    else f
  let f := if f.evtCode = evtCmdStatus ∧ 4 ≤ f.payloadLen then
      { f with status := f.payload 0, opcode := f.payloadLe16 2 } else f
  let f := if f.evtCode = evtDisconnComplete ∧ 4 ≤ f.payloadLen then
      { f with handle := f.payloadLe16 1 &&& 0x0fff, status := f.payload 3 } else f
  if f.evtCode = evtEncryptChange ∧ 4 ≤ f.payloadLen then
    { f with status := f.payload 0, handle := f.payloadLe16 1 &&& 0x0fff } else f

/-- The ACL branch of the parser.
Source: `hci_transport_user.c` `hci_user_read_frame` (`HCI_ACLDATA_PKT`) -/
def Frame.parseAcl (f : Frame) : Frame :=
  { f with
    handle := getLe16 f.raw 1 &&& 0x0fff
    aclLen := getLe16 f.raw 3
    l2capLen := getLe16 f.raw 5
    cid := getLe16 f.raw 7
    payloadOff := 9
    payloadLen := getLe16 f.raw 5 }

/-- What a `read()` of the given octets leaves in the frame.
Source: `hci_transport_user.c` `hci_user_read_frame` (after `read`) -/
def Frame.parse (f : Frame) (data : Octets) : Frame :=
  let f := { f with
    raw := data ++ f.raw.drop data.length
    rawLen := UInt16.ofNat data.length
    pktType := data.octet 0 }
  if f.pktType = hciEventPkt ∧ 3 ≤ data.length then f.parseEvent
  else if f.pktType = hciAcldataPkt ∧ 9 ≤ data.length then f.parseAcl
  else f

/-! ## What the parser reads -/

/-- The buffer starts with the octets read. -/
theorem octet_read {data rest : Octets} {i : ℕ} (h : i < data.length) :
    octet (data ++ rest) i = data.octet i := by
  simp [octet, List.getD, List.getElem?_append_left h]

/-- A word of what was read, in the buffer. -/
theorem getLe16_append {data rest : Octets} {i : ℕ} (h : i + 1 < data.length) :
    getLe16 (data ++ rest) i = getLe16 data i := by
  unfold getLe16
  rw [octet_read (by omega), octet_read h]

@[simp] theorem Frame.parse_pktType (f : Frame) (data : Octets) :
    (f.parse data).pktType = data.octet 0 := by
  simp only [Frame.parse, Frame.parseEvent, Frame.parseAcl]
  split_ifs <;> rfl

@[simp] theorem Frame.parse_raw (f : Frame) (data : Octets) :
    (f.parse data).raw = data ++ f.raw.drop data.length := by
  simp only [Frame.parse, Frame.parseEvent, Frame.parseAcl]
  split_ifs <;> rfl

/-- The fields every event of at least three octets sets. -/
theorem Frame.parse_event {f : Frame} {data : Octets} (hpkt : data.octet 0 = hciEventPkt)
    (hlen : 3 ≤ data.length) :
    (f.parse data).evtCode = data.octet 1 ∧ (f.parse data).payloadOff = 3 ∧
      (f.parse data).payloadLen = (data.octet 2).toUInt16 := by
  have h1 : octet (data ++ f.raw.drop data.length) 1 = data.octet 1 := octet_read (by omega)
  have h2 : octet (data ++ f.raw.drop data.length) 2 = data.octet 2 := octet_read (by omega)
  simp only [Frame.parse, hpkt, hlen, and_self, if_true, Frame.parseEvent, h1, h2]
  split_ifs <;> exact ⟨rfl, rfl, rfl⟩

/-- The subevent is read for an LE Meta event that has room for one. -/
theorem Frame.parse_subevent {f : Frame} {data : Octets} (hpkt : data.octet 0 = hciEventPkt)
    (hlen : 3 ≤ data.length) : (f.parse data).subevent =
      if data.octet 1 = evtLeMeta ∧ 2 ≤ (data.octet 2).toUInt16 then (f.parse data).raw.octet 3
      else 0 := by
  have h1 : octet (data ++ f.raw.drop data.length) 1 = data.octet 1 := octet_read (by omega)
  have h2 : octet (data ++ f.raw.drop data.length) 2 = data.octet 2 := octet_read (by omega)
  simp only [Frame.parse, hpkt, hlen, and_self, if_true, Frame.parseEvent, h1, h2, Frame.payload]
  split_ifs <;> rfl

/-- The fields an ACL packet of at least nine octets sets. -/
theorem Frame.parse_acl {f : Frame} {data : Octets} (hpkt : data.octet 0 = hciAcldataPkt)
    (hlen : 9 ≤ data.length) :
    (f.parse data).handle = getLe16 data 1 &&& 0x0fff ∧ (f.parse data).aclLen = getLe16 data 3 ∧
      (f.parse data).cid = getLe16 data 7 ∧ (f.parse data).payloadOff = 9 ∧
      (f.parse data).payloadLen = getLe16 data 5 := by
  have hne : ¬ (hciAcldataPkt = hciEventPkt ∧ 3 ≤ data.length) := fun h => nomatch h.1
  have hraw : f.parse data = Frame.parseAcl { f with
      raw := data ++ f.raw.drop data.length
      rawLen := UInt16.ofNat data.length
      pktType := data.octet 0 } := by
    simp only [Frame.parse, hpkt]
    rw [if_neg hne, if_pos ⟨trivial, hlen⟩]
  rw [hraw]
  unfold Frame.parseAcl
  refine ⟨?_, ?_, ?_, rfl, ?_⟩
  · exact congrArg (· &&& 0x0fff) (getLe16_append (by omega))
  · exact getLe16_append (by omega)
  · exact getLe16_append (by omega)
  · exact getLe16_append (by omega)

end Switch2Bt.Sw2d

import Switch2Bt.Sw2d.Frame

/-!
# Frames and the octets received (`hci_transport_user.c`, `hci_user_read_frame`)

A frame is parsed into a structure that is used again and again, out of a buffer that keeps the
octets past the last read. Two questions about what it says:

* **Bounds** (`insideReceived_iff`): the payload lies inside the octets received iff the length
  field of the header does not promise more than came.
* **Own octets** (`ownOctets_iff`): the frame says the same whatever the structure held before iff
  the octets reach as far as the parser reads them. A packet shorter than its header leaves the
  fields of the packet before it, an event that is shorter than its length field says is filled up
  with what the buffer held.
-/

namespace Switch2Bt.Sw2d

open Octets

/-! ## Bounds -/

/-- The parser sets `payload` and `payload_len`.
Source: `hci_transport_user.c` `hci_user_read_frame` (the two conditions) -/
def SetsPayload (data : Octets) : Prop :=
  data.octet 0 = hciEventPkt ∧ 3 ≤ data.length ∨ data.octet 0 = hciAcldataPkt ∧ 9 ≤ data.length

/-- The octets of the payload that are read behind a check of `payload_len`. -/
inductive Frame.Consumes (f : Frame) : ℕ → Prop where
  /-- Source: `sw2d_final.c` `rx_await` (extract `conn_handle`) -/
  | connComplete (h : 19 ≤ f.payloadLen) (i : ℕ) (hi : i < 19) : f.Consumes i
  /-- Source: `sw2d_final.c` `rx_await` (`memcpy`) -/
  | awaited (cap i : ℕ) (hi : i < min f.payloadLen.toNat cap) : f.Consumes i
  /-- Source: `sw2d_final.c` `rx_await_acl` (`memcpy`) -/
  | acl (i : ℕ) (hi : i < f.payloadLen.toNat) : f.Consumes i
  /-- Source: `sw2d_final.c` `main` (3a) -/
  | ltkRequest (h : 13 ≤ f.payloadLen) (i : ℕ) (hi : i = 1 ∨ i = 2) : f.Consumes i
  /-- The opcode and the handle of a notification, then its value.
  Source: `sw2d_final.c` `main` (phase 5) -/
  | report (h : 3 ≤ f.payloadLen) (i : ℕ) (hi : i < 3 ∨ i - 3 < f.payloadLen.toNat - 3) :
      f.Consumes i

/-- What is read behind a check of `payload_len` lies inside the payload. -/
theorem Frame.Consumes.lt {f : Frame} {i : ℕ} (h : f.Consumes i) : i < f.payloadLen.toNat := by
  cases h with
  | connComplete h _ hi => exact lt_of_lt_of_le hi (UInt16.le_iff_toNat_le.mp h)
  | awaited cap _ hi => exact lt_of_lt_of_le hi (Nat.min_le_left _ _)
  | acl _ hi => exact hi
  | ltkRequest h _ hi =>
      have hlen : 13 ≤ f.payloadLen.toNat := UInt16.le_iff_toNat_le.mp h
      omega
  | report h _ hi =>
      have hlen : 3 ≤ f.payloadLen.toNat := UInt16.le_iff_toNat_le.mp h
      omega

/-- The payload the parser sets lies inside the octets received, and so does every octet that is
read behind a check of `payload_len`. -/
structure InsideReceived (f : Frame) (data : Octets) : Prop where
  bound : SetsPayload data →
    (f.parse data).payloadOff + (f.parse data).payloadLen.toNat ≤ data.length
  consumed : SetsPayload data → ∀ i, (f.parse data).Consumes i →
    (f.parse data).payloadOff + i < data.length ∧
      (f.parse data).payload i = data.octet ((f.parse data).payloadOff + i)

/-- A packet with a whole header is as long as its length field says. -/
structure HoldsPayload (data : Octets) : Prop where
  event : data.octet 0 = hciEventPkt → 3 ≤ data.length → 3 + (data.octet 2).toNat ≤ data.length
  acl : data.octet 0 = hciAcldataPkt → 9 ≤ data.length →
    9 + (getLe16 data 5).toNat ≤ data.length

/-- The end of the payload of an event. -/
theorem Frame.parse_event_end {f : Frame} {data : Octets} (hpkt : data.octet 0 = hciEventPkt)
    (hlen : 3 ≤ data.length) : (f.parse data).payloadOff + (f.parse data).payloadLen.toNat =
      3 + (data.octet 2).toNat := by
  obtain ⟨-, hoff, hplen⟩ := Frame.parse_event (f := f) hpkt hlen
  rw [hoff, hplen, UInt8.toNat_toUInt16]

/-- The end of the payload of an ACL packet. -/
theorem Frame.parse_acl_end {f : Frame} {data : Octets} (hpkt : data.octet 0 = hciAcldataPkt)
    (hlen : 9 ≤ data.length) : (f.parse data).payloadOff + (f.parse data).payloadLen.toNat =
      9 + (getLe16 data 5).toNat := by
  obtain ⟨-, -, -, hoff, hplen⟩ := Frame.parse_acl (f := f) hpkt hlen
  rw [hoff, hplen]

/-- A payload inside the octets received is there as a whole. -/
theorem InsideReceived.holds {f : Frame} {data : Octets} (h : InsideReceived f data) :
    HoldsPayload data := by
  refine ⟨fun hpkt hlen => ?_, fun hpkt hlen => ?_⟩
  · rw [← Frame.parse_event_end (f := f) hpkt hlen]
    exact h.bound (.inl ⟨hpkt, hlen⟩)
  · rw [← Frame.parse_acl_end (f := f) hpkt hlen]
    exact h.bound (.inr ⟨hpkt, hlen⟩)

/-- **Bounds**: the payload lies inside the octets received iff a packet with a whole header is as
long as its length field says.
Source: `hci_transport_user.c` `hci_user_read_frame` -/
theorem insideReceived_iff (f : Frame) (data : Octets) :
    InsideReceived f data ↔ HoldsPayload data := by
  refine ⟨InsideReceived.holds, fun h => ?_⟩
  have hbound : SetsPayload data →
      (f.parse data).payloadOff + (f.parse data).payloadLen.toNat ≤ data.length := by
    rintro (⟨hpkt, hlen⟩ | ⟨hpkt, hlen⟩)
    · rw [Frame.parse_event_end hpkt hlen]
      exact h.event hpkt hlen
    · rw [Frame.parse_acl_end hpkt hlen]
      exact h.acl hpkt hlen
  refine ⟨hbound, fun hset i hi => ?_⟩
  have hlt : (f.parse data).payloadOff + i < data.length :=
    lt_of_lt_of_le (Nat.add_lt_add_left hi.lt _) (hbound hset)
  refine ⟨hlt, ?_⟩
  unfold Frame.payload
  rw [Frame.parse_raw]
  exact octet_read hlt

/-- A word with two equal octets. -/
def twice (x : UInt8) : UInt16 := getLe16 [x, x] 0

/-- The structure filled with one octet; `payload` points to the buffer. -/
def Frame.filled (x : UInt8) : Frame where
  pktType := x
  evtCode := x
  subevent := x
  status := x
  opcode := twice x
  handle := twice x
  cid := twice x
  aclLen := twice x
  l2capLen := twice x
  payloadOff := 0
  payloadLen := twice x
  raw := List.replicate 512 x
  rawLen := twice x

/-- A Command Status that ends before its parameters, in a cleared structure. -/
theorem not_insideReceived_truncated : ¬InsideReceived (Frame.filled 0) [0x04, 0x0f, 0x04] := by
  intro h
  exact absurd (h.holds.event rfl (by decide)) (by decide)

/-! ## Own octets -/

/-- Two frames that say the same: what is valid for the type of the packet is equal. -/
structure Frame.SaysSame (f g : Frame) : Prop where
  pktType : f.pktType = g.pktType
  event : f.pktType = hciEventPkt → f.evtCode = g.evtCode ∧ f.subevent = g.subevent ∧
    f.status = g.status ∧ f.opcode = g.opcode ∧ f.payloadLen = g.payloadLen
  eventHandle : f.pktType = hciEventPkt →
    f.evtCode = evtDisconnComplete ∨ f.evtCode = evtEncryptChange → f.handle = g.handle
  acl : f.pktType = hciAcldataPkt →
    f.handle = g.handle ∧ f.cid = g.cid ∧ f.payloadLen = g.payloadLen

/-- What a frame says of the octets received does not depend on what the structure held. -/
def OwnOctets (data : Octets) : Prop :=
  ∀ f₀ f₁ : Frame, f₀.raw.length = 512 → f₁.raw.length = 512 →
    (f₀.parse data).SaysSame (f₁.parse data)

/-- The octets reach as far as the parser reads them. -/
structure Reaches (data : Octets) : Prop where
  event : data.octet 0 = hciEventPkt → 3 ≤ data.length
  acl : data.octet 0 = hciAcldataPkt → 9 ≤ data.length
  leMeta : data.octet 0 = hciEventPkt → data.octet 1 = evtLeMeta →
    2 ≤ (data.octet 2).toUInt16 → 4 ≤ data.length
  cmdStatus : data.octet 0 = hciEventPkt → data.octet 1 = evtCmdStatus →
    4 ≤ (data.octet 2).toUInt16 → 7 ≤ data.length
  disconnComplete : data.octet 0 = hciEventPkt → data.octet 1 = evtDisconnComplete →
    4 ≤ (data.octet 2).toUInt16 ∧ 7 ≤ data.length
  encryptChange : data.octet 0 = hciEventPkt → data.octet 1 = evtEncryptChange →
    4 ≤ (data.octet 2).toUInt16 ∧ 6 ≤ data.length

/-! ### What each event sets -/

section events

variable {f : Frame} {data : Octets}

/-- The frame after the header of an event.
Source: `hci_transport_user.c` `hci_user_read_frame` (`HCI_EVENT_PKT`, first assignments) -/
def Frame.eventHeader (f : Frame) (data : Octets) : Frame :=
  { f with
    raw := data ++ f.raw.drop data.length
    rawLen := UInt16.ofNat data.length
    pktType := hciEventPkt
    evtCode := data.octet 1
    payloadOff := 3
    payloadLen := (data.octet 2).toUInt16
    subevent := 0
    status := 0
    opcode := 0 }

/-- Source: `hci_transport_user.c` `hci_user_read_frame` (`EVT_LE_META`) -/
def Frame.readLeMeta (f : Frame) : Frame :=
  if f.evtCode = evtLeMeta ∧ 2 ≤ f.payloadLen then { f with subevent := f.payload 0 } else f

/-- Source: `hci_transport_user.c` `hci_user_read_frame` (`EVT_CMD_STATUS`) -/
def Frame.readCmdStatus (f : Frame) : Frame :=
  if f.evtCode = evtCmdStatus ∧ 4 ≤ f.payloadLen then
    { f with status := f.payload 0, opcode := f.payloadLe16 2 } else f

/-- Source: `hci_transport_user.c` `hci_user_read_frame` (`EVT_DISCONN_COMPLETE`) -/
def Frame.readDisconnComplete (f : Frame) : Frame :=
  if f.evtCode = evtDisconnComplete ∧ 4 ≤ f.payloadLen then
    { f with handle := f.payloadLe16 1 &&& 0x0fff, status := f.payload 3 } else f

/-- Source: `hci_transport_user.c` `hci_user_read_frame` (`EVT_ENCRYPT_CHANGE`) -/
def Frame.readEncryptChange (f : Frame) : Frame :=
  if f.evtCode = evtEncryptChange ∧ 4 ≤ f.payloadLen then
    { f with status := f.payload 0, handle := f.payloadLe16 1 &&& 0x0fff } else f

theorem Frame.readLeMeta_skip (h : f.evtCode ≠ evtLeMeta) : f.readLeMeta = f :=
  if_neg fun hc => h hc.1

theorem Frame.readCmdStatus_skip (h : f.evtCode ≠ evtCmdStatus) : f.readCmdStatus = f :=
  if_neg fun hc => h hc.1

theorem Frame.readDisconnComplete_skip (h : f.evtCode ≠ evtDisconnComplete) :
    f.readDisconnComplete = f := if_neg fun hc => h hc.1

theorem Frame.readEncryptChange_skip (h : f.evtCode ≠ evtEncryptChange) :
    f.readEncryptChange = f := if_neg fun hc => h hc.1

/-- An event of at least three octets: the header, then what its code asks for. -/
theorem Frame.parse_eventHeader (hpkt : data.octet 0 = hciEventPkt) (hlen : 3 ≤ data.length) :
    f.parse data =
      (f.eventHeader data).readLeMeta.readCmdStatus.readDisconnComplete.readEncryptChange := by
  have h1 : octet (data ++ f.raw.drop data.length) 1 = data.octet 1 := octet_read (by omega)
  have h2 : octet (data ++ f.raw.drop data.length) 2 = data.octet 2 := octet_read (by omega)
  have hheader : f.eventHeader data = { f with
      raw := data ++ f.raw.drop data.length
      rawLen := UInt16.ofNat data.length
      pktType := data.octet 0
      evtCode := octet (data ++ f.raw.drop data.length) 1
      payloadOff := 3
      payloadLen := (octet (data ++ f.raw.drop data.length) 2).toUInt16
      subevent := 0
      status := 0
      opcode := 0 } := by
    rw [h1, h2, hpkt]
    rfl
  rw [hheader]
  unfold Frame.parse
  rw [if_pos ⟨hpkt, hlen⟩]
  rfl

/-- An LE Meta event sets the subevent. -/
theorem Frame.parse_leMeta (hpkt : data.octet 0 = hciEventPkt) (hlen : 3 ≤ data.length)
    (hcode : data.octet 1 = evtLeMeta) : f.parse data = (f.eventHeader data).readLeMeta := by
  have hkeep : (f.eventHeader data).readLeMeta.evtCode = evtLeMeta := by
    unfold Frame.readLeMeta
    split <;> exact hcode
  rw [Frame.parse_eventHeader hpkt hlen,
    Frame.readCmdStatus_skip (by rw [hkeep]; decide),
    Frame.readDisconnComplete_skip (by rw [hkeep]; decide),
    Frame.readEncryptChange_skip (by rw [hkeep]; decide)]

/-- A Command Status sets the status and the opcode. -/
theorem Frame.parse_cmdStatus (hpkt : data.octet 0 = hciEventPkt) (hlen : 3 ≤ data.length)
    (hcode : data.octet 1 = evtCmdStatus) : f.parse data = (f.eventHeader data).readCmdStatus := by
  have hkeep : (f.eventHeader data).readCmdStatus.evtCode = evtCmdStatus := by
    unfold Frame.readCmdStatus
    split <;> exact hcode
  rw [Frame.parse_eventHeader hpkt hlen,
    Frame.readLeMeta_skip (by rw [show (f.eventHeader data).evtCode = _ from hcode]; decide),
    Frame.readDisconnComplete_skip (by rw [hkeep]; decide),
    Frame.readEncryptChange_skip (by rw [hkeep]; decide)]

/-- A Disconnection Complete sets the handle and the status. -/
theorem Frame.parse_disconnComplete (hpkt : data.octet 0 = hciEventPkt) (hlen : 3 ≤ data.length)
    (hcode : data.octet 1 = evtDisconnComplete) :
    f.parse data = (f.eventHeader data).readDisconnComplete := by
  have hkeep : (f.eventHeader data).readDisconnComplete.evtCode = evtDisconnComplete := by
    unfold Frame.readDisconnComplete
    split <;> exact hcode
  rw [Frame.parse_eventHeader hpkt hlen,
    Frame.readLeMeta_skip (by rw [show (f.eventHeader data).evtCode = _ from hcode]; decide),
    Frame.readCmdStatus_skip (by rw [show (f.eventHeader data).evtCode = _ from hcode]; decide),
    Frame.readEncryptChange_skip (by rw [hkeep]; decide)]

/-- An Encryption Change sets the status and the handle. -/
theorem Frame.parse_encryptChange (hpkt : data.octet 0 = hciEventPkt) (hlen : 3 ≤ data.length)
    (hcode : data.octet 1 = evtEncryptChange) :
    f.parse data = (f.eventHeader data).readEncryptChange := by
  rw [Frame.parse_eventHeader hpkt hlen,
    Frame.readLeMeta_skip (by rw [show (f.eventHeader data).evtCode = _ from hcode]; decide),
    Frame.readCmdStatus_skip (by rw [show (f.eventHeader data).evtCode = _ from hcode]; decide),
    Frame.readDisconnComplete_skip
      (by rw [show (f.eventHeader data).evtCode = _ from hcode]; decide)]

/-- Any other event sets nothing besides the header. -/
theorem Frame.parse_otherEvent (hpkt : data.octet 0 = hciEventPkt) (hlen : 3 ≤ data.length)
    (hcode : data.octet 1 ∉ [evtLeMeta, evtCmdStatus, evtDisconnComplete, evtEncryptChange]) :
    f.parse data = f.eventHeader data := by
  simp only [List.mem_cons, List.not_mem_nil, or_false, not_or] at hcode
  obtain ⟨hmeta, hstatus, hdisconn, hencrypt⟩ := hcode
  rw [Frame.parse_eventHeader hpkt hlen, Frame.readLeMeta_skip hmeta,
    Frame.readCmdStatus_skip hstatus, Frame.readDisconnComplete_skip hdisconn,
    Frame.readEncryptChange_skip hencrypt]

/-- A packet that is shorter than its header leaves all but its type. -/
theorem Frame.parse_short (hevent : data.octet 0 = hciEventPkt → data.length < 3)
    (hacl : data.octet 0 = hciAcldataPkt → data.length < 9) : f.parse data =
      { f with
        raw := data ++ f.raw.drop data.length
        rawLen := UInt16.ofNat data.length
        pktType := data.octet 0 } := by
  unfold Frame.parse
  rw [if_neg fun h => absurd h.2 (by have := hevent h.1; omega),
    if_neg fun h => absurd h.2 (by have := hacl h.1; omega)]

end events

/-! ### Octets that reach far enough -/

section reaches

variable {f g : Frame} {data : Octets}

/-- What the header holds of the octets received. -/
theorem Frame.eventHeader_octet {i : ℕ} (h : i < data.length) :
    (f.eventHeader data).raw.octet i = data.octet i := octet_read h

theorem Frame.eventHeader_word {i : ℕ} (h : i + 1 < data.length) :
    getLe16 (f.eventHeader data).raw i = getLe16 data i := getLe16_append h

/-- Two events that agree in all that is valid for an event. -/
theorem Frame.saysSame_event (hf : f.pktType = hciEventPkt) (hg : g.pktType = hciEventPkt)
    (hcode : f.evtCode = g.evtCode) (hsub : f.subevent = g.subevent) (hstatus : f.status = g.status)
    (hopcode : f.opcode = g.opcode) (hlen : f.payloadLen = g.payloadLen)
    (hhandle : f.evtCode = evtDisconnComplete ∨ f.evtCode = evtEncryptChange →
      f.handle = g.handle) : f.SaysSame g where
  pktType := hf.trans hg.symm
  event _ := ⟨hcode, hsub, hstatus, hopcode, hlen⟩
  eventHandle _ := hhandle
  acl h := absurd (hf.symm.trans h) (by decide)

/-- An event that reaches far enough says the same in every structure. -/
theorem Reaches.saysSame_event (h : Reaches data) (hpkt : data.octet 0 = hciEventPkt) :
    (f.parse data).SaysSame (g.parse data) := by
  have hlen := h.event hpkt
  by_cases hmeta : data.octet 1 = evtLeMeta
  · have hother : ¬(data.octet 1 = evtDisconnComplete ∨ data.octet 1 = evtEncryptChange) := by
      rw [hmeta]
      decide
    rw [Frame.parse_leMeta hpkt hlen hmeta, Frame.parse_leMeta hpkt hlen hmeta]
    unfold Frame.readLeMeta
    by_cases htwo : 2 ≤ (data.octet 2).toUInt16
    · have hreach := h.leMeta hpkt hmeta htwo
      rw [if_pos ⟨hmeta, htwo⟩, if_pos ⟨hmeta, htwo⟩]
      refine Frame.saysSame_event rfl rfl rfl ?_ rfl rfl rfl fun hc => absurd hc hother
      exact (Frame.eventHeader_octet hreach).trans (Frame.eventHeader_octet hreach).symm
    · rw [if_neg fun hc => htwo hc.2, if_neg fun hc => htwo hc.2]
      exact Frame.saysSame_event rfl rfl rfl rfl rfl rfl rfl fun hc => absurd hc hother
  by_cases hstatus : data.octet 1 = evtCmdStatus
  · have hother : ¬(data.octet 1 = evtDisconnComplete ∨ data.octet 1 = evtEncryptChange) := by
      rw [hstatus]
      decide
    rw [Frame.parse_cmdStatus hpkt hlen hstatus, Frame.parse_cmdStatus hpkt hlen hstatus]
    unfold Frame.readCmdStatus
    by_cases hfour : 4 ≤ (data.octet 2).toUInt16
    · have hreach := h.cmdStatus hpkt hstatus hfour
      rw [if_pos ⟨hstatus, hfour⟩, if_pos ⟨hstatus, hfour⟩]
      refine Frame.saysSame_event rfl rfl rfl rfl ?_ ?_ rfl fun hc => absurd hc hother
      · have h3 : 3 < data.length := by omega
        exact (Frame.eventHeader_octet h3).trans (Frame.eventHeader_octet h3).symm
      · have h6 : 5 + 1 < data.length := by omega
        exact (Frame.eventHeader_word h6).trans (Frame.eventHeader_word h6).symm
    · rw [if_neg fun hc => hfour hc.2, if_neg fun hc => hfour hc.2]
      exact Frame.saysSame_event rfl rfl rfl rfl rfl rfl rfl fun hc => absurd hc hother
  by_cases hdisconn : data.octet 1 = evtDisconnComplete
  · obtain ⟨hfour, hreach⟩ := h.disconnComplete hpkt hdisconn
    rw [Frame.parse_disconnComplete hpkt hlen hdisconn,
      Frame.parse_disconnComplete hpkt hlen hdisconn]
    unfold Frame.readDisconnComplete
    rw [if_pos ⟨hdisconn, hfour⟩, if_pos ⟨hdisconn, hfour⟩]
    have h5 : 4 + 1 < data.length := by omega
    refine Frame.saysSame_event rfl rfl rfl rfl ?_ rfl rfl fun _ => ?_
    · exact (Frame.eventHeader_octet hreach).trans (Frame.eventHeader_octet hreach).symm
    · exact congrArg (· &&& 0x0fff)
        ((Frame.eventHeader_word h5).trans (Frame.eventHeader_word h5).symm)
  by_cases hencrypt : data.octet 1 = evtEncryptChange
  · obtain ⟨hfour, hreach⟩ := h.encryptChange hpkt hencrypt
    rw [Frame.parse_encryptChange hpkt hlen hencrypt, Frame.parse_encryptChange hpkt hlen hencrypt]
    unfold Frame.readEncryptChange
    rw [if_pos ⟨hencrypt, hfour⟩, if_pos ⟨hencrypt, hfour⟩]
    have h3 : 3 < data.length := by omega
    refine Frame.saysSame_event rfl rfl rfl rfl ?_ rfl rfl fun _ => ?_
    · exact (Frame.eventHeader_octet h3).trans (Frame.eventHeader_octet h3).symm
    · exact congrArg (· &&& 0x0fff)
        ((Frame.eventHeader_word hreach).trans (Frame.eventHeader_word hreach).symm)
  · have hother : data.octet 1 ∉
      [evtLeMeta, evtCmdStatus, evtDisconnComplete, evtEncryptChange] := by
      simp [hmeta, hstatus, hdisconn, hencrypt]
    rw [Frame.parse_otherEvent hpkt hlen hother, Frame.parse_otherEvent hpkt hlen hother]
    refine Frame.saysSame_event rfl rfl rfl rfl rfl rfl rfl fun hc => ?_
    exact (hc.elim hdisconn hencrypt).elim

/-- Octets that reach far enough say the same in every structure. -/
theorem Reaches.ownOctets (h : Reaches data) : OwnOctets data := by
  intro f₀ f₁ _ _
  by_cases hevent : data.octet 0 = hciEventPkt
  · exact h.saysSame_event hevent
  by_cases hacl : data.octet 0 = hciAcldataPkt
  · have hlen := h.acl hacl
    obtain ⟨hhandle, -, hcid, -, hplen⟩ := Frame.parse_acl (f := f₀) hacl hlen
    obtain ⟨hhandle', -, hcid', -, hplen'⟩ := Frame.parse_acl (f := f₁) hacl hlen
    refine ⟨by simp, fun hpkt => ?_, fun hpkt => ?_, fun _ => ⟨?_, ?_, ?_⟩⟩
    · exact absurd ((Frame.parse_pktType f₀ data).symm.trans hpkt) hevent
    · exact absurd ((Frame.parse_pktType f₀ data).symm.trans hpkt) hevent
    · exact hhandle.trans hhandle'.symm
    · exact hcid.trans hcid'.symm
    · exact hplen.trans hplen'.symm
  · refine ⟨by simp, fun hpkt => ?_, fun hpkt => ?_, fun hpkt => ?_⟩
    · exact absurd ((Frame.parse_pktType f₀ data).symm.trans hpkt) hevent
    · exact absurd ((Frame.parse_pktType f₀ data).symm.trans hpkt) hevent
    · exact absurd ((Frame.parse_pktType f₀ data).symm.trans hpkt) hacl

end reaches

/-! ### Octets that do not -/

section short

variable {data : Octets}

/-- Past the octets received the buffer holds what it held. -/
theorem octet_filled {x : UInt8} {i : ℕ} (h : data.length ≤ i) (hi : i < 512) :
    octet (data ++ (Frame.filled x).raw.drop data.length) i = x := by
  have hraw : (Frame.filled x).raw = List.replicate 512 x := rfl
  have hdrop : i - data.length < 512 - data.length := by omega
  rw [octet, hraw, List.drop_replicate, List.getD, List.getElem?_append_right h,
    List.getElem?_replicate,
    if_pos hdrop, Option.getD_some]

/-- Two words that hold 0 and 255 in the same place, above any low octets. -/
theorem getLe16_ne {a b : Octets} {i : ℕ} (ha : a.octet (i + 1) = 0) (hb : b.octet (i + 1) = 255) :
    getLe16 a i &&& 0x0fff ≠ getLe16 b i &&& 0x0fff := by
  intro h
  have hnat := congrArg UInt16.toNat h
  have hlow := (a.octet i).toNat_lt
  have hlow' := (b.octet i).toNat_lt
  have hmask : (0x0fff : UInt16).toNat = 2 ^ 12 - 1 := rfl
  rw [UInt16.toNat_and, UInt16.toNat_and, hmask, Nat.and_two_pow_sub_one_eq_mod,
    Nat.and_two_pow_sub_one_eq_mod, getLe16_toNat, getLe16_toNat, ha, hb] at hnat
  have hzero : (0 : UInt8).toNat = 0 := rfl
  have hfull : (255 : UInt8).toNat = 255 := rfl
  omega

/-- The two structures the proof compares: what they hold differs in every octet. -/
theorem OwnOctets.filled (h : OwnOctets data) :
    ((Frame.filled 0).parse data).SaysSame ((Frame.filled 255).parse data) :=
  h _ _ (List.length_replicate ..) (List.length_replicate ..)

/-- What says the same in every structure reaches far enough. -/
theorem OwnOctets.reaches (h : OwnOctets data) : Reaches data := by
  have hsame := h.filled
  have hevent : data.octet 0 = hciEventPkt → 3 ≤ data.length := by
    intro hpkt
    by_contra hlen
    have hacl : data.octet 0 = hciAcldataPkt → data.length < 9 := fun hc =>
      absurd (hpkt.symm.trans hc) (by decide)
    have hcode := (hsame.event ((Frame.parse_pktType _ _).trans hpkt)).1
    rw [Frame.parse_short (fun _ => by omega) hacl, Frame.parse_short (fun _ => by omega) hacl]
      at hcode
    have hfilled : (0 : UInt8) = 255 := hcode
    exact absurd hfilled (by decide)
  refine ⟨hevent, ?_, ?_, ?_, ?_, ?_⟩
  · intro hpkt
    by_contra hlen
    have hno : data.octet 0 = hciEventPkt → data.length < 3 := fun hc =>
      absurd (hpkt.symm.trans hc) (by decide)
    have hcid := (hsame.acl ((Frame.parse_pktType _ _).trans hpkt)).2.1
    rw [Frame.parse_short hno (fun _ => by omega), Frame.parse_short hno (fun _ => by omega)]
      at hcid
    have hfilled : twice 0 = twice 255 := hcid
    exact absurd hfilled (by decide)
  · intro hpkt hmeta htwo
    by_contra hlen
    have hsub := (hsame.event ((Frame.parse_pktType _ _).trans hpkt)).2.1
    rw [Frame.parse_leMeta hpkt (hevent hpkt) hmeta, Frame.parse_leMeta hpkt (hevent hpkt) hmeta]
      at hsub
    unfold Frame.readLeMeta at hsub
    rw [if_pos ⟨hmeta, htwo⟩, if_pos ⟨hmeta, htwo⟩] at hsub
    have hstale : octet (data ++ (Frame.filled 0).raw.drop data.length) 3 =
        octet (data ++ (Frame.filled 255).raw.drop data.length) 3 := hsub
    rw [octet_filled (by omega) (by decide), octet_filled (by omega) (by decide)] at hstale
    exact absurd hstale (by decide)
  · intro hpkt hstatus hfour
    by_contra hlen
    have hopcode := (hsame.event ((Frame.parse_pktType _ _).trans hpkt)).2.2.2.1
    rw [Frame.parse_cmdStatus hpkt (hevent hpkt) hstatus,
      Frame.parse_cmdStatus hpkt (hevent hpkt) hstatus] at hopcode
    unfold Frame.readCmdStatus at hopcode
    rw [if_pos ⟨hstatus, hfour⟩, if_pos ⟨hstatus, hfour⟩] at hopcode
    exact getLe16_ne (i := 5) (octet_filled (by omega) (by decide))
      (octet_filled (by omega) (by decide)) (congrArg (· &&& 0x0fff) hopcode)
  · intro hpkt hdisconn
    have hpar := (Frame.parse_pktType (Frame.filled 0) data).trans hpkt
    have hstatus := (hsame.event hpar).2.2.1
    have hhandle := hsame.eventHandle hpar
    rw [Frame.parse_disconnComplete hpkt (hevent hpkt) hdisconn,
      Frame.parse_disconnComplete hpkt (hevent hpkt) hdisconn] at hstatus hhandle
    unfold Frame.readDisconnComplete at hstatus hhandle
    by_cases hfour : 4 ≤ (data.octet 2).toUInt16
    · refine ⟨hfour, ?_⟩
      by_contra hlen
      rw [if_pos ⟨hdisconn, hfour⟩, if_pos ⟨hdisconn, hfour⟩] at hstatus
      have hstale : octet (data ++ (Frame.filled 0).raw.drop data.length) 6 =
          octet (data ++ (Frame.filled 255).raw.drop data.length) 6 := hstatus
      rw [octet_filled (by omega) (by decide), octet_filled (by omega) (by decide)] at hstale
      exact absurd hstale (by decide)
    · rw [if_neg fun hc => hfour hc.2, if_neg fun hc => hfour hc.2] at hhandle
      have hfilled : twice 0 = twice 255 := hhandle (.inl hdisconn)
      exact absurd hfilled (by decide)
  · intro hpkt hencrypt
    have hpar := (Frame.parse_pktType (Frame.filled 0) data).trans hpkt
    have hhandle := hsame.eventHandle hpar
    rw [Frame.parse_encryptChange hpkt (hevent hpkt) hencrypt,
      Frame.parse_encryptChange hpkt (hevent hpkt) hencrypt] at hhandle
    unfold Frame.readEncryptChange at hhandle
    by_cases hfour : 4 ≤ (data.octet 2).toUInt16
    · refine ⟨hfour, ?_⟩
      by_contra hlen
      rw [if_pos ⟨hencrypt, hfour⟩, if_pos ⟨hencrypt, hfour⟩] at hhandle
      exact getLe16_ne (i := 4) (octet_filled (by omega) (by decide))
        (octet_filled (by omega) (by decide)) (hhandle (.inr hencrypt))
    · rw [if_neg fun hc => hfour hc.2, if_neg fun hc => hfour hc.2] at hhandle
      have hfilled : twice 0 = twice 255 := hhandle (.inr hencrypt)
      exact absurd hfilled (by decide)

end short

/-- **Own octets**: what a frame says of the octets received is independent of what the structure
held iff the octets reach as far as the parser reads them.
Source: `hci_transport_user.c` `hci_user_read_frame` -/
theorem ownOctets_iff (data : Octets) : OwnOctets data ↔ Reaches data :=
  ⟨OwnOctets.reaches, Reaches.ownOctets⟩

/-- An event of which only the type came. -/
theorem not_ownOctets_type : ¬OwnOctets [0x04] := by
  intro h
  exact absurd (h.reaches.event rfl) (by decide)

end Switch2Bt.Sw2d

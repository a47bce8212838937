import Switch2Bt.Codec.Command

/-!
# The command encoders in C (`switch2_protocol.c`, `switch2_btstack_bridge.c`, `switch2-bt.c`)

Three more encoders of the command frame `buildCommand` builds, and the C builder of the SetMAC
data. A C function that is handed a pointer takes an `Option` (`none` is `NULL`); its result is
`none` where the call reads or writes outside an object.

**The wire format** (`oneWireFormat_iff`): the four encoders agree, and the frame can be read
back, exactly for payloads of at most 247 octets. **The address** (`setMacAgrees_iff`): the two
builders of the SetMAC data agree exactly on addresses that read the same in both directions.
-/

namespace Switch2Bt

/-! ## The encoders -/

/-- What a builder leaves behind: its return value, the output buffer and the length cell. -/
structure Built where
  ret : ℤ
  outBuf : Option Octets
  outLen : Option UInt8
deriving DecidableEq, Repr

/-- Source: `src/switch2_protocol.c` `switch2_build_command` -/
def switch2BuildCommand (cmdId subId : UInt8) (data : Option Octets) (dataLen : UInt8)
    (outBuf : Option Octets) (outLen : Option UInt8) : Option Built :=
  match outBuf, outLen with
  | some buf, some _ =>
      if 0 < dataLen ∧ data = none then some ⟨-1, outBuf, outLen⟩
      else do
        let buf ← Octets.memcpy buf 0
          [cmdId, 0x91, 0x01, subId, 0x00, dataLen, 0x00, 0x00] 8
        let buf ← if 0 < dataLen then Octets.memcpy buf 8 (data.getD []) dataLen.toNat
          else some buf
        -- `uint8_t`: the sum wraps
        some ⟨0, some buf, some (8 + dataLen)⟩
  | _, _ => some ⟨-1, outBuf, outLen⟩

/-- The buffer afterwards and the length returned, an `int`.
Source: `switch2_btstack_bridge.c` `build_cmd` -/
def buildCmd (cmdId subId : UInt8) (data : Option Octets) (dataLen : UInt8) (out : Octets) :
    Option (Octets × ℤ) := do
  let out ← Octets.memcpy out 0 [cmdId, 0x91, 0x01, subId, 0x00, dataLen, 0x00, 0x00] 8
  let out ← if dataLen ≠ 0 then Octets.memcpy out 8 (data.getD []) dataLen.toNat else some out
  some (out, 8 + dataLen.toNat)

/-- Source: `switch2-bt.c` `build_nwcp` -/
def buildNwcp (hdr : Octets) (cmd sub : UInt8) (dlen : ℕ) : Option Octets :=
  Octets.memcpy hdr 0 [cmd, 0x91, 0x01, sub, 0, UInt8.ofNat (dlen &&& 0xFF),
    UInt8.ofNat ((dlen >>> 8) &&& 0xFF), 0] 8

/-- The local buffer `buf` once the header and the payload are in it.
Source: `switch2-bt.c` `nwcp_send_cmd` (first half) -/
def nwcpFrame (buf : Octets) (cmd sub : UInt8) (data : Option Octets) (dlen : ℕ) :
    Option Octets := do
  let buf ← buildNwcp buf cmd sub dlen
  if data.isSome ∧ dlen ≠ 0 then Octets.memcpy buf 8 (data.getD []) dlen else some buf

/-- What is handed to `gatt_write`, out of the local buffers `buf[256]` and `framed[256+33]`.
Source: `switch2-bt.c` `nwcp_send_cmd` -/
def nwcpSendCmd (buf framed : Octets) (cmd sub : UInt8) (data : Option Octets) (dlen : ℕ) :
    Option Octets := do
  let buf ← nwcpFrame buf cmd sub data dlen
  let framed ← Octets.memcpy framed 0 (List.replicate 33 0) 33
  let framed ← Octets.memcpy framed 33 buf (8 + dlen)
  some (framed.take (33 + (8 + dlen)))

/-! ## One wire format -/

/-- The eight octets before a payload of `n` octets. -/
def frameHeader (cmdId subId n : UInt8) : Octets := [cmdId, 0x91, 0x01, subId, 0x00, n, 0x00, 0x00]

/-- The four encoders turn a command into the same frame. A payload pointer may be `NULL` when the
payload is empty, the output buffers are as long as the header of `switch2_build_command` demands,
and the local buffer of `nwcp_send_cmd` has 256 octets. -/
structure EncodersAgree (cmdId subId : UInt8) (data frame : Octets) : Prop where
  python : buildCommand cmdId subId data = .ok frame
  length : frame.length = 8 + data.length
  protocol : ∀ ptr outBuf outLen, ptr.getD [] = data → 8 + data.length ≤ outBuf.length →
    ∃ len, len.toNat = frame.length ∧
      switch2BuildCommand cmdId subId ptr (UInt8.ofNat data.length) (some outBuf) (some outLen) =
        some ⟨0, some (frame ++ outBuf.drop frame.length), some len⟩
  bridge : ∀ ptr out, ptr.getD [] = data → 8 + data.length ≤ out.length →
    buildCmd cmdId subId ptr (UInt8.ofNat data.length) out =
      some (frame ++ out.drop frame.length, (frame.length : ℤ))
  nwcp : ∀ ptr buf, ptr.getD [] = data → buf.length = 256 →
    ∃ buf', nwcpFrame buf cmdId subId ptr data.length = some buf' ∧ buf'.take 8 = frame.take 8

/-- The frame says where it ends and what it was built from. -/
structure SelfDelimiting (cmdId subId : UInt8) (data frame : Octets) : Prop where
  lengthOctet : (frame.octet 5).toNat = (frame.drop 8).length
  delimits : ∀ rest, (frame ++ rest).take (8 + ((frame ++ rest).octet 5).toNat) = frame
  recovers : frame.octet 0 = cmdId ∧ frame.octet 3 = subId ∧ frame.drop 8 = data
  injective : ∀ c s d, buildCommand c s d = .ok frame → c = cmdId ∧ s = subId ∧ d = data

/-- One wire format for a command: a frame on which the encoders agree and that can be read
back. -/
def OneWireFormat (cmdId subId : UInt8) (data : Octets) : Prop :=
  ∃ frame, EncodersAgree cmdId subId data frame ∧ SelfDelimiting cmdId subId data frame

@[simp] theorem frameHeader_length (cmdId subId n : UInt8) :
    (frameHeader cmdId subId n).length = 8 := rfl

/-- The Python encoder accepts payloads below 256 octets and puts the header in front. -/
theorem buildCommand_eq_ok {cmdId subId : UInt8} {data frame : Octets} :
    buildCommand cmdId subId data = .ok frame ↔
      data.length < 256 ∧ frame = frameHeader cmdId subId (UInt8.ofNat data.length) ++ data := by
  unfold buildCommand frameHeader
  by_cases h : data.length < 256
  · rw [if_pos h, Except.ok.injEq, and_iff_right h]
    exact eq_comm
  · simp [h]

theorem toNat_ofNat_length {data : Octets} (h : data.length < 256) :
    (UInt8.ofNat data.length).toNat = data.length := by
  rw [UInt8.toNat_ofNat']
  exact Nat.mod_eq_of_lt h

/-- A non-zero length octet comes with a payload. -/
theorem ofNat_length_pos {data : Octets} (h : data.length < 256) :
    0 < UInt8.ofNat data.length ↔ data ≠ [] := by
  rw [UInt8.lt_iff_toNat_lt, toNat_ofNat_length h, ← List.length_pos_iff]
  rfl

/-- Header and payload in a buffer that is long enough: the header is written first, the payload
behind it unless it is empty, then `k` goes on. -/
theorem memcpy_frame {α : Type} {hdr data out : Octets} (hdr8 : hdr.length = 8)
    (hout : 8 + data.length ≤ out.length) {p : Prop} [Decidable p] (hp : ¬p → data = [])
    (k : Octets → Option α) :
    ((Octets.memcpy out 0 hdr 8).bind fun out =>
      if p then (Octets.memcpy out 8 data data.length).bind k else k out) =
      k (hdr ++ data ++ out.drop (8 + data.length)) := by
  have h₁ : Octets.memcpy out 0 hdr 8 = some (hdr ++ out.drop 8) := by
    rw [← hdr8]
    exact Octets.memcpy_zero hdr out (by omega)
  have h₂ := Octets.memcpy_append hdr data (out.drop 8) (by rw [List.length_drop]; omega)
  rw [hdr8, List.drop_drop] at h₂
  rw [h₁, Option.bind_some]
  by_cases h : p
  · rw [if_pos h, h₂, Option.bind_some]
  · rw [if_neg h, hp h]
    simp

/-- `switch2_build_command` on a payload a length octet can count: the buffer is right, the length
cell holds the sum modulo 256. -/
theorem switch2BuildCommand_eq {cmdId subId : UInt8} {data : Octets} (hd : data.length < 256)
    {ptr : Option Octets} (hptr : ptr.getD [] = data) {outBuf : Octets} (outLen : UInt8)
    (hout : 8 + data.length ≤ outBuf.length) :
    switch2BuildCommand cmdId subId ptr (UInt8.ofNat data.length) (some outBuf) (some outLen) =
      some ⟨0, some (frameHeader cmdId subId (UInt8.ofNat data.length) ++ data ++
        outBuf.drop (8 + data.length)), some (8 + UInt8.ofNat data.length)⟩ := by
  have hnull : ¬(0 < UInt8.ofNat data.length ∧ ptr = none) := by
    rintro ⟨hpos, rfl⟩
    exact (ofNat_length_pos hd).mp hpos hptr.symm
  have hbuf := memcpy_frame (frameHeader_length cmdId subId (UInt8.ofNat data.length)) hout
    (p := 0 < UInt8.ofNat data.length) (fun h => not_not.mp (mt (ofNat_length_pos hd).mpr h))
    fun buf => some (⟨0, some buf, some (8 + UInt8.ofNat data.length)⟩ : Built)
  unfold switch2BuildCommand
  simp only [if_neg hnull, hptr, toNat_ofNat_length hd, Option.bind_eq_bind, Option.bind_some]
  exact hbuf

/-- `build_cmd` on the same payloads. -/
theorem buildCmd_eq {cmdId subId : UInt8} {data : Octets} (hd : data.length < 256)
    {ptr : Option Octets} (hptr : ptr.getD [] = data) {out : Octets}
    (hout : 8 + data.length ≤ out.length) :
    buildCmd cmdId subId ptr (UInt8.ofNat data.length) out =
      some (frameHeader cmdId subId (UInt8.ofNat data.length) ++ data ++
        out.drop (8 + data.length), ((8 + data.length : ℕ) : ℤ)) := by
  have hbuf := memcpy_frame (frameHeader_length cmdId subId (UInt8.ofNat data.length)) hout
    (p := UInt8.ofNat data.length ≠ 0)
    (by
      intro h
      have hz : ¬0 < UInt8.ofNat data.length := by
        rw [not_not.mp h]
        decide
      exact not_not.mp (mt (ofNat_length_pos hd).mpr hz))
    fun buf => some (buf, 8 + (data.length : ℤ))
  unfold buildCmd
  simp only [hptr, toNat_ofNat_length hd, Option.bind_eq_bind, Option.bind_some]
  push_cast
  exact hbuf

/-- `nwcp_send_cmd` fills its local buffer for payloads that fit it. -/
theorem nwcpFrame_eq {cmd sub : UInt8} {data : Octets} (hd : data.length < 256)
    {ptr : Option Octets} (hptr : ptr.getD [] = data) {buf : Octets}
    (hbuf : 8 + data.length ≤ buf.length) :
    nwcpFrame buf cmd sub ptr data.length =
      some (frameHeader cmd sub (UInt8.ofNat data.length) ++ data ++
        buf.drop (8 + data.length)) := by
  have hlow : data.length &&& 0xFF = data.length := by
    rw [show (0xFF : ℕ) = 2 ^ 8 - 1 from rfl, Nat.and_two_pow_sub_one_eq_mod]
    exact Nat.mod_eq_of_lt hd
  have hhigh : (data.length >>> 8) &&& 0xFF = 0 := by
    rw [Nat.shiftRight_eq_div_pow, Nat.div_eq_of_lt hd]
    rfl
  have hsend := memcpy_frame (frameHeader_length cmd sub (UInt8.ofNat data.length)) hbuf
    (p := ptr.isSome ∧ data.length ≠ 0) (by
      intro h
      rcases ptr with _ | d
      · exact hptr.symm
      · exact List.eq_nil_of_length_eq_zero (by simpa using h)) some
  unfold nwcpFrame buildNwcp
  rw [hptr, hlow, hhigh]
  simp only [Option.bind_fun_some] at hsend
  exact hsend

/-- A frame built from a payload of fewer than 256 octets says where it ends and what it was
built from. -/
theorem selfDelimiting {cmdId subId : UInt8} {data : Octets} (hd : data.length < 256) :
    SelfDelimiting cmdId subId data
      (frameHeader cmdId subId (UInt8.ofNat data.length) ++ data) := by
  have hoctet : ∀ rest, ((frameHeader cmdId subId (UInt8.ofNat data.length) ++ data ++
      rest).octet 5).toNat = data.length := fun _ => toNat_ofNat_length hd
  refine ⟨?_, ?_, ?_, ?_⟩
  · simpa using hoctet []
  · intro rest
    rw [hoctet]
    exact List.take_left' (by simp [Nat.add_comm])
  · exact ⟨rfl, rfl, rfl⟩
  · intro c s d h
    obtain ⟨-, hf⟩ := buildCommand_eq_ok.mp h
    have hc : cmdId = c := congrArg (·.octet 0) hf
    have hs : subId = s := congrArg (·.octet 3) hf
    have hdd : data = d := congrArg (·.drop 8) hf
    exact ⟨hc.symm, hs.symm, hdd.symm⟩

/-- The length cell holds the length of the frame iff the sum does not wrap. -/
theorem outLen_toNat_eq {data : Octets} (hd : data.length < 256) :
    (8 + UInt8.ofNat data.length).toNat = 8 + data.length ↔ data.length ≤ 247 := by
  rw [UInt8.toNat_add, toNat_ofNat_length hd]
  change (8 + data.length) % 256 = 8 + data.length ↔ _
  omega

/-- **One wire format**: the encoders agree on a frame that can be read back iff the payload has
at most 247 octets. Above that the `uint8_t` length cell of `switch2_build_command` wraps. -/
theorem oneWireFormat_iff (cmdId subId : UInt8) (data : Octets) :
    OneWireFormat cmdId subId data ↔ data.length ≤ 247 := by
  constructor
  · rintro ⟨frame, hagree, -⟩
    obtain ⟨hd, -⟩ := buildCommand_eq_ok.mp hagree.python
    obtain ⟨len, hlen, hbuilt⟩ := hagree.protocol (some data)
      (List.replicate (8 + data.length) 0) 0 rfl (by simp)
    rw [switch2BuildCommand_eq hd rfl 0 (by simp)] at hbuilt
    simp only [Option.some.injEq, Built.mk.injEq] at hbuilt
    apply (outLen_toNat_eq hd).mp
    rw [hbuilt.2.2, hlen, hagree.length]
  · intro h
    have hd : data.length < 256 := by omega
    refine ⟨_, ⟨buildCommand_eq_ok.mpr ⟨hd, rfl⟩, ?_, ?_, ?_, ?_⟩, selfDelimiting hd⟩
    · simp [Nat.add_comm]
    · intro ptr outBuf outLen hptr hout
      refine ⟨8 + UInt8.ofNat data.length, ?_, ?_⟩
      · rw [(outLen_toNat_eq hd).mpr h]
        simp [Nat.add_comm]
      · rw [switch2BuildCommand_eq hd hptr outLen hout]
        simp [Nat.add_comm]
    · intro ptr out hptr hout
      rw [buildCmd_eq hd hptr hout]
      simp [Nat.add_comm]
    · intro ptr buf hptr hbuf
      exact ⟨_, nwcpFrame_eq hd hptr (by omega), rfl⟩

/-- The payload of 255 zeros that `test_commands.py` accepts: the length cell reads 7. -/
theorem not_oneWireFormat_255 :
    switch2BuildCommand 0x10 0x20 (some (List.replicate 255 0)) 255
      (some (List.replicate 263 0)) (some 0) =
      some ⟨0, some (frameHeader 0x10 0x20 255 ++ List.replicate 255 0), some 7⟩ ∧
    ¬OneWireFormat 0x10 0x20 (List.replicate 255 0) := by
  refine ⟨by decide +kernel, ?_⟩
  rw [oneWireFormat_iff]
  decide +kernel

/-! ## The address of SetMAC -/

/-- Source: `src/switch2_protocol.c` `switch2_build_pair_setmac` -/
def switch2BuildPairSetmac (hostMac outBuf : Option Octets) (outLen : Option UInt8) :
    Option Built :=
  if hostMac = none ∨ outBuf = none ∨ outLen = none then some ⟨-1, outBuf, outLen⟩
  else do
    let buf ← Octets.memcpy (outBuf.getD []) 0 [0x00, 0x02] 2
    let buf ← Octets.memcpy buf 2 (hostMac.getD []) 6
    let buf ← Octets.memcpy buf 8 (hostMac.getD []) 6
    some ⟨0, some buf, some 14⟩

/-- A Bluetooth address, most significant octet first. -/
structure BdAddr where
  octets : Octets
  length_eq : octets.length = 6

namespace BdAddr

/-- The text `get_host_bluetooth_mac` returns: lower-case digits, separated by colons. -/
def text (a : BdAddr) : String := Octets.hexSep ":" a.octets

/-- The address as the header of `switch2_build_pair_setmac` demands it. -/
def littleEndian (a : BdAddr) : Octets := a.octets.reverse

@[simp] theorem littleEndian_length (a : BdAddr) : a.littleEndian.length = 6 := by
  simp [littleEndian, a.length_eq]

/-- The documented data of SetMAC: `00 02` and twice `host_mac(6LE)`. -/
def setMacData (a : BdAddr) : Octets := [0x00, 0x02] ++ a.littleEndian ++ a.littleEndian

end BdAddr

/-- Both builders produce the documented data. -/
structure SetMacAgrees (a : BdAddr) : Prop where
  python : buildSetmacPayload a.text = .ok a.setMacData
  protocol : ∀ outBuf outLen, 14 ≤ outBuf.length →
    switch2BuildPairSetmac (some a.littleEndian) (some outBuf) (some outLen) =
      some ⟨0, some (a.setMacData ++ outBuf.drop 14), some 14⟩

/-- The Python builder keeps the order of the text. -/
theorem buildSetmacPayload_text (a : BdAddr) :
    buildSetmacPayload a.text = .ok ([0x00, 0x02] ++ a.octets ++ a.octets) := by
  unfold buildSetmacPayload BdAddr.text
  rw [Octets.ofHex_filter_hexSep]

/-- The C builder produces the documented data. -/
theorem switch2BuildPairSetmac_eq (a : BdAddr) {outBuf : Octets} (outLen : UInt8)
    (h : 14 ≤ outBuf.length) :
    switch2BuildPairSetmac (some a.littleEndian) (some outBuf) (some outLen) =
      some ⟨0, some (a.setMacData ++ outBuf.drop 14), some 14⟩ := by
  have hlen := a.littleEndian_length
  have h₁ : Octets.memcpy outBuf 0 [0x00, 0x02] 2 =
      some ([0x00, 0x02] ++ outBuf.drop 2) :=
    Octets.memcpy_zero [0x00, 0x02] outBuf (by simp; omega)
  have h₂ : Octets.memcpy ([0x00, 0x02] ++ outBuf.drop 2) 2 a.littleEndian 6 =
      some ([0x00, 0x02] ++ a.littleEndian ++ outBuf.drop 8) := by
    have := Octets.memcpy_append [0x00, 0x02] a.littleEndian (outBuf.drop 2)
      (by rw [hlen, List.length_drop]; omega)
    rwa [hlen, List.drop_drop] at this
  have h₃ : Octets.memcpy ([0x00, 0x02] ++ a.littleEndian ++ outBuf.drop 8) 8 a.littleEndian 6 =
      some (a.setMacData ++ outBuf.drop 14) := by
    have := Octets.memcpy_append ([0x00, 0x02] ++ a.littleEndian) a.littleEndian (outBuf.drop 8)
      (by rw [hlen, List.length_drop]; omega)
    rwa [hlen, List.drop_drop, List.length_append, hlen] at this
  unfold switch2BuildPairSetmac
  simp only [reduceCtorEq, or_self, if_false, Option.getD_some, Option.bind_eq_bind, h₁, h₂, h₃,
    Option.bind_some]

/-- **The address of SetMAC**: the two builders produce the documented data iff the address reads
the same in both directions. On any other address the Python builder sends it reversed. -/
theorem setMacAgrees_iff (a : BdAddr) : SetMacAgrees a ↔ a.octets.reverse = a.octets := by
  constructor
  · intro h
    have hpy := h.python
    rw [buildSetmacPayload_text, Except.ok.injEq] at hpy
    unfold BdAddr.setMacData at hpy
    rw [List.append_assoc, List.append_assoc, List.append_right_inj] at hpy
    exact (List.append_inj_left hpy (by simp [a.length_eq])).symm
  · intro h
    refine ⟨?_, fun _ outLen hout => switch2BuildPairSetmac_eq a outLen hout⟩
    rw [buildSetmacPayload_text, BdAddr.setMacData, BdAddr.littleEndian, h]

/-- On `aa:bb:cc:dd:ee:ff` the Python builder sends the most significant octet first. -/
theorem not_setMacAgrees :
    buildSetmacPayload "aa:bb:cc:dd:ee:ff" = .ok [0x00, 0x02, 0xaa, 0xbb, 0xcc, 0xdd, 0xee, 0xff,
      0xaa, 0xbb, 0xcc, 0xdd, 0xee, 0xff] ∧
    ¬SetMacAgrees ⟨[0xaa, 0xbb, 0xcc, 0xdd, 0xee, 0xff], rfl⟩ := by
  refine ⟨buildSetmacPayload_text ⟨[0xaa, 0xbb, 0xcc, 0xdd, 0xee, 0xff], rfl⟩, ?_⟩
  rw [setMacAgrees_iff]
  decide

end Switch2Bt

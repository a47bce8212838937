import Switch2Bt.Sw2d.Rules

/-!
# ACL framing (`hci_transport_user.c`)

What `hci_user_acl_send` writes, read back by `hci_user_read_frame`. The sender's buffer has room
for a header and 512 octets of payload; `raw` has 512 octets for both. A payload comes back whole
iff it has at most 503 octets (`aclFraming_iff`): of a longer one the tail is not read, while
`payload_len` still counts it.
-/

namespace Switch2Bt.Sw2d

open Await Octets

/-! ## Statement -/

/-- What `hci_user_acl_send` writes; `none` where it refuses the payload. -/
def aclWritten (handle cid : UInt16) (data : Octets) : Option Octets :=
  if 512 < data.length then none else some (aclPacket handle cid data)

/-- The sender writes `aclWritten`, in one call, or nothing. -/
theorem hciUserAclSend_eq (handle cid : UInt16) (data : Octets) :
    hciUserAclSend handle cid data = (match aclWritten handle cid data with
      | none => pure false
      | some packet => do
          let ok ← call (.write packet)
          emit (.acl handle cid data ok)
          pure ok) := by
  unfold hciUserAclSend aclWritten
  by_cases h : 512 < data.length
  · rw [if_pos h, if_pos h]
  · rw [if_neg h, if_neg h]

/-- A frame carries a payload: the header fields are those of the sender, and each octet of the
payload lies inside `raw`. -/
structure Frame.Carries (f : Frame) (handle cid : UInt16) (data : Octets) : Prop where
  pktType : f.pktType = hciAcldataPkt
  handle : f.handle = handle
  cid : f.cid = cid
  payloadLen : f.payloadLen.toNat = data.length
  aclLen : f.aclLen.toNat = data.length + 4
  inside : ∀ i < data.length, f.payloadOff + i < f.raw.length
  payload : ∀ i < data.length, f.payload i = data.octet i

/-- Reading returns 1, with a frame that carries the payload. -/
def ReadsBack (env : HostEnv) (r : Run World) (place : Place) (f : Frame) (timeoutMs : ℤ)
    (handle cid : UInt16) (data : Octets) : Prop :=
  ∃ f', (hciUserReadFrame place f timeoutMs env r).1 = .done (some f') ∧ f'.Carries handle cid data

/-! ## The header -/

/-- The octets before the payload. -/
def aclHeader (handle cid : UInt16) (n : ℕ) : Octets :=
  [hciAcldataPkt] ++ putLe16 ((handle &&& 0x0fff) ||| 0x2000) ++ putLe16 (4 + UInt16.ofNat n) ++
    putLe16 (UInt16.ofNat n) ++ putLe16 cid

@[simp] theorem aclHeader_length (handle cid : UInt16) (n : ℕ) :
    (aclHeader handle cid n).length = 9 := rfl

theorem aclPacket_eq (handle cid : UInt16) (data : Octets) :
    aclPacket handle cid data = aclHeader handle cid data.length ++ data := rfl

/-- What one `read` of 512 octets takes of a packet. -/
theorem aclPacket_take (handle cid : UInt16) (data : Octets) :
    (aclPacket handle cid data).take 512 = aclHeader handle cid data.length ++ data.take 503 := by
  rw [aclPacket_eq, List.take_append, aclHeader_length, List.take_of_length_le (by simp)]

/-- A word reads back where it was put. -/
theorem getLe16_putLe16 (pre rest : Octets) (v : UInt16) :
    getLe16 (pre ++ (putLe16 v ++ rest)) pre.length = v := by
  have hlow : octet (pre ++ (putLe16 v ++ rest)) pre.length = v.toUInt8 := by
    simp [octet, putLe16]
  have hhigh : octet (pre ++ (putLe16 v ++ rest)) (pre.length + 1) = (v >>> 8).toUInt8 := by
    simp [octet, putLe16]
  have hv := v.toNat_lt
  apply UInt16.toNat_inj.mp
  rw [getLe16_toNat, hlow, hhigh, UInt16.toNat_toUInt8, UInt16.toNat_toUInt8,
    UInt16.toNat_shiftRight, show (8 : UInt16).toNat % 16 = 8 from rfl, Nat.shiftRight_eq_div_pow]
  omega

/-- The flags are masked out of the handle. -/
theorem handle_masked {handle : UInt16} (h : handle < 0x1000) :
    ((handle &&& 0x0fff) ||| 0x2000) &&& 0x0fff = handle := by
  have hlt : handle.toNat < 4096 := h
  have hmask : handle.toNat &&& 4095 = handle.toNat := by
    rw [show 4095 = 2 ^ 12 - 1 from rfl, Nat.and_two_pow_sub_one_eq_mod]
    omega
  apply UInt16.toNat_inj.mp
  calc (((handle &&& 0x0fff) ||| 0x2000) &&& 0x0fff).toNat
      = ((handle.toNat &&& 4095) ||| 8192) &&& 4095 := rfl
    _ = handle.toNat ||| 8192 &&& 4095 := by rw [hmask, Nat.and_or_distrib_right, hmask]
    _ = handle.toNat := Nat.or_zero _

/-- The four words of the header, whatever follows it. -/
theorem getLe16_aclHeader (handle cid : UInt16) (n : ℕ) (tail : Octets) :
    getLe16 (aclHeader handle cid n ++ tail) 1 = (handle &&& 0x0fff) ||| 0x2000 ∧
      getLe16 (aclHeader handle cid n ++ tail) 3 = 4 + UInt16.ofNat n ∧
      getLe16 (aclHeader handle cid n ++ tail) 5 = UInt16.ofNat n ∧
      getLe16 (aclHeader handle cid n ++ tail) 7 = cid := by
  unfold aclHeader
  simp only [List.append_assoc]
  refine ⟨?_, ?_, ?_, ?_⟩
  · exact getLe16_putLe16 [hciAcldataPkt] _ _
  · exact getLe16_putLe16 ([hciAcldataPkt] ++ putLe16 _) _ _
  · exact getLe16_putLe16 ([hciAcldataPkt] ++ (putLe16 _ ++ putLe16 _)) _ _
  · exact getLe16_putLe16 ([hciAcldataPkt] ++ (putLe16 _ ++ (putLe16 _ ++ putLe16 _))) _ _

/-! ## Reading back -/

/-- The buffer that a read of a packet leaves. -/
theorem parse_aclPacket_raw (f : Frame) (handle cid : UInt16) (data : Octets) :
    (f.parse ((aclPacket handle cid data).take 512)).raw =
      aclHeader handle cid data.length ++
        (data.take 503 ++ f.raw.drop ((aclPacket handle cid data).take 512).length) := by
  rw [Frame.parse_raw, ← List.append_assoc, ← aclPacket_take]

/-- The fields of a frame that a packet was read into. -/
theorem parse_aclPacket (f : Frame) {handle : UInt16} (cid : UInt16) (data : Octets)
    (hhandle : handle < 0x1000) :
    let f' := f.parse ((aclPacket handle cid data).take 512)
    f'.pktType = hciAcldataPkt ∧ f'.handle = handle ∧ f'.cid = cid ∧
      f'.aclLen = 4 + UInt16.ofNat data.length ∧ f'.payloadLen = UInt16.ofNat data.length ∧
      f'.payloadOff = 9 := by
  intro f'
  have hpkt : octet ((aclPacket handle cid data).take 512) 0 = hciAcldataPkt := by
    rw [aclPacket_take]
    rfl
  obtain ⟨hh, hacl, hlen, hcid⟩ := getLe16_aclHeader handle cid data.length (data.take 503)
  have hfields := Frame.parse_acl (f := f) hpkt (by simp [aclPacket_take])
  rw [aclPacket_take, hh, hacl, hlen, hcid, handle_masked hhandle, ← aclPacket_take] at hfields
  obtain ⟨h1, h2, h3, h4, h5⟩ := hfields
  exact ⟨by simpa [f'] using hpkt, h1, h3, h2, h5, h4⟩

/-- The frame carries the payload iff the payload and the header fit into `raw`. -/
theorem carries_iff {f : Frame} {handle cid : UInt16} {data : Octets} (hraw : f.raw.length = 512)
    (hhandle : handle < 0x1000) (hlen : data.length ≤ 512) :
    (f.parse ((aclPacket handle cid data).take 512)).Carries handle cid data ↔
      data.length ≤ 503 := by
  obtain ⟨hpkt, hh, hcid, hacl, hpl, hoff⟩ :=
    parse_aclPacket f cid data hhandle
  have hbuf := parse_aclPacket_raw f handle cid data
  have hsize : (f.parse ((aclPacket handle cid data).take 512)).raw.length = 512 := by
    rw [Frame.parse_raw, List.length_append, List.length_drop, hraw]
    simp only [List.length_take]
    omega
  constructor
  · intro h
    by_contra hlong
    have hin := h.inside 503 (by omega)
    rw [hoff, hsize] at hin
    omega
  · intro hshort
    refine ⟨hpkt, hh, hcid, ?_, ?_, ?_, ?_⟩
    · rw [hpl, UInt16.toNat_ofNat']
      omega
    · rw [hacl, UInt16.toNat_add, UInt16.toNat_ofNat', show (4 : UInt16).toNat = 4 from rfl]
      omega
    · intro i hi
      rw [hoff, hsize]
      omega
    · intro i hi
      unfold Frame.payload
      rw [hoff, hbuf, List.take_of_length_le hshort]
      exact (octet_append_add (aclHeader handle cid data.length) _ i).trans (octet_read hi)

/-- A read that is answered parses what fits into `raw`. -/
theorem hciUserReadFrame_run {env : HostEnv} {r : Run World} (place : Place) (f : Frame)
    {timeoutMs : ℤ} {data : Octets} (hbudget : 0 < r.budget)
    (hread : env.answer r.tick (.read timeoutMs) = some data) (hne : data.take 512 ≠ []) :
    (hciUserReadFrame place f timeoutMs env r).1 = .done (some (f.parse (data.take 512))) := by
  obtain ⟨w, t, _ | b⟩ := r
  · exact absurd hbudget (lt_irrefl 0)
  unfold hciUserReadFrame call
  rw [Coro.bind_run_done (Coro.await_run_succ dispatch _ env w t b), hread]
  simp only [Option.getD_some]
  rw [if_neg hne]
  rfl

/-- What the read is about: the frame it leaves for the packet that was sent. -/
theorem readsBack_iff_carries {env : HostEnv} {r : Run World} {place : Place} {f : Frame}
    {timeoutMs : ℤ} {handle cid : UInt16} {data : Octets} (hlen : data.length ≤ 512)
    (hbudget : 0 < r.budget)
    (hread : env.answer r.tick (.read timeoutMs) = aclWritten handle cid data) :
    ReadsBack env r place f timeoutMs handle cid data ↔
      (f.parse ((aclPacket handle cid data).take 512)).Carries handle cid data := by
  have hwritten : aclWritten handle cid data = some (aclPacket handle cid data) :=
    if_neg (by omega)
  have hne : (aclPacket handle cid data).take 512 ≠ [] := by
    rw [aclPacket_take]
    exact List.cons_ne_nil _ _
  have hrun := hciUserReadFrame_run place f hbudget (hread.trans hwritten) hne
  constructor
  · rintro ⟨f', hf', hcarries⟩
    rw [hrun] at hf'
    cases hf'
    exact hcarries
  · intro h
    exact ⟨_, hrun, h⟩

/-- **ACL framing**: what was sent is read back iff it has at most 503 octets. -/
theorem aclFraming_iff (env : HostEnv) (r : Run World) (place : Place) (f : Frame) (timeoutMs : ℤ)
    (handle cid : UInt16) (data : Octets) (hraw : f.raw.length = 512) (hhandle : handle < 0x1000)
    (hlen : data.length ≤ 512) (hbudget : 0 < r.budget)
    (hread : env.answer r.tick (.read timeoutMs) = aclWritten handle cid data) :
    ReadsBack env r place f timeoutMs handle cid data ↔ data.length ≤ 503 :=
  (readsBack_iff_carries hlen hbudget hread).trans (carries_iff hraw hhandle hlen)

/-- A frame of zeros. -/
def Frame.zero : Frame := ⟨0, 0, 0, 0, 0, 0, 0, 0, 0, 0, 0, List.replicate 512 0, 0⟩

theorem Frame.zero_raw_length : Frame.zero.raw.length = 512 := List.length_replicate

/-- The environment whose first answer is the packet sent. -/
def HostEnv.echo (handle cid : UInt16) (data : Octets) : HostEnv :=
  HostEnv.scripted 1 [(0, aclPacket handle cid data)] []

/-- An MTU request reads back. -/
theorem aclFraming_mtuRequest :
    ReadsBack (HostEnv.echo 0x0040 attCid [0x02, 0xf7, 0x00]) ⟨publicConfig.start, 0, 1⟩ .reports
      Frame.zero 500 0x0040 attCid [0x02, 0xf7, 0x00] :=
  (aclFraming_iff _ _ _ _ _ _ _ _ Frame.zero_raw_length (by decide) (by decide) Nat.one_pos
    rfl).mpr (by decide)

/-- A payload of 504 octets is accepted, and does not read back. -/
theorem not_readsBack_504 : (aclWritten 0x0040 attCid (List.replicate 504 0)).isSome ∧
    ¬ ReadsBack (HostEnv.echo 0x0040 attCid (List.replicate 504 0)) ⟨publicConfig.start, 0, 1⟩
      .reports Frame.zero 500 0x0040 attCid (List.replicate 504 0) := by
  have hlen : (List.replicate 504 (0 : UInt8)).length = 504 := List.length_replicate
  have hwritten : aclWritten 0x0040 attCid (List.replicate 504 0) =
      some (aclPacket 0x0040 attCid (List.replicate 504 0)) := if_neg (by omega)
  constructor
  · rw [hwritten]
    rfl
  · intro h
    have hcarries := (readsBack_iff_carries (by omega) (by decide) hwritten.symm).mp h
    have hshort := (carries_iff Frame.zero_raw_length (by decide) (by omega)).mp hcarries
    omega

end Switch2Bt.Sw2d

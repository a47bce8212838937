import Switch2Bt.Hosts.PacketReader
import Switch2Bt.Sw2d.AclFraming

/-!
# ATT extraction (`sw2d.c`, `read_acl_att`)

`read_acl_att` reads packets until one carries an ATT PDU of the connection, and copies the PDU out
of it. Three lengths have to agree: that of the packet, that of the ACL data and that of the L2CAP
frame; the copy then stays inside the packet and inside the caller's buffer, and what
`acl_send_att` wrote comes back (`readAclAtt_sent`).

On the way it reports connection updates, and there the guard is too weak: it asks for six octets
and reads the eighth and the ninth. All reads stay inside the packets iff no such event of fewer
than nine octets is passed over (`readAclAtt_exact`).
-/

namespace Switch2Bt.PacketReader

open Octets Sw2d Reads

/-! ## The reader -/

/-- Source: `sw2d.c` `EVT_LE_CONN_UPDATE_COMPLETE` -/
def evtLeConnUpdateComplete : UInt8 := 0x03

/-- What becomes of a packet. -/
inductive Taken where
  /-- The next packet is read. -/
  | passed
  /-- The result -2. -/
  | disconnected
  /-- The PDU is copied and its length returned. -/
  | pdu (data : Octets) (handle : UInt16)
deriving DecidableEq, Repr

/-- What is read of an event of `n` octets.
Source: `sw2d.c` `read_acl_att` (`HCI_EVENT_PKT`) -/
def readEvent (n : ℕ) : Reads ℕ UInt8 Taken := do
  let evt ← cell 1
  if evt = evtDisconnComplete ∧ 7 ≤ n then do
    let _h ← readLe16 (3 + 1)
    let _reason ← cell (3 + 3)
    pure .disconnected
  else do
    let sub ← whenElse (evt = evtLeMeta ∧ 6 ≤ n) (cell 3) 0
    let _ ← whenElse (evt = evtLeMeta ∧ 6 ≤ n ∧ sub = evtLeConnUpdateComplete)
      (do let status ← cell (3 + 1); let interval ← readLe16 (3 + 4);
          pure (status, interval)) (0, 0)
    pure .passed

/-- What is read of ACL data of `n` octets.
Source: `sw2d.c` `read_acl_att` (behind the events) -/
def readAcl (connHandle : UInt16) (attsz n : ℕ) : Reads ℕ UInt8 Taken := do
  let hflags ← readLe16 1
  let aclLen ← readLe16 3
  let l2Len ← readLe16 5
  let cid ← readLe16 7
  if hflags &&& 0x0fff ≠ connHandle ∨ cid ≠ attCid then pure .passed
  else if n % 65536 < aclLen.toNat + 5 ∨ aclLen.toNat < l2Len.toNat + 4 then pure .passed
  else if attsz < l2Len.toNat then pure .passed
  else do
    let data ← cells (List.range' 9 l2Len.toNat)
    pure (.pdu data (hflags &&& 0x0fff))

/-- What is read of a packet of `n` octets.
Source: `sw2d.c` `read_acl_att` (loop body) -/
def readPacket (connHandle : UInt16) (attsz n : ℕ) : Reads ℕ UInt8 Taken := do
  let type ← cell 0
  if type = hciEventPkt ∧ 3 ≤ n then readEvent n
  else if type ≠ hciAcldataPkt ∨ n < 9 then pure .passed
  else readAcl connHandle attsz n

/-- What a call of `read_acl_att` did. -/
structure AttRead where
  /-- The result. -/
  rc : ℤ
  /-- The caller's buffer afterwards. -/
  att : Octets
  /-- The handle that was stored, if any. -/
  outHandle : Option UInt16
  /-- The packets that were read, and the places of `pkt` that were read of each. -/
  reads : List (Octets × List ℕ)
  /-- The positions of the caller's buffer that were written. -/
  writes : List ℕ
deriving DecidableEq, Repr

/-- The call, on the packets that `hci_read_packet` delivers until it times out. `pkt` is what the
buffer of the packets holds, `att` what the caller's buffer of `attsz` octets does.
Source: `sw2d.c` `read_acl_att` -/
def readAclAtt (connHandle : UInt16) (attsz : ℕ) (att : Octets) (pkt : Octets) :
    List Octets → AttRead
  | [] => ⟨0, att, none, [], []⟩
  | data :: packets =>
      let pkt := data ++ pkt.drop data.length
      let read := (data, (readPacket connHandle attsz data.length).places pkt.octet)
      match (readPacket connHandle attsz data.length).run pkt.octet with
      | .passed =>
          let r := readAclAtt connHandle attsz att pkt packets
          { r with reads := read :: r.reads }
      | .disconnected => ⟨-2, att, none, [read], []⟩
      | .pdu pdu h =>
          ⟨pdu.length, pdu ++ att.drop pdu.length, some h, [read], List.range pdu.length⟩

/-- The packet that is written, unless the PDU is too long.
Source: `sw2d.c` `acl_send_att` -/
def aclSendAtt (handle : UInt16) (att : Octets) : Option Octets :=
  if 1024 < att.length then none else some (aclPacket handle attCid att)

/-! ## Statement -/

/-- An ACL packet with an ATT PDU of the connection that fits. -/
structure Carries (connHandle : UInt16) (attsz : ℕ) (data : Octets) : Prop where
  type : data.octet 0 = hciAcldataPkt
  header : 9 ≤ data.length
  handle : getLe16 data 1 &&& 0x0fff = connHandle
  cid : getLe16 data 7 = attCid
  aclLen : (getLe16 data 3).toNat + 5 ≤ data.length
  l2Len : (getLe16 data 5).toNat + 4 ≤ (getLe16 data 3).toNat
  attsz : (getLe16 data 5).toNat ≤ attsz

instance (connHandle : UInt16) (attsz : ℕ) (data : Octets) :
    Decidable (Carries connHandle attsz data) :=
  decidable_of_iff (data.octet 0 = hciAcldataPkt ∧ 9 ≤ data.length ∧
      getLe16 data 1 &&& 0x0fff = connHandle ∧ getLe16 data 7 = attCid ∧
      (getLe16 data 3).toNat + 5 ≤ data.length ∧
      (getLe16 data 5).toNat + 4 ≤ (getLe16 data 3).toNat ∧ (getLe16 data 5).toNat ≤ attsz)
    ⟨fun ⟨h1, h2, h3, h4, h5, h6, h7⟩ => ⟨h1, h2, h3, h4, h5, h6, h7⟩,
      fun ⟨h1, h2, h3, h4, h5, h6, h7⟩ => ⟨h1, h2, h3, h4, h5, h6, h7⟩⟩

/-- A whole Disconnection Complete. -/
def Disconnection (data : Octets) : Prop :=
  data.octet 0 = hciEventPkt ∧ data.octet 1 = evtDisconnComplete ∧ 7 ≤ data.length

instance (data : Octets) : Decidable (Disconnection data) := inferInstanceAs (Decidable (_ ∧ _))

/-- A report of a connection update that is too short for its interval. -/
def ShortUpdate (data : Octets) : Prop :=
  data.octet 0 = hciEventPkt ∧ data.octet 1 = evtLeMeta ∧ 6 ≤ data.length ∧ data.length < 9 ∧
    data.octet 3 = evtLeConnUpdateComplete

instance (data : Octets) : Decidable (ShortUpdate data) := inferInstanceAs (Decidable (_ ∧ _))

/-- The packets before the first that carries a PDU of the connection or ends it. -/
def passedOver (connHandle : UInt16) (attsz : ℕ) (packets : List Octets) : List Octets :=
  packets.takeWhile fun data => ¬Carries connHandle attsz data ∧ ¬Disconnection data

/-- What a call that returns a length did: it took the first packet that carries a PDU, copied the
PDU of that length, and wrote nothing else. -/
structure Exact (connHandle : UInt16) (attsz : ℕ) (att : Octets) (packets : List Octets)
    (r : AttRead) : Prop where
  taken : ∃ before data after, packets = before ++ data :: after ∧
    (∀ x ∈ before, ¬Carries connHandle attsz x ∧ ¬Disconnection x) ∧
    Carries connHandle attsz data ∧ r.rc = (getLe16 data 5).toNat ∧
    r.att = data.slice 9 (9 + (getLe16 data 5).toNat) ++ att.drop (getLe16 data 5).toNat
  writes : ∀ i ∈ r.writes, i < attsz

/-- Every octet that was read is one of the packet it was read of. -/
def AttRead.ReadsInside (r : AttRead) : Prop := ∀ x ∈ r.reads, ∀ i ∈ x.2, i < x.1.length

instance (r : AttRead) : Decidable r.ReadsInside := inferInstanceAs (Decidable (∀ x ∈ _, _))

/-- A call that finds the packet of a PDU returns the PDU. -/
def ComesBack (handle : UInt16) (pdu : Octets) : Prop :=
  ∀ (attsz : ℕ) (att pkt : Octets) (packets : List Octets), pdu.length ≤ attsz →
    ∃ data, aclSendAtt handle pdu = some data ∧
      (readAclAtt handle attsz att pkt (data :: packets)).rc = pdu.length ∧
      (readAclAtt handle attsz att pkt (data :: packets)).att = pdu ++ att.drop pdu.length ∧
      (readAclAtt handle attsz att pkt (data :: packets)).outHandle = some handle

/-! ## The packets that are delivered -/

theorem readRest_fits {bufsz len : ℕ} {header data : Octets} {q q' : Queue}
    (h : readRest bufsz header len q = (.packet data, q')) :
    header <+: data ∧ data.length ≤ bufsz := by
  unfold readRest at h
  split at h
  · cases h
  · rename_i hroom
    split at h
    · cases h
    · split at h
      · cases h
      · rename_i hlen
        cases h
        refine ⟨List.prefix_append _ _, ?_⟩
        rw [List.length_append, not_not.mp hlen]
        omega

theorem readBranch_fits {bufsz n : ℕ} {type : UInt8} {lenOf : Octets → ℕ} {data : Octets}
    {q q' : Queue} (h : readBranch bufsz type n lenOf q = (.packet data, q')) :
    data ≠ [] ∧ data.length ≤ bufsz := by
  unfold readBranch at h
  split at h
  · cases h
  · split at h
    · cases h
    · split at h
      · cases h
      · obtain ⟨hhead, hlen⟩ := readRest_fits h
        exact ⟨fun hnil => absurd (hnil ▸ hhead) (by simp), hlen⟩

/-- A packet that `hci_read_packet` delivers is not empty and fits into the buffer. -/
theorem hciReadPacket_fits {bufsz : ℕ} {q q' : Queue} {data : Octets}
    (h : hciReadPacket bufsz q = (.packet data, q')) : data ≠ [] ∧ data.length ≤ bufsz := by
  unfold hciReadPacket at h
  split at h
  · cases h
  · split at h
    · cases h
    · rename_i hbuf
      split at h
      · cases h
      · split at h
        · exact readBranch_fits h
        · split at h
          · exact readBranch_fits h
          · cases h
            exact ⟨List.cons_ne_nil _ _, by simp; omega⟩
      · cases h

/-! ## One packet -/

section packet

variable {connHandle : UInt16} {attsz n : ℕ} {mem : ℕ → UInt8}

theorem readEvent_run : (readEvent n).run mem =
    if mem 1 = evtDisconnComplete ∧ 7 ≤ n then .disconnected else .passed := by
  unfold readEvent
  rw [run_cell_bind, run_ite]
  simp

/-- The reads of an event stay inside it unless it is a short update. -/
theorem readEvent_places (hn : 3 ≤ n) : (∀ i ∈ (readEvent n).places mem, i < n) ↔
    ¬(mem 1 = evtLeMeta ∧ 6 ≤ n ∧ n < 9 ∧ mem 3 = evtLeConnUpdateComplete) := by
  have hne : evtDisconnComplete ≠ evtLeMeta := by decide
  unfold readEvent
  rw [places_bind, run_cell, places_ite]
  by_cases hdisc : mem 1 = evtDisconnComplete ∧ 7 ≤ n
  · rw [if_pos hdisc]
    refine iff_of_true ?_ fun h => hne (hdisc.1.symm.trans h.1)
    simp [readLe16]
    omega
  · rw [if_neg hdisc]
    by_cases hmeta : mem 1 = evtLeMeta ∧ 6 ≤ n
    · by_cases hsub : mem 3 = evtLeConnUpdateComplete
      · simp [readLe16, hmeta, hsub]
        omega
      · simp [hmeta, hsub]
        omega
    · have hmeta' : ∀ c, ¬(mem 1 = evtLeMeta ∧ 6 ≤ n ∧ c) := fun c h => hmeta ⟨h.1, h.2.1⟩
      simp [hmeta, hmeta']
      omega

/-- The PDU is taken iff the packet carries one. -/
theorem readAcl_run {data stale : Octets} (htype : data.octet 0 = hciAcldataPkt)
    (hlen : 9 ≤ data.length) (hbuf : data.length ≤ 2048) :
    (readAcl connHandle attsz data.length).run (octet (data ++ stale)) =
      if Carries connHandle attsz data then
        .pdu (data.slice 9 (9 + (getLe16 data 5).toNat)) connHandle
      else .passed := by
  have hword : ∀ i, i + 1 < 9 → getLe16 (data ++ stale) i = getLe16 data i :=
    fun i hi => getLe16_append (by omega)
  unfold readAcl
  simp only [run_bind, readLe16_run, hword 1 (by omega), hword 3 (by omega), hword 5 (by omega),
    hword 7 (by omega), run_ite, run_pure, run_cells]
  by_cases hc : Carries connHandle attsz data
  · rw [if_pos hc]
    obtain ⟨-, -, hhandle, hcid, hacl, hl2, hsz⟩ := hc
    have hdata : (List.range' 9 (getLe16 data 5).toNat).map (octet (data ++ stale)) =
        data.slice 9 (9 + (getLe16 data 5).toNat) := by
      rw [map_octet_range' _ _ _ (by rw [List.length_append]; omega), slice,
        List.drop_append_of_le_length (by omega), List.take_append_of_le_length (by simp; omega),
        Nat.add_sub_cancel_left]
    rw [if_neg (by simp [hhandle, hcid]), if_neg (by omega), if_neg (by omega), hdata,
      hhandle]
  · rw [if_neg hc]
    split_ifs with h1 h2 h3
    · rfl
    · rfl
    · rfl
    · refine absurd ⟨htype, hlen, ?_, ?_, ?_, ?_, ?_⟩ hc
      · exact not_not.mp fun h => h1 (.inl h)
      · exact not_not.mp fun h => h1 (.inr h)
      · omega
      · omega
      · omega

/-- The reads of ACL data stay inside them. -/
theorem readAcl_sat (hlen : 9 ≤ n) (hbuf : n ≤ 2048) :
    (readAcl connHandle attsz n).Sat mem (· < n) fun _ => True := by
  refine Sat.bind ((readLe16_sat (by omega) (by omega)).mono fun hflags _ => ?_)
  refine Sat.bind ((readLe16_sat (by omega) (by omega)).mono fun aclLen _ => ?_)
  refine Sat.bind ((readLe16_sat (by omega) (by omega)).mono fun l2Len _ => ?_)
  refine Sat.bind ((readLe16_sat (by omega) (by omega)).mono fun cid _ => ?_)
  refine Sat.ite (fun _ => Sat.pure trivial) fun _ => Sat.ite (fun _ => Sat.pure trivial)
    fun hfit => Sat.ite (fun _ => Sat.pure trivial) fun _ => ?_
  refine Sat.bind (Sat.cells (fun i hi => ?_) (Sat.pure trivial))
  obtain ⟨k, hk, rfl⟩ := List.mem_range'.mp hi
  omega

/-- What becomes of a packet. -/
theorem readPacket_run {data stale : Octets} (hne : data ≠ []) (hbuf : data.length ≤ 2048) :
    (readPacket connHandle attsz data.length).run (octet (data ++ stale)) =
      if Carries connHandle attsz data then
        .pdu (data.slice 9 (9 + (getLe16 data 5).toNat)) connHandle
      else if Disconnection data then .disconnected
      else .passed := by
  have hpos : 0 < data.length := List.length_pos_of_ne_nil hne
  have hzero : octet (data ++ stale) 0 = data.octet 0 := octet_read hpos
  have hacl : hciAcldataPkt ≠ hciEventPkt := by decide
  unfold readPacket
  rw [run_cell_bind, run_ite, run_ite, hzero]
  by_cases hevt : data.octet 0 = hciEventPkt ∧ 3 ≤ data.length
  · have hnot : ¬Carries connHandle attsz data := fun h => hacl (h.type.symm.trans hevt.1)
    have hdisc : octet (data ++ stale) 1 = evtDisconnComplete ∧ 7 ≤ data.length ↔
        Disconnection data := by
      rw [octet_read (by omega)]
      exact ⟨fun h => ⟨hevt.1, h⟩, fun h => h.2⟩
    rw [if_pos hevt, readEvent_run, if_neg hnot]
    exact if_congr hdisc rfl rfl
  · have hnot : ¬Disconnection data := fun h => hevt ⟨h.1, by have := h.2.2; omega⟩
    rw [if_neg hevt, if_neg hnot]
    by_cases hshort : data.octet 0 ≠ hciAcldataPkt ∨ data.length < 9
    · rw [if_pos hshort, if_neg fun h => hshort.elim (fun hne => hne h.type)
        fun hlt => absurd h.header (Nat.not_le.mpr hlt)]
      rfl
    · obtain ⟨htype, hlong⟩ := not_or.mp hshort
      rw [if_neg hshort, readAcl_run (not_not.mp htype) (by omega) hbuf]

/-- The reads of a packet stay inside it iff it is no short update. -/
theorem readPacket_places {data stale : Octets} (hne : data ≠ []) (hbuf : data.length ≤ 2048) :
    (∀ i ∈ (readPacket connHandle attsz data.length).places (octet (data ++ stale)),
      i < data.length) ↔ ¬ShortUpdate data := by
  have hpos : 0 < data.length := List.length_pos_of_ne_nil hne
  have hzero : octet (data ++ stale) 0 = data.octet 0 := octet_read hpos
  unfold readPacket
  rw [places_bind, run_cell, places_ite, places_ite, hzero]
  simp only [places_cell, List.singleton_append, List.forall_mem_cons, hpos, true_and]
  by_cases hevt : data.octet 0 = hciEventPkt ∧ 3 ≤ data.length
  · rw [if_pos hevt, readEvent_places hevt.2, octet_read (by omega)]
    refine not_congr ⟨fun ⟨h1, h2, h3, h4⟩ => ⟨hevt.1, h1, h2, h3, ?_⟩,
      fun ⟨_, h1, h2, h3, h4⟩ => ⟨h1, h2, h3, ?_⟩⟩
    · rwa [octet_read (by omega)] at h4
    · rwa [octet_read (by omega)]
  · have hnot : ¬ShortUpdate data := fun h => hevt ⟨h.1, by have := h.2.2.1; omega⟩
    rw [if_neg hevt]
    refine iff_of_true ?_ hnot
    split_ifs with hshort
    · exact nofun
    · exact (readAcl_sat (by omega) hbuf).1

end packet

/-! ## The loop -/

section loop

variable {connHandle : UInt16} {attsz : ℕ} {att pkt : Octets} {packets : List Octets}

/-- The PDU of a packet has the length its header says. -/
theorem Carries.length {data : Octets} (h : Carries connHandle attsz data) :
    (data.slice 9 (9 + (getLe16 data 5).toNat)).length = (getLe16 data 5).toNat := by
  have hacl := h.aclLen
  have hl2 := h.l2Len
  rw [slice, List.length_take, List.length_drop]
  omega

theorem Carries.not_shortUpdate {data : Octets} (h : Carries connHandle attsz data) :
    ¬ShortUpdate data := fun hs =>
  absurd (h.type.symm.trans hs.1) (show hciAcldataPkt ≠ hciEventPkt by decide)

/-- One turn of the loop. -/
theorem readAclAtt_cons {data : Octets} (hne : data ≠ []) (hbuf : data.length ≤ 2048) :
    let read := (data, (readPacket connHandle attsz data.length).places
      (octet (data ++ pkt.drop data.length)))
    readAclAtt connHandle attsz att pkt (data :: packets) =
      if Carries connHandle attsz data then
        ⟨(getLe16 data 5).toNat,
          data.slice 9 (9 + (getLe16 data 5).toNat) ++ att.drop (getLe16 data 5).toNat,
          some connHandle, [read], List.range (getLe16 data 5).toNat⟩
      else if Disconnection data then ⟨-2, att, none, [read], []⟩
      else
        let r := readAclAtt connHandle attsz att (data ++ pkt.drop data.length) packets
        { r with reads := read :: r.reads } := by
  intro read
  rw [readAclAtt]
  dsimp only
  rw [readPacket_run hne hbuf]
  split_ifs with hc hd
  · dsimp only
    rw [hc.length]
  · rfl
  · rfl

/-- A call that returns a length took the first packet that carries a PDU. -/
theorem readAclAtt_taken (hp : ∀ d ∈ packets, d ≠ [] ∧ d.length ≤ 2048)
    (hrc : 0 < (readAclAtt connHandle attsz att pkt packets).rc) :
    ∃ before data after, packets = before ++ data :: after ∧
      (∀ x ∈ before, ¬Carries connHandle attsz x ∧ ¬Disconnection x) ∧
      Carries connHandle attsz data ∧
      (readAclAtt connHandle attsz att pkt packets).rc = (getLe16 data 5).toNat ∧
      (readAclAtt connHandle attsz att pkt packets).att =
        data.slice 9 (9 + (getLe16 data 5).toNat) ++ att.drop (getLe16 data 5).toNat := by
  induction packets generalizing pkt with
  | nil => exact absurd hrc (lt_irrefl 0)
  | cons data packets ih =>
      obtain ⟨hne, hbuf⟩ := hp data List.mem_cons_self
      rw [readAclAtt_cons hne hbuf] at hrc ⊢
      by_cases hc : Carries connHandle attsz data
      · rw [if_pos hc]
        exact ⟨[], data, packets, rfl, nofun, hc, rfl, rfl⟩
      · rw [if_neg hc] at hrc ⊢
        by_cases hd : Disconnection data
        · rw [if_pos hd] at hrc
          exact absurd hrc (show ¬(0 : ℤ) < -2 by decide)
        · rw [if_neg hd] at hrc ⊢
          obtain ⟨before, x, after, rfl, hbefore, hx, hrc', hatt⟩ :=
            ih (fun d hd => hp d (List.mem_cons_of_mem _ hd)) hrc
          exact ⟨data :: before, x, after, rfl,
            List.forall_mem_cons.mpr ⟨⟨hc, hd⟩, hbefore⟩, hx, hrc', hatt⟩

/-- It wrote inside the caller's buffer. -/
theorem readAclAtt_writes (hp : ∀ d ∈ packets, d ≠ [] ∧ d.length ≤ 2048) :
    ∀ i ∈ (readAclAtt connHandle attsz att pkt packets).writes, i < attsz := by
  induction packets generalizing pkt with
  | nil => exact nofun
  | cons data packets ih =>
      obtain ⟨hne, hbuf⟩ := hp data List.mem_cons_self
      rw [readAclAtt_cons hne hbuf]
      split_ifs with hc hd
      · have hfit := hc.attsz
        intro i hi
        exact lt_of_lt_of_le (List.mem_range.mp hi) hfit
      · exact nofun
      · exact ih fun d hd => hp d (List.mem_cons_of_mem _ hd)

/-- It read inside the packets iff it passed no short update over. -/
theorem readAclAtt_reads_iff (hp : ∀ d ∈ packets, d ≠ [] ∧ d.length ≤ 2048)
    (hrc : 0 < (readAclAtt connHandle attsz att pkt packets).rc) :
    (readAclAtt connHandle attsz att pkt packets).ReadsInside ↔
      ∀ d ∈ passedOver connHandle attsz packets, ¬ShortUpdate d := by
  induction packets generalizing pkt with
  | nil => exact absurd hrc (lt_irrefl 0)
  | cons data packets ih =>
      obtain ⟨hne, hbuf⟩ := hp data List.mem_cons_self
      have hreads : (∀ i ∈ (readPacket connHandle attsz data.length).places
          (octet (data ++ pkt.drop data.length)), i < data.length) ↔ ¬ShortUpdate data :=
        readPacket_places hne hbuf
      unfold AttRead.ReadsInside
      rw [readAclAtt_cons hne hbuf] at hrc ⊢
      rw [passedOver, List.takeWhile_cons]
      by_cases hc : Carries connHandle attsz data
      · rw [if_pos hc, if_neg (by simp [hc])]
        refine iff_of_true ?_ nofun
        rw [List.forall_mem_singleton]
        exact hreads.mpr hc.not_shortUpdate
      · rw [if_neg hc] at hrc ⊢
        by_cases hd : Disconnection data
        · rw [if_pos hd] at hrc
          exact absurd hrc (show ¬(0 : ℤ) < -2 by decide)
        · rw [if_neg hd] at hrc ⊢
          rw [if_pos (by simp [hc, hd]), List.forall_mem_cons, List.forall_mem_cons, hreads]
          exact and_congr_right fun _ => ih (fun d hd => hp d (List.mem_cons_of_mem _ hd)) hrc

end loop

/-- What `acl_send_att` wrote comes back. -/
theorem readAclAtt_sent {handle : UInt16} {pdu : Octets} (hhandle : handle < 0x1000)
    (hlen : pdu.length ≤ 1024) : ComesBack handle pdu := by
  intro attsz att pkt packets hsz
  have hdata : aclPacket handle attCid pdu = aclHeader handle attCid pdu.length ++ pdu := rfl
  obtain ⟨hh, hacl, hl2, hcid⟩ := getLe16_aclHeader handle attCid pdu.length pdu
  rw [← hdata] at hh hacl hl2 hcid
  have hl2' : (getLe16 (aclPacket handle attCid pdu) 5).toNat = pdu.length := by
    rw [hl2, UInt16.toNat_ofNat']
    omega
  have hacl' : (getLe16 (aclPacket handle attCid pdu) 3).toNat = 4 + pdu.length := by
    rw [hacl, UInt16.toNat_add, UInt16.toNat_ofNat', show (4 : UInt16).toNat = 4 from rfl]
    omega
  have hsize : (aclPacket handle attCid pdu).length = 9 + pdu.length := by
    rw [hdata, List.length_append, aclHeader_length]
  have hcarries : Carries handle attsz (aclPacket handle attCid pdu) :=
    ⟨rfl, by omega, by rw [hh, handle_masked hhandle], hcid, by omega, by omega, by omega⟩
  have hslice : (aclPacket handle attCid pdu).slice 9 (9 + pdu.length) = pdu := by
    rw [hdata, slice, List.drop_left' (aclHeader_length _ _ _), Nat.add_sub_cancel_left,
      List.take_length]
  refine ⟨aclPacket handle attCid pdu, if_neg (by omega), ?_⟩
  rw [readAclAtt_cons (List.ne_nil_of_length_pos (by omega)) (by omega), if_pos hcarries, hl2',
    hslice]
  exact ⟨rfl, rfl, rfl⟩

/-- **ATT extraction**: a call that returns a length took the first packet that carries a PDU of
the connection and copied the PDU, inside the caller's buffer; it read inside the packets iff no
connection update of fewer than nine octets is passed over; and every PDU that was sent comes back.
Source: `sw2d.c` `read_acl_att`, `acl_send_att` -/
theorem readAclAtt_exact (connHandle : UInt16) (attsz : ℕ) (att pkt : Octets)
    (packets : List Octets) (hp : ∀ d ∈ packets, d ≠ [] ∧ d.length ≤ 2048)
    (hrc : 0 < (readAclAtt connHandle attsz att pkt packets).rc) :
    Exact connHandle attsz att packets (readAclAtt connHandle attsz att pkt packets) ∧
      ((readAclAtt connHandle attsz att pkt packets).ReadsInside ↔
        ∀ d ∈ passedOver connHandle attsz packets, ¬ShortUpdate d) ∧
      ∀ (handle : UInt16) (pdu : Octets), handle < 0x1000 → 1 ≤ pdu.length → pdu.length ≤ 1024 →
        ComesBack handle pdu :=
  ⟨⟨readAclAtt_taken hp hrc, readAclAtt_writes hp⟩, readAclAtt_reads_iff hp hrc,
    fun _ _ hhandle _ hlen => readAclAtt_sent hhandle hlen⟩

/-- A connection update without its interval. -/
def shortUpdate : Octets := [0x04, 0x3e, 0x03, 0x03, 0x00, 0x40]

/-- A connection update with it. -/
def connUpdate : Octets :=
  [0x04, 0x3e, 0x0a, 0x03, 0x00, 0x40, 0x00, 0x06, 0x00, 0x00, 0x00, 0x2a, 0x00]

/-- The buffer of the packets, before the first of them. -/
def emptyPkt : Octets := List.replicate 16 0x00

/-- A Write Response behind a whole connection update. -/
theorem readAclAtt_connUpdate :
    (readAclAtt 0x0040 64 [] emptyPkt
      [connUpdate, aclPacket 0x0040 attCid [0x13]]).ReadsInside :=
  (readAclAtt_exact 0x0040 64 [] emptyPkt [connUpdate, aclPacket 0x0040 attCid [0x13]]
    (by decide +kernel) (by decide +kernel)).2.1.mpr (by decide +kernel)

/-- A Write Response behind a short one: the interval is read outside it. -/
theorem not_readsInside_shortUpdate :
    ¬∀ (connHandle : UInt16) (attsz : ℕ) (att pkt : Octets) (packets : List Octets),
      (∀ d ∈ packets, d ≠ [] ∧ d.length ≤ 2048) →
      0 < (readAclAtt connHandle attsz att pkt packets).rc →
        (readAclAtt connHandle attsz att pkt packets).ReadsInside := by
  intro h
  have hreads := h 0x0040 64 [] emptyPkt [shortUpdate, aclPacket 0x0040 attCid [0x13]]
    (by decide +kernel) (by decide +kernel)
  exact absurd hreads (by decide +kernel)

end Switch2Bt.PacketReader

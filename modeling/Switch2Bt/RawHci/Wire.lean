import Switch2Bt.RawHci.Runs

/-!
# The octets behind the notes (`sw2d.c`)

A buffer is written out with as many calls of `write` as the kernel wants, and a packet is put
together from as many calls of `read`. `Wire` remembers the octets that the kernel took since the
last buffer, and those it gave since the last `poll`. In every run each buffer that is noted is what
was taken, all of it unless it was given up, and each packet is what was given (`main_octets`): so
the buffers and packets of `main_sessions` and `main_relays` are the octets on the descriptors.
-/

namespace Switch2Bt.RawHci

open Await Octets Sw2d Uhid PacketReader Addresses

/-! ## The machine -/

/-- The octets on the descriptors. -/
structure Wire where
  /-- Taken since the last buffer, with the descriptor each was written to. -/
  sent : List (ℕ × UInt8) := []
  /-- What is left of a buffer. -/
  left : Option Octets := none
  /-- Given since the last `poll`. -/
  received : Octets := []
deriving DecidableEq

namespace Wire

/-- What is remembered after one more observation. -/
def next (m : Wire) : Obs → Wire
  | .call (.write fd data) (n : Except Errno ℕ) =>
      match n with
      | .ok n => { m with sent := m.sent ++ (data.take n).map (fd, ·), left := some (data.drop n) }
      | .error _ => { m with left := some data }
  | .call (.read _ len) (got : Except Errno Octets) =>
      match got with
      | .ok data => { m with received := m.received ++ data.take len }
      | .error _ => m
  | .call (.poll _ _) _ => { m with received := [] }
  | .note (.wrote _ _ _) => { m with sent := [], left := none }
  | _ => m

/-- A call offers what is left, and something; a buffer is what was taken, and what is missing if it
was given up; a packet is what was given. -/
def Allows (m : Wire) : Obs → Prop
  | .call (.write _ data) _ => data ≠ [] ∧ (m.left = none ∨ m.left = some data)
  | .note (.wrote fd data ok) =>
      ∃ rest, data.map (fd, ·) = m.sent ++ rest ∧ (ok = true ↔ rest = [])
  | .note (.packet data) => data = m.received
  | _ => True

end Wire

/-- Nothing is lost between the notes and the calls. -/
def wire : Protocol Obs Wire where
  init := {}
  next := Wire.next
  Allows := Wire.Allows

/-! ## Triples -/

variable {env : System} {α β ι : Type} {x : Raw α}

/-- An assertion about the wire alone. -/
def OnWire (P : Wire → Prop) (_s : Vars) (m : Wire) : Prop := P m

/-- No buffer is half written. -/
def Whole (m : Wire) : Prop := m.sent = [] ∧ m.left = none

/-- `x` leaves no buffer half written. -/
abbrev Keeps (env : System) (x : Raw α) : Prop :=
  Obeys env wire (OnWire Whole) x fun _ => OnWire Whole

theorem wire_stable {P : Wire → Prop} : Stable onSignal wire (OnWire P) :=
  fun _ _ _ hm => ⟨trivial, hm⟩

theorem Keeps.pure {a : α} : Keeps env (Pure.pure a : Raw α) := Obeys.pure fun _ _ hm => hm

theorem Keeps.bind {x : Raw β} {f : β → Raw α} (hx : Keeps env x) (hf : ∀ b, Keeps env (f b)) :
    Keeps env (x >>= f) := Obeys.bind hx hf

theorem Keeps.ite {c : Prop} [Decidable c] {x y : Raw α} (hx : Keeps env x) (hy : Keeps env y) :
    Keeps env (if c then x else y) := Obeys.ite (fun _ => hx) fun _ => hy

theorem Keeps.loop {body : ι → Raw (ι ⊕ α)} (h : ∀ i, Keeps env (body i)) (i : ι) :
    Keeps env (Coro.loop body i) := by
  refine Obeys.loop (I := fun _ => OnWire Whole) (fun i => Obeys.post (h i) ?_) i
  rintro (j | a) _ _ hm
  · exact hm
  · exact hm

theorem Keeps.running {f : Bool → Raw α} (h : ∀ b, Keeps env (f b)) :
    Keeps env (RawHci.running >>= f) := by
  refine Obeys.vars_bind (f := fun s => Pure.pure s.running >>= f) fun s => ?_
  exact Obeys.pre (h s.running) fun _ _ hm => hm.2

/-- A call that is no `write`. -/
theorem Keeps.sys {c : Call} (hc : ∀ fd data, c ≠ .write fd data) : Keeps env (RawHci.sys c) := by
  refine Obeys.call wire_stable fun a _ m hm => ?_
  have hw : (wire.next m (.call c a)).sent = m.sent ∧ (wire.next m (.call c a)).left = m.left := by
    show (Wire.next m (.call c a)).sent = m.sent ∧ (Wire.next m (.call c a)).left = m.left
    unfold Wire.next
    split
    · rename_i heq
      cases heq
      exact absurd rfl (hc _ _)
    · split <;> exact ⟨rfl, rfl⟩
    · exact ⟨rfl, rfl⟩
    · rename_i heq
      cases heq
    · exact ⟨rfl, rfl⟩
  refine ⟨?_, hw.1.trans hm.1, hw.2.trans hm.2⟩
  show Wire.Allows m (.call c a)
  unfold Wire.Allows
  split
  · rename_i heq
    cases heq
    exact absurd rfl (hc _ _)
  · trivial
  · trivial
  · trivial

/-- A note of what neither was written nor read. -/
theorem Keeps.note {n : Note} (hw : ∀ fd data ok, n ≠ .wrote fd data ok)
    (hp : ∀ data, n ≠ .packet data) : Keeps env (RawHci.note n) := by
  refine Obeys.note fun _ m hm => ?_
  cases n with
  | packet data => exact absurd rfl (hp data)
  | wrote fd data ok => exact absurd rfl (hw fd data ok)
  | receiving | sessionEnded => exact ⟨trivial, hm⟩

/-! ## Reading and writing -/

/-- Writing out a buffer: what is left is what was not taken. -/
theorem writeFull_keeps {fd : ℕ} {data : Octets} : Keeps env (writeFull fd data) := by
  unfold writeFull
  refine Obeys.bind (S := fun ok => OnWire fun m => ∃ rest, data.map (fd, ·) = m.sent ++ rest ∧
    (ok = true ↔ rest = [])) ?_ fun ok => ?_
  · refine Obeys.pre (Obeys.loop (I := fun rest => OnWire fun m =>
      data.map (fd, ·) = m.sent ++ rest.map (fd, ·) ∧ (m.left = none ∨ m.left = some rest))
      (fun rest => ?_) data) fun _ m hm => ?_
    · refine Obeys.ite (fun hnil => Obeys.pure fun _ m hm => ⟨[], ?_, by simp⟩) fun hne => ?_
      · simpa [hnil] using hm.1
      · refine Obeys.bind (S := fun (a : Except Errno ℕ) => OnWire fun m => match a with
          | .ok n => data.map (fd, ·) = m.sent ++ (rest.drop n).map (fd, ·) ∧
              m.left = some (rest.drop n)
          | .error _ => data.map (fd, ·) = m.sent ++ rest.map (fd, ·) ∧ m.left = some rest)
          (Obeys.call wire_stable fun (a : Except Errno ℕ) _ m hm => ⟨⟨hne, hm.2⟩, ?_⟩) fun a => ?_
        · cases a with
          | error e => exact ⟨hm.1, rfl⟩
          | ok n =>
              refine ⟨?_, rfl⟩
              show data.map (fd, ·) =
                (m.sent ++ (rest.take n).map (fd, ·)) ++ (rest.drop n).map (fd, ·)
              rw [List.append_assoc, ← List.map_append, List.take_append_drop]
              exact hm.1
        · rcases a with (_ | _) | n
          · exact Obeys.pure fun _ m hm => ⟨hm.1, .inr hm.2⟩
          · refine Obeys.pure fun _ m hm => ⟨rest.map (fd, ·), hm.1, ?_⟩
            simp [hne]
          · exact Obeys.pure fun _ m hm => ⟨hm.1, .inr hm.2⟩
    · refine ⟨?_, .inl hm.2⟩
      rw [hm.1]
      rfl
  · refine Obeys.bind (S := fun _ => OnWire Whole) (Obeys.note fun _ m hm => ⟨hm, rfl, rfl⟩)
      fun _ => Keeps.pure

/-- No buffer is half written, and `data` was given. -/
def Given (data : Octets) (m : Wire) : Prop := Whole m ∧ m.received = data

/-- Reading adds what was given. -/
theorem readFull_given {fd len : ℕ} {data : Octets} :
    Obeys env wire (OnWire (Given data)) (readFull fd len) fun got => OnWire fun m =>
      match got with
      | some got => Given (data ++ got) m
      | none => Whole m := by
  unfold readFull
  refine Obeys.pre (Obeys.loop (I := fun got => OnWire (Given (data ++ got))) (fun got => ?_) [])
    fun _ m hm => ?_
  · refine Obeys.ite (fun _ => Obeys.pure fun _ m hm => hm) fun _ => ?_
    refine Obeys.bind (S := fun (a : Except Errno Octets) => OnWire fun m => match a with
      | .ok more => Given (data ++ (got ++ more.take (len - got.length))) m
      | .error _ => Given (data ++ got) m)
      (Obeys.call wire_stable fun (a : Except Errno Octets) _ m hm => ⟨trivial, ?_⟩) fun a => ?_
    · cases a with
      | error e => exact hm
      | ok more =>
          refine ⟨hm.1, ?_⟩
          show m.received ++ more.take (len - got.length) = _
          rw [hm.2, List.append_assoc]
    · rcases a with (_ | _) | more
      · exact Obeys.pure fun _ m hm => hm
      · exact Obeys.pure fun _ m hm => hm.1
      · refine Obeys.ite (fun hnil => Obeys.pure fun _ m hm => ?_)
          fun _ => Obeys.pure fun _ m hm => hm
        simpa [hnil, OnWire] using hm
  · simpa [OnWire] using hm

theorem readBody_given {fd bufsz len : ℕ} {header : Octets} :
    Obeys env wire (OnWire (Given header)) (readBody fd bufsz header len)
      fun _ => OnWire Whole := by
  unfold readBody
  refine Obeys.ite (fun _ => Obeys.pure fun _ m hm => hm.1) fun _ => ?_
  refine Obeys.bind readFull_given fun got => ?_
  cases got with
  | none => exact Keeps.pure
  | some body =>
      refine Obeys.ite (fun _ => Obeys.pure fun _ m hm => hm.1) fun _ => ?_
      refine Obeys.bind (S := fun _ => OnWire Whole) (Obeys.note fun _ m hm => ⟨hm.2.symm, hm.1⟩)
        fun _ => Keeps.pure

theorem readHeader_given {fd bufsz n : ℕ} {type : UInt8} {lenOf : Octets → ℕ} :
    Obeys env wire (OnWire (Given [type])) (readHeader fd bufsz type n lenOf)
      fun _ => OnWire Whole := by
  unfold readHeader
  refine Obeys.ite (fun _ => Obeys.pure fun _ m hm => hm.1) fun _ => ?_
  refine Obeys.bind readFull_given fun got => ?_
  cases got with
  | none => exact Keeps.pure
  | some header =>
      exact Obeys.ite (fun _ => Obeys.pure fun _ m hm => hm.1) fun _ => readBody_given

theorem hciReadPacket_keeps {fd bufsz : ℕ} {timeoutMs : ℤ} :
    Keeps env (hciReadPacket fd bufsz timeoutMs) := by
  unfold hciReadPacket
  refine Obeys.bind (S := fun _ => OnWire (Given [])) (Obeys.call wire_stable fun a _ m hm =>
    ⟨trivial, hm, rfl⟩) fun pr => ?_
  refine Obeys.ite (fun _ => Obeys.pure fun _ m hm => hm.1) fun _ => ?_
  refine Obeys.ite (fun _ => Obeys.pure fun _ m hm => hm.1) fun _ => ?_
  refine Obeys.ite (fun _ => Obeys.pure fun _ m hm => hm.1) fun _ => ?_
  refine Obeys.bind readFull_given fun got => ?_
  rcases got with _ | _ | ⟨type, _ | _⟩
  · exact Keeps.pure
  · exact Obeys.pure fun _ m hm => hm.1
  · refine Obeys.ite (fun _ => readHeader_given) fun _ => Obeys.ite (fun _ => readHeader_given)
      fun _ => ?_
    exact Obeys.bind (S := fun _ => OnWire Whole) (Obeys.note fun _ m hm => ⟨hm.2.symm, hm.1⟩)
      fun _ => Keeps.pure
  · exact Obeys.pure fun _ m hm => hm.1

/-! ## The functions -/

theorem setAclRuntimeFilter_keeps {fd : ℕ} : Keeps env (setAclRuntimeFilter fd) :=
  Keeps.sys (by simp)

theorem hciSendCmd_keeps {fd : ℕ} {ogf ocf : UInt16} {params : Octets} :
    Keeps env (hciSendCmd fd ogf ocf params) :=
  Keeps.bind (Keeps.sys (by simp)) fun _ => Keeps.pure

theorem hciOpen_keeps : Keeps env hciOpen := by
  unfold hciOpen
  refine Keeps.bind (Keeps.sys (by simp)) ?_
  rintro (_ | fd)
  · exact Keeps.pure
  · refine Keeps.bind (Keeps.sys (by simp)) fun bound => Keeps.ite Keeps.pure ?_
    exact Keeps.bind (Keeps.sys (by simp)) fun _ => Keeps.pure

theorem awaitConnection_keeps {fd : ℕ} : Keeps env (awaitConnection fd) := by
  unfold awaitConnection
  refine Keeps.loop (fun i => Keeps.running fun b => Keeps.ite Keeps.pure ?_) 0
  refine Keeps.bind hciReadPacket_keeps fun r => ?_
  cases r with
  | packet pkt =>
      dsimp only
      cases connecting pkt <;> exact Keeps.pure
  | timeout | blocked | error => exact Keeps.pure

theorem hciConnectLe_keeps {fd : ℕ} {peer : Addr} : Keeps env (hciConnectLe fd peer) := by
  unfold hciConnectLe setExactConnectFilter
  refine Keeps.bind (Keeps.bind (Keeps.sys (by simp)) fun _ => Keeps.sys (by simp)) fun _ => ?_
  refine Keeps.ite Keeps.pure (Keeps.bind hciSendCmd_keeps fun _ => ?_)
  exact Keeps.ite Keeps.pure awaitConnection_keeps

theorem aclSendAtt_keeps {fd : ℕ} {handle : UInt16} {att : Octets} :
    Keeps env (aclSendAtt fd handle att) := by
  unfold aclSendAtt
  cases PacketReader.aclSendAtt handle att with
  | none => exact Keeps.pure
  | some pkt => exact writeFull_keeps

theorem readAclAtt_keeps {fd attsz : ℕ} {handle : UInt16} {timeoutMs : ℤ} :
    Keeps env (readAclAtt fd handle attsz timeoutMs) := by
  unfold readAclAtt
  refine Keeps.loop (fun _ => Keeps.bind hciReadPacket_keeps fun r => ?_) ()
  cases r with
  | packet pkt =>
      dsimp only
      cases (readPacket handle attsz pkt.length).run pkt.octet <;> exact Keeps.pure
  | timeout | blocked | error => exact Keeps.pure

theorem attRequestResponse_keeps {fd rspsz : ℕ} {handle : UInt16} {req : Octets} {timeoutMs : ℤ} :
    Keeps env (attRequestResponse fd handle req rspsz timeoutMs) := by
  unfold attRequestResponse
  refine Keeps.bind aclSendAtt_keeps fun _ => Keeps.ite Keeps.pure (Keeps.loop (fun _ => ?_) ())
  refine Keeps.bind readAclAtt_keeps fun r => ?_
  exact Keeps.ite Keeps.pure (Keeps.ite Keeps.pure Keeps.pure)

theorem gattProbe_keeps {fd : ℕ} {handle : UInt16} : Keeps env (gattProbe fd handle) := by
  unfold gattProbe
  refine Keeps.bind attRequestResponse_keeps fun _ => ?_
  refine Keeps.bind attRequestResponse_keeps fun _ => ?_
  exact Keeps.bind attRequestResponse_keeps fun _ => Keeps.pure

section device

variable {abi : UhidEvent → Octets} {hci : ℕ} {handle : UInt16} {uhid : Option ℕ} {noUhid : Bool}

theorem uhidCreateDevice_keeps : Keeps env (uhidCreateDevice abi) := by
  unfold uhidCreateDevice
  refine Keeps.bind (Keeps.sys (by simp)) ?_
  rintro (_ | fd)
  · exact Keeps.pure
  · refine Keeps.bind writeFull_keeps fun ok => Keeps.ite Keeps.pure ?_
    exact Keeps.bind (Keeps.sys (by simp)) fun _ => Keeps.pure

theorem uhidDestroyDevice_keeps : Keeps env (uhidDestroyDevice abi uhid) := by
  cases uhid with
  | none => exact Keeps.pure
  | some fd => exact Keeps.bind writeFull_keeps fun _ => Keeps.sys (by simp)

theorem uhidSendReport_keeps {data : Octets} : Keeps env (uhidSendReport abi uhid data) := by
  cases uhid with
  | none => exact Keeps.pure
  | some fd => exact writeFull_keeps

theorem receive_keeps : Keeps env (receive abi hci handle uhid) := by
  unfold receive
  refine Keeps.loop (fun _ => Keeps.running fun b => Keeps.ite Keeps.pure ?_) ()
  refine Keeps.bind readAclAtt_keeps fun r => Keeps.ite Keeps.pure ?_
  cases reportOf r.1 r.2 with
  | none => exact Keeps.pure
  | some report => exact Keeps.bind uhidSendReport_keeps fun _ => Keeps.pure

theorem runNotifying_keeps : Keeps env (runNotifying abi hci handle uhid) := by
  have hclose : ∀ rc : ℤ, Keeps env (do
      uhidDestroyDevice abi uhid
      RawHci.sys (.close hci)
      pure rc) := fun _ =>
    Keeps.bind uhidDestroyDevice_keeps fun _ => Keeps.bind (Keeps.sys (by simp)) fun _ => Keeps.pure
  unfold runNotifying enableNotifications
  refine Keeps.bind (Keeps.bind attRequestResponse_keeps fun _ => Keeps.pure) fun _ => ?_
  refine Keeps.ite (hclose (-1)) (Keeps.bind (Keeps.note (by simp) (by simp)) fun _ => ?_)
  exact Keeps.bind receive_keeps fun _ => hclose 0

theorem runConnected_keeps : Keeps env (runConnected abi noUhid hci handle) := by
  have hclose : Keeps env (do
      RawHci.sys (.close hci)
      pure (-1 : ℤ)) := Keeps.bind (Keeps.sys (by simp)) fun _ => Keeps.pure
  unfold runConnected hciRequestConnUpdate
  refine Keeps.bind setAclRuntimeFilter_keeps fun _ => Keeps.ite hclose ?_
  refine Keeps.bind (Keeps.bind hciSendCmd_keeps fun _ => Keeps.pure) fun _ => ?_
  refine Keeps.bind gattProbe_keeps fun _ => Keeps.ite runNotifying_keeps ?_
  refine Keeps.bind uhidCreateDevice_keeps ?_
  rintro (_ | fd)
  · exact hclose
  · exact runNotifying_keeps

theorem runSession_keeps {peer : Addr} : Keeps env (runSession abi peer noUhid) := by
  unfold runSession
  refine Keeps.bind hciOpen_keeps ?_
  rintro (_ | hci)
  · exact Keeps.pure
  · refine Keeps.bind hciConnectLe_keeps ?_
    rintro (_ | handle)
    · exact Keeps.bind (Keeps.sys (by simp)) fun _ => Keeps.pure
    · exact runConnected_keeps

theorem reconnectLoop_keeps {peer : Addr} : Keeps env (reconnectLoop abi peer noUhid) := by
  unfold reconnectLoop
  refine Keeps.loop (fun _ => Keeps.running fun b => Keeps.ite Keeps.pure ?_) 1
  refine Keeps.bind runSession_keeps fun rc => Keeps.running fun b => Keeps.ite Keeps.pure ?_
  refine Keeps.bind (Keeps.note (by simp) (by simp)) fun _ => ?_
  exact Keeps.bind (Keeps.sys (by simp)) fun _ => Keeps.pure

end device

theorem usbInitController_keeps {hidraw : List Char} : Keeps env (usbInitController hidraw) := by
  unfold usbInitController
  refine Keeps.bind (Keeps.sys (by simp)) ?_
  rintro (_ | fd)
  · exact Keeps.pure
  · refine Keeps.bind (x := usbCommands fd) ?_ fun ok => ?_
    · refine Keeps.bind writeFull_keeps fun _ => Keeps.ite Keeps.pure ?_
      exact Keeps.bind writeFull_keeps fun _ => Keeps.ite Keeps.pure writeFull_keeps
    · refine Keeps.bind (Keeps.sys (by simp)) fun _ => ?_
      exact Keeps.ite (Keeps.bind (Keeps.sys (by simp)) fun _ => Keeps.pure) Keeps.pure

theorem main_keeps {abi : UhidEvent → Octets} {argv : List (List Char)} :
    Keeps env (main abi argv) := by
  unfold main
  cases parseArgs argv ⟨defaultBdaddr, defaultHidraw, false, false⟩ with
  | none => exact Keeps.pure
  | some a =>
      dsimp only
      cases parseBdaddr a.bdaddr with
      | none => exact Keeps.pure
      | some peer =>
          refine Keeps.ite (Keeps.bind usbInitController_keeps fun _ => Keeps.ite ?_ Keeps.pure) ?_
          · exact Keeps.bind reconnectLoop_keeps fun _ => Keeps.pure
          · exact Keeps.bind reconnectLoop_keeps fun _ => Keeps.pure

/-- **Octets**: in every run each buffer that is written out is exactly the octets the kernel took
for it, and offered again is only what is left; each packet is exactly the octets that were read for
it.
Source: `sw2d.c` `write_full`, `read_full`, `hci_read_packet` -/
theorem main_octets (abi : UhidEvent → Octets) (argv : List (List Char)) (env : System)
    (budget : ℕ) : wire.Follows ((main abi argv).exec ⟨true⟩ env budget).2.trace :=
  main_keeps.exec_follows ⟨rfl, rfl⟩ budget

end Switch2Bt.RawHci

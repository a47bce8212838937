import Switch2Bt.Sw2d.Frame

/-!
# The packet reader of `sw2d.c` on a datagram socket

A `read` of an HCI socket takes one frame off the queue, and what does not fit is lost.
`hci_read_packet` reads a packet piece by piece, as from a stream of octets: the type, the header,
the rest. Each piece comes from another frame, so a call that returns a packet takes at least two
frames off the queue (`hciReadPacket_takes_two`), and the calls return the frames of a queue one
by one iff there is none (`readsFrames_iff`).
-/

namespace Switch2Bt.PacketReader

open Octets Sw2d

/-! ## The socket -/

/-- The frames in the queue of a socket, the oldest first. -/
abbrev Queue := List Octets

/-- A blocking `read` of at most `len` octets: `none` waits for ever, on an empty queue. -/
def read (len : ℕ) : Queue → Option (Octets × Queue)
  | [] => none
  | frame :: q => some (frame.take len, q)

/-- Reads until `len` octets are there, or a read gives none.
Source: `sw2d.c` `read_full` -/
def readFull : Queue → ℕ → Option (Octets × Queue)
  | q, 0 => some ([], q)
  | [], _ + 1 => none
  | frame :: q, len + 1 =>
      let got := frame.take (len + 1)
      if got = [] then some ([], q)
      else (readFull q (len + 1 - got.length)).map fun x => (got ++ x.1, x.2)

/-! ## The reader -/

/-- The ways `hci_read_packet` ends. -/
inductive Result where
  /-- A packet of as many octets as the result says. -/
  | packet (data : Octets)
  /-- The result 0. -/
  | timeout
  /-- The result -1. -/
  | error
  /-- It does not end: a `read` waits for a frame. -/
  | blocked
deriving DecidableEq, Repr

/-- What is behind the header, when its octets are there.
Source: `sw2d.c` `hci_read_packet` (last read of a branch) -/
def readRest (bufsz : ℕ) (header : Octets) (len : ℕ) (q : Queue) : Result × Queue :=
  if bufsz < header.length + len then (.error, q)
  else
    match readFull q len with
    | none => (.blocked, [])
    | some (rest, q) => if rest.length ≠ len then (.error, q) else (.packet (header ++ rest), q)

/-- The header of `n` octets, then the rest, whose length is read off the header.
Source: `sw2d.c` `hci_read_packet` (branches) -/
def readBranch (bufsz : ℕ) (type : UInt8) (n : ℕ) (lenOf : Octets → ℕ) (q : Queue) :
    Result × Queue :=
  if bufsz < 1 + n then (.error, q)
  else
    match readFull q n with
    | none => (.blocked, [])
    | some (header, q) =>
        if header.length ≠ n then (.error, q)
        else readRest bufsz (type :: header) (lenOf (type :: header)) q

/-- The length octet of an event.
Source: `sw2d.c` `hci_read_packet` (`buf[2]`) -/
def eventLen (buf : Octets) : ℕ := (buf.octet 2).toNat

/-- The length word of ACL data.
Source: `sw2d.c` `hci_read_packet` (`dlen`) -/
def aclLen (buf : Octets) : ℕ := (getLe16 buf 3).toNat

/-- One packet into a buffer of `bufsz` octets, and the queue afterwards. `poll` finds an empty
queue not readable.
Source: `sw2d.c` `hci_read_packet` -/
def hciReadPacket (bufsz : ℕ) (q : Queue) : Result × Queue :=
  if q = [] then (.timeout, [])
  else if bufsz < 1 then (.error, q)
  else
    match readFull q 1 with
    | none => (.blocked, [])
    | some ([type], q) =>
        if type = hciEventPkt then readBranch bufsz type 2 eventLen q
        else if type = hciAcldataPkt then readBranch bufsz type 4 aclLen q
        else (.packet [type], q)
    | some (_, q) => (.error, q)

/-- One read of a frame into a buffer of `bufsz` octets.
Source: `hci_transport_user.c` `hci_user_read_frame` (`read`) -/
def hciUserReadFrame (bufsz : ℕ) (q : Queue) : Result × Queue :=
  match read bufsz q with
  | none => (.timeout, [])
  | some (data, q) => if data = [] then (.timeout, q) else (.packet data, q)

/-- The results of `n` calls; a call that does not end is the last. -/
def calls (reader : Queue → Result × Queue) : ℕ → Queue → List Result
  | 0, _ => []
  | n + 1, q =>
      match reader q with
      | (.blocked, _) => [.blocked]
      | (r, q) => r :: calls reader n q

/-! ## Statement -/

/-- An event or ACL data, with the length its header says. -/
def IsFrame (frame : Octets) : Prop :=
  (frame.octet 0 = hciEventPkt ∧ 3 ≤ frame.length ∧ frame.length = 3 + eventLen frame) ∨
    (frame.octet 0 = hciAcldataPkt ∧ 5 ≤ frame.length ∧ frame.length = 5 + aclLen frame)

/-- As many calls as there are frames return the frames. -/
def ReadsFrames (reader : Queue → Result × Queue) (q : Queue) : Prop :=
  calls reader q.length q = q.map .packet

/-! ## One read a frame -/

/-- A large read for each frame returns the frames of a queue one by one. -/
theorem hciUserReadFrame_readsFrames {bufsz : ℕ} {q : Queue}
    (hq : ∀ frame ∈ q, frame ≠ [] ∧ frame.length ≤ bufsz) :
    ReadsFrames (hciUserReadFrame bufsz) q := by
  unfold ReadsFrames
  induction q with
  | nil => rfl
  | cons frame q ih =>
      obtain ⟨hne, hfits⟩ := hq frame List.mem_cons_self
      have hread : hciUserReadFrame bufsz (frame :: q) = (.packet frame, q) := by
        unfold hciUserReadFrame read
        dsimp only
        rw [List.take_of_length_le hfits, if_neg hne]
      rw [List.length_cons, calls, hread, List.map_cons]
      dsimp only
      rw [ih fun f hf => hq f (List.mem_cons_of_mem _ hf)]

/-! ## Several reads a packet -/

/-- `read_full` leaves an end of the queue, which is shorter if there was something to read. -/
theorem readFull_suffix : ∀ {q : Queue} {len : ℕ} {x : Octets × Queue},
    readFull q len = some x → x.2 <:+ q ∧ (0 < len → x.2.length + 1 ≤ q.length)
  | q, 0, x, h => by
      rw [readFull] at h
      obtain rfl := Option.some.inj h
      exact ⟨List.suffix_refl _, fun hpos => absurd hpos (lt_irrefl 0)⟩
  | [], len + 1, x, h => by cases h
  | frame :: q, len + 1, x, h => by
      unfold readFull at h
      dsimp only at h
      by_cases hgot : frame.take (len + 1) = []
      · rw [if_pos hgot] at h
        obtain rfl := Option.some.inj h
        exact ⟨List.suffix_cons _ _, fun _ => le_refl _⟩
      · rw [if_neg hgot, Option.map_eq_some_iff] at h
        obtain ⟨y, hy, rfl⟩ := h
        have hsuffix := (readFull_suffix hy).1
        exact ⟨hsuffix.trans (List.suffix_cons _ _), fun _ => Nat.succ_le_succ hsuffix.length_le⟩

theorem readRest_packet {bufsz len : ℕ} {header data : Octets} {q q' : Queue}
    (h : readRest bufsz header len q = (.packet data, q')) : q' <:+ q := by
  unfold readRest at h
  split at h
  · cases h
  · split at h
    · cases h
    · rename_i rest q₁ hfull
      split at h
      · cases h
      · cases h
        exact (readFull_suffix hfull).1

theorem readBranch_packet {bufsz n : ℕ} {type : UInt8} {lenOf : Octets → ℕ} {data : Octets}
    {q q' : Queue} (hn : 0 < n) (h : readBranch bufsz type n lenOf q = (.packet data, q')) :
    q' <:+ q ∧ q'.length + 1 ≤ q.length := by
  unfold readBranch at h
  split at h
  · cases h
  · split at h
    · cases h
    · rename_i header q₁ hfull
      split at h
      · cases h
      · have hrest := readRest_packet h
        obtain ⟨hsuffix, hless⟩ := readFull_suffix hfull
        exact ⟨hrest.trans hsuffix, (Nat.succ_le_succ hrest.length_le).trans (hless hn)⟩

/-- **A call that returns a packet takes two frames**: the octet of the first read is one frame,
the header at least another. -/
theorem hciReadPacket_takes_two {bufsz : ℕ} {q q' : Queue} {data : Octets}
    (hq : ∀ frame ∈ q, IsFrame frame) (h : hciReadPacket bufsz q = (.packet data, q')) :
    q' <:+ q ∧ q'.length + 2 ≤ q.length := by
  rcases q with _ | ⟨frame, q⟩
  · cases h
  · have hframe := hq frame List.mem_cons_self
    have hlong : 3 ≤ frame.length := by
      rcases hframe with hf | hf
      · exact hf.2.1
      · exact le_trans (by decide) hf.2.1
    obtain ⟨type, rest, rfl⟩ := List.exists_cons_of_length_pos (show 0 < frame.length by omega)
    have hfirst : readFull ((type :: rest) :: q) 1 = some ([type], q) := by
      simp [readFull]
    unfold hciReadPacket at h
    rw [if_neg (List.cons_ne_nil _ _)] at h
    by_cases hbuf : bufsz < 1
    · rw [if_pos hbuf] at h
      cases h
    · rw [if_neg hbuf, hfirst] at h
      dsimp only at h
      have hnext : q' <:+ q ∧ q'.length + 1 ≤ q.length := by
        by_cases hevt : type = hciEventPkt
        · rw [if_pos hevt] at h
          exact readBranch_packet (by decide) h
        · by_cases hacl : type = hciAcldataPkt
          · rw [if_neg hevt, if_pos hacl] at h
            exact readBranch_packet (by decide) h
          · -- no well-formed frame has another type
            rcases hframe with hf | hf
            · exact absurd hf.1 hevt
            · exact absurd hf.1 hacl
      exact ⟨hnext.1.trans (List.suffix_cons _ _), Nat.succ_le_succ hnext.2⟩

/-- `n` calls that all return packets take `2 * n` frames. -/
theorem calls_take_two {bufsz : ℕ} : ∀ {n : ℕ} {q : Queue} {packets : List Octets},
    (∀ frame ∈ q, IsFrame frame) → calls (hciReadPacket bufsz) n q = packets.map .packet →
    packets.length = n → 2 * n ≤ q.length := by
  intro n
  induction n with
  | zero => intros; omega
  | succ n ih =>
      intro q packets hq hcalls hlen
      obtain ⟨data, packets, rfl⟩ := List.exists_cons_of_length_eq_add_one hlen
      rw [calls, List.map_cons] at hcalls
      rcases hread : hciReadPacket bufsz q with ⟨r, q'⟩
      rw [hread] at hcalls
      cases r with
      | packet data' =>
          obtain ⟨hsuffix, hless⟩ := hciReadPacket_takes_two hq hread
          have hrest := ih (fun f hf => hq f (hsuffix.subset hf)) (List.cons.inj hcalls).2
            (Nat.succ.inj hlen)
          omega
      | timeout => cases hcalls
      | error => cases hcalls
      | blocked => cases hcalls

/-- **The packet reader**: the calls return the frames of a queue of well-formed frames, as one
read a frame does, iff the queue is empty. -/
theorem readsFrames_iff (bufsz : ℕ) (q : Queue) (hq : ∀ frame ∈ q, IsFrame frame) :
    ReadsFrames (hciReadPacket bufsz) q ↔ q = [] := by
  constructor
  · intro hreads
    have htwo := calls_take_two hq hreads rfl
    exact List.eq_nil_of_length_eq_zero (by omega)
  · rintro rfl
    rfl

/-! ## One queue -/

/-- The Command Status of LE Create Connection, and an ACL packet with an MTU response. -/
def twoFrames : Queue :=
  [[0x04, 0x0f, 0x04, 0x00, 0x01, 0x0d, 0x20],
    [0x02, 0x40, 0x20, 0x07, 0x00, 0x03, 0x00, 0x04, 0x00, 0x03, 0xf7, 0x00]]

theorem isFrame_twoFrames : ∀ frame ∈ twoFrames, IsFrame frame := by
  intro frame hmem
  rcases List.mem_pair.mp hmem with rfl | rfl
  · exact .inl ⟨rfl, by decide, rfl⟩
  · exact .inr ⟨rfl, by decide, rfl⟩

/-- One read a frame returns both. -/
example : ReadsFrames (hciUserReadFrame 512) twoFrames := rfl

/-- The packet reader does not. -/
theorem not_readsFrames_two : ¬ ReadsFrames (hciReadPacket 260) twoFrames :=
  (readsFrames_iff 260 twoFrames isFrame_twoFrames).not.mpr (List.cons_ne_nil _ _)

/-- It takes type and header of the first event from two frames, and waits for the rest of it,
although both frames fit into its buffer. -/
theorem calls_hciReadPacket_two :
    calls (hciReadPacket 260) 2 twoFrames = [.blocked] ∧
      ¬ ∀ (bufsz : ℕ) (q : Queue), (∀ frame ∈ q, IsFrame frame ∧ frame.length ≤ bufsz) →
        ReadsFrames (hciReadPacket bufsz) q := by
  have hcalls : calls (hciReadPacket 260) 2 twoFrames = [.blocked] := by
    decide
  refine ⟨hcalls, fun hclaim => ?_⟩
  have hfits : ∀ frame ∈ twoFrames, IsFrame frame ∧ frame.length ≤ 260 := by
    intro frame hmem
    refine ⟨isFrame_twoFrames frame hmem, ?_⟩
    rcases List.mem_pair.mp hmem with rfl | rfl
    · decide
    · decide
  have hreads : calls (hciReadPacket 260) 2 twoFrames = twoFrames.map .packet :=
    hclaim 260 twoFrames hfits
  rw [hcalls] at hreads
  cases hreads

end Switch2Bt.PacketReader

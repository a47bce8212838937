import Switch2Bt.Sw2d.Rules

/-!
# Agreement of the two sides of a pairing (`sw2d_final.c`, 2d to 2j)

The confirm function is over the addresses of the initiator and of the responder, so both sides
compute it over the same ones. The initiator's check of the responder's value calls it with the
two exchanged: it accepts the value whatever the cipher iff the two sides have the same address
and address type (`forall_pairingAgrees_iff`). For a given cipher the check decides between the
two addresses where the types are the same (`pairingAgrees_iff_addr`).
-/

namespace Switch2Bt.Sw2d

open Await Octets

/-- What the two sides of a pairing share after 2h: the key, the random octets, the request and
the response, and the addresses of the initiator (`ia`) and of the responder (`ra`). -/
structure Pairing where
  tk : Block
  mrand : Block
  srand : Block
  preq : Vector UInt8 7
  pres : Vector UInt8 7
  iat : UInt8
  ia : Addr
  rat : UInt8
  ra : Addr
deriving DecidableEq, Repr

namespace Pairing

variable (aes : Block → Block → Block) (p : Pairing)

/-- The confirm value of the initiator. -/
def mconfirm : Block := smpC1 aes p.tk p.mrand p.preq p.pres p.iat p.ia p.rat p.ra

/-- The confirm value of the responder. -/
def sconfirm : Block := smpC1 aes p.tk p.srand p.preq p.pres p.iat p.ia p.rat p.ra

/-- The key of the responder. -/
def stk : Block := smpS1 aes p.tk p.mrand p.srand

end Pairing

/-- The session of the initiator of a pairing before 2i, the responder's confirm value received. -/
structure Session.InPairing (aes : Block → Block → Block) (p : Pairing) (s : Session) : Prop where
  smpTk : s.smpTk = p.tk
  smpMrand : s.smpMrand = p.mrand
  smpSrand : s.smpSrand = p.srand
  smpPreq : s.smpPreq = p.preq
  smpPres : s.smpPres = p.pres
  localAddrType : s.localAddrType = p.iat
  localAddr : s.localAddr = p.ia
  peerAddrType : s.peerAddrType = p.rat
  peerAddr : s.peerAddr = p.ra
  smpSconfirm : s.smpSconfirm = p.sconfirm aes

/-- The initiator's check accepts the responder's confirm value, and both derive the same key. -/
def PairingAgrees (E : BlockCipher) (p : Pairing) : Prop :=
  ∀ (env : HostEnv) (w : World), w.s.InPairing E.enc p →
    wp env (do verifyConfirm E.enc; deriveStk E.enc)
      ⟨fun _ w' => w'.s.smpStk = p.stk E.enc, fun _ _ => False, fun _ => False⟩ w

/-! ## Blocks -/

theorem xorBlock_getElem {a b : Block} {i : ℕ} (h : i < 16) :
    (xorBlock a b)[i] = a[i] ^^^ b[i] := by
  simp [xorBlock]

/-- An exclusive or tells its second arguments apart. -/
theorem xorBlock_right_inj {r a b : Block} : xorBlock r a = xorBlock r b ↔ a = b := by
  constructor
  · intro h
    apply Vector.ext
    intro i hi
    have hxor : r[i] ^^^ a[i] = r[i] ^^^ b[i] := by
      rw [← xorBlock_getElem hi, ← xorBlock_getElem hi, h]
    exact (UInt8.xor_right_inj r[i]).mp hxor
  · intro h
    rw [h]

/-- The addresses are read off their block. -/
theorem smpP2_inj {ia ra ia' ra' : Addr} :
    smpP2 ia ra = smpP2 ia' ra' ↔ ia = ia' ∧ ra = ra' := by
  constructor
  · intro h
    obtain ⟨hia, hra⟩ := Vector.append_inj h
    exact ⟨(Vector.append_inj hia).2, hra⟩
  · rintro ⟨rfl, rfl⟩
    rfl

/-! ## The check -/

variable {E : BlockCipher} {p : Pairing}

/-- The confirm value the check computes: the roles are exchanged. -/
def Pairing.expected (aes : Block → Block → Block) (p : Pairing) : Block :=
  smpC1 aes p.tk p.srand p.preq p.pres p.rat p.ra p.iat p.ia

theorem Session.InPairing.expectedConfirm {s : Session} {aes : Block → Block → Block}
    (h : s.InPairing aes p) : s.expectedConfirm aes = p.expected aes := by
  unfold Session.expectedConfirm Pairing.expected
  rw [h.smpTk, h.smpSrand, h.smpPreq, h.smpPres, h.localAddrType, h.localAddr, h.peerAddrType,
    h.peerAddr]

/-- A session of the initiator of a pairing. -/
def Pairing.session (aes : Block → Block → Block) (p : Pairing) : Session :=
  { Session.new p.rat p.iat p.ra p.ia with
    smpTk := p.tk
    smpMrand := p.mrand
    smpSrand := p.srand
    smpPreq := p.preq
    smpPres := p.pres
    smpSconfirm := p.sconfirm aes }

theorem Pairing.session_inPairing (aes : Block → Block → Block) (p : Pairing) :
    (p.session aes).InPairing aes p := by
  constructor <;> rfl

/-- The check goes on iff the value it computes is the one received. -/
theorem wp_verifyConfirm_deriveStk {aes : Block → Block → Block} {env : HostEnv} {w : World}
    {Q : Post World Goto Unit} (hacc : w.s.expectedConfirm aes = w.s.smpSconfirm →
      Q.done () (w.update fun s => { s with smpStk := smpS1 aes s.smpTk s.smpMrand s.smpSrand }))
    (hrej : w.s.expectedConfirm aes ≠ w.s.smpSconfirm → Q.raised .reconnect w) :
    wp env (do verifyConfirm aes; deriveStk aes) Q w := by
  unfold verifyConfirm deriveStk
  apply wp_bind
  refine (wp_get_bind _).mpr (wp_ite (fun hne => ?_) fun heq => ?_)
  · exact wp_gotoReconnect.mpr (hrej hne)
  · exact (wp_pure _).mpr (wp_update.mpr (hacc (not_not.mp heq)))

/-- The two sides agree iff the value computed for the check is the responder's. -/
theorem pairingAgrees_iff_expected :
    PairingAgrees E p ↔ p.expected E.enc = p.sconfirm E.enc := by
  constructor
  · intro h
    by_contra hne
    have hin : (p.session E.enc).InPairing E.enc p := p.session_inPairing E.enc
    have hno : wp (HostEnv.scripted 0 [] []) (do verifyConfirm E.enc; deriveStk E.enc)
        ⟨fun _ _ => False, fun _ _ => True, fun _ => False⟩ ⟨p.session E.enc, []⟩ := by
      refine wp_verifyConfirm_deriveStk (fun heq => hne ?_) fun _ => trivial
      rw [← hin.expectedConfirm, heq, hin.smpSconfirm]
    have hrun := ((h _ ⟨p.session E.enc, []⟩ hin).and hno) 0 0
    rcases hr : (do verifyConfirm E.enc; deriveStk E.enc) (HostEnv.scripted 0 [] [])
      ⟨⟨p.session E.enc, []⟩, 0, 0⟩ with ⟨_ | _ | _, r⟩ <;> rw [hr] at hrun
    · exact hrun.2
    · exact hrun.1
    · exact hrun.1
  · intro h env w hin
    refine wp_verifyConfirm_deriveStk (fun _ => ?_) fun hne => hne ?_
    · change smpS1 E.enc w.s.smpTk w.s.smpMrand w.s.smpSrand = p.stk E.enc
      rw [hin.smpTk, hin.smpMrand, hin.smpSrand]
      rfl
    · rw [hin.expectedConfirm, h, hin.smpSconfirm]

/-- Sides with the same address and type agree: the exchange of the roles does not show. -/
theorem PairingAgrees.of_eq (hat : p.iat = p.rat) (ha : p.ia = p.ra) : PairingAgrees E p := by
  rw [pairingAgrees_iff_expected]
  unfold Pairing.expected Pairing.sconfirm
  rw [hat, ha]

/-- Where both addresses are of one type, the sides agree only if they have one address, whatever
the cipher. -/
theorem pairingAgrees_iff_addr (hat : p.iat = p.rat) : PairingAgrees E p ↔ p.ia = p.ra := by
  constructor
  · intro h
    rw [pairingAgrees_iff_expected] at h
    unfold Pairing.expected Pairing.sconfirm smpC1 at h
    rw [hat] at h
    have hp2 := xorBlock_right_inj.mp (E.injective p.tk h)
    exact (smpP2_inj.mp hp2).2
  · exact PairingAgrees.of_eq hat

theorem smpP1_getElem {preq pres : Vector UInt8 7} {iat rat : UInt8} {i : ℕ} (h : i < 14) :
    (smpP1 preq pres iat rat)[i] = (pres ++ preq)[i] := by
  unfold smpP1
  exact Vector.getElem_append_left h

/-- Octets 4 to 9 of the second block are the initiator's address. -/
theorem smpP2_getElem {ia ra : Addr} {i : ℕ} (h : i < 6) : (smpP2 ia ra)[4 + i] = ia[i] := by
  unfold smpP2
  rw [Vector.getElem_append_left (by omega), Vector.getElem_append_right (by omega) (by omega)]
  simp

/-- Octet 14 of the first block is the responder's address type. -/
theorem smpP1_getElem_14 {preq pres : Vector UInt8 7} {iat rat : UInt8} :
    (smpP1 preq pres iat rat)[14] = rat := by
  unfold smpP1
  rw [Vector.getElem_append_right (by omega) (by omega)]
  rfl

/-- Where nothing is enciphered, the sides agree only if they have one address and one type. -/
theorem PairingAgrees.eq_of_identity (h : PairingAgrees BlockCipher.identity p) :
    p.iat = p.rat ∧ p.ia = p.ra := by
  have hc : ∀ i (_ : i < 16), (smpP1 p.preq p.pres p.rat p.iat)[i] ^^^ (smpP2 p.ra p.ia)[i] =
      (smpP1 p.preq p.pres p.iat p.rat)[i] ^^^ (smpP2 p.ia p.ra)[i] := by
    intro i hi
    have hi' := congrArg (·[i]) (pairingAgrees_iff_expected.mp h)
    simp only [Pairing.expected, Pairing.sconfirm, smpC1, BlockCipher.identity,
      xorBlock_getElem hi, UInt8.xor_assoc] at hi'
    exact (UInt8.xor_right_inj _).mp hi'
  have ha : p.ia = p.ra := by
    apply Vector.ext
    intro i hi
    have hi4 := hc (4 + i) (by omega)
    rw [smpP1_getElem (by omega), smpP1_getElem (by omega), UInt8.xor_right_inj,
      smpP2_getElem hi, smpP2_getElem hi] at hi4
    exact hi4.symm
  refine ⟨?_, ha⟩
  have h14 := hc 14 (by omega)
  rw [ha, UInt8.xor_left_inj, smpP1_getElem_14, smpP1_getElem_14] at h14
  exact h14

/-- **The check accepts the responder's confirm value whatever the cipher iff both sides have the
same address and address type.** -/
theorem forall_pairingAgrees_iff :
    (∀ E, PairingAgrees E p) ↔ p.iat = p.rat ∧ p.ia = p.ra := by
  constructor
  · intro h
    exact (h BlockCipher.identity).eq_of_identity
  · rintro ⟨hat, ha⟩ E
    exact PairingAgrees.of_eq hat ha

/-- A pairing over two public addresses. -/
def publicPairing : Pairing where
  tk := Vector.replicate 16 0
  mrand := Vector.replicate 16 0
  srand := Vector.replicate 16 0
  preq := preq
  pres := #v[smpOpPairingRsp, 0x03, 0x00, 0x01, 0x10, 0x03, 0x03]
  iat := publicConfig.localAddrType
  ia := publicConfig.localAddr
  rat := publicConfig.peerAddrType
  ra := publicConfig.peerAddr

/-- There the check rejects the responder's value, whatever the cipher. -/
theorem not_pairingAgrees_publicPairing : ¬∃ E, PairingAgrees E publicPairing := by
  rintro ⟨E, h⟩
  have ha := (pairingAgrees_iff_addr rfl).mp h
  exact absurd ha (by decide)

end Switch2Bt.Sw2d

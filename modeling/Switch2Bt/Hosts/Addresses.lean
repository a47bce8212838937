import Switch2Bt.Sw2d.Rules

/-!
# Device addresses in the two raw-HCI daemons (`sw2d.c`, `sw2d_final.c`)

From an address text to the octets the controller gets. HCI carries an address with the last octet
of its text first. `sw2d_final.c` reads addresses with `str2ba`, which stores them so; `sw2d.c` has
a parser of its own, which stores the first octet first, and so does the fallback address of
`sw2d_final.c`. The octet orders agree iff the peer's address reads the same in both directions and
the fallback is not used (`oneOctetOrder_iff`).
-/

namespace Switch2Bt.Addresses

open Await Octets Sw2d

/-! ## Scanning -/

/-- Source: C library, `isspace` -/
def isSpace (c : Char) : Bool := c = ' ' ∨ ('\t' ≤ c ∧ c ≤ '\r')

/-- The sign of a conversion, what is left of its width of 2, and the rest of the string. -/
def scanSign : List Char → UInt32 × ℕ × List Char
  | '-' :: s => (-1, 1, s)
  | '+' :: s => (1, 1, s)
  | s => (1, 2, s)

/-- One conversion `%02x`: white space is skipped; a sign and a prefix `0x` count to the width. -/
def scanX2 (s : List Char) : Option (UInt32 × List Char) :=
  let (sign, width, s) := scanSign (s.dropWhile isSpace)
  match (s.take width).map hexValue with
  | [some h, some l] => some (sign * UInt32.ofNat (16 * h + l), s.drop 2)
  | some h :: _ =>
      if width = 2 ∧ (s.take 2 = ['0', 'x'] ∨ s.take 2 = ['0', 'X']) then none
      else some (sign * UInt32.ofNat h, s.drop 1)
  | _ => none

/-- `n` conversions, with colons between them. -/
def scanFields : ℕ → List Char → Option (List UInt32)
  | 0, _ => some []
  | 1, s => (scanX2 s).map fun x => [x.1]
  | n + 2, s =>
      match scanX2 s with
      | some (v, ':' :: s) => (scanFields (n + 1) s).map (v :: ·)
      | _ => none

/-- `sscanf(s, "%02x:%02x:%02x:%02x:%02x:%02x", …)`: the values in the order of the conversions, if
there are six. -/
def sscanfBdaddr (s : List Char) : Option (List UInt32) := scanFields 6 s

/-! ## `sw2d.c` -/

/-- Source: `sw2d.c` `parse_bdaddr` -/
def parseBdaddr (s : List Char) : Option Addr :=
  match sscanfBdaddr s with
  | none => none
  | some a =>
      if a.any (0xff < ·) then none
      else some (Vector.ofFn fun i => (a.getD i 0).toUInt8)

/-- The parameters of LE Create Connection.
Source: `sw2d.c` `hci_connect_le` (`p`) -/
def hciConnectLeParams (peer : Addr) : Octets :=
  putLe16 0x0004 ++ putLe16 0x0004 ++ [0x00, 0x00] ++ peer.toList ++ [0x00] ++ putLe16 0x000F ++
    putLe16 0x000F ++ putLe16 0x0000 ++ putLe16 0x0C80 ++ putLe16 0x0001 ++ putLe16 0x0001

/-! ## `sw2d_final.c` -/

/-- The first line of a file, as much of it as `fgets` puts into a buffer of `n` octets, without
the line end. -/
def fgetsLine (n : ℕ) (contents : List Char) : List Char :=
  (contents.take (n - 1)).takeWhile (· ≠ '\n')

/-- The address of the file in sysfs, if it can be read.
Source: `sw2d_final.c` `read_local_bdaddr` -/
def readLocalBdaddr (sysfs : Option (List Char)) : Option Addr :=
  match sysfs with
  | none => none
  | some contents =>
      if contents = [] then none
      else (sscanfBdaddr (fgetsLine 32 contents)).map fun b =>
        Vector.ofFn fun i => (b.getD (5 - i) 0).toUInt8

/-- An address as `%02x:%02x:…` prints it, the last octet first.
Source: `sw2d_final.c` `main` (host BDADDR) -/
def printBdaddr (a : Addr) : List Char := (hexSep ":" a.toList.reverse).toList

/-- The host address: its octets, and the text the user sees for it. -/
structure HostBdaddr where
  hostBytes : Addr
  shown : List Char
deriving DecidableEq

/-- The host address, if the command line gives one or asks for `auto`. `str2ba` is BlueZ's.
Source: `sw2d_final.c` `main` (resolve host BDADDR) -/
def resolveHost (str2ba : List Char → Option Addr) (sysfs : Option (List Char))
    (hostSpec : List Char) : Option HostBdaddr :=
  if hostSpec = "auto".toList then
    match readLocalBdaddr sysfs with
    | some lb => some ⟨lb, printBdaddr lb⟩
    | none => some ⟨⟨⟨[0xD8, 0x3A, 0xDD, 0xE5, 0x69, 0xED]⟩, rfl⟩, "D8:3A:DD:E5:69:ED".toList⟩
  else (str2ba hostSpec).map fun b => ⟨b, hostSpec⟩

/-- The report that tells the controller the host address.
Source: `sw2d_final.c` `usb_prep` (`BluetoothManualPair`) -/
def bluetoothManualPair (host : Addr) : Octets :=
  [0x01, 0x03] ++ List.replicate 8 0 ++ [0x01] ++ host.toList ++ List.replicate 47 0

/-! ## Statement -/

/-- Two hexadecimal digits. -/
structure HexOctet where
  hi : Char
  lo : Char
  isHi : (hexValue hi).isSome
  isLo : (hexValue lo).isSome

/-- The value of two hexadecimal digits. -/
def HexOctet.value (o : HexOctet) : UInt8 :=
  UInt8.ofNat (16 * (hexValue o.hi).get o.isHi + (hexValue o.lo).get o.isLo)

/-- The text of a device address. -/
structure AddressText where
  a1 : HexOctet
  a2 : HexOctet
  a3 : HexOctet
  a4 : HexOctet
  a5 : HexOctet
  a6 : HexOctet

/-- The characters of an address text. -/
def AddressText.text (t : AddressText) : List Char :=
  [t.a1.hi, t.a1.lo, ':', t.a2.hi, t.a2.lo, ':', t.a3.hi, t.a3.lo, ':', t.a4.hi, t.a4.lo, ':',
    t.a5.hi, t.a5.lo, ':', t.a6.hi, t.a6.lo]

/-- The octets of an address text, the first one first. -/
def AddressText.octets (t : AddressText) : Addr :=
  #v[t.a1.value, t.a2.value, t.a3.value, t.a4.value, t.a5.value, t.a6.value]

/-- The octets of an address text, the last one first. -/
def AddressText.reversed (t : AddressText) : Addr :=
  #v[t.a6.value, t.a5.value, t.a4.value, t.a3.value, t.a2.value, t.a1.value]

/-- `str2ba` stores the last textual octet first. -/
def StoresLastFirst (str2ba : List Char → Option Addr) : Prop :=
  ∀ t : AddressText, str2ba t.text = some t.reversed

/-- The peer address field of LE Create Connection. -/
def peerField (params : Octets) : Octets := params.slice 6 12

/-- Every LE Create Connection of a trace has the given peer address field. -/
def CreatesTo (peer : Octets) (_ : List Sw2d.Obs) (o : Sw2d.Obs) : Prop :=
  ∀ params ok, o = .command opCreateConn params ok → peerField params = peer

/-- The peer address of the text goes to the controller in reverse, in both daemons. -/
structure PeerOrder (str2ba : List Char → Option Addr) (t : AddressText) : Prop where
  sw2d : ∃ peer, parseBdaddr t.text = some peer ∧
    peerField (hciConnectLeParams peer) = t.reversed.toList
  sw2dFinal : ∃ peer, str2ba t.text = some peer ∧ ∀ aes env budget (cfg : HostConfig),
    cfg.peerAddr = peer →
      Everywhere (CreatesTo t.reversed.toList) (hostRun aes cfg env budget).trace

/-- The host address is used in the reverse order of the text the user sees: in
`BluetoothManualPair`, and in the session, whose addresses `smp_c1` is called with. -/
def HostOrder (str2ba : List Char → Option Addr) (sysfs : Option (List Char))
    (hostSpec : List Char) : Prop :=
  ∀ host, resolveHost str2ba sysfs hostSpec = some host → ∃ u : AddressText, host.shown = u.text ∧
    (bluetoothManualPair host.hostBytes).slice 11 17 = u.reversed.toList ∧
    ∀ aes env budget (cfg : HostConfig), cfg.localAddr = host.hostBytes →
      (hostRun aes cfg env budget).s.localAddr = u.reversed

/-! ## The addresses of a run -/

section run

variable {aes : Block → Block → Block} {env : HostEnv} {cfg : HostConfig} {w : Sw2d.World}
  {o : Sw2d.Obs}

/-- What the loop never assigns is that of the configuration, and so is the address of every LE
Create Connection. -/
structure Addressed (cfg : HostConfig) (w : Sw2d.World) : Prop where
  given : w.s.given = cfg.start.s.given
  obs : Everywhere (CreatesTo cfg.peerAddr.toList) w.trace

theorem Addressed.emit (h : Addressed cfg w)
    (ho : ∀ params ok, o ≠ .command opCreateConn params ok) : Addressed cfg (w.emit o) :=
  ⟨h.given, everywhere_snoc.mpr ⟨h.obs, fun params ok heq => absurd heq (ho params ok)⟩⟩

theorem Addressed.update {g : Session → Session} (hg : ∀ s, (g s).given = s.given)
    (h : Addressed cfg w) : Addressed cfg (w.update g) := ⟨(hg w.s).trans h.given, h.obs⟩

theorem Addressed.setState (st : SessionState) (h : Addressed cfg w) :
    Addressed cfg (w.setState st) :=
  ⟨h.given, everywhere_snoc.mpr ⟨h.obs, nofun⟩⟩

theorem Addressed.begin (h : Addressed cfg w) : Addressed cfg w.begin := by
  refine ⟨h.given, ?_⟩
  rw [Sw2d.World.begin_trace]
  exact everywhere_snoc.mpr ⟨everywhere_snoc.mpr ⟨h.obs, nofun⟩, nofun⟩

/-- The field holds the address of the session. -/
theorem peerField_createConnParams (s : Session) :
    peerField (createConnParams s) = s.peerAddr.toList := by
  have hlen : s.peerAddr.toList.length = 6 := s.peerAddr.length_toList
  unfold peerField createConnParams
  generalize s.peerAddr.toList = peer at hlen
  match peer, hlen with
  | [_, _, _, _, _, _], _ => rfl

theorem Addressed.create (h : Addressed cfg w) (ok : Bool) :
    Addressed cfg (w.emit (.command opCreateConn (createConnParams w.s) ok)) := by
  refine ⟨h.given, everywhere_snoc.mpr ⟨h.obs, ?_⟩⟩
  rintro params ok' heq
  cases heq
  have hpeer : w.s.peerAddr = cfg.peerAddr := congrArg (fun g => g.2.2.2.1) h.given
  rw [peerField_createConnParams, hpeer]

theorem steady_addressed : Steady (Addressed cfg) where
  ctl _ _ h := h.emit nofun
  update _ _ hg h := h.update fun s => (hg s).2.2
  setState st _ h := h.setState st
  emit o _ ho h := by
    apply h.emit
    rintro params ok rfl
    exact absurd ho (by simp [Sw2d.Obs.afterConnection])

/-- An iteration keeps the addresses. -/
theorem iteration_addressed :
    Always env (Addressed cfg) (iteration aes cfg.sendSecurityReq) := by
  have hctl : CtlStable (Addressed cfg) := steady_addressed.ctl
  have hbegin : Always env (Addressed cfg) beginSession := by
    intro w hw
    apply wp_beginSession (Addressed cfg) (Addressed cfg) hctl hctl
    · exact hw.begin
    · exact fun _ h => h
    · exact fun _ h => h
    · exact fun _ => hw.begin.update fun _ => rfl
    · exact fun ok w h => h.emit fun _ _ heq => by cases heq
    · exact fun data f w h _ => h.emit nofun
    · exact fun w h => h.update fun _ => rfl
  have hconnect : Always env (Addressed cfg) connect := by
    apply Always.connect hctl steady_addressed.update
    · exact fun _ _ h => h.update fun _ => rfl
    · exact fun ok _ h => h.create ok
    · exact fun _ _ _ h _ _ => h.emit nofun
    · exact fun _ _ _ h _ _ _ => Addressed.setState _ (h.emit nofun)
    · exact fun _ h => h.setState _
  unfold iteration
  exact hbegin.bind fun _ => hconnect.bind fun _ => steady_addressed.phases aes _

/-- **Every run keeps the addresses it was given.** -/
theorem hostRun_addressed (aes : Block → Block → Block) (cfg : HostConfig) (env : HostEnv)
    (budget : ℕ) : Addressed cfg (hostRun aes cfg env budget) :=
  hostRun_of_iteration steady_addressed.ctl (fun _ h => h) (fun _ h => h.emit nofun)
    iteration_addressed ⟨rfl, everywhere_nil⟩ budget

end run

/-! ## Reading an address text -/

/-- A hexadecimal digit does not come before `0`. -/
theorem hexValue_toNat {c : Char} (h : (hexValue c).isSome) : 48 ≤ c.toNat := by
  have hfrom : ∀ {lo hi : Char}, lo ≤ c ∧ c ≤ hi → lo.toNat ≤ c.toNat := fun hc => hc.1
  unfold hexValue at h
  by_cases h0 : '0' ≤ c ∧ c ≤ '9'
  · exact hfrom h0
  · by_cases ha : 'a' ≤ c ∧ c ≤ 'f'
    · exact le_trans (by decide) (hfrom ha)
    · by_cases hA : 'A' ≤ c ∧ c ≤ 'F'
      · exact le_trans (by decide) (hfrom hA)
      · rw [if_neg h0, if_neg ha, if_neg hA] at h
        cases h

theorem not_isSpace {c : Char} (h : 48 ≤ c.toNat) : isSpace c = false := by
  unfold isSpace
  rw [decide_eq_false_iff_not]
  rintro (rfl | ⟨_, hr⟩)
  · exact absurd h (by decide)
  · have hle : c.toNat ≤ '\r'.toNat := hr
    exact absurd (le_trans h hle) (by decide)

theorem scanSign_of_digit {c : Char} (h : 48 ≤ c.toNat) (s : List Char) :
    scanSign (c :: s) = (1, 2, c :: s) := by
  unfold scanSign
  split
  · rename_i heq
    rw [(List.cons.inj heq).1] at h
    exact absurd h (by decide)
  · rename_i heq
    rw [(List.cons.inj heq).1] at h
    exact absurd h (by decide)
  · rfl

/-- The value of a digit is below 16. -/
theorem hexValue_get_lt {c : Char} (h : (hexValue c).isSome) : (hexValue c).get h < 16 := by
  have hdigit : ∀ {lo hi : Char} {n k : ℕ}, lo ≤ c ∧ c ≤ hi → hi.toNat - n ≤ k →
      c.toNat - n ≤ k := by
    intro lo hi n k hc hk
    have hle : c.toNat ≤ hi.toNat := hc.2
    omega
  unfold hexValue
  split_ifs with h0 ha hA
  · exact Nat.lt_succ_of_le (le_trans (hdigit h0 (le_refl 9)) (by decide))
  · exact Nat.lt_succ_of_le (hdigit ha (le_refl 15))
  · exact Nat.lt_succ_of_le (hdigit hA (le_refl 15))
  · unfold hexValue at h
    rw [if_neg h0, if_neg ha, if_neg hA] at h
    cases h

/-- The value a conversion of two digits gives. -/
def HexOctet.word (o : HexOctet) : UInt32 :=
  UInt32.ofNat (16 * (hexValue o.hi).get o.isHi + (hexValue o.lo).get o.isLo)

theorem HexOctet.word_le (o : HexOctet) : o.word ≤ 0xff := by
  have hhi := hexValue_get_lt o.isHi
  have hlo := hexValue_get_lt o.isLo
  apply UInt32.le_iff_toNat_le.mpr
  unfold word
  rw [UInt32.toNat_ofNat', show (0xff : UInt32).toNat = 255 from rfl]
  omega

theorem HexOctet.word_toUInt8 (o : HexOctet) : o.word.toUInt8 = o.value := by
  unfold word value
  apply UInt8.toNat_inj.mp
  rw [UInt32.toNat_toUInt8, UInt32.toNat_ofNat', UInt8.toNat_ofNat']
  omega

/-- Two digits are one conversion. -/
theorem scanX2_pair (o : HexOctet) (rest : List Char) :
    scanX2 (o.hi :: o.lo :: rest) = some (o.word, rest) := by
  have hdigit := hexValue_toNat o.isHi
  have hspace : (o.hi :: o.lo :: rest).dropWhile isSpace = o.hi :: o.lo :: rest :=
    List.dropWhile_cons_of_neg (by rw [not_isSpace hdigit]; exact Bool.false_ne_true)
  have hmap : ((o.hi :: o.lo :: rest).take 2).map hexValue =
      [some ((hexValue o.hi).get o.isHi), some ((hexValue o.lo).get o.isLo)] := by
    simp
  unfold scanX2
  rw [hspace, scanSign_of_digit hdigit]
  dsimp only
  rw [hmap]
  simp [HexOctet.word]

/-- The conversions read the six octets. -/
theorem sscanfBdaddr_text (t : AddressText) : sscanfBdaddr t.text =
    some [t.a1.word, t.a2.word, t.a3.word, t.a4.word, t.a5.word, t.a6.word] := by
  unfold sscanfBdaddr AddressText.text
  simp only [scanFields, scanX2_pair, Option.map_some]

/-- `parse_bdaddr` stores the octets in the order of the text. -/
theorem parseBdaddr_text (t : AddressText) : parseBdaddr t.text = some t.octets := by
  have hany : [t.a1.word, t.a2.word, t.a3.word, t.a4.word, t.a5.word, t.a6.word].any
      (0xff < ·) = false := by
    rw [List.any_eq_false]
    intro v hv
    rw [decide_eq_true_iff, UInt32.not_lt]
    simp only [List.mem_cons, List.not_mem_nil, or_false] at hv
    rcases hv with rfl | rfl | rfl | rfl | rfl | rfl
    all_goals exact HexOctet.word_le _
  have hvec : (Vector.ofFn fun i : Fin 6 => ([t.a1.word, t.a2.word, t.a3.word, t.a4.word,
      t.a5.word, t.a6.word].getD i 0).toUInt8) = t.octets := by
    unfold AddressText.octets
    simp only [← HexOctet.word_toUInt8]
    rfl
  unfold parseBdaddr
  rw [sscanfBdaddr_text]
  dsimp only
  rw [hany, hvec]
  rfl

/-! ## Printing an address -/

/-- The text of an octet. -/
def HexOctet.ofOctet (b : UInt8) : HexOctet where
  hi := hexDigit (b.toNat / 16)
  lo := hexDigit (b.toNat % 16)
  isHi := by
    rw [hexValue_hexDigit (Nat.div_lt_of_lt_mul b.toNat_lt)]
    rfl
  isLo := by
    rw [hexValue_hexDigit (Nat.mod_lt _ (by decide))]
    rfl

theorem HexOctet.value_ofOctet (b : UInt8) : (ofOctet b).value = b := by
  have hhi : hexValue (hexDigit (b.toNat / 16)) = some (b.toNat / 16) :=
    hexValue_hexDigit (Nat.div_lt_of_lt_mul b.toNat_lt)
  have hlo : hexValue (hexDigit (b.toNat % 16)) = some (b.toNat % 16) :=
    hexValue_hexDigit (Nat.mod_lt _ (by decide))
  simp only [value, ofOctet, hhi, hlo, Option.get_some]
  rw [Nat.div_add_mod, UInt8.ofNat_toNat]

/-- What is printed of an address is its text, the last octet first. -/
theorem printBdaddr_text (a : Addr) :
    ∃ u : AddressText, printBdaddr a = u.text ∧ u.reversed = a := by
  obtain ⟨⟨l⟩, hl⟩ := a
  match l, hl with
  | [b0, b1, b2, b3, b4, b5], _ =>
      refine ⟨⟨.ofOctet b5, .ofOctet b4, .ofOctet b3, .ofOctet b2, .ofOctet b1, .ofOctet b0⟩,
        ?_, ?_⟩
      · unfold printBdaddr
        simp [toList_hexSep_cons, hexPair, AddressText.text, HexOctet.ofOctet]
      · simp [AddressText.reversed, HexOctet.value_ofOctet]

/-! ## The octet order -/

variable {str2ba : List Char → Option Addr}

/-- Both addresses are used in reverse. -/
structure OneOctetOrder (str2ba : List Char → Option Addr) (t : AddressText)
    (sysfs : Option (List Char)) (hostSpec : List Char) : Prop where
  peer : PeerOrder str2ba t
  host : HostOrder str2ba sysfs hostSpec

/-- The field that `sw2d.c` sends holds the octets as they were stored. -/
theorem peerField_hciConnectLeParams (peer : Addr) :
    peerField (hciConnectLeParams peer) = peer.toList := by
  obtain ⟨⟨l⟩, hl⟩ := peer
  match l, hl with
  | [_, _, _, _, _, _], _ => rfl

theorem bluetoothManualPair_slice (host : Addr) :
    (bluetoothManualPair host).slice 11 17 = host.toList := by
  obtain ⟨⟨l⟩, hl⟩ := host
  match l, hl with
  | [_, _, _, _, _, _], _ => rfl

/-- The peer's address is in reverse iff it reads the same in both directions: `sw2d.c` sends it
as it is. -/
theorem peerOrder_iff (h : StoresLastFirst str2ba) (t : AddressText) :
    PeerOrder str2ba t ↔ t.octets = t.reversed := by
  constructor
  · intro ⟨⟨peer, hpeer, hfield⟩, _⟩
    rw [parseBdaddr_text] at hpeer
    cases hpeer
    rw [peerField_hciConnectLeParams] at hfield
    exact Vector.toList_inj.mp hfield
  · intro heq
    refine ⟨⟨t.octets, parseBdaddr_text t, ?_⟩, t.reversed, h t, ?_⟩
    · rw [peerField_hciConnectLeParams, heq]
    · intro aes env budget cfg hcfg
      rw [← hcfg]
      exact (hostRun_addressed aes cfg env budget).obs

/-- The host address is in reverse if it was stored in the reverse of the text. -/
theorem hostOrder_of_text {sysfs : Option (List Char)} {hostSpec : List Char} {host : HostBdaddr}
    (hres : resolveHost str2ba sysfs hostSpec = some host) (u : AddressText)
    (hshown : host.shown = u.text) (hbytes : host.hostBytes = u.reversed) :
    HostOrder str2ba sysfs hostSpec := by
  intro host' hres'
  obtain rfl : host = host' := Option.some.inj (hres.symm.trans hres')
  refine ⟨u, hshown, ?_, fun aes env budget cfg hcfg => ?_⟩
  · rw [bluetoothManualPair_slice, hbytes]
  · have hlocal : (hostRun aes cfg env budget).s.localAddr = cfg.localAddr :=
      congrArg (fun g => g.2.2.2.2) (hostRun_addressed aes cfg env budget).given
    rw [hlocal, hcfg, hbytes]

/-- The text of the fallback address. -/
def fallbackText : AddressText where
  a1 := ⟨'D', '8', rfl, rfl⟩
  a2 := ⟨'3', 'A', rfl, rfl⟩
  a3 := ⟨'D', 'D', rfl, rfl⟩
  a4 := ⟨'E', '5', rfl, rfl⟩
  a5 := ⟨'6', '9', rfl, rfl⟩
  a6 := ⟨'E', 'D', rfl, rfl⟩

theorem eq_fallbackText {u : AddressText} (h : "D8:3A:DD:E5:69:ED".toList = u.text) :
    u = fallbackText := by
  obtain ⟨⟨h1, l1, _, _⟩, ⟨h2, l2, _, _⟩, ⟨h3, l3, _, _⟩, ⟨h4, l4, _, _⟩, ⟨h5, l5, _, _⟩,
    ⟨h6, l6, _, _⟩⟩ := u
  cases h
  rfl

/-- The host address is in reverse unless it is the fallback. -/
theorem hostOrder_iff (h : StoresLastFirst str2ba) (sysfs : Option (List Char))
    {hostSpec : List Char}
    (hspec : hostSpec = "auto".toList ∨ ∃ u : AddressText, hostSpec = u.text) :
    HostOrder str2ba sysfs hostSpec ↔
      (hostSpec = "auto".toList → (readLocalBdaddr sysfs).isSome) := by
  by_cases hauto : hostSpec = "auto".toList
  · rcases hlocal : readLocalBdaddr sysfs with _ | lb
    · -- the fallback is stored in the order of its text
      constructor
      · intro horder
        have hres : resolveHost str2ba sysfs hostSpec =
            some ⟨⟨⟨[0xD8, 0x3A, 0xDD, 0xE5, 0x69, 0xED]⟩, rfl⟩, "D8:3A:DD:E5:69:ED".toList⟩ := by
          unfold resolveHost
          rw [if_pos hauto, hlocal]
        obtain ⟨u, hshown, hpair, _⟩ := horder _ hres
        rw [eq_fallbackText hshown, bluetoothManualPair_slice] at hpair
        exact absurd hpair (by decide)
      · exact fun hsome => absurd (hsome hauto) Bool.false_ne_true
    · constructor
      · exact fun _ _ => rfl
      · intro _
        obtain ⟨u, htext, hrev⟩ := printBdaddr_text lb
        have hres : resolveHost str2ba sysfs hostSpec = some ⟨lb, printBdaddr lb⟩ := by
          unfold resolveHost
          rw [if_pos hauto, hlocal]
        exact hostOrder_of_text hres u htext hrev.symm
  · obtain ⟨u, hu⟩ := hspec.resolve_left hauto
    constructor
    · exact fun _ heq => absurd heq hauto
    · intro _
      have hres : resolveHost str2ba sysfs hostSpec = some ⟨u.reversed, hostSpec⟩ := by
        unfold resolveHost
        rw [if_neg hauto, hu, h u]
        rfl
      exact hostOrder_of_text hres u hu rfl

/-- **The octet order**: both addresses go out in reverse iff the peer's address reads the same in
both directions, and the host's is not the fallback. -/
theorem oneOctetOrder_iff (str2ba : List Char → Option Addr) (h : StoresLastFirst str2ba)
    (t : AddressText) (sysfs : Option (List Char)) (hostSpec : List Char)
    (hspec : hostSpec = "auto".toList ∨ ∃ u : AddressText, hostSpec = u.text) :
    OneOctetOrder str2ba t sysfs hostSpec ↔
      t.octets = t.reversed ∧ (hostSpec = "auto".toList → (readLocalBdaddr sysfs).isSome) := by
  rw [← peerOrder_iff h t, ← hostOrder_iff h sysfs hspec]
  exact ⟨fun ho => ⟨ho.peer, ho.host⟩, fun ho => ⟨ho.1, ho.2⟩⟩

/-! ## Two inputs -/

/-- A reader that stores the last textual octet first. -/
def readLastFirst (s : List Char) : Option Addr := (parseBdaddr s).map Vector.reverse

theorem readLastFirst_storesLastFirst : StoresLastFirst readLastFirst := by
  intro t
  unfold readLastFirst
  rw [parseBdaddr_text]
  simp [AddressText.octets, AddressText.reversed]

/-- An address that reads the same in both directions. -/
def evenText : AddressText where
  a1 := ⟨'0', '1', rfl, rfl⟩
  a2 := ⟨'0', '2', rfl, rfl⟩
  a3 := ⟨'0', '3', rfl, rfl⟩
  a4 := ⟨'0', '3', rfl, rfl⟩
  a5 := ⟨'0', '2', rfl, rfl⟩
  a6 := ⟨'0', '1', rfl, rfl⟩

/-- Such a peer, and a host address in sysfs. -/
theorem oneOctetOrder_even : OneOctetOrder readLastFirst evenText
    (some "d8:3a:dd:e5:69:ed\n".toList) "auto".toList :=
  (oneOctetOrder_iff readLastFirst readLastFirst_storesLastFirst evenText _ _ (.inl rfl)).mpr
    ⟨by decide, fun _ => by decide⟩

/-- The address of a controller, the default of `sw2d.c`.
Source: `sw2d.c` `DEFAULT_BDADDR` -/
def defaultText : AddressText where
  a1 := ⟨'E', '0', rfl, rfl⟩
  a2 := ⟨'E', 'F', rfl, rfl⟩
  a3 := ⟨'B', 'F', rfl, rfl⟩
  a4 := ⟨'3', 'B', rfl, rfl⟩
  a5 := ⟨'C', '6', rfl, rfl⟩
  a6 := ⟨'7', '6', rfl, rfl⟩

/-- A controller's address goes out in two orders. -/
theorem not_oneOctetOrder_default : ¬ OneOctetOrder readLastFirst defaultText
    (some "d8:3a:dd:e5:69:ed\n".toList) "auto".toList := fun h =>
  absurd ((peerOrder_iff readLastFirst_storesLastFirst defaultText).mp h.peer) (by decide)

end Switch2Bt.Addresses

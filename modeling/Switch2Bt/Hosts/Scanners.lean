import Switch2Bt.Codec.AdStructures
import Switch2Bt.Daemon.Effects
import Switch2Bt.Sw2d.Rules

/-!
# The four scanners

Which advertising payloads the four programs take for a controller: `adv_data_has_switch2_pro` in
`sw2d_final.c`, `adv_is_nintendo` in the bridge, the filter of `sw2d_btstack.c`, and the strict
`stage_scan` of `switch2d.py` (`acceptedInfo`). Three of them take the documented advertisement
wherever it stands in the payload. `sw2d_btstack.c` looks for vendor and product right behind the
company id, and takes a payload only if another structure has them there (`scanners_iff`).
-/

namespace Switch2Bt.Scanners

open Octets AdStructure Sw2d

/-- The AD type of manufacturer data. -/
def adManufacturer : UInt8 := 0xFF

/-! ## `sw2d_final.c` -/

/-- Company, vendor and product id. -/
abbrev Ids := UInt16 × UInt16 × UInt16

/-- The ids of a Pro Controller 2. -/
def switch2ProIds : Ids := (0x0553, 0x057E, 0x2069)

/-- The ids in the manufacturer data at `m`, of a structure with length octet `el`: those behind
the company id, else those at the positions of the captures.
Source: `sw2d_final.c` `adv_data_has_switch2_pro` (loop body) -/
def manufacturerIds (data : Octets) (m : ℕ) (el : UInt8) : Option Ids :=
  let cid := getLe16 data (m + 0)
  let vid := if 7 ≤ el then getLe16 data (m + 2) else 0
  let pid := if 7 ≤ el then getLe16 data (m + 4) else 0
  if (cid, vid, pid) = switch2ProIds then some (cid, vid, pid)
  else
    let vid := if cid = 0x0553 ∧ 10 ≤ el then getLe16 data (m + 5) else vid
    let pid := if cid = 0x0553 ∧ 10 ≤ el then getLe16 data (m + 7) else pid
    if (cid, vid, pid) = switch2ProIds then some (cid, vid, pid) else none

/-- The loop from position `di`; the result 1 comes with the ids.
Source: `sw2d_final.c` `adv_data_has_switch2_pro` -/
def advDataHasSwitch2Pro (data : Octets) (dlen : UInt8) (di : ℕ) : Option Ids :=
  if di + 2 < dlen.toNat then
    let el := data.octet di
    let ty := data.octet (di + 1)
    if el = 0 ∨ dlen.toNat < di + 1 + el.toNat then none
    else
      match if ty = adManufacturer ∧ 7 ≤ el then manufacturerIds data (di + 2) el else none with
      | some ids => some ids
      | none => advDataHasSwitch2Pro data dlen (di + (1 + el.toNat))
  else none
termination_by dlen.toNat - di

/-! ## `switch2_btstack_bridge.c` -/

/-- The loop from position `pos`.
Source: `switch2_btstack_bridge.c` `adv_is_nintendo` -/
def advIsNintendo (ad : Octets) (len pos : UInt8) : Bool :=
  if pos.toNat + 1 < len.toNat then
    let elen := ad.octet pos.toNat
    let type := ad.octet (pos.toNat + 1)
    if h : elen = 0 ∨ len.toNat < pos.toNat + 1 + elen.toNat then false
    else if type = adManufacturer ∧ 3 ≤ elen ∧ getLe16 ad (pos.toNat + 2) = 0x0553 then true
    else advIsNintendo ad len (pos + (1 + elen))
  else false
termination_by len.toNat - pos.toNat
decreasing_by
  have hlen := len.toNat_lt
  have hfit : pos.toNat + 1 + (ad.octet pos.toNat).toNat ≤ len.toNat :=
    Nat.le_of_not_lt fun hlt => h (.inr hlt)
  rw [UInt8.toNat_add, UInt8.toNat_add, show (1 : UInt8).toNat = 1 from rfl]
  omega

/-! ## `sw2d_btstack.c` -/

/-- Source: `sw2d_btstack.c` `state_t` -/
inductive HostState where
  | w4Working
  | w4ScanResult
  | w4Connect
  | w4ServiceResult
  | w4CharacteristicResult
  | w4EnableNotificationsComplete
  | ready
deriving DecidableEq, Repr

/-- The globals the handler of an advertising report assigns.
Source: `sw2d_btstack.c` -/
structure Host where
  state : HostState
  remoteAddr : Addr
  remoteAddrType : UInt8
deriving DecidableEq, Repr

/-- Source: `sw2d_btstack.c` `packet_handler` (`GAP_EVENT_ADVERTISING_REPORT`) -/
structure AdvertisingReport where
  eventType : UInt8
  address : Addr
  addressType : UInt8
  data : Octets
deriving DecidableEq, Repr

/-- Whether a structure has company, vendor and product id one behind the other.
Source: `sw2d_btstack.c` `packet_handler` (loop body) -/
def isSwitchPro2 (s : AdStructure) : Bool :=
  s.adType = adManufacturer ∧ 6 ≤ s.data.length ∧ getLe16 s.data 0 = 0x0553 ∧
    getLe16 s.data 2 = 0x057E ∧ getLe16 s.data 4 = 0x2069

/-- What an advertising report does; a host in the state `w4Connect` has called `gap_connect`.
`adIterator` gives the structures BTstack's iterator visits.
Source: `sw2d_btstack.c` `packet_handler` (`GAP_EVENT_ADVERTISING_REPORT`) -/
def advertisingReport (adIterator : Octets → List AdStructure) (r : AdvertisingReport)
    (host : Host) : Host :=
  if host.state ≠ .w4ScanResult then host
  else if r.eventType ≠ 0 then host
  else if (adIterator r.data).any isSwitchPro2 then ⟨.w4Connect, r.address, r.addressType⟩
  else host

/-! ## Statement -/

/-- The manufacturer data, without the company id. -/
def mfgData (s : AdStructure) : Octets := s.data.drop 2

/-- The documented advertisement: company id, then manufacturer data of at least 16 octets with
the vendor id at octets 3 and 4 and the product id at octets 5 and 6. -/
structure Documented (s : AdStructure) : Prop where
  adType : s.adType = adManufacturer
  company : getLe16 s.data 0 = 0x0553
  length : 16 ≤ (mfgData s).length
  vendor : ((mfgData s).slice 3 5).leNat = 0x057E
  product : ((mfgData s).slice 5 7).leNat = 0x2069

/-- Manufacturer data that start with company, vendor and product id. -/
def IdsBehindCompany (s : AdStructure) : Prop :=
  s.adType = adManufacturer ∧ s.data.take 6 = [0x53, 0x05, 0x7E, 0x05, 0x69, 0x20]

/-- All four programs take the advertisement for a controller. -/
structure Recognised (adIterator : Octets → List AdStructure) (r : AdvertisingReport) (host : Host)
    (args : Args) (device : BLEDevice) (adv : Advertisement) : Prop where
  sw2dFinal : (advDataHasSwitch2Pro r.data (UInt8.ofNat r.data.length) 0).isSome
  bridge : advIsNintendo r.data (UInt8.ofNat r.data.length) 0 = true
  sw2dBtstack : (advertisingReport adIterator r host).state = .w4Connect
  switch2d : (acceptedInfo args device adv).isSome

/-! ## Words -/

/-- A word has a value iff its octets have. -/
theorem getLe16_eq_iff {data : Octets} {i : ℕ} {lo hi : UInt8} {v : UInt16}
    (hv : v.toNat = lo.toNat + 256 * hi.toNat) :
    getLe16 data i = v ↔ data.octet i = lo ∧ data.octet (i + 1) = hi := by
  have h1 := lo.toNat_lt
  have h2 := (data.octet i).toNat_lt
  rw [← UInt16.toNat_inj, getLe16_toNat, hv, ← UInt8.toNat_inj, ← UInt8.toNat_inj]
  omega

/-- The value of two octets of a string. -/
theorem leNat_slice_two {data : Octets} {i : ℕ} (h : i + 2 ≤ data.length) :
    (data.slice i (i + 2)).leNat = (getLe16 data i).toNat := by
  have hslice : data.slice i (i + 2) = [data.octet i, data.octet (i + 1)] := by
    apply List.ext_getElem
    · simp only [slice, List.length_take, List.length_drop, List.length_cons, List.length_nil]
      omega
    · intro k hk hk'
      have hk2 : k < 2 := hk'
      rcases k with _ | _ | k
      · simp [slice, octet, List.getElem?_eq_getElem (show i < data.length by omega)]
      · simp [slice, octet, List.getElem?_eq_getElem (show i + 1 < data.length by omega)]
      · omega
  rw [hslice, getLe16_toNat]
  simp [leNat]

/-- A word of the data of a structure, read off the payload. -/
theorem getLe16_data (pre : Octets) (s : AdStructure) (rest : Octets) {i : ℕ}
    (h : i + 1 < s.data.length) :
    getLe16 (pre ++ (s.wire ++ rest)) (pre.length + 2 + i) = getLe16 s.data i := by
  unfold getLe16
  rw [octet_data pre s rest (by omega), Nat.add_assoc (pre.length + 2), octet_data pre s rest h]

namespace Documented

variable {s : AdStructure}

theorem length_data (h : Documented s) : 18 ≤ s.data.length := by
  have hlen := h.length
  rw [mfgData, List.length_drop] at hlen
  omega

/-- The length octet of a documented structure is at least 19. -/
theorem le_len (h : Documented s) {n : UInt8} (hn : n ≤ 19) : n ≤ s.len := by
  apply UInt8.le_iff_toNat_le.mpr
  rw [s.toNat_len]
  exact le_trans (UInt8.le_iff_toNat_le.mp hn) (Nat.succ_le_succ h.length_data)

/-- A word of the manufacturer data, counted from the start of the data. -/
theorem word (h : Documented s) {i : ℕ} (hi : i + 2 ≤ 16) {v : UInt16}
    (hv : ((mfgData s).slice i (i + 2)).leNat = v.toNat) : getLe16 s.data (i + 2) = v := by
  have hlen := h.length
  rw [leNat_slice_two (by omega), UInt16.toNat_inj] at hv
  rw [← hv]
  unfold getLe16 octet mfgData
  simp only [List.getD_eq_getElem?_getD, List.getElem?_drop]
  rw [Nat.add_comm 2 i, show 2 + (i + 1) = i + 2 + 1 by omega]

theorem vendorWord (h : Documented s) : getLe16 s.data 5 = 0x057E := h.word (by omega) h.vendor

theorem productWord (h : Documented s) : getLe16 s.data 7 = 0x2069 := h.word (by omega) h.product

end Documented

/-! ## Three scanners take the documented advertisement -/

/-- A length octet counts up to 255. -/
theorem toNat_ofNat_of_le {n : ℕ} (h : n ≤ 255) : (UInt8.ofNat n).toNat = n :=
  UInt8.toNat_ofNat_of_lt' (Nat.lt_succ_of_le h)

/-- The ids are found in the documented structure: at the positions of the captures, if they do
not stand behind the company id as well. -/
theorem manufacturerIds_documented (pre rest : Octets) {s : AdStructure} (hdoc : Documented s) :
    (manufacturerIds (pre ++ (s.wire ++ rest)) (pre.length + 2) s.len).isSome := by
  have hlen := hdoc.length_data
  have hten := hdoc.le_len (show 10 ≤ 19 by decide)
  have hseven := hdoc.le_len (show 7 ≤ 19 by decide)
  have hcid := (getLe16_data pre s rest (by omega)).trans hdoc.company
  have hvid := (getLe16_data pre s rest (by omega)).trans hdoc.vendorWord
  have hpid := (getLe16_data pre s rest (by omega)).trans hdoc.productWord
  unfold manufacturerIds
  simp only [hcid, hvid, hpid, hten, hseven, and_self, if_true]
  split
  · rfl
  · rfl

/-- The structure at `pre` lies inside the payload. -/
theorem room {bytes pre rest : Octets} {s : AdStructure}
    (hbytes : bytes = pre ++ (s.wire ++ rest)) :
    pre.length + 1 + s.len.toNat ≤ bytes.length := by
  rw [hbytes, List.length_append, List.length_append, length_wire]
  omega

/-- The loop of `adv_data_has_switch2_pro` at the start of a structure. -/
theorem advDataHasSwitch2Pro_at {bytes pre rest : Octets} {s : AdStructure} {dlen : UInt8}
    (hbytes : bytes = pre ++ (s.wire ++ rest)) (hdlen : dlen.toNat = bytes.length)
    (hroom : pre.length + 2 < dlen.toNat) :
    advDataHasSwitch2Pro bytes dlen pre.length =
      match if s.adType = adManufacturer ∧ 7 ≤ s.len then
        manufacturerIds bytes (pre.length + 2) s.len else none with
      | some ids => some ids
      | none => advDataHasSwitch2Pro bytes dlen (pre.length + (1 + s.len.toNat)) := by
  have hfits := room hbytes
  have hgo : ¬ (s.len = 0 ∨ dlen.toNat < pre.length + 1 + s.len.toNat) := by
    rintro (h | h)
    · exact s.len_ne_zero h
    · omega
  have hlen : bytes.octet pre.length = s.len := hbytes ▸ octet_len pre s rest
  have htype : bytes.octet (pre.length + 1) = s.adType := hbytes ▸ octet_adType pre s rest
  rw [advDataHasSwitch2Pro, if_pos hroom]
  simp only [hlen, htype]
  rw [if_neg hgo]

/-- `adv_data_has_switch2_pro` returns 1. -/
theorem advDataHasSwitch2Pro_documented {ads : List AdStructure} {s : AdStructure} (hs : s ∈ ads)
    (hdoc : Documented s) (hlen : (payload ads).length ≤ 255) :
    (advDataHasSwitch2Pro (payload ads) (UInt8.ofNat (payload ads).length) 0).isSome := by
  have hdlen := toNat_ofNat_of_le hlen
  generalize UInt8.ofNat (payload ads).length = dlen at hdlen ⊢
  refine visit (payload ads) (P := fun di => (advDataHasSwitch2Pro (payload ads) dlen di).isSome)
    ?_ ?_ ads [] rfl hs
  · intro pre t rest hbytes hnext
    by_cases hroom : pre.length + 2 < dlen.toNat
    · rw [advDataHasSwitch2Pro_at hbytes hdlen hroom]
      split
      · rfl
      · rwa [← Nat.add_assoc]
    · have htlen := t.toNat_len
      rw [advDataHasSwitch2Pro, if_neg (by omega)] at hnext
      exact absurd hnext Bool.false_ne_true
  · intro pre rest hbytes
    have hfits := room hbytes
    have hslen := s.toNat_len
    have hdata := hdoc.length_data
    have hseven := hdoc.le_len (show 7 ≤ 19 by decide)
    have hfound := manufacturerIds_documented pre rest hdoc
    rw [← hbytes] at hfound
    obtain ⟨ids, hids⟩ := Option.isSome_iff_exists.mp hfound
    rw [advDataHasSwitch2Pro_at hbytes hdlen (by omega), if_pos ⟨hdoc.adType, hseven⟩, hids]
    rfl

/-- The loop of `adv_is_nintendo` at the start of a structure. -/
theorem advIsNintendo_at {bytes pre rest : Octets} {s : AdStructure} {len : UInt8}
    (hbytes : bytes = pre ++ (s.wire ++ rest)) (hlen : len.toNat = bytes.length) :
    advIsNintendo bytes len (UInt8.ofNat pre.length) =
      if s.adType = adManufacturer ∧ 3 ≤ s.len ∧ getLe16 bytes (pre.length + 2) = 0x0553 then true
      else advIsNintendo bytes len (UInt8.ofNat (pre.length + 1 + s.len.toNat)) := by
  have hfits := room hbytes
  have hslen := s.toNat_len
  have hmax := len.toNat_lt
  have hpos : (UInt8.ofNat pre.length).toNat = pre.length := toNat_ofNat_of_le (by omega)
  have hgo : ¬ (s.len = 0 ∨ len.toNat < pre.length + 1 + s.len.toNat) := by
    rintro (h | h)
    · exact s.len_ne_zero h
    · omega
  have hel : bytes.octet pre.length = s.len := hbytes ▸ octet_len pre s rest
  have htype : bytes.octet (pre.length + 1) = s.adType := hbytes ▸ octet_adType pre s rest
  have hnext : UInt8.ofNat pre.length + (1 + s.len) =
      UInt8.ofNat (pre.length + 1 + s.len.toNat) := by
    apply UInt8.toNat_inj.mp
    rw [toNat_ofNat_of_le (by omega), UInt8.toNat_add, UInt8.toNat_add, hpos,
      show (1 : UInt8).toNat = 1 from rfl]
    omega
  rw [advIsNintendo]
  simp only [hpos, hel, htype]
  rw [if_pos (by omega), dif_neg hgo, hnext]

/-- `adv_is_nintendo` returns true. -/
theorem advIsNintendo_documented {ads : List AdStructure} {s : AdStructure} (hs : s ∈ ads)
    (hdoc : Documented s) (hlen : (payload ads).length ≤ 255) :
    advIsNintendo (payload ads) (UInt8.ofNat (payload ads).length) 0 = true := by
  have htotal := toNat_ofNat_of_le hlen
  generalize UInt8.ofNat (payload ads).length = len at htotal ⊢
  refine visit (payload ads) (P := fun pos => advIsNintendo (payload ads) len (UInt8.ofNat pos))
    ?_ ?_ ads [] rfl hs
  · intro pre t rest hbytes hnext
    rw [advIsNintendo_at hbytes htotal]
    split_ifs
    · rfl
    · exact hnext
  · intro pre rest hbytes
    have hdata := hdoc.length_data
    have hthree := hdoc.le_len (show 3 ≤ 19 by decide)
    have hcid : getLe16 (payload ads) (pre.length + 2) = 0x0553 := by
      rw [hbytes]
      exact (getLe16_data pre s rest (i := 0) (by omega)).trans hdoc.company
    rw [advIsNintendo_at hbytes htotal, if_pos ⟨hdoc.adType, hthree, hcid⟩]

/-- The strict `stage_scan` takes it. -/
theorem acceptedInfo_documented {args : Args} {device : BLEDevice} {adv : Advertisement}
    {s : AdStructure} (hdoc : Documented s) (haddr : passesAddress args device = true)
    (hadv : adv.manufacturerData.lookup nintendoMfrId = some (mfgData s)) :
    (acceptedInfo args device adv).isSome := by
  have hne : mfgData s ≠ [] := List.ne_nil_of_length_pos (lt_of_lt_of_le (by decide) hdoc.length)
  have hentry : nonEmptyEntry adv nintendoMfrId = some (mfgData s) := by
    unfold nonEmptyEntry
    rw [hadv, Option.filter_some, if_pos (decide_eq_true hne)]
  have hinfo : advInfo args device adv = some (parseManufacturerData (mfgData s)) := by
    unfold advInfo
    rw [if_pos haddr, hentry]
  have hpid : (parseManufacturerData (mfgData s)).productId = some proController2Pid := by
    unfold parseManufacturerData
    rw [if_pos hdoc.length]
    exact congrArg some hdoc.product
  unfold acceptedInfo
  rw [hinfo, Option.filter_some, if_pos]
  · rfl
  · unfold passesPid
    rw [hpid]
    simp

/-! ## `sw2d_btstack.c` does not -/

/-- The filter takes a structure whose ids stand behind the company id. -/
theorem isSwitchPro2_iff (s : AdStructure) : isSwitchPro2 s = true ↔ IdsBehindCompany s := by
  have hcid : getLe16 s.data 0 = 0x0553 ↔ s.data.octet 0 = 0x53 ∧ s.data.octet 1 = 0x05 :=
    getLe16_eq_iff rfl
  have hvid : getLe16 s.data 2 = 0x057E ↔ s.data.octet 2 = 0x7E ∧ s.data.octet 3 = 0x05 :=
    getLe16_eq_iff rfl
  have hpid : getLe16 s.data 4 = 0x2069 ↔ s.data.octet 4 = 0x69 ∧ s.data.octet 5 = 0x20 :=
    getLe16_eq_iff rfl
  unfold isSwitchPro2 IdsBehindCompany
  rw [decide_eq_true_iff, hcid, hvid, hpid]
  constructor
  · rintro ⟨htype, hlen, ⟨h0, h1⟩, ⟨h2, h3⟩, h4, h5⟩
    refine ⟨htype, ?_⟩
    match s.data, hlen, h0, h1, h2, h3, h4, h5 with
    | b0 :: b1 :: b2 :: b3 :: b4 :: b5 :: rest, _, h0, h1, h2, h3, h4, h5 =>
        cases h0; cases h1; cases h2; cases h3; cases h4; cases h5
        rfl
  · rintro ⟨htype, htake⟩
    obtain ⟨rest, hdata⟩ : ∃ rest, s.data = [0x53, 0x05, 0x7E, 0x05, 0x69, 0x20] ++ rest :=
      ⟨s.data.drop 6, by rw [← htake, List.take_append_drop]⟩
    rw [hdata]
    exact ⟨htype, by simp, ⟨rfl, rfl⟩, ⟨rfl, rfl⟩, rfl, rfl⟩

/-- The documented structure is no such: its octet 5 would be two different octets. -/
theorem not_idsBehindCompany_documented {s : AdStructure} (hdoc : Documented s) :
    ¬ IdsBehindCompany s := by
  rintro ⟨_, htake⟩
  have hword : s.data.octet 5 = 0x7E ∧ s.data.octet 6 = 0x05 :=
    (getLe16_eq_iff rfl).mp hdoc.vendorWord
  have hfifth : s.data.octet 5 = 0x20 := by
    rw [← List.take_append_drop 6 s.data, htake]
    rfl
  rw [hfifth] at hword
  exact absurd hword.1 (by decide)

/-- The handler connects iff the iterator visits a structure of the filter. -/
theorem advertisingReport_connects (adIterator : Octets → List AdStructure)
    (r : AdvertisingReport) (host : Host) (hstate : host.state = .w4ScanResult)
    (htype : r.eventType = 0) :
    (advertisingReport adIterator r host).state = .w4Connect ↔
      ∃ t ∈ adIterator r.data, IdsBehindCompany t := by
  have hany : (adIterator r.data).any isSwitchPro2 = true ↔
      ∃ t ∈ adIterator r.data, IdsBehindCompany t := by
    rw [List.any_eq_true]
    simp only [isSwitchPro2_iff]
  unfold advertisingReport
  rw [if_neg (not_not_intro hstate), if_neg (not_not_intro htype), ← hany]
  by_cases h : (adIterator r.data).any isSwitchPro2 = true
  · rw [if_pos h]
    exact ⟨fun _ => h, fun _ => rfl⟩
  · rw [if_neg h, hstate]
    exact ⟨fun h' => HostState.noConfusion h', fun h' => absurd h' h⟩

/-- **The four scanners**: a payload with the documented structure is taken by all of them iff it
has another structure with vendor and product id right behind the company id. -/
theorem scanners_iff (adIterator : Octets → List AdStructure) (ads : List AdStructure)
    (s : AdStructure) (r : AdvertisingReport) (host : Host) (args : Args) (device : BLEDevice)
    (adv : Advertisement) (hs : s ∈ ads) (hdoc : Documented s)
    (hlen : (payload ads).length ≤ 255) (hdata : r.data = payload ads)
    (hiter : adIterator (payload ads) = ads) (hstate : host.state = .w4ScanResult)
    (htype : r.eventType = 0)
    (haddr : passesAddress args device = true)
    (hadv : adv.manufacturerData.lookup nintendoMfrId = some (mfgData s)) :
    Recognised adIterator r host args device adv ↔ ∃ t ∈ ads, IdsBehindCompany t := by
  have hconnects := advertisingReport_connects adIterator r host hstate htype
  rw [hdata, hiter] at hconnects
  rw [← hconnects]
  constructor
  · exact fun h => h.sw2dBtstack
  · intro h
    refine ⟨?_, ?_, h, acceptedInfo_documented hdoc haddr hadv⟩
    · rw [hdata]
      exact advDataHasSwitch2Pro_documented hs hdoc hlen
    · rw [hdata]
      exact advIsNintendo_documented hs hdoc hlen

/-! ## Two payloads -/

/-- The flags of a device that is no classic one. -/
def flagsAd : AdStructure := ⟨0x01, [0x06], by decide⟩

/-- The manufacturer data of a controller in pairing mode. -/
def padAd : AdStructure :=
  ⟨adManufacturer, [0x53, 0x05, 0x01, 0x00, 0x03, 0x7E, 0x05, 0x69, 0x20, 0x00, 0x01, 0x81, 0x00,
    0x00, 0x00, 0x00, 0x00, 0x00], by decide⟩

/-- Vendor and product id right behind the company id. -/
def idsAd : AdStructure := ⟨adManufacturer, [0x53, 0x05, 0x7E, 0x05, 0x69, 0x20], by decide⟩

theorem padAd_documented : Documented padAd := ⟨rfl, by decide, by decide, by decide, by decide⟩

/-- A connectable advertisement with the given structures. -/
def AdvertisingReport.of (ads : List AdStructure) : AdvertisingReport :=
  ⟨0, publicConfig.peerAddr, 0, payload ads⟩

/-- A host that scans. -/
def Host.scanning : Host := ⟨.w4ScanResult, publicConfig.peerAddr, 0⟩

/-- A payload with both structures is taken by all. -/
theorem recognised_both :
    Recognised structures (.of [flagsAd, padAd, idsAd]) .scanning (defaultArgs false true "auto")
      ⟨"E0:EF:BF:3B:C6:76"⟩ ⟨[(nintendoMfrId, mfgData padAd)]⟩ :=
  (scanners_iff structures [flagsAd, padAd, idsAd] padAd _ _ _ _ _ (by simp) padAd_documented
    (by decide) rfl (structures_payload _) rfl rfl rfl rfl).mpr ⟨idsAd, by simp, rfl, rfl⟩

/-- The documented advertisement is not taken by `sw2d_btstack.c`. -/
theorem not_recognised_documented : Documented padAd ∧
    ¬ Recognised structures (.of [flagsAd, padAd]) .scanning (defaultArgs false true "auto")
      ⟨"E0:EF:BF:3B:C6:76"⟩ ⟨[(nintendoMfrId, mfgData padAd)]⟩ := by
  refine ⟨padAd_documented, fun h => ?_⟩
  have hconnects := (advertisingReport_connects structures
    (.of [flagsAd, padAd]) .scanning rfl rfl).mp h.sw2dBtstack
  rw [show (AdvertisingReport.of [flagsAd, padAd]).data = payload [flagsAd, padAd] from rfl,
    structures_payload] at hconnects
  obtain ⟨t, ht, hids⟩ := hconnects
  rcases List.mem_pair.mp ht with rfl | rfl
  · exact absurd hids.1 (by decide)
  · exact not_idsBehindCompany_documented padAd_documented hids

end Switch2Bt.Scanners

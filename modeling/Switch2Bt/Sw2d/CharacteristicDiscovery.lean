import Switch2Bt.Sw2d.AclFraming
import Switch2Bt.Sw2d.AclWait

/-!
# The discovery of the report characteristic (`sw2d_final.c`, 4c)

A Read By Type Response lists characteristics; 4c looks at the first of each response, and the last
of these that notifies becomes the source of the reports. With none the handle of an earlier session
stays, and only a session without a handle takes the fallback. So the handle found is that of a
notifying characteristic exactly when one of them comes first in its response, or an earlier
session found it (`discovery_iff`).

* `ReadByTypeRsp` is a well-formed response.
* `wp_discoverLoop` is the loop: the handle it leaves is a fold over what was delivered to it.
-/

namespace Switch2Bt.Sw2d

open Await Octets

/-! ## Responses -/

/-- A characteristic declaration. -/
structure CharDecl where
  handle : UInt16
  properties : UInt8
  valueHandle : UInt16
  uuid : Octets
deriving DecidableEq, Repr

namespace CharDecl

/-- The Notify bit is set. -/
def Notifies (e : CharDecl) : Prop := e.properties &&& 0x10 ≠ 0

instance (e : CharDecl) : Decidable e.Notifies := inferInstanceAs (Decidable (_ ≠ _))

/-- The entry of a response. -/
def octets (e : CharDecl) : Octets :=
  putLe16 e.handle ++ [e.properties] ++ putLe16 e.valueHandle ++ e.uuid

theorem octets_length (e : CharDecl) : e.octets.length = 5 + e.uuid.length := by
  simp [octets, putLe16]
  omega

end CharDecl

/-- A Read By Type Response to 4c: whole entries of one length, in a packet that the buffer
takes. -/
structure ReadByTypeRsp where
  entryLen : UInt8
  entries : List CharDecl
  seven_le : 7 ≤ entryLen.toNat
  whole : ∀ e ∈ entries, e.octets.length = entryLen.toNat
  fits : 2 + (entries.flatMap CharDecl.octets).length ≤ 64

namespace ReadByTypeRsp

/-- The PDU. -/
def octets (r : ReadByTypeRsp) : Octets :=
  [attOpReadByTypeRsp, r.entryLen] ++ r.entries.flatMap CharDecl.octets

/-- The value handle of the first entry, if that notifies. -/
def first (r : ReadByTypeRsp) : Option UInt16 :=
  r.entries.head?.bind fun e => if e.Notifies then some e.valueHandle else none

theorem octets_length (r : ReadByTypeRsp) : r.octets.length ≤ 64 := by
  have hfits := r.fits
  simp only [octets, List.length_append, List.length_cons, List.length_nil]
  omega

end ReadByTypeRsp

/-- The declaration of the first entry is where 4c looks for it. -/
theorem notedHandle_cons (entryLen : UInt8) (e : CharDecl) (rest : Octets)
    (hlen : 7 ≤ e.octets.length) :
    let pdu := [attOpReadByTypeRsp, entryLen] ++ (e.octets ++ rest)
    notedHandle pdu pdu.length = if e.Notifies then some e.valueHandle else none := by
  intro pdu
  have hlong : 7 ≤ pdu.length := by
    simp only [pdu, List.length_append]
    omega
  have hvalue : getLe16 pdu 5 = e.valueHandle := by
    have hpdu : pdu = ([attOpReadByTypeRsp, entryLen] ++ putLe16 e.handle ++ [e.properties]) ++
        (putLe16 e.valueHandle ++ (e.uuid ++ rest)) := by
      simp [pdu, CharDecl.octets]
    rw [hpdu]
    exact getLe16_putLe16 _ _ _
  unfold notedHandle
  rw [hvalue]
  by_cases hnotify : e.Notifies
  · rw [if_pos hnotify, if_pos ⟨rfl, hlong, hnotify⟩]
  · rw [if_neg hnotify, if_neg fun hc => hnotify hc.2.2]

/-- What 4c notes of a response is its first entry. -/
theorem notedHandle_octets (r : ReadByTypeRsp) :
    notedHandle r.octets r.octets.length = r.first := by
  unfold ReadByTypeRsp.octets ReadByTypeRsp.first
  rcases hentries : r.entries with _ | ⟨e, es⟩
  · rfl
  · have hlen : 7 ≤ e.octets.length := by
      rw [r.whole e (hentries ▸ List.mem_cons_self)]
      exact r.seven_le
    exact notedHandle_cons r.entryLen e (es.flatMap CharDecl.octets) hlen

/-! ## The loop -/

/-- The source of the reports: its handle and that of its configuration descriptor. -/
def Session.source (s : Session) : UInt16 × UInt16 := (s.reportHandle, s.reportCccd)

/-- The source of the reports after one more PDU. -/
def note (source : UInt16 × UInt16) (pdu : Octets) : UInt16 × UInt16 :=
  match notedHandle pdu pdu.length with
  | some h => (h, h + 1)
  | none => source

/-- The last handle noted is the source of the reports. -/
theorem foldl_note (pdus : List Octets) (source : UInt16 × UInt16) :
    pdus.foldl note source =
      match (pdus.filterMap fun pdu => notedHandle pdu pdu.length).getLast? with
      | some h => (h, h + 1)
      | none => source := by
  induction pdus using List.reverseRecOn with
  | nil => rfl
  | append_singleton pdus pdu ih =>
      rw [List.foldl_append, List.foldl_cons, List.foldl_nil, ih, List.filterMap_append, note]
      rcases hnoted : notedHandle pdu pdu.length with _ | h
      · simp [hnoted]
      · simp [hnoted]

/-- A payload that fits the buffer is noted as it came. -/
theorem noteCharacteristic_source {buf : Octets} {f : Frame} (s : Session)
    (h : f.payloadLen.toNat ≤ buf.length) :
    (s.noteCharacteristic (rxAwaitAclOut buf f).1 (rxAwaitAclOut buf f).2).source =
      note s.source (f.payloadTake f.payloadLen.toNat) := by
  have hnoted : notedHandle (rxAwaitAclOut buf f).1 f.payloadLen.toNat =
      notedHandle (f.payloadTake f.payloadLen.toNat) f.payloadLen.toNat := by
    apply notedHandle_congr
    intro i hi
    rw [rxAwaitAclOut_octet h hi, f.payloadTake_octet hi]
  rw [(rxAwaitAclOut_fits h).1, noteCharacteristic_eq, hnoted, note, Frame.payloadTake_length]
  rcases notedHandle (f.payloadTake f.payloadLen.toNat) f.payloadLen.toNat with _ | v
  · rfl
  · rfl

/-- The PDU that a wait for ATT data returned. -/
def Obs.attPdu : Obs → Option Octets
  | .delivered cid f _ => if cid = attCid then some (f.payloadTake f.payloadLen.toNat) else none
  | _ => none

/-- The ATT PDUs delivered since the trace was `tr`, in order. -/
def attPdusSince (tr : List Obs) (w : World) : List Octets := seenSince Obs.attPdu tr w.trace

/-- 4c up to the end of its loop.
Source: `sw2d_final.c` `main` (4c, before `if (!s.report_handle)`) -/
def discoverLoop : Host Unit := do
  let w ← Coro.get
  emit (.attStep .characteristics)
  require (← attSend ([attOpReadByTypeReq] ++ putLe16 w.s.svcStart ++ putLe16 w.s.svcEnd ++
    [0x03, 0x28]))
  let now ← nowMs
  Coro.loop (fun _ => characteristicsStep (now + 3000)) ()

/-- Source: `sw2d_final.c` `main` (4c, `if (!s.report_handle)`) -/
def Session.fallback (s : Session) : Session :=
  if s.reportHandle = 0 then { s with reportHandle := 0x000E, reportCccd := 0x000F } else s

theorem discoverCharacteristics_eq : discoverCharacteristics = (do
    discoverLoop
    update Session.fallback
    setState .gattReady) := by
  unfold discoverCharacteristics discoverLoop
  simp only [bind_assoc]
  rfl

/-- The loop: if every PDU fitted, the source of the reports is a fold over them. -/
structure Discovering (w₀ w : World) : Prop where
  trace : w₀.trace <+: w.trace
  source : (∀ pdu ∈ attPdusSince w₀.trace w, pdu.length ≤ 64) →
    w.s.source = (attPdusSince w₀.trace w).foldl note w₀.s.source

section discovering

variable {env : HostEnv} {w₀ w : World}

/-- A step of the session that leaves the source, and an observation that delivers nothing. -/
theorem Discovering.emit {o : Obs} {g : Session → Session} (h : Discovering w₀ w)
    (hg : (g w.s).source = w.s.source) (ho : o.attPdu = none) :
    Discovering w₀ ((w.update g).emit o) := by
  have htrace : w₀.trace <+: (w.update g).trace := h.trace
  refine ⟨htrace.trans (List.prefix_append _ _), fun hfit => ?_⟩
  rw [attPdusSince, World.emit_trace, seenSince_snoc htrace, ho, Option.toList_none,
    List.append_nil] at hfit ⊢
  exact hg.trans (h.source hfit)

/-- A PDU is delivered and noted. -/
theorem Discovering.deliver {buf : Octets} {f : Frame} (h : Discovering w₀ w)
    (hbuf : buf.length = 64) :
    Discovering w₀ ((w.emit (.delivered attCid f buf.length)).update
      (Session.noteCharacteristic (rxAwaitAclOut buf f).1 (rxAwaitAclOut buf f).2)) := by
  refine ⟨h.trace.trans (List.prefix_append _ _), fun hfit => ?_⟩
  have hsnoc : attPdusSince w₀.trace (w.emit (.delivered attCid f buf.length)) =
      attPdusSince w₀.trace w ++ [f.payloadTake f.payloadLen.toNat] := seenSince_snoc h.trace
  have hpdus : ∀ pdu ∈ attPdusSince w₀.trace w ++ [f.payloadTake f.payloadLen.toNat],
      pdu.length ≤ 64 := hsnoc ▸ hfit
  have hlen := hpdus _ (List.mem_append_right _ (List.mem_singleton.mpr rfl))
  rw [Frame.payloadTake_length, ← hbuf] at hlen
  have hsource := h.source fun pdu hmem => hpdus pdu (List.mem_append_left _ hmem)
  calc (w.s.noteCharacteristic (rxAwaitAclOut buf f).1 (rxAwaitAclOut buf f).2).source
      = note w.s.source (f.payloadTake f.payloadLen.toNat) := noteCharacteristic_source w.s hlen
    _ = (attPdusSince w₀.trace w ++ [f.payloadTake f.payloadLen.toNat]).foldl note w₀.s.source := by
        rw [hsource, List.foldl_append, List.foldl_cons, List.foldl_nil]
    _ = (attPdusSince w₀.trace (w.emit (.delivered attCid f buf.length))).foldl note
        w₀.s.source := by
        rw [hsnoc]

theorem Discovering.ctl : CtlStable (Discovering w₀) := fun _ _ h => h.emit (g := id) rfl rfl

/-- One turn of the loop. -/
theorem characteristicsStep_discovering (deadline : ℤ) (h : Discovering w₀ w) :
    wp env (characteristicsStep deadline)
      ⟨fun _ => Discovering w₀, fun _ _ => True, fun _ => True⟩ w := by
  have hobs : ∀ {w : World} {o : Obs}, Discovering w₀ w → o.attPdu = none →
      Discovering w₀ (w.emit o) := fun h ho => h.emit (g := id) rfl ho
  refine wp_nowMs _ Discovering.ctl h (fun _ _ => trivial) fun now w h => ?_
  refine wp_ite (fun _ => wp_emit_bind.mpr ((wp_pure _).mpr (hobs h rfl))) fun _ => ?_
  refine wp_gRunning _ Discovering.ctl h (fun _ _ => trivial) fun running w h => ?_
  refine wp_ite (fun _ => wp_emit_bind.mpr ((wp_pure _).mpr (hobs h rfl))) fun _ => ?_
  refine wp_indeterminate fun (buf : Vector UInt8 64) => ?_
  refine wp_nowMs _ Discovering.ctl h (fun _ _ => trivial) fun now' w h => ?_
  refine wp_bind (wp_rxAwaitAcl _ Discovering.ctl h (fun _ _ => trivial) ?_ ?_ ?_ ?_ ?_)
  · exact fun w h => (wp_pure _).mpr (hobs h rfl)
  · exact fun data f w h _ _ => wp_gotoReconnect.mpr trivial
  · exact fun data f w h _ _ => (hobs h rfl).emit rfl rfl
  · exact fun data f w h _ _ _ _ => hobs h rfl
  · intro data f w h _ _
    have hread : Discovering w₀ (w.read .rxAwaitAcl data f) := hobs h rfl
    have hlen : buf.toList.length = 64 := by simp
    have hnoted := hread.deliver (f := f) hlen
    refine wp_update_bind.mpr (wp_ite (fun _ => (wp_pure _).mpr ?_) fun _ => (wp_pure _).mpr ?_)
    · exact hnoted
    · exact hnoted

/-- The loop as a whole. -/
theorem wp_discoverLoop (w : World) :
    wp env discoverLoop ⟨fun _ => Discovering w, fun _ _ => True, fun _ => True⟩ w := by
  have hstart : Discovering w w := ⟨List.prefix_refl _, fun _ => by
    rw [attPdusSince, seenSince_self]
    rfl⟩
  refine (wp_get_bind _).mpr (wp_emit_bind.mpr ?_)
  have hstep : Discovering w (w.emit (.attStep .characteristics)) := hstart.emit (g := id) rfl rfl
  refine wp_bind ((wp_get_bind _).mpr (wp_hciUserAclSend _ Discovering.ctl hstep
    (fun _ _ => trivial) (fun _ => ?_) fun ok w' h => ?_))
  · exact wp_require_bind nofun fun _ => trivial
  · refine wp_require_bind (fun _ => ?_) fun _ => trivial
    have hsent : Discovering w (w'.emit (.acl (w.emit (.attStep .characteristics)).s.connHandle
        attCid ([attOpReadByTypeReq] ++ putLe16 w.s.svcStart ++ putLe16 w.s.svcEnd ++ [0x03, 0x28])
        ok)) := h.emit (g := id) rfl rfl
    refine wp_nowMs _ Discovering.ctl hsent (fun _ _ => trivial) fun now w' h => ?_
    refine wp_loop (fun _ => Discovering w) (fun _ _ _ => trivial) (fun _ w' h => ?_) h
    exact (characteristicsStep_discovering _ h).mono
      (fun x _ h => by rcases x with _ | _ <;> exact h) (fun _ _ h => h) fun _ h => h

end discovering

/-! ## What is found -/

/-- An Error Response to the request of 4c. -/
def errorRsp (handle : UInt16) (code : UInt8) : Octets :=
  [attOpErrorRsp, attOpReadByTypeReq] ++ putLe16 handle ++ [code]

/-- It names no handle. -/
theorem notedHandle_errorRsp (handle : UInt16) (code : UInt8) :
    notedHandle (errorRsp handle code) (errorRsp handle code).length = none := by
  refine if_neg fun hc => ?_
  have hop : attOpErrorRsp = attOpReadByTypeRsp := hc.1
  exact absurd hop (by decide)

/-- A run of 4c up to the end of its loop that was delivered these responses, then an Error
Response. -/
structure Discovery (env : HostEnv) (r r' : Run World) (rsps : List ReadByTypeRsp) : Prop where
  run : discoverLoop env r = (.done (), r')
  pdus : ∃ handle code, attPdusSince r.state.trace r'.state =
    rsps.map ReadByTypeRsp.octets ++ [errorRsp handle code]

/-- The characteristics that notify. -/
def notifying (rsps : List ReadByTypeRsp) : List CharDecl :=
  (rsps.flatMap ReadByTypeRsp.entries).filter CharDecl.Notifies

/-- If a characteristic notifies, the fallback is not taken after the loop, which ended in `s`, and
one that notifies is the source of the reports after the step, which ended in `s'`. -/
def Finds (rsps : List ReadByTypeRsp) (s s' : Session) : Prop :=
  notifying rsps ≠ [] → s.reportHandle ≠ 0 ∧
    ∃ e ∈ notifying rsps, s'.source = (e.valueHandle, e.valueHandle + 1)

instance (rsps : List ReadByTypeRsp) (s s' : Session) : Decidable (Finds rsps s s') :=
  inferInstanceAs (Decidable (_ → _ ∧ _))

/-- If a characteristic notifies, one of them is the first of its response, the last such with a
handle, or else one of them was the source of the reports before the step. -/
def FirstNotifies (rsps : List ReadByTypeRsp) (s : Session) : Prop :=
  notifying rsps ≠ [] →
    match (rsps.filterMap ReadByTypeRsp.first).getLast? with
    | some h => h ≠ 0
    | none => s.reportHandle ≠ 0 ∧
        ∃ e ∈ notifying rsps, s.source = (e.valueHandle, e.valueHandle + 1)

/-- What is noted is the value handle of a characteristic that notifies. -/
theorem ReadByTypeRsp.mem_notifying {rsps : List ReadByTypeRsp} {h : UInt16}
    (hmem : h ∈ rsps.filterMap ReadByTypeRsp.first) : ∃ e ∈ notifying rsps, e.valueHandle = h := by
  obtain ⟨r, hr, hfirst⟩ := List.mem_filterMap.mp hmem
  obtain ⟨e, he, hvalue⟩ := Option.bind_eq_some_iff.mp hfirst
  have hentry : e ∈ rsps.flatMap ReadByTypeRsp.entries :=
    List.mem_flatMap.mpr ⟨r, hr, List.mem_of_mem_head? he⟩
  by_cases hnotify : e.Notifies
  · rw [if_pos hnotify] at hvalue
    exact ⟨e, List.mem_filter.mpr ⟨hentry, decide_eq_true hnotify⟩, Option.some.inj hvalue⟩
  · rw [if_neg hnotify] at hvalue
    cases hvalue

section found

variable {env : HostEnv} {r r' : Run World} {rsps : List ReadByTypeRsp}

/-- The source of the reports at the end of the loop. -/
theorem Discovery.source (h : Discovery env r r' rsps) :
    r'.state.s.source = match (rsps.filterMap ReadByTypeRsp.first).getLast? with
      | some v => (v, v + 1)
      | none => r.state.s.source := by
  obtain ⟨handle, code, hpdus⟩ := h.pdus
  have hwp : wp env discoverLoop _ r.state := wp_discoverLoop r.state
  have hdone := hwp.done (congrArg Prod.fst h.run)
  rw [h.run] at hdone
  have hfit : ∀ pdu ∈ attPdusSince r.state.trace r'.state, pdu.length ≤ 64 := by
    rw [hpdus]
    intro pdu hmem
    rcases List.mem_append.mp hmem with hrsp | herr
    · obtain ⟨rsp, -, rfl⟩ := List.mem_map.mp hrsp
      exact rsp.octets_length
    · have hfive : (errorRsp handle code).length = 5 := rfl
      rw [List.mem_singleton.mp herr, hfive]
      decide
  have hnoted : (rsps.map ReadByTypeRsp.octets ++ [errorRsp handle code]).filterMap
      (fun pdu => notedHandle pdu pdu.length) = rsps.filterMap ReadByTypeRsp.first := by
    have hlast : [errorRsp handle code].filterMap (fun pdu => notedHandle pdu pdu.length) = [] :=
      List.filterMap_cons_none (notedHandle_errorRsp handle code)
    have hfirst : (fun rsp : ReadByTypeRsp => notedHandle rsp.octets rsp.octets.length) =
        ReadByTypeRsp.first := funext notedHandle_octets
    rw [List.filterMap_append, List.filterMap_map, hlast, List.append_nil]
    exact congrArg (fun g => List.filterMap g rsps) hfirst
  have hsource := hdone.source hfit
  rw [hpdus, foldl_note, hnoted] at hsource
  exact hsource

/-- After the loop, 4c ends in what the fallback makes of its session. -/
theorem Discovery.fallback (h : Discovery env r r' rsps) :
    ∃ r'', discoverCharacteristics env r = (.done (), r'') ∧
      r''.state.s.source = r'.state.s.fallback.source := by
  refine ⟨{ r' with state := (r'.state.update Session.fallback).setState .gattReady }, ?_, rfl⟩
  rw [discoverCharacteristics_eq, Coro.bind_run_done h.run]
  rfl

/-- A session with a handle does not take the fallback. -/
theorem Session.fallback_of_ne {s : Session} (h : s.reportHandle ≠ 0) : s.fallback = s := if_neg h

/-- **With whole responses that fit and an Error Response after them, 4c takes the reports from a
characteristic that notifies exactly when one comes first in its response, or an earlier session
found one.**
Source: `sw2d_final.c` `main` (4c) -/
theorem discovery_iff (h : Discovery env r r' rsps) :
    ∃ r'', discoverCharacteristics env r = (.done (), r'') ∧
      (Finds rsps r'.state.s r''.state.s ↔ FirstNotifies rsps r.state.s) := by
  obtain ⟨r'', hrun, hfallback⟩ := h.fallback
  refine ⟨r'', hrun, forall_congr' fun hsome => ?_⟩
  have hsource := h.source
  rcases hlast : (rsps.filterMap ReadByTypeRsp.first).getLast? with _ | v <;> rw [hlast] at hsource
  · -- no response begins with one that notifies: the handle is that of an earlier session
    have hhandle : r'.state.s.reportHandle = r.state.s.reportHandle := congrArg Prod.fst hsource
    constructor
    · rintro ⟨hne, e, he, heq⟩
      refine ⟨hhandle ▸ hne, e, he, ?_⟩
      rw [← heq, hfallback, Session.fallback_of_ne hne, hsource]
    · rintro ⟨hne, e, he, heq⟩
      have hne' : r'.state.s.reportHandle ≠ 0 := hhandle ▸ hne
      refine ⟨hne', e, he, ?_⟩
      rw [hfallback, Session.fallback_of_ne hne', hsource, heq]
  · have hhandle : r'.state.s.reportHandle = v := congrArg Prod.fst hsource
    constructor
    · exact fun hfound => hhandle ▸ hfound.1
    · intro hne
      have hne' : r'.state.s.reportHandle ≠ 0 := hhandle ▸ hne
      obtain ⟨e, he, rfl⟩ := ReadByTypeRsp.mem_notifying (List.mem_of_getLast? hlast)
      refine ⟨hne', e, he, ?_⟩
      rw [hfallback, Session.fallback_of_ne hne', hsource]

end found

/-- A characteristic that is read. -/
def readDecl : CharDecl := ⟨0x000e, 0x02, 0x000f, [0x00, 0x2a]⟩

/-- A characteristic that notifies. -/
def notifyDecl : CharDecl := ⟨0x0010, 0x10, 0x0011, [0x01, 0x2a]⟩

/-- A response with the one that notifies first. -/
def notifyFirst : ReadByTypeRsp where
  entryLen := 7
  entries := [notifyDecl, readDecl]
  seven_le := by decide
  whole := by decide
  fits := by decide

/-- A response with the one that notifies second. -/
def notifySecond : ReadByTypeRsp where
  entryLen := 7
  entries := [readDecl, notifyDecl]
  seven_le := by decide
  whole := by decide
  fits := by decide

/-- A peer that answers 4c with a response and an Error Response. -/
def discoveryEnv (rsp : ReadByTypeRsp) : HostEnv :=
  HostEnv.scripted 0
    [(10, aclFrame 0x04 rsp.octets), (19, aclFrame 0x04 (errorRsp 0x0010 0x0a))] []

/-- 4c begins, in a first session with the connection 0x0040. -/
def discoveryStart : Run World :=
  ⟨⟨{ Session.new 0x00 0x00 publicConfig.peerAddr publicConfig.localAddr
      with connHandle := 0x0040 },
    []⟩, 0, 20⟩

/-- The end of the loop there. -/
def discoveryEnd (rsp : ReadByTypeRsp) : Run World :=
  (discoverLoop (discoveryEnv rsp) discoveryStart).2

/-- What makes the run there a discovery. -/
theorem discovery_of {rsp : ReadByTypeRsp}
    (hrun : (discoverLoop (discoveryEnv rsp) discoveryStart).1 = .done ())
    (hpdus : attPdusSince [] (discoveryEnd rsp).state = [rsp.octets, errorRsp 0x0010 0x0a]) :
    Discovery (discoveryEnv rsp) discoveryStart (discoveryEnd rsp) [rsp] where
  run := Prod.ext_iff.mpr ⟨hrun, by rw [discoveryEnd]⟩
  pdus := ⟨0x0010, 0x0a, hpdus⟩

/-- There the first characteristic is found. -/
theorem discovery_first : ∃ r'',
    discoverCharacteristics (discoveryEnv notifyFirst) discoveryStart = (.done (), r'') ∧
      (Finds [notifyFirst] (discoveryEnd notifyFirst).state.s r''.state.s ↔
        FirstNotifies [notifyFirst] discoveryStart.state.s) :=
  discovery_iff (discovery_of (by decide +kernel) (by decide +kernel))

/-- And there the second is not: the session takes the fallback. -/
theorem not_finds_second :
    Discovery (discoveryEnv notifySecond) discoveryStart (discoveryEnd notifySecond)
        [notifySecond] ∧
      ¬Finds [notifySecond] (discoveryEnd notifySecond).state.s
        (discoverCharacteristics (discoveryEnv notifySecond) discoveryStart).2.state.s := by
  constructor
  · exact discovery_of (by decide +kernel) (by decide +kernel)
  · decide +kernel

end Switch2Bt.Sw2d

import Switch2Bt.Codec.Advertising

/-!
# The pairing status of a reconnect address (`switch2d.py`, `parse_reconnect_mac`)

The law of the classification, over what is known of the host (`hostBytes`): without a host address
nothing is said about the host; with one, exactly one of the three flags is set.

The function reads the host address only if the reconnect address is not zero, so a controller in
pairing mode counts as one whose host is unknown. **The law holds** (`pairingLaw_iff`) iff the
reconnect address is not zero or there is no host address.
-/

namespace Switch2Bt

/-- The address of a controller in pairing mode.
Source: `switch2d.py` `parse_reconnect_mac` (`zero_mac`) -/
def zeroMac : Octets := List.replicate 6 0

/-- What is known of the host: the octets of its address, if one is given and reads as octets. -/
def hostBytes (hostMac : Option String) : Option Octets :=
  if falsyText hostMac then none else hostMac.bind fun t => Octets.ofHex (cleanMac t)

/-- The documented law of the pairing status. -/
structure PairingLaw (reconnectMac : Octets) (hostMac : Option String) : Prop where
  /-- Nothing is said about a host that is not known. -/
  unknown : hostBytes hostMac = none →
    (parseReconnectMac reconnectMac hostMac).pairedToHost = none ∧
      (parseReconnectMac reconnectMac hostMac).pairedToOtherHost = none
  /-- Both questions about a known host are answered. -/
  answered : (hostBytes hostMac).isSome →
    (parseReconnectMac reconnectMac hostMac).pairedToHost.isSome ∧
      (parseReconnectMac reconnectMac hostMac).pairedToOtherHost.isSome
  /-- Exactly one flag is set. -/
  oneFlag : (hostBytes hostMac).isSome →
    [(parseReconnectMac reconnectMac hostMac).pairingMode,
      (parseReconnectMac reconnectMac hostMac).pairedToHost,
      (parseReconnectMac reconnectMac hostMac).pairedToOtherHost].count (some true) = 1
  pairingMode : (parseReconnectMac reconnectMac hostMac).pairingMode = some true ↔
    reconnectMac = zeroMac
  toHost : ∀ host, hostBytes hostMac = some host →
    ((parseReconnectMac reconnectMac hostMac).pairedToHost = some true ↔
      reconnectMac ≠ zeroMac ∧ reconnectMac = host)
  toOther : ∀ host, hostBytes hostMac = some host →
    ((parseReconnectMac reconnectMac hostMac).pairedToOtherHost = some true ↔
      reconnectMac ≠ zeroMac ∧ reconnectMac ≠ host)
  /-- The first flag does not look at the host. -/
  pairingMode_host : ∀ other, (parseReconnectMac reconnectMac other).pairingMode =
    (parseReconnectMac reconnectMac hostMac).pairingMode
  /-- The spelling of the host address does not matter. -/
  spelling : ∀ other, (hostBytes hostMac).isSome → hostBytes other = hostBytes hostMac →
    parseReconnectMac reconnectMac other = parseReconnectMac reconnectMac hostMac

/-! ## What the function computes -/

variable {reconnectMac : Octets} {hostMac : Option String}

/-- A zero address says nothing about the host. -/
theorem parseReconnectMac_zero (hostMac : Option String) :
    parseReconnectMac zeroMac hostMac = ⟨some true, none, none⟩ := by
  unfold parseReconnectMac
  by_cases h : falsyText hostMac
  · simp [h, zeroMac]
  · simp [zeroMac]

/-- An address that is not zero is compared with what is known of the host. -/
theorem parseReconnectMac_nonzero (h : reconnectMac ≠ zeroMac) :
    parseReconnectMac reconnectMac hostMac = match hostBytes hostMac with
      | none => ⟨some false, none, none⟩
      | some host => ⟨some false, some (decide (reconnectMac = host)),
          some (decide (reconnectMac ≠ host))⟩ := by
  have hzero : (reconnectMac == List.replicate 6 0) = false := beq_eq_false_iff_ne.mpr h
  unfold parseReconnectMac hostBytes
  by_cases hfalsy : falsyText hostMac
  · simpa [hfalsy, zeroMac] using h
  · simp only [hfalsy, hzero]
    rcases hostMac.bind fun t => Octets.ofHex (cleanMac t) with _ | host
    · simp
    · have hmatches : (host == reconnectMac) = decide (reconnectMac = host) := by
        rw [Bool.eq_iff_iff, beq_iff_eq, decide_eq_true_iff, eq_comm]
      simp [hmatches]

/-- The first flag is set iff the address is zero. -/
theorem parseReconnectMac_pairingMode (reconnectMac : Octets) (hostMac : Option String) :
    (parseReconnectMac reconnectMac hostMac).pairingMode =
      some (decide (reconnectMac = zeroMac)) := by
  by_cases h : reconnectMac = zeroMac
  · subst h
    rw [parseReconnectMac_zero]
    simp
  · rw [parseReconnectMac_nonzero h]
    rcases hostBytes hostMac with _ | host
    · simp [h]
    · simp [h]

/-- Two texts that say the same about the host are treated alike. -/
theorem parseReconnectMac_congr {other : Option String} (h : hostBytes other = hostBytes hostMac) :
    parseReconnectMac reconnectMac other = parseReconnectMac reconnectMac hostMac := by
  by_cases hzero : reconnectMac = zeroMac
  · rw [hzero, parseReconnectMac_zero, parseReconnectMac_zero]
  · rw [parseReconnectMac_nonzero hzero, parseReconnectMac_nonzero hzero, h]

/-! ## The law -/

/-- Without a host address the law holds. -/
theorem pairingLaw_unknown (h : hostBytes hostMac = none) : PairingLaw reconnectMac hostMac where
  unknown _ := by
    by_cases hzero : reconnectMac = zeroMac
    · rw [hzero, parseReconnectMac_zero]
      exact ⟨rfl, rfl⟩
    · rw [parseReconnectMac_nonzero hzero, h]
      exact ⟨rfl, rfl⟩
  answered hsome := by simp [h] at hsome
  oneFlag hsome := by simp [h] at hsome
  pairingMode := by simp [parseReconnectMac_pairingMode]
  toHost host hhost := by simp [h] at hhost
  toOther host hhost := by simp [h] at hhost
  pairingMode_host other := by rw [parseReconnectMac_pairingMode, parseReconnectMac_pairingMode]
  spelling other hsome _ := by simp [h] at hsome

/-- For an address that is not zero the law holds. -/
theorem pairingLaw_nonzero (h : reconnectMac ≠ zeroMac) : PairingLaw reconnectMac hostMac := by
  rcases hhost : hostBytes hostMac with _ | host
  · exact pairingLaw_unknown hhost
  · have hstatus : parseReconnectMac reconnectMac hostMac =
        ⟨some false, some (decide (reconnectMac = host)), some (decide (reconnectMac ≠ host))⟩ := by
      rw [parseReconnectMac_nonzero h, hhost]
    refine ⟨?_, ?_, ?_, ?_, ?_, ?_, ?_, ?_⟩
    · intro hnone
      rw [hhost] at hnone
      cases hnone
    · intro _
      rw [hstatus]
      exact ⟨rfl, rfl⟩
    · intro _
      rw [hstatus]
      by_cases heq : reconnectMac = host
      · simp [heq]
      · simp [heq]
    · simp [parseReconnectMac_pairingMode]
    · intro x hx
      cases hhost.symm.trans hx
      simp [hstatus, h]
    · intro x hx
      cases hhost.symm.trans hx
      simp [hstatus, h]
    · intro other
      rw [parseReconnectMac_pairingMode, parseReconnectMac_pairingMode]
    · intro other _ heq
      exact parseReconnectMac_congr heq

/-- With the zero address the questions about a known host stay open. -/
theorem not_pairingLaw_pairing {hostMac : Option String} (h : hostBytes hostMac ≠ none) :
    ¬PairingLaw zeroMac hostMac := by
  intro hlaw
  have hanswered := (hlaw.answered (Option.isSome_iff_ne_none.mpr h)).1
  rw [parseReconnectMac_zero] at hanswered
  cases hanswered

/-- **The classification**: the law holds iff the reconnect address is not zero or no host address
is known.
Source: `switch2d.py` `parse_reconnect_mac` -/
theorem pairingLaw_iff (reconnectMac : Octets) (hostMac : Option String) :
    PairingLaw reconnectMac hostMac ↔ reconnectMac ≠ zeroMac ∨ hostBytes hostMac = none := by
  constructor
  · intro h
    by_contra hno
    rw [not_or, not_not] at hno
    rw [hno.1] at h
    exact not_pairingLaw_pairing hno.2 h
  · rintro (h | h)
    · exact pairingLaw_nonzero h
    · exact pairingLaw_unknown h

/-- A controller in pairing mode, and a host that is known. -/
theorem not_pairingLaw_zero : ¬PairingLaw zeroMac (some "aa:bb:cc:dd:ee:ff") :=
  not_pairingLaw_pairing (by decide)

end Switch2Bt

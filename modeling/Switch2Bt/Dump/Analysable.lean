import Switch2Bt.Daemon.Effects
import Switch2Bt.Dump.Reports
import Switch2Bt.Probe.Session

/-!
# Two writers and one reader

`switch2d.py` and the probe write a record for each report, and `dump_reports.py` reads both kinds
of files back, record for record. Its analyses read the number and the time of a record under the
names the probe gives them. The daemon has other names, so its dumps can be analysed only when
they are empty (`dumps_analysable_iff`).
-/

namespace Switch2Bt.Dump

open Octets Json

/-! ## Statement -/

/-- The lines of a JSONL file. -/
def jsonl (records : List Value) : List Char := records.flatMap fun r => dumps r ++ ['\n']

/-- The hexadecimal text of a record is that of a report. -/
def Carries (record : Value) (data : Octets) : Prop :=
  (do fromhex (← item "hex" record)) = .ok data

/-- An analysis ends without an exception. -/
def Ends {α : Type} (r : Except PyErr α) : Prop := ∃ a, r = .ok a

/-- An index that Python takes for a list of a length. -/
def InRange (length : ℕ) (index : ℤ) : Prop := -length ≤ index ∧ index < length

/-- A file has one record for each report, in order, and every analysis of them ends. -/
structure Analysable (file : List Char) (reports : List Octets) : Prop where
  loads : List.Forall₂ Carries (loadReports file) reports
  shows : ∀ highlight, Ends (showReports (loadReports file) highlight)
  diffs : ∀ a b, InRange reports.length a → InRange reports.length b →
    Ends (diffReports (loadReports file) a b)
  frequency : Ends (byteFrequency (loadReports file))
  summary : Ends (summary (loadReports file))

section writers

-- the decimal text of a float
variable (reprFloat : ℚ → Decimal)

/-- The dict of a record of the daemon.
Source: `switch2d.py` `handle_report` (`record`) -/
def daemonJson (r : JsonRecord) : Value :=
  dict [("ts", .float (reprFloat r.ts)), ("report", .int r.report), ("handle", natOrNull r.handle),
    ("length", .int r.length), ("hex", .str (text r.hex))]

/-- The file of the daemon. -/
def daemonFile (w : World) : List Char :=
  jsonl ((w.st.jsonlFile.getD []).map (daemonJson reprFloat))

/-- The file of the probe. -/
def probeFile (s : Probe.Session) : List Char :=
  jsonl ((s.jsonlFile.getD []).map (Probe.ProbeRecord.toJson reprFloat))

end writers

/-- Notifications one after the other, each with the faults of the gamepad. -/
def handleReports (events : List (Notification × (ℕ → Buffered.Fault))) (w : World) : World :=
  events.foldl (fun w e => handleReport e.1 e.2 w) w

/-- The reports the daemon accepts. -/
def acceptedReports (profile : ProtocolProfile)
    (events : List (Notification × (ℕ → Buffered.Fault))) : List Octets :=
  (events.filter fun e => passesFilter profile e.1.handle).map (·.1.data)

/-! ## Reading the lines back -/

/-- The text of an object has nothing to strip. -/
theorem strip_dumps (members : List (PlainText × Value)) :
    strip (dumps (.obj members)) = dumps (.obj members) ∧ dumps (.obj members) ≠ [] := by
  obtain ⟨body, h⟩ := dumps_obj members
  rw [h]
  constructor
  · unfold strip
    rw [List.dropWhile_cons_of_neg (by decide), List.reverse_cons, List.reverse_append,
      List.append_assoc]
    change ((List.dropWhile isStripped ('}' :: (body.reverse ++ ['{']))).reverse) = _
    rw [List.dropWhile_cons_of_neg (by decide)]
    simp
  · exact List.cons_ne_nil _ _

/-- A text of one line contains no end of a line. -/
theorem endsLine_dumps (v : Value) : ∀ c ∈ dumps v, endsLine c = false := by
  intro c hc
  have hspace := oneLine_dumps v c hc
  unfold endsLine
  rw [decide_eq_false_iff_not]
  rintro (rfl | rfl)
  · exact absurd hspace (by decide)
  · exact absurd hspace (by decide)

/-- Objects read back from their lines. -/
theorem loadReports_jsonl {records : List Value} (h : ∀ r ∈ records, ∃ ms, r = .obj ms) :
    loadReports (jsonl records) = records := by
  induction records with
  | nil => rfl
  | cons r records ih =>
      obtain ⟨ms, rfl⟩ := h r List.mem_cons_self
      have hlines : jsonl (.obj ms :: records) = dumps (.obj ms) ++ '\n' :: jsonl records := by
        simp [jsonl]
      unfold loadReports
      rw [hlines, List.splitOnP_append_cons_of_forall_mem (endsLine_dumps _) '\n' (by decide),
        List.filterMap_cons]
      dsimp only
      rw [(strip_dumps ms).1, if_neg (strip_dumps ms).2, loads_dumps]
      exact congrArg _ (ih fun r hr => h r (List.mem_cons_of_mem _ hr))

/-- Records that are written as objects read back. -/
theorem loadReports_map {ρ : Type} {toJson : ρ → Value} (h : ∀ r, ∃ ms, toJson r = .obj ms)
    (records : List ρ) : loadReports (jsonl (records.map toJson)) = records.map toJson := by
  apply loadReports_jsonl
  intro r hr
  obtain ⟨record, _, rfl⟩ := List.mem_map.mp hr
  exact h record

/-! ## Records with the fields of the probe -/

/-- A record that every analysis takes. -/
structure Complete (record : Value) (data : Octets) : Prop where
  carries : Carries record data
  reportNumber : Ends (item "report_number" record)
  timestamp : ∃ v, item "timestamp" record = .ok v ∧ Ends (number v)
  changed : ∃ items, get "changed_bytes" (.arr []) record = .ok (.arr items)

theorem Complete.hex {record : Value} {data : Octets} (h : Complete record data) :
    ∃ v, item "hex" record = .ok v ∧ fromhex v = .ok data := by
  have hcarries := h.carries
  unfold Carries at hcarries
  cases hitem : item "hex" record with
  | error e =>
      rw [hitem] at hcarries
      cases hcarries
  | ok v =>
      rw [hitem] at hcarries
      exact ⟨v, rfl, hcarries⟩

/-- A loop whose bodies end, ends. -/
theorem mapM_ends {α β : Type} {f : α → Except PyErr β} {xs : List α} (h : ∀ x ∈ xs, Ends (f x)) :
    Ends (xs.mapM f) := by
  induction xs with
  | nil => exact ⟨[], rfl⟩
  | cons x xs ih =>
      obtain ⟨y, hy⟩ := h x List.mem_cons_self
      obtain ⟨ys, hys⟩ := ih fun z hz => h z (List.mem_cons_of_mem _ hz)
      refine ⟨y :: ys, ?_⟩
      rw [List.mapM_cons, hy, hys]
      rfl

theorem foldlM_ends {α β : Type} {f : β → α → Except PyErr β} {xs : List α}
    (h : ∀ b, ∀ x ∈ xs, Ends (f b x)) (b : β) : Ends (xs.foldlM f b) := by
  induction xs generalizing b with
  | nil => exact ⟨b, rfl⟩
  | cons x xs ih =>
      obtain ⟨c, hc⟩ := h b x List.mem_cons_self
      obtain ⟨d, hd⟩ := ih (fun b z hz => h b z (List.mem_cons_of_mem _ hz)) c
      refine ⟨d, ?_⟩
      rw [List.foldlM_cons, hc]
      exact hd

/-- The positions of a list of changes can be looked up. -/
theorem markedRow_ends (items : List Value) (highlight : List ℕ) (row : ℕ × Octets) :
    Ends (markedRow (.arr items) highlight row) := by
  have hmark : ∀ position, Ends (mark (.arr items) highlight position) := by
    intro position
    have hcontains : contains position (.arr items) = pure (items.any (isInt position)) := rfl
    unfold mark
    rw [hcontains, pure_bind]
    split
    · exact ⟨_, rfl⟩
    · split
      · exact ⟨_, rfl⟩
      · exact ⟨_, rfl⟩
  obtain ⟨marks, hmarks⟩ := mapM_ends fun i (_ : i ∈ List.range row.2.length) =>
    hmark (row.1 + i)
  refine ⟨.row row.1 (row.2.zip marks), ?_⟩
  unfold markedRow
  rw [hmarks]
  rfl

theorem showReport_ends {record : Value} {data : Octets} (h : Complete record data)
    (highlight : List ℕ) : Ends (showReport highlight record) := by
  obtain ⟨n, hn⟩ := h.reportNumber
  obtain ⟨ts, hts, time, htime⟩ := h.timestamp
  obtain ⟨v, hv, hdata⟩ := h.hex
  obtain ⟨items, hitems⟩ := h.changed
  unfold showReport Ends
  simp only [hn, hts, hv, hdata, hitems, htime, len, bind, Except.bind]
  split
  · obtain ⟨rows, hrows⟩ := mapM_ends fun row (_ : row ∈ chunks data) =>
      markedRow_ends items highlight row
    rw [hrows]
    exact ⟨_, rfl⟩
  · exact ⟨_, rfl⟩

theorem diffReports_ends {records : List Value} {reports : List Octets}
    (h : List.Forall₂ Complete records reports) {a b : ℤ} (ha : InRange reports.length a)
    (hb : InRange reports.length b) : Ends (diffReports records a b) := by
  have hlen := h.length_eq
  -- an index in range names a complete record
  have hindex : ∀ i, InRange reports.length i →
      ∃ record data, pyIndex records i = .ok record ∧ Complete record data := by
    intro i hi
    obtain ⟨hlo, hhi⟩ := hi
    unfold pyIndex
    have hlt : (if i < 0 then i + records.length else i).toNat < records.length := by
      split <;> omega
    rw [List.getElem?_eq_getElem hlt]
    dsimp only
    rw [if_neg (by omega)]
    exact ⟨_, _, rfl, List.Forall₂.get h hlt (hlen ▸ hlt)⟩
  obtain ⟨ra, da, hra, hca⟩ := hindex a ha
  obtain ⟨rb, db, hrb, hcb⟩ := hindex b hb
  obtain ⟨va, hva, hda⟩ := hca.hex
  obtain ⟨vb, hvb, hdb⟩ := hcb.hex
  obtain ⟨na, hna⟩ := hca.reportNumber
  obtain ⟨nb, hnb⟩ := hcb.reportNumber
  have hnot : ¬ (a ≥ records.length ∨ b ≥ records.length) := by
    have hahi := ha.2
    have hbhi := hb.2
    omega
  unfold diffReports
  rw [if_neg hnot]
  simp only [hra, hrb, hva, hvb, hda, hdb, hna, hnb, bind, Except.bind]
  exact ⟨_, rfl⟩

/-- A record counts its octets against those of the last one. -/
theorem countRecord_of_carries {record : Value} {data : Octets} (h : Carries record data)
    (f : Frequencies) :
    countRecord f record = .ok { countOctets 0 data f with prevData := data } := by
  unfold Carries at h
  unfold countRecord
  rw [← bind_assoc, h]
  rfl

/-- A record of a file of complete records. -/
theorem complete_of_mem {records : List Value} {reports : List Octets}
    (h : List.Forall₂ Complete records reports) : ∀ r ∈ records, ∃ data, Complete r data := by
  intro r hr
  obtain ⟨i, hi, rfl⟩ := List.getElem_of_mem hr
  exact ⟨_, h.get hi (h.length_eq ▸ hi)⟩

/-- The reports of some records, read one after the other. -/
theorem mapM_carries {records : List Value} {reports : List Octets}
    (h : List.Forall₂ Carries records reports) :
    (records.mapM fun r => do fromhex (← item "hex" r)) = .ok reports := by
  induction h with
  | nil => rfl
  | @cons record data records reports hcarries _ ih =>
      have hhead : (do fromhex (← item "hex" record)) = .ok data := hcarries
      rw [List.mapM_cons, hhead, ih]
      rfl

/-- A summary lists the static and the other positions. -/
theorem summary_complete {records : List Value} {reports : List Octets}
    (h : List.Forall₂ Complete records reports) (hne : reports ≠ []) :
    ∃ duration rate average, summary records = .ok [.summary reports.length duration rate average
      ((List.range ((reports.map List.length).max?.getD 0)).filter (isStatic reports))
      ((List.range ((reports.map List.length).max?.getD 0)).filter (!isStatic reports ·))] := by
  unfold summary
  split
  case h_1 first last hfirst hlast =>
    obtain ⟨_, hcf⟩ := complete_of_mem h first (List.mem_of_head? hfirst)
    obtain ⟨_, hcl⟩ := complete_of_mem h last (List.mem_of_getLast? hlast)
    obtain ⟨vf, hvf, tf, htf⟩ := hcf.timestamp
    obtain ⟨vl, hvl, tl, htl⟩ := hcl.timestamp
    have hall := mapM_carries (h.imp fun _ _ hc => hc.carries)
    simp only [hvf, hvl, htf, htl, bind, Except.bind] at hall ⊢
    rw [hall, ← h.length_eq]
    exact ⟨_, _, _, rfl⟩
  case h_2 hnone =>
    cases h with
    | nil => exact absurd rfl hne
    | @cons r data records reports hr hrest =>
        exact absurd rfl (hnone r ((r :: records).getLast (List.cons_ne_nil _ _)) rfl)

theorem summary_ends {records : List Value} {reports : List Octets}
    (h : List.Forall₂ Complete records reports) : Ends (summary records) := by
  cases reports with
  | nil =>
      rw [List.forall₂_nil_right_iff.mp h]
      exact ⟨_, rfl⟩
  | cons data reports =>
      obtain ⟨_, _, _, hsummary⟩ := summary_complete h (List.cons_ne_nil data reports)
      exact ⟨_, hsummary⟩

/-- A file of complete records can be analysed. -/
theorem analysable_of_complete {file : List Char} {reports : List Octets}
    (h : List.Forall₂ Complete (loadReports file) reports) : Analysable file reports := by
  have hmem := complete_of_mem h
  constructor
  · exact h.imp fun _ _ hc => hc.carries
  · intro highlight
    obtain ⟨lines, hlines⟩ : Ends ((loadReports file).mapM (showReport highlight)) := by
      apply mapM_ends
      intro r hr
      obtain ⟨data, hc⟩ := hmem r hr
      exact showReport_ends hc highlight
    refine ⟨lines.flatten, ?_⟩
    unfold showReports
    rw [hlines]
    rfl
  · intro a b ha hb
    exact diffReports_ends h ha hb
  · obtain ⟨f, hf⟩ : Ends ((loadReports file).foldlM countRecord ⟨[], fun _ => [], []⟩) := by
      apply foldlM_ends
      intro f r hr
      obtain ⟨data, hc⟩ := hmem r hr
      exact ⟨_, countRecord_of_carries hc.carries f⟩
    unfold byteFrequency
    rw [hf]
    exact ⟨_, rfl⟩
  · exact summary_ends h

/-! ## The two files -/

/-- The hexadecimal text of a report reads back. -/
theorem fromhex_hex (data : Octets) : fromhex (.str (text (hex data))) = .ok data := by
  have hdigit : ∀ k : Fin 16, isPlain (hexDigit k) = true := by decide
  have hplain : IsPlain (hex data) := by
    intro c hc
    rw [toList_hex] at hc
    obtain ⟨b, _, hb⟩ := List.mem_flatMap.mp hc
    have hlt := b.toNat_lt
    rcases List.mem_pair.mp hb with rfl | rfl
    · exact hdigit ⟨b.toNat / 16, by omega⟩
    · exact hdigit ⟨b.toNat % 16, by omega⟩
  unfold fromhex
  dsimp only
  rw [text_chars hplain, toList_hex, ofHexChars_flatMap_hexPair]

section files

variable {reprFloat : ℚ → Decimal}

theorem daemonJson_carries (r : JsonRecord) {data : Octets} (h : r.hex = hex data) :
    Carries (daemonJson reprFloat r) data := by
  have hitem : item "hex" (daemonJson reprFloat r) = .ok (.str (text r.hex)) := by
    apply item_dict
    · decide
    · simp only [List.forall_mem_cons]
      decide
    · rfl
  unfold Carries
  rw [hitem, h]
  exact fromhex_hex data

/-- The members of a record of the probe; `procon2` is the last one, if there is one. -/
theorem probeJson_members (r : Probe.ProbeRecord) : ∃ members, r.toJson reprFloat = dict members ∧
    (∀ m ∈ members, IsPlain m.1) ∧ ∀ key, key ≠ "procon2" → members.reverse.lookup key =
      [("changed_bytes", Value.arr (r.changedBytes.map fun (i : ℕ) => Value.int i)),
        ("hex", .str (text r.hex)), ("length", .int r.length), ("handle", natOrNull r.handle),
        ("report_number", .int r.reportNumber),
        ("timestamp", .float (reprFloat r.timestamp))].lookup key := by
  unfold Probe.ProbeRecord.toJson
  refine ⟨_, rfl, ?_, ?_⟩
  · cases r.procon2 with
    | none =>
        simp only [Option.map_none, Option.toList_none, List.append_nil, List.forall_mem_cons]
        decide
    | some decoded =>
        simp only [Option.map_some, Option.toList_some, List.cons_append, List.nil_append,
          List.forall_mem_cons]
        decide
  · intro key hkey
    cases r.procon2 with
    | none => rfl
    | some decoded =>
        rw [Option.map_some, Option.toList_some, List.reverse_append, List.reverse_singleton,
          List.singleton_append, List.lookup_cons, beq_false_of_ne hkey]
        rfl

theorem probeJson_complete (r : Probe.ProbeRecord) {data : Octets} (h : r.hex = hex data) :
    Complete (r.toJson reprFloat) data := by
  obtain ⟨members, heq, hplain, hlookup⟩ := @probeJson_members reprFloat r
  have hitem : ∀ {key : String} {v : Value}, IsPlain key → members.reverse.lookup key = some v →
      item key (r.toJson reprFloat) = .ok v := by
    intro key v hkey hv
    rw [heq]
    exact item_dict hkey hplain hv
  have hhex : item "hex" (r.toJson reprFloat) = .ok (.str (text r.hex)) := by
    apply hitem (by decide)
    rw [hlookup _ (by decide)]
    rfl
  constructor
  · unfold Carries
    rw [hhex, h]
    exact fromhex_hex data
  · refine ⟨.int r.reportNumber, hitem (by decide) ?_⟩
    rw [hlookup _ (by decide)]
    rfl
  · refine ⟨.float (reprFloat r.timestamp), hitem (by decide) ?_, _, rfl⟩
    rw [hlookup _ (by decide)]
    rfl
  · refine ⟨r.changedBytes.map fun (i : ℕ) => Value.int i, ?_⟩
    rw [heq]
    apply get_dict (by decide) hplain
    rw [hlookup _ (by decide)]
    rfl

/-- An accepted report adds its record; the handle filter stays. -/
theorem acceptReport_jsonl (n : Notification) (faults : ℕ → Buffered.Fault) (s : DaemonState) :
    (∃ r, (acceptReport n faults s).jsonlFile = s.jsonlFile.map (· ++ [r]) ∧ r.hex = hex n.data) ∧
      (acceptReport n faults s).activeProfile = s.activeProfile := by
  unfold acceptReport
  cases decodeReport n.data with
  | none => exact ⟨⟨_, rfl, rfl⟩, rfl⟩
  | some decoded => exact ⟨⟨_, rfl, rfl⟩, rfl⟩

/-- The daemon writes one record for each report it accepts. -/
theorem handleReports_jsonl (events : List (Notification × (ℕ → Buffered.Fault))) :
    ∀ {w : World} {records : List JsonRecord}, w.st.jsonlFile = some records →
      ∃ new, (handleReports events w).st.jsonlFile = some (records ++ new) ∧
        List.Forall₂ (fun (r : JsonRecord) data => r.hex = hex data) new
          (acceptedReports w.st.activeProfile events) := by
  induction events with
  | nil =>
      intro w records h
      exact ⟨[], by simpa [handleReports] using h, .nil⟩
  | cons e events ih =>
      intro w records h
      change ∃ new, (handleReports events (handleReport e.1 e.2 w)).st.jsonlFile = _ ∧ _
      unfold acceptedReports
      by_cases hpass : passesFilter w.st.activeProfile e.1.handle = true
      · obtain ⟨⟨r, hr, hhex⟩, hprofile⟩ := acceptReport_jsonl e.1 e.2 w.st
        have hstep : (handleReport e.1 e.2 w).st = acceptReport e.1 e.2 w.st := by
          unfold handleReport
          rw [if_pos hpass]
          rfl
        have hrecords : (handleReport e.1 e.2 w).st.jsonlFile = some (records ++ [r]) := by
          rw [hstep, hr, h, Option.map_some]
        obtain ⟨new, hnew, hreports⟩ := ih hrecords
        rw [hstep, hprofile] at hreports
        refine ⟨r :: new, by rw [hnew, List.append_assoc]; rfl, ?_⟩
        simp only [List.filter_cons, hpass, if_true, List.map_cons]
        exact .cons hhex hreports
      · have hstep : handleReport e.1 e.2 w = w := by
          unfold handleReport
          rw [if_neg hpass]
        rw [hstep]
        simp only [List.filter_cons, hpass, if_false, Bool.false_eq_true]
        exact ih h

/-- The probe writes one record for each report. -/
theorem onReports_jsonl (notifications : List Notification) :
    ∀ {s : Probe.Session} {records : List Probe.ProbeRecord}, s.jsonlFile = some records →
      ∃ new, (notifications.foldl (fun s n => Probe.onReport n s) s).jsonlFile =
          some (records ++ new) ∧
        List.Forall₂ (fun (r : Probe.ProbeRecord) data => r.hex = hex data) new
          (notifications.map (·.data)) := by
  induction notifications with
  | nil =>
      intro s records h
      exact ⟨[], by simpa using h, .nil⟩
  | cons n notifications ih =>
      intro s records h
      obtain ⟨r, hr, hhex⟩ : ∃ r, (Probe.onReport n s).jsonlFile = some (records ++ [r]) ∧
          r.hex = hex n.data := by
        unfold Probe.onReport
        rw [h]
        exact ⟨_, rfl, rfl⟩
      obtain ⟨new, hnew, hreports⟩ := ih hr
      refine ⟨r :: new, by rw [List.foldl_cons, hnew, List.append_assoc]; rfl, ?_⟩
      exact .cons hhex hreports

/-- The records of the probe read back. -/
theorem probeFile_loads {s : Probe.Session} {records : List Probe.ProbeRecord}
    (h : s.jsonlFile = some records) : loadReports (probeFile reprFloat s) =
      records.map (Probe.ProbeRecord.toJson reprFloat) := by
  unfold probeFile
  rw [h, Option.getD_some]
  exact loadReports_map (fun r => ⟨_, rfl⟩) records

/-- The records of the probe are complete. -/
theorem probeJson_forall₂ {records : List Probe.ProbeRecord} {reports : List Octets}
    (h : List.Forall₂ (fun (r : Probe.ProbeRecord) data => r.hex = hex data) records reports) :
    List.Forall₂ Complete (records.map (Probe.ProbeRecord.toJson reprFloat)) reports :=
  List.forall₂_map_left_iff.mpr (h.imp fun r _ hr => probeJson_complete r hr)

/-- The dump of the probe can be analysed. -/
theorem probeFile_analysable {s : Probe.Session} (h : s.jsonlFile = some [])
    (notifications : List Notification) :
    Analysable (probeFile reprFloat (notifications.foldl (fun s n => Probe.onReport n s) s))
      (notifications.map (·.data)) := by
  obtain ⟨new, hnew, hreports⟩ := onReports_jsonl notifications h
  apply analysable_of_complete
  rw [probeFile_loads hnew]
  exact probeJson_forall₂ hreports

/-- The records of the daemon read back, each with the octets of its report. -/
theorem daemonFile_loads {w : World} (h : w.st.jsonlFile = some [])
    (events : List (Notification × (ℕ → Buffered.Fault))) :
    (∃ records : List JsonRecord, loadReports (daemonFile reprFloat (handleReports events w)) =
        records.map (daemonJson reprFloat)) ∧
      List.Forall₂ Carries (loadReports (daemonFile reprFloat (handleReports events w)))
        (acceptedReports w.st.activeProfile events) := by
  obtain ⟨new, hnew, hreports⟩ := handleReports_jsonl events h
  have hloads : loadReports (daemonFile reprFloat (handleReports events w)) =
      new.map (daemonJson reprFloat) := by
    unfold daemonFile
    rw [hnew, Option.getD_some]
    exact loadReports_map (fun r => ⟨_, rfl⟩) new
  refine ⟨⟨new, hloads⟩, ?_⟩
  rw [hloads]
  exact List.forall₂_map_left_iff.mpr (hreports.imp fun r _ hr => daemonJson_carries r hr)

/-- A record of the daemon has no number under the name of the probe. -/
theorem showReport_daemonJson (highlight : List ℕ) (r : JsonRecord) :
    showReport highlight (daemonJson reprFloat r) = .error .keyError := by
  have hitem : item "report_number" (daemonJson reprFloat r) = .error .keyError := by
    apply item_dict_missing
    · decide
    · simp only [List.forall_mem_cons]
      decide
    · rfl
  unfold showReport
  rw [hitem]
  rfl

/-- The dump of the daemon can be analysed iff it is empty. -/
theorem daemonFile_analysable_iff {w : World} (h : w.st.jsonlFile = some [])
    (events : List (Notification × (ℕ → Buffered.Fault))) :
    Analysable (daemonFile reprFloat (handleReports events w))
        (acceptedReports w.st.activeProfile events) ↔
      acceptedReports w.st.activeProfile events = [] := by
  obtain ⟨⟨records, hloads⟩, hcarries⟩ := @daemonFile_loads reprFloat w h events
  rw [hloads] at hcarries
  generalize acceptedReports w.st.activeProfile events = reports at hcarries
  constructor
  · intro hanalysable
    obtain ⟨lines, hlines⟩ := hanalysable.shows []
    rw [hloads] at hlines
    cases records with
    | nil =>
        cases hcarries
        rfl
    | cons r records =>
        unfold showReports at hlines
        rw [List.map_cons, List.mapM_cons, showReport_daemonJson] at hlines
        cases hlines
  · rintro rfl
    apply analysable_of_complete
    rw [hloads, List.forall₂_nil_right_iff.mp hcarries]
    exact .nil

end files

/-- **Two writers and one reader**: both dumps can be analysed iff the daemon accepted no report. -/
theorem dumps_analysable_iff (reprFloat : ℚ → Decimal) (w : World) (s : Probe.Session)
    (hw : w.st.jsonlFile = some []) (hs : s.jsonlFile = some [])
    (events : List (Notification × (ℕ → Buffered.Fault))) (notifications : List Notification) :
    (Analysable (daemonFile reprFloat (handleReports events w))
        (acceptedReports w.st.activeProfile events) ∧
      Analysable (probeFile reprFloat (notifications.foldl (fun s n => Probe.onReport n s) s))
        (notifications.map (·.data))) ↔
      acceptedReports w.st.activeProfile events = [] := by
  rw [daemonFile_analysable_iff hw]
  exact and_iff_left (probeFile_analysable hs notifications)

/-! ## One report -/

/-- The text of a float that is zero. -/
def zeroText : Decimal :=
  ⟨false, 0, some ⟨['0'], List.forall_mem_singleton.mpr rfl, List.cons_ne_nil _ _⟩, none, .inl rfl⟩

/-- A report of one octet, at time zero. -/
def oneReport : Notification := ⟨none, [0x00], 0, 0⟩

/-- A daemon with an open dump. -/
def openDaemon : World :=
  (World.new (Switch2Bt.defaultArgs false true "macos")).update fun s =>
    { s with jsonlFile := some [] }

/-- A probe with an open dump. -/
def openProbe : Probe.Session := { Probe.Session.new Probe.defaultArgs with jsonlFile := some [] }

theorem dumps_analysable_probe :
    Analysable (daemonFile (fun _ => zeroText) (handleReports [] openDaemon)) [] ∧
      Analysable (probeFile (fun _ => zeroText)
        ([oneReport].foldl (fun s n => Probe.onReport n s) openProbe)) [[0x00]] :=
  (dumps_analysable_iff (fun _ => zeroText) openDaemon openProbe rfl rfl [] [oneReport]).mpr rfl

/-- The dump of the daemon with one report cannot be analysed. -/
theorem not_dumps_analysable_daemon :
    ¬ Analysable (daemonFile (fun _ => zeroText)
        (handleReports [(oneReport, fun _ => .none)] openDaemon))
      (acceptedReports openDaemon.st.activeProfile [(oneReport, fun _ => .none)]) := by
  intro h
  have hempty := (daemonFile_analysable_iff rfl _).mp h
  exact List.cons_ne_nil _ _ hempty

end Switch2Bt.Dump

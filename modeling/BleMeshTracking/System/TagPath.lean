import BleMeshTracking.Scanner.Publishing
import BleMeshTracking.System.Telemetry

/-!
# A tag from the scanners to the server

Any number of scanners, the mesh between them and the gateway, and the server.  The mesh loses,
repeats and reorders `TAG_STATUS` messages, and only scanners can send them; scanners and gateway
reboot at any time.
-/

namespace BleMeshTracking.System

open Gateway Protocol Scanner

def acceptedBy (hmac : Hmac) (s : RadioManager) : RadioEvent → List TagPayload
  | .scanResult r =>
    match acceptScanResult hmac { r with phaseGapScan := s.phase == .gapScan } s.air with
    | some (some p, _) => [p]
    | _ => []
  | _ => []

def RadioLog.report? : RadioLog → Option TagReport
  | .accepted _ _ => none
  | .reported r => some r

def newReports (s s' : RadioManager) : List TagReport :=
  (s'.log.drop s.log.length).filterMap RadioLog.report?

/-- Id and battery of every active entry are those of a payload accepted. -/
def Known (tags : TagTable) (heard : List TagPayload) : Prop :=
  ∀ j, (tags j).active = true →
    ∃ p ∈ heard, p.tagId = (tags j).tagId ∧ p.battery = (tags j).battery

variable {s : RadioManager} {heard : List TagPayload}

theorem known_reboot (heard : List TagPayload) : Known (fun _ => {}) heard := by
  intro j hj
  cases hj

theorem Known.mono {tags : TagTable} (h : Known tags heard) (ps : List TagPayload) :
    Known tags (heard ++ ps) := by
  intro j hj
  obtain ⟨p, hp, hkey⟩ := h j hj
  exact ⟨p, List.mem_append_left ps hp, hkey⟩

theorem battery_update (rssi : Int8) (sequence battery : UInt8) (now : UInt32) (t : TagEntry) :
    (t.update rssi sequence battery now).battery = battery := by
  unfold TagEntry.update TagEntry.log
  dsimp only
  split_ifs
  all_goals rfl

theorem battery_tracked {p : TagPayload} {r : ScanResult} {epoch : ℤ} {free : Bool}
    {o : Option TagEntry} {t : TagEntry} (h : trackedEntry p r epoch free o = some t) :
    t.battery = p.battery := by
  unfold trackedEntry at h
  cases o with
  | some t₀ =>
    cases h
    exact battery_update r.rssi p.sequence p.battery r.nowMs t₀
  | none =>
    dsimp only at h
    split_ifs at h
    cases h
    rfl

theorem Known.update {tags : TagTable} (h : Known tags heard) (i : Fin bmtMaxTags) {t : TagEntry}
    (ht : ∃ p ∈ heard, p.tagId = t.tagId ∧ p.battery = t.battery) :
    Known (Function.update tags i t) heard := by
  intro j hj
  by_cases hji : j = i
  · rw [hji, Function.update_self]
    exact ht
  · rw [Function.update_of_ne hji] at hj ⊢
    exact h j hj

theorem Known.trackTag {tags : TagTable} (h : Known tags heard) (p : TagPayload) (r : ScanResult)
    (epoch : ℤ) : Known (trackTag p r epoch tags) (heard ++ [p]) := by
  have hp : p ∈ heard ++ [p] := List.mem_append_right heard List.mem_cons_self
  rcases trackTag_cases p r epoch tags with hown | hnew | hfull
  · obtain ⟨i, t, -, htracked, ht, heq⟩ := hown
    rw [heq]
    exact (h.mono [p]).update i
      ⟨p, hp, ((TagEntry.isOf_iff _ _).mp ht).2.symm, (battery_tracked htracked).symm⟩
  · obtain ⟨i, t, -, -, htracked, ht, heq⟩ := hnew
    rw [heq]
    exact (h.mono [p]).update i
      ⟨p, hp, ((TagEntry.isOf_iff _ _).mp ht).2.symm, (battery_tracked htracked).symm⟩
  · rw [hfull.2]
    exact h.mono [p]

theorem Known.checkTimeouts {tags : TagTable} (h : Known tags heard) (now : UInt32) :
    Known (bmtTagTableCheckTimeouts now tags) heard := by
  intro j hj
  obtain ⟨hactive, hid⟩ := (tags j).checkTimeout_key now
  obtain ⟨p, hp, htag, hbattery⟩ := h j (hactive hj)
  have hkept : ((tags j).checkTimeout now).battery = (tags j).battery := by
    unfold TagEntry.checkTimeout
    split_ifs
    · rfl
    · rfl
  exact ⟨p, hp, htag.trans hid.symm, hbattery.trans hkept.symm⟩

/-- `radio_manager_task` reads the table only, and reports its active entries. -/
theorem radio_reports (s : RadioManager) (c : RadioCalls) :
    (s.radio c).tags = s.tags ∧
      ((s.radio c).log = s.log ∨ ∃ i, (s.tags i).active = true ∧
        (s.radio c).log = s.log ++ [.reported ((s.tags i).report c.scannerId)]) := by
  unfold RadioManager.radio
  cases s.task with
  | waitProvision =>
    dsimp only
    split_ifs
    · exact ⟨rfl, Or.inl rfl⟩
    · exact ⟨rfl, Or.inl rfl⟩
    · exact ⟨rfl, Or.inl rfl⟩
  | loop =>
    dsimp only
    split_ifs
    · exact ⟨rfl, Or.inl rfl⟩
    · exact ⟨rfl, Or.inl rfl⟩
  | testNews =>
    dsimp only
    split_ifs
    · exact ⟨rfl, Or.inl rfl⟩
    · exact ⟨rfl, Or.inl rfl⟩
    · exact ⟨rfl, Or.inl rfl⟩
  | publishing i =>
    dsimp only
    split_ifs with hi
    · rcases s.publishSlot_cases c ⟨i, hi⟩ with heq | ⟨hactive, heq⟩
      · rw [heq]
        exact ⟨rfl, Or.inl rfl⟩
      · rw [heq]
        exact ⟨rfl, Or.inr ⟨⟨i, hi⟩, hactive, rfl⟩⟩
    · exact ⟨rfl, Or.inl rfl⟩
  | _ => exact ⟨rfl, Or.inl rfl⟩

theorem newReports_of_log {s s' : RadioManager} {l : List RadioLog} (h : s'.log = s.log ++ l) :
    newReports s s' = l.filterMap RadioLog.report? := by
  rw [newReports, h, List.drop_left]

/-- What a step of a scanner accepts keeps the table known, and what it sends is in the table. -/
theorem known_after (hmac : Hmac) (h : Known s.tags heard) (e : RadioEvent) :
    Known (s.after hmac e).tags (heard ++ acceptedBy hmac s e) ∧
      ∀ r ∈ newReports s (s.after hmac e),
        ∃ p ∈ heard, p.tagId = r.tagId ∧ p.battery = r.battery := by
  have hquiet : ∀ s' : RadioManager, s'.log = s.log → ∀ r ∈ newReports s s',
      ∃ p ∈ heard, p.tagId = r.tagId ∧ p.battery = r.battery := by
    intro s' hlog r hr
    rw [newReports_of_log (l := []) (by rw [hlog, List.append_nil])] at hr
    cases hr
  cases e with
  | scanResult r =>
    unfold RadioManager.after RadioManager.handle acceptedBy
    dsimp only
    cases acceptScanResult hmac { r with phaseGapScan := s.phase == .gapScan } s.air with
    | none => exact ⟨h.mono [], hquiet s rfl⟩
    | some result =>
      obtain ⟨o, air⟩ := result
      cases o with
      | none => exact ⟨h.mono [], hquiet { s with air } rfl⟩
      | some p =>
        refine ⟨h.trackTag p r _, ?_⟩
        intro rep hrep
        dsimp only at hrep
        rw [newReports_of_log rfl] at hrep
        cases hrep
  | checkTimeouts now =>
    unfold RadioManager.after acceptedBy
    dsimp only
    rw [List.append_nil]
    split_ifs
    · exact ⟨h, hquiet s rfl⟩
    · exact ⟨h.checkTimeouts now, hquiet { s with tags := _ } rfl⟩
  | otaTrigger triggered =>
    exact ⟨h.mono [], hquiet _ rfl⟩
  | radio c =>
    obtain ⟨htags, hlog⟩ := radio_reports s c
    unfold RadioManager.after acceptedBy
    dsimp only
    rw [htags, List.append_nil]
    refine ⟨h, ?_⟩
    rcases hlog with hlog | ⟨i, hactive, hlog⟩
    · exact hquiet _ hlog
    · intro r hr
      rw [newReports_of_log hlog] at hr
      obtain rfl := List.mem_singleton.mp hr
      exact h i hactive

/-- Scanners and gateway, with the payloads that each scanner ever accepted, the reports it ever
sent, and the reports whose telemetry was ever published. -/
structure Installation (ι : Type*) where
  scanners : ι → RadioManager := fun _ => {}
  heard : ι → List TagPayload := fun _ => []
  sent : ι → List TagReport := fun _ => []
  gateway : ReportRun := {}
  telemetry : List TagReportItem := []

/-- A step of a scanner, its reboot, the arrival of its `k`-th report from an address, and whatever
else happens at the gateway. -/
inductive InstallationEvent (ι : Type*)
  | scanner (i : ι) (e : RadioEvent)
  | scannerReboot (i : ι)
  | deliver (i : ι) (k : ℕ) (src : UInt16) (now : UInt32)
  | gateway (e : ReportEvent)

def isTagStatus : ReportEvent → Bool
  | .vnd opcode _ data _ => ReportRun.isReport opcode data
  | _ => false

namespace Installation

variable {ι : Type*} [DecidableEq ι]

def gatewayStep (s : Installation ι) (e : ReportEvent) : Option (Installation ι) :=
  (s.gateway.step e).map fun gateway =>
    { s with
      gateway
      telemetry := s.telemetry ++ gateway.published.drop s.gateway.published.length }

def step (hmac : Hmac) (s : Installation ι) : InstallationEvent ι → Option (Installation ι)
  | .scanner i e =>
    let radio := (s.scanners i).after hmac e
    some { s with
      scanners := Function.update s.scanners i radio
      heard := Function.update s.heard i (s.heard i ++ acceptedBy hmac (s.scanners i) e)
      sent := Function.update s.sent i (s.sent i ++ newReports (s.scanners i) radio) }
  | .scannerReboot i => some { s with scanners := Function.update s.scanners i {} }
  | .deliver i k src now =>
    (s.sent i)[k]?.bind fun r => s.gatewayStep (.vnd bmtOpVndTagStatus src r.toBytes now)
  | .gateway e => if isTagStatus e then none else s.gatewayStep e

/-- Reports reach the gateway in a way that `ok` allows for their scanner. -/
def Delivers (ok : ι → TagReportItem → Prop) (s : Installation ι) : InstallationEvent ι → Prop
  | .deliver i k src _ =>
    ∀ r ∈ (s.sent i)[k]?, ok i (s.gateway.path.item src r.toBytes)
  | _ => True

def Traced (ok : ι → TagReportItem → Prop) (s : Installation ι) (item : TagReportItem) : Prop :=
  ∃ i, item.report ∈ s.sent i ∧ ok i item

/-- Reports rest on what scanners accepted, and items on reports. -/
structure AllTraced (ok : ι → TagReportItem → Prop) (s : Installation ι) : Prop where
  known : ∀ i, Known (s.scanners i).tags (s.heard i)
  sent : ∀ i, ∀ r ∈ s.sent i, ∃ p ∈ s.heard i, p.tagId = r.tagId ∧ p.battery = r.battery
  conserved : s.gateway.Conserved
  received : ∀ x ∈ s.gateway.received, s.Traced ok x.1
  telemetry : ∀ item ∈ s.telemetry, s.Traced ok item

variable {ok : ι → TagReportItem → Prop} {s s' : Installation ι} {hmac : Hmac}

omit [DecidableEq ι] in
theorem allTraced_start : AllTraced ok ({} : Installation ι) where
  known _ := known_reboot []
  sent _ := nofun
  conserved := ReportRun.conserved_boot {}
  received := nofun
  telemetry := nofun

/-- A scanner that goes on adds to what was accepted and sent. -/
theorem AllTraced.scanner (h : s.AllTraced ok) (i : ι) (e : RadioEvent)
    (hs : s.step hmac (.scanner i e) = some s') : s'.AllTraced ok := by
  cases hs
  obtain ⟨hknown, hnew⟩ := known_after hmac (h.known i) e
  have htraced : ∀ item, s.Traced ok item → ∀ s' : Installation ι,
      s'.sent = Function.update s.sent i (s.sent i ++
        newReports (s.scanners i) ((s.scanners i).after hmac e)) → s'.Traced ok item := by
    rintro item ⟨j, hj, hok⟩ s' hsent
    refine ⟨j, ?_, hok⟩
    rw [hsent]
    by_cases hji : j = i
    · rw [hji, Function.update_self]
      exact List.mem_append_left _ (hji ▸ hj)
    · rwa [Function.update_of_ne hji]
  refine ⟨?_, ?_, h.conserved, ?_, ?_⟩
  · intro j
    dsimp only
    by_cases hji : j = i
    · rw [hji, Function.update_self, Function.update_self]
      exact hknown
    · rw [Function.update_of_ne hji, Function.update_of_ne hji]
      exact h.known j
  · intro j r hr
    dsimp only at hr ⊢
    by_cases hji : j = i
    · rw [hji, Function.update_self] at hr ⊢
      have hold : ∃ p ∈ s.heard i, p.tagId = r.tagId ∧ p.battery = r.battery := by
        rcases List.mem_append.mp hr with hr | hr
        · exact h.sent i r hr
        · exact hnew r hr
      obtain ⟨p, hp, hkey⟩ := hold
      exact ⟨p, List.mem_append_left _ hp, hkey⟩
    · rw [Function.update_of_ne hji] at hr ⊢
      exact h.sent j r hr
  · intro x hx
    exact htraced x.1 (h.received x hx) _ rfl
  · intro item hitem
    exact htraced item (h.telemetry item hitem) _ rfl

omit [DecidableEq ι] in
theorem AllTraced.gatewayStep (h : s.AllTraced ok) {e : ReportEvent}
    (hs : s.gatewayStep e = some s')
    (hreport : ∀ opcode src data now, e = .vnd opcode src data now →
      ReportRun.isReport opcode data = true → s.Traced ok (s.gateway.path.item src data)) :
    s'.AllTraced ok := by
  obtain ⟨gateway, hstep, rfl⟩ := Option.map_eq_some_iff.mp hs
  have hconserved := h.conserved.step hstep
  have hreceived : ∀ x ∈ gateway.received, s.Traced ok x.1 := by
    intro x hx
    rcases ReportRun.received_step hstep hx with hold | hnew
    · exact h.received x hold
    · obtain ⟨opcode, src, data, now, he, hop, hitem⟩ := hnew
      rw [hitem]
      exact hreport opcode src data now he hop
  refine ⟨h.known, h.sent, hconserved, hreceived, ?_⟩
  intro item hitem
  rcases List.mem_append.mp hitem with hold | hnew
  · exact h.telemetry item hold
  · obtain ⟨taken, hx⟩ := hconserved.published_received (List.mem_of_mem_drop hnew)
    exact hreceived _ hx

theorem allTraced_step (h : s.AllTraced ok) {e : InstallationEvent ι} (hok : s.Delivers ok e)
    (hs : s.step hmac e = some s') : s'.AllTraced ok := by
  cases e with
  | scanner i e => exact h.scanner i e hs
  | scannerReboot i =>
    cases hs
    refine ⟨?_, h.sent, h.conserved, h.received, h.telemetry⟩
    intro j
    dsimp only
    by_cases hji : j = i
    · rw [hji, Function.update_self]
      exact known_reboot _
    · rw [Function.update_of_ne hji]
      exact h.known j
  | deliver i k src now =>
    obtain ⟨r, hr, hs⟩ := Option.bind_eq_some_iff.mp hs
    apply h.gatewayStep hs
    rintro opcode src' data now' heq -
    cases heq
    refine ⟨i, ?_, hok r hr⟩
    -- the gateway decodes what the scanner encoded
    have hdecode := TagReport.ofBytes_toBytes r []
    rw [List.append_nil] at hdecode
    unfold ReportPath.item
    rw [hdecode]
    exact List.mem_of_getElem? hr
  | gateway e =>
    unfold step at hs
    dsimp only at hs
    split_ifs at hs with hno
    apply h.gatewayStep hs
    rintro opcode src data now rfl hreport
    exact absurd hreport hno

end Installation

open Installation

variable {ι : Type*} [DecidableEq ι]

/-- Whatever the mesh and reboots do, every telemetry message about a tag carries the battery of an
advertisement of that tag which a scanner accepted. -/
theorem telemetry_heard (hmac : Hmac) (es : List (InstallationEvent ι)) :
    Run.Throughout (Installation.step hmac)
      (fun s => ∀ item ∈ s.telemetry, ∃ i, ∃ p ∈ s.heard i,
        p.tagId = item.report.tagId ∧ p.battery = item.report.battery) {} es := by
  have hany : ∀ (s : Installation ι) e, s.Delivers (fun _ _ => True) e := by
    intro s e
    cases e with
    | deliver i k src now => exact fun _ _ => trivial
    | _ => trivial
  have hmeets : Run.Meets (Installation.step hmac) (Delivers fun _ _ => True) {} es :=
    Run.meets_of_forall hany {} es
  have hall := Run.throughout_of_meets (fun _ _ _ h hok hs => allTraced_step h hok hs)
    allTraced_start hmeets
  apply hall.mono
  intro s h item hitem
  obtain ⟨i, hi, -⟩ := h.telemetry item hitem
  exact ⟨i, h.sent i _ hi⟩

/-- The node table has no other room's scanner under the address from which a report of scanner `i`
comes, whose own MAC is `macs i`. -/
def RightMac (macs : ι → Mac) (i : ι) (item : TagReportItem) : Prop :=
  ∀ s, item.scannerMac = some (scannerMac s) → macs i = scannerMac s

/-- A tag is saved to be in a room only if the scanner of that room accepted an advertisement of the
tag, in whatever order and with whatever losses the messages reach the rule chain. -/
theorem room_heard (hmac : Hmac) (macs : ι → Mac) (es : List (InstallationEvent ι))
    (hmacs : Run.Meets (Installation.step hmac) (Delivers (RightMac macs)) {} es) :
    Run.Throughout (Installation.step hmac)
      (fun s => ∀ tagId as room, MessagesOf s.telemetry tagId as →
        (RuleChain.savedAfter as).currentZone = some (RuleChain.zoneOf room) →
        ∃ i, macs i = scannerMac room ∧ ∃ p ∈ s.heard i, p.tagId = tagId) {} es := by
  have hall : Run.Throughout (Installation.step hmac) (AllTraced (RightMac macs)) {} es :=
    Run.throughout_of_meets (fun _ _ _ h hok hs => allTraced_step h hok hs) allTraced_start hmacs
  apply hall.mono
  intro s h tagId as room has hzone
  obtain ⟨item, hitem, htag, hscanner⟩ := report_of_room has hzone
  obtain ⟨i, hi, hright⟩ := h.telemetry item hitem
  obtain ⟨p, hp, hid, -⟩ := h.sent i _ hi
  exact ⟨i, hright room hscanner, p, hp, hid.trans htag⟩

instance (macs : ι → Mac) (i : ι) (item : TagReportItem) : Decidable (RightMac macs i item) :=
  decidable_of_iff (∀ s ∈ RuleChain.scanners, item.scannerMac = some (scannerMac s) →
    macs i = scannerMac s)
    ⟨fun h s => h s (RuleChain.mem_scanners s), fun h s _ => h s⟩

instance (macs : ι → Mac) (s : Installation ι) (e : InstallationEvent ι) :
    Decidable (s.Delivers (RightMac macs) e) :=
  match e with
  | .deliver i k _ _ => inferInstanceAs (Decidable (∀ r ∈ (s.sent i)[k]?, _))
  | .scanner _ _ => isTrue trivial
  | .scannerReboot _ => isTrue trivial
  | .gateway _ => isTrue trivial

def roomOneBeacon : Beacon where
  uuid := fun i => ([0x53, 0x43, 0x41, 0x4E] : List UInt8).getD i 0
  mac := scannerMac .scan01
  addrType := 0
  oobInfo := 0

/-- The scanner of room 1 is provisioned, hears tag 1, and its report is forwarded. -/
def tagOneInRoomOne : List (InstallationEvent Unit) :=
  [.gateway (.status .mqttConnected), .gateway (.status (.prov (.beacon roomOneBeacon true))),
    .gateway (.status (.prov (.provComplete 5 roomOneBeacon.uuid true)))] ++
    (.radio {} :: radioCycle [heardTag 1]).map (.scanner ()) ++
    [.deliver () 0 5 1000, .gateway .take, .gateway (.handled {} 1001)]

theorem room_heard_tagOne :
    Run.Throughout (Installation.step echoHmac)
      (fun s => ∀ tagId as room, MessagesOf s.telemetry tagId as →
        (RuleChain.savedAfter as).currentZone = some (RuleChain.zoneOf room) →
        ∃ i, (fun _ => scannerMac .scan01) i = scannerMac room ∧
          ∃ p ∈ s.heard i, p.tagId = tagId) {} tagOneInRoomOne :=
  room_heard echoHmac (fun _ => scannerMac .scan01) tagOneInRoomOne (by decide +kernel)

/-- The report gets through. -/
example : ((Run.run (Installation.step echoHmac) {} tagOneInRoomOne).map fun s =>
    s.telemetry.map fun item => (item.report.tagId, item.scannerMac)) =
      some [(1, some (scannerMac .scan01))] := by
  decide +kernel

end BleMeshTracking.System

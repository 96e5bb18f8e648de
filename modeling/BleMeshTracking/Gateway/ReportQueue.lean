import BleMeshTracking.Gateway.NodeStatus
import BleMeshTracking.Gateway.ThingsBoard
import BleMeshTracking.Library.BoundedQueue
import BleMeshTracking.Library.Run
import BleMeshTracking.Protocol.Payload

/-!
# Tag reports from the mesh to the server

A scanner sends `bmt_tag_report_t` as it lies in memory.  `vnd_client_cb` copies it out of the mesh
message and puts it into the queue of `bmt_mqtt.c`, with the MAC that the node table has for its
source, and `mqtt_worker_task` hands it to `bmt_tb_pub_tag_report`.
-/

namespace BleMeshTracking.Gateway

open Protocol

/-- `bmt_tag_report_t` as it lies in memory, 8 packed bytes. -/
def TagReport.toBytes (r : TagReport) : Bytes :=
  [r.scannerId, r.battery] ++ leBytes r.tagId ++ [r.rssi.toUInt8] ++
    leBytes r.distanceDm.toUInt16 ++ [r.lossPct]

def TagReport.ofBytes (b : Bytes) : TagReport where
  scannerId := b.getD 0 0
  battery := b.getD 1 0
  tagId := u16OfLe (b.getD 2 0) (b.getD 3 0)
  rssi := (b.getD 4 0).toInt8
  distanceDm := (u16OfLe (b.getD 5 0) (b.getD 6 0)).toInt16
  lossPct := b.getD 7 0

@[simp]
theorem TagReport.length_toBytes (r : TagReport) : r.toBytes.length = 8 := rfl

theorem TagReport.ofBytes_toBytes (r : TagReport) (rest : Bytes) :
    ofBytes (r.toBytes ++ rest) = r := by
  obtain ⟨scannerId, battery, tagId, rssi, distanceDm, lossPct⟩ := r
  have htag := u16OfLe_leBytes tagId
  have hdistance := u16OfLe_leBytes distanceDm.toUInt16
  simp only [ofBytes, toBytes, leBytes, List.cons_append, List.nil_append, List.getD_cons_zero,
    List.getD_cons_succ, htag, hdistance]
  rfl

def bmtMqttQueueSize : ℕ := 64

/-- `bmt_tag_report_item_t`; the MAC is absent where `has_mac` is false. -/
structure TagReportItem where
  report : TagReport
  scannerMac : Option Mac

def espBleMeshModelOp3 (b0 : UInt32) (cid : UInt16) : UInt32 :=
  (b0 <<< 16) ||| 0xC00000 ||| cid.toUInt32

def bmtOpVndTagStatus : UInt32 := espBleMeshModelOp3 0x00 bmtCidEspressif

def bmtOpVndOtaResult : UInt32 := espBleMeshModelOp3 0x07 bmtCidEspressif

/-- The gateway between mesh and server: node table, tracks, `s_mesh_received`, `s_queue` with the
counters of `bmt_mqtt.c`, the item that the worker has in hand, and the OTA results published. -/
structure ReportPath where
  status : StatusSystem := {}
  tracks : TagTracks := fun _ => {}
  meshReceived : UInt32 := 0
  queue : Option (BoundedQueue TagReportItem bmtMqttQueueSize) := some .empty
  enqueued : UInt32 := 0
  dropped : UInt32 := 0
  published : UInt32 := 0
  worker : Option TagReportItem := none
  otaResults : List (Mac × Bool) := []

namespace ReportPath

def enqueueTagReport (item : TagReportItem) (s : ReportPath) : ReportPath :=
  match s.queue with
  | none => s
  | some q =>
    match q.send item with
    | some q => { s with queue := some q, enqueued := s.enqueued + 1 }
    | none => { s with dropped := s.dropped + 1 }

def pubOtaResult (addr : UInt16) (status : UInt8) (s : ReportPath) : ReportPath :=
  if !s.status.connected then s
  else
    match bmtNodeTableFind addr s.status.prov.nodes with
    | some i =>
      { s with otaResults := s.otaResults ++ [((s.status.prov.nodes i).mac, status == 0)] }
    | none => s

def item (s : ReportPath) (src : UInt16) (data : Bytes) : TagReportItem where
  report := TagReport.ofBytes data
  scannerMac :=
    (bmtNodeTableFind src s.status.prov.nodes).map fun i => (s.status.prov.nodes i).mac

def vndClientCb (opcode : UInt32) (src : UInt16) (data : Bytes) (now : UInt32) (s : ReportPath) :
    ReportPath :=
  if opcode = bmtOpVndTagStatus then
    if data.length < 8 then s
    else
      { s with
        meshReceived := s.meshReceived + 1
        status := s.status.tagStatus src now }.enqueueTagReport (s.item src data)
  else if opcode = bmtOpVndOtaResult then
    if data.length < 1 then s else s.pubOtaResult src (data.getD 0 0)
  else s

def takeItem (s : ReportPath) : Option ReportPath :=
  match s.worker, s.queue with
  | none, some q => q.receive.map fun x => { s with queue := some x.2, worker := some x.1 }
  | _, _ => none

end ReportPath

def TagMessage.isTelemetry : TagMessage → Bool
  | .telemetry _ => true
  | _ => false

def telemetryTaken (connected : Bool) (calls : ReportCalls) (r : TagReport) (now : UInt32)
    (tracks : TagTracks) : Bool :=
  (bmtTbPubTagReport connected calls r now tracks).2.any TagMessage.isTelemetry

def StatusSystem.countsPing (s : StatusSystem) (addr : UInt16) (errorCode : ℤ) : Bool :=
  errorCode == 0 &&
    match bmtNodeTableFind addr s.prov.nodes with
    | some i => (s.prov.nodes i).configDone && (s.prov.nodes i).isTyped
    | none => false

/-- What happens on the path: a message for the vendor model, the events of the node table, the
worker takes an item and `bmt_tb_pub_tag_report` returns, and the tasks that share its tracks. -/
inductive ReportEvent
  | vnd (opcode : UInt32) (src : UInt16) (data : Bytes) (now : UInt32)
  | status (e : StatusEvent)
  | take
  | handled (calls : ReportCalls) (now : UInt32)
  | zoneTimeout (ok : Fin bmtMaxTrackedTags → Bool) (now : UInt32)
  | reannounce (calls : Fin bmtMaxTrackedTags → ReportCalls) (ok : Fin bmtMaxTrackedTags → Bool)

/-- The path since the last boot, with every `TAG_STATUS` received and whether the queue had room
for it, the items whose `bmt_tb_pub_tag_report` has returned, and those among them whose telemetry
was published. -/
structure ReportRun where
  path : ReportPath := {}
  received : List (TagReportItem × Bool) := []
  forwarded : List TagReportItem := []
  published : List TagReportItem := []

namespace ReportRun

def accepted (s : ReportRun) : List TagReportItem := (s.received.filter (·.2)).map (·.1)

def refused (s : ReportRun) : List TagReportItem := (s.received.filter (!·.2)).map (·.1)

def waiting (s : ReportRun) : List TagReportItem := (s.path.queue.map (·.items)).getD []

def isReport (opcode : UInt32) (data : Bytes) : Bool :=
  opcode == bmtOpVndTagStatus && decide (8 ≤ data.length)

def step (s : ReportRun) : ReportEvent → Option ReportRun
  | .vnd opcode src data now =>
    let path := s.path.vndClientCb opcode src data now
    if isReport opcode data then
      let taken := decide (s.waiting.length < bmtMqttQueueSize)
      some { s with path, received := s.received ++ [(s.path.item src data, taken)] }
    else some { s with path }
  -- the queue and all counters are in RAM
  | .status (.prov .reboot) =>
    (s.path.status.step (.prov .reboot)).map fun status => { path := { status } }
  | .status (.tagStatus _ _) => none
  | .status .reannounced => none
  | .status (.pingAck addr errorCode now) =>
    let meshReceived :=
      s.path.meshReceived + if s.path.status.countsPing addr errorCode then 1 else 0
    some { s with path := { s.path with
      status := s.path.status.pingAck addr errorCode now, meshReceived } }
  | .status e => (s.path.status.step e).map fun status => { s with path := { s.path with status } }
  | .take => s.path.takeItem.map fun path => { s with path }
  | .handled calls now => do
    let item ← s.path.worker
    let connected := s.path.status.connected
    let taken := telemetryTaken connected calls item.report now s.path.tracks
    some {
      path := { s.path with
        worker := none
        tracks := (bmtTbPubTagReport connected calls item.report now s.path.tracks).1
        published := s.path.published + if taken then 1 else 0 }
      received := s.received
      forwarded := s.forwarded ++ [item]
      published := s.published ++ if taken then [item] else [] }
  | .zoneTimeout ok now =>
    some { s with path := { s.path with
      tracks := (zoneTimeoutPass s.path.status.connected ok now s.path.tracks).1 } }
  | .reannounce calls ok =>
    (s.path.status.step .reannounced).map fun status => { s with path := { s.path with
      status, tracks := (bmtTbReconnectAllDevices true calls ok s.path.tracks).1 } }

/-- What the queue took has been forwarded, is in the worker's hands or waits, in the order in which
it came; what it refused is only counted; and what is published was forwarded. -/
structure Conserved (s : ReportRun) : Prop where
  created : s.path.queue.isSome = true
  order : s.accepted = s.forwarded ++ s.path.worker.toList ++ s.waiting
  enqueued : s.path.enqueued = UInt32.ofNat s.accepted.length
  dropped : s.path.dropped = UInt32.ofNat s.refused.length
  published : s.path.published = UInt32.ofNat s.published.length
  sublist : s.published.Sublist s.forwarded

def NoneRefused (s : ReportRun) : Prop := s.refused = []

/-- How many reports would wait if all had found room. -/
def backlogAfter (n : ℕ) : ReportEvent → ℕ
  | .vnd opcode _ data _ => if isReport opcode data then n + 1 else n
  | .take => n - 1
  | .status (.prov .reboot) => 0
  | _ => n

def backlog (es : List ReportEvent) : ℕ := es.foldl backlogAfter 0

variable {s s' : ReportRun}

theorem waiting_of_queue {q : BoundedQueue TagReportItem bmtMqttQueueSize}
    (h : s.path.queue = some q) : s.waiting = q.items := by
  rw [waiting, h]
  rfl

theorem accepted_concat (l : List (TagReportItem × Bool)) (item : TagReportItem) (taken : Bool) :
    ((l ++ [(item, taken)]).filter (·.2)).map (·.1) =
      (l.filter (·.2)).map (·.1) ++ if taken then [item] else [] := by
  cases taken <;> simp

theorem refused_concat (l : List (TagReportItem × Bool)) (item : TagReportItem) (taken : Bool) :
    ((l ++ [(item, taken)]).filter (!·.2)).map (·.1) =
      (l.filter (!·.2)).map (·.1) ++ if taken then [] else [item] := by
  cases taken <;> simp

/-- A report goes to the end of the queue, or is counted as dropped because the queue is full. -/
theorem enqueueTagReport_cases (path : ReportPath)
    {q : BoundedQueue TagReportItem bmtMqttQueueSize} (hq : path.queue = some q)
    (item : TagReportItem) :
    (q.items.length < bmtMqttQueueSize ∧ ∃ q', q.send item = some q' ∧
        path.enqueueTagReport item =
          { path with queue := some q', enqueued := path.enqueued + 1 }) ∨
      (q.items.length = bmtMqttQueueSize ∧
        path.enqueueTagReport item = { path with dropped := path.dropped + 1 }) := by
  unfold ReportPath.enqueueTagReport
  rw [hq]
  dsimp only
  cases hsend : q.send item with
  | some q' =>
    have hroom : q.items.length ≠ bmtMqttQueueSize := by
      intro hfull
      rw [BoundedQueue.send_eq_none_iff.mpr hfull] at hsend
      cases hsend
    exact Or.inl ⟨Nat.lt_of_le_of_ne q.fits hroom, q', rfl, rfl⟩
  | none => exact Or.inr ⟨BoundedQueue.send_eq_none_iff.mp hsend, rfl⟩

theorem Conserved.frame (h : s.Conserved) (status : StatusSystem) (tracks : TagTracks)
    (meshReceived : UInt32) (otaResults : List (Mac × Bool)) :
    Conserved { s with path := { s.path with status, tracks, meshReceived, otaResults } } :=
  ⟨h.created, h.order, h.enqueued, h.dropped, h.published, h.sublist⟩

theorem pubOtaResult_eq (path : ReportPath) (addr : UInt16) (status : UInt8) :
    ∃ otaResults, path.pubOtaResult addr status = { path with otaResults } := by
  unfold ReportPath.pubOtaResult
  split_ifs
  · exact ⟨path.otaResults, rfl⟩
  · split
    · exact ⟨_, rfl⟩
    · exact ⟨path.otaResults, rfl⟩

theorem vndClientCb_other {opcode : UInt32} {data : Bytes} (h : isReport opcode data = false)
    (path : ReportPath) (src : UInt16) (now : UInt32) :
    ∃ otaResults, path.vndClientCb opcode src data now = { path with otaResults } := by
  unfold isReport at h
  unfold ReportPath.vndClientCb
  split_ifs with hop hshort hota hempty
  · exact ⟨path.otaResults, rfl⟩
  · rw [beq_iff_eq.mpr hop, Bool.true_and, decide_eq_false_iff_not] at h
    omega
  · exact ⟨path.otaResults, rfl⟩
  · exact pubOtaResult_eq path src (data.getD 0 0)
  · exact ⟨path.otaResults, rfl⟩

theorem vndClientCb_report {opcode : UInt32} {data : Bytes} (h : isReport opcode data = true)
    (path : ReportPath) (src : UInt16) (now : UInt32) :
    path.vndClientCb opcode src data now =
      { path with
        meshReceived := path.meshReceived + 1
        status := path.status.tagStatus src now }.enqueueTagReport (path.item src data) := by
  unfold isReport at h
  rw [Bool.and_eq_true, beq_iff_eq, decide_eq_true_iff] at h
  unfold ReportPath.vndClientCb
  rw [if_pos h.1, if_neg (by omega)]

theorem ofNat_succ (n : ℕ) : UInt32.ofNat (n + 1) = UInt32.ofNat n + 1 := by
  rw [UInt32.ofNat_add]
  rfl

theorem Conserved.report (h : s.Conserved) {opcode : UInt32} {data : Bytes}
    (hreport : isReport opcode data = true) (src : UInt16) (now : UInt32) :
    Conserved { s with
      path := s.path.vndClientCb opcode src data now
      received := s.received ++
        [(s.path.item src data, decide (s.waiting.length < bmtMqttQueueSize))] } := by
  obtain ⟨q, hq⟩ := Option.isSome_iff_exists.mp h.created
  have hwait := waiting_of_queue hq
  rw [vndClientCb_report hreport]
  have hcases := enqueueTagReport_cases
    { s.path with
      meshReceived := s.path.meshReceived + 1
      status := s.path.status.tagStatus src now } hq (s.path.item src data)
  rcases hcases with hroom | hfull
  · obtain ⟨hroom, q', hsend, heq⟩ := hroom
    rw [heq, hwait, decide_eq_true hroom]
    have haccepted := accepted_concat s.received (s.path.item src data) true
    have hrefused := refused_concat s.received (s.path.item src data) true
    rw [if_pos rfl] at haccepted hrefused
    rw [List.append_nil] at hrefused
    have hfollows : q.Follows s.accepted (s.forwarded ++ s.path.worker.toList) := by
      unfold BoundedQueue.Follows
      rw [← hwait]
      exact h.order
    refine ⟨rfl, ?_, ?_, ?_, h.published, h.sublist⟩
    · exact haccepted.trans (hfollows.send hsend)
    · change s.path.enqueued + 1 = _
      unfold accepted
      rw [haccepted, List.length_append, List.length_singleton, ofNat_succ, h.enqueued]
      rfl
    · change s.path.dropped = _
      unfold refused
      rw [hrefused]
      exact h.dropped
  · obtain ⟨hfull, heq⟩ := hfull
    have hno : decide (q.items.length < bmtMqttQueueSize) = false :=
      decide_eq_false (by omega)
    rw [heq, hwait, hno]
    have haccepted := accepted_concat s.received (s.path.item src data) false
    have hrefused := refused_concat s.received (s.path.item src data) false
    rw [if_neg Bool.false_ne_true] at haccepted hrefused
    rw [List.append_nil] at haccepted
    refine ⟨h.created, haccepted.trans h.order, ?_, ?_, h.published, h.sublist⟩
    · change s.path.enqueued = _
      unfold accepted
      rw [haccepted]
      exact h.enqueued
    · change s.path.dropped + 1 = _
      unfold refused
      rw [hrefused, List.length_append, List.length_singleton, ofNat_succ, h.dropped]
      rfl

theorem takeItem_eq {path path' : ReportPath} (h : path.takeItem = some path') :
    ∃ q item q', path.worker = none ∧ path.queue = some q ∧ q.receive = some (item, q') ∧
      path' = { path with queue := some q', worker := some item } := by
  unfold ReportPath.takeItem at h
  cases hworker : path.worker with
  | some item =>
    rw [hworker] at h
    cases h
  | none =>
    cases hq : path.queue with
    | none =>
      rw [hworker, hq] at h
      cases h
    | some q =>
      rw [hworker, hq] at h
      obtain ⟨⟨item, q'⟩, hreceive, heq⟩ := Option.map_eq_some_iff.mp h
      exact ⟨q, item, q', rfl, rfl, hreceive, heq.symm⟩

theorem Conserved.take (h : s.Conserved) {path : ReportPath}
    (htake : s.path.takeItem = some path) : Conserved { s with path } := by
  obtain ⟨q, item, q', hworker, hq, hreceive, rfl⟩ := takeItem_eq htake
  refine ⟨rfl, ?_, h.enqueued, h.dropped, h.published, h.sublist⟩
  have hfollows : q.Follows s.accepted s.forwarded := by
    have horder := h.order
    rw [hworker, Option.toList_none, List.append_nil, waiting_of_queue hq] at horder
    exact horder
  exact hfollows.receive hreceive

theorem Conserved.handled (h : s.Conserved) {calls : ReportCalls} {now : UInt32}
    (hs : s.step (.handled calls now) = some s') : s'.Conserved := by
  obtain ⟨item, hworker, hs⟩ := Option.bind_eq_some_iff.mp hs
  cases hs
  have horder : s.accepted = s.forwarded ++ [item] ++ s.waiting := by
    have horder := h.order
    rwa [hworker, Option.toList_some] at horder
  refine ⟨h.created, ?_, h.enqueued, h.dropped, ?_, ?_⟩
  · exact horder.trans (by rw [Option.toList_none, List.append_nil]; rfl)
  · dsimp only
    split_ifs
    · rw [List.length_append, List.length_singleton, ofNat_succ, h.published]
    · rw [List.append_nil, h.published]
      exact UInt32.add_zero _
  · dsimp only
    split_ifs
    · exact h.sublist.append_right [item]
    · rw [List.append_nil]
      exact h.sublist.trans (List.sublist_append_left _ _)

theorem conserved_boot (status : StatusSystem) : Conserved { path := { status } } :=
  ⟨rfl, rfl, rfl, rfl, rfl, List.Sublist.refl []⟩

/-- A reboot empties the path; the other events of the node table do not touch the queue. -/
theorem step_status {e : StatusEvent} (hs : s.step (.status e) = some s') :
    (e = .prov .reboot ∧ ∃ status, s' = { path := { status } }) ∨
      e ≠ .prov .reboot ∧ ∃ status meshReceived,
        s' = { s with path := { s.path with status, meshReceived } } := by
  cases e with
  | prov e =>
    cases e with
    | reboot =>
      unfold ReportRun.step at hs
      obtain ⟨status, -, heq⟩ := Option.map_eq_some_iff.mp hs
      exact Or.inl ⟨rfl, status, heq.symm⟩
    | _ =>
      unfold ReportRun.step at hs
      obtain ⟨status, -, heq⟩ := Option.map_eq_some_iff.mp hs
      exact Or.inr ⟨nofun, status, s.path.meshReceived, heq.symm⟩
  | tagStatus src now => cases hs
  | reannounced => cases hs
  | pingAck addr errorCode now =>
    cases hs
    exact Or.inr ⟨nofun, _, _, rfl⟩
  | _ =>
    unfold ReportRun.step at hs
    obtain ⟨status, -, heq⟩ := Option.map_eq_some_iff.mp hs
    exact Or.inr ⟨nofun, status, s.path.meshReceived, heq.symm⟩

theorem Conserved.step (h : s.Conserved) {e : ReportEvent} (hs : s.step e = some s') :
    s'.Conserved := by
  cases e with
  | vnd opcode src data now =>
    unfold ReportRun.step at hs
    dsimp only at hs
    split_ifs at hs with hreport
    · cases hs
      exact h.report hreport src now
    · cases hs
      obtain ⟨otaResults, heq⟩ :=
        vndClientCb_other (Bool.eq_false_iff.mpr hreport) s.path src now
      rw [heq]
      exact h.frame s.path.status s.path.tracks s.path.meshReceived otaResults
  | status e =>
    rcases step_status hs with ⟨-, status, rfl⟩ | ⟨-, status, meshReceived, rfl⟩
    · exact conserved_boot status
    · exact h.frame status s.path.tracks meshReceived s.path.otaResults
  | take =>
    obtain ⟨path, htake, rfl⟩ := Option.map_eq_some_iff.mp hs
    exact h.take htake
  | handled calls now => exact h.handled hs
  | zoneTimeout ok now =>
    cases hs
    exact h.frame s.path.status _ s.path.meshReceived s.path.otaResults
  | reannounce calls ok =>
    obtain ⟨status, -, rfl⟩ := Option.map_eq_some_iff.mp hs
    exact h.frame status _ s.path.meshReceived s.path.otaResults

theorem Conserved.published_received (h : s.Conserved) {item : TagReportItem}
    (hitem : item ∈ s.published) : ∃ taken, (item, taken) ∈ s.received := by
  have haccepted : item ∈ s.accepted := by
    rw [h.order]
    exact List.mem_append_left _ (List.mem_append_left _ (h.sublist.subset hitem))
  obtain ⟨⟨item', taken⟩, hx, rfl⟩ := List.mem_map.mp haccepted
  exact ⟨taken, (List.mem_filter.mp hx).1⟩

theorem received_step {e : ReportEvent} (hs : s.step e = some s') {x : TagReportItem × Bool}
    (hx : x ∈ s'.received) : x ∈ s.received ∨
      ∃ opcode src data now, e = .vnd opcode src data now ∧ isReport opcode data = true ∧
        x.1 = s.path.item src data := by
  cases e with
  | vnd opcode src data now =>
    unfold ReportRun.step at hs
    dsimp only at hs
    split_ifs at hs with hreport
    · cases hs
      rcases List.mem_append.mp hx with hold | hnew
      · exact Or.inl hold
      · obtain rfl := List.mem_singleton.mp hnew
        exact Or.inr ⟨opcode, src, data, now, rfl, hreport, rfl⟩
    · cases hs
      exact Or.inl hx
  | status e =>
    rcases step_status hs with ⟨-, status, rfl⟩ | ⟨-, status, meshReceived, rfl⟩
    · cases hx
    · exact Or.inl hx
  | take =>
    obtain ⟨path, -, rfl⟩ := Option.map_eq_some_iff.mp hs
    exact Or.inl hx
  | handled calls now =>
    obtain ⟨item, -, hs⟩ := Option.bind_eq_some_iff.mp hs
    cases hs
    exact Or.inl hx
  | zoneTimeout ok now =>
    cases hs
    exact Or.inl hx
  | reannounce calls ok =>
    obtain ⟨status, -, rfl⟩ := Option.map_eq_some_iff.mp hs
    exact Or.inl hx

theorem waiting_le (s : ReportRun) : s.waiting.length ≤ bmtMqttQueueSize := by
  cases hq : s.path.queue with
  | none => simp [waiting, hq]
  | some q =>
    rw [waiting_of_queue hq]
    exact q.fits

theorem backlogAfter_status {e : StatusEvent} (h : e ≠ .prov .reboot) (n : ℕ) :
    backlogAfter n (.status e) = n := by
  cases e with
  | prov e =>
    cases e with
    | reboot => exact absurd rfl h
    | _ => rfl
  | _ => rfl

/-- The step leaves as many reports waiting as the backlog says, or the backlog no longer fits and
a report is refused. -/
def KeepsUp (s : ReportRun) (e : ReportEvent) (s' : ReportRun) : Prop :=
  (s'.refused = s.refused ∨ s'.refused = []) ∧
      s'.waiting.length = backlogAfter s.waiting.length e ∨
    s'.refused ≠ [] ∧ bmtMqttQueueSize < backlogAfter s.waiting.length e

theorem keepsUp_report (h : s.Conserved) {opcode : UInt32} {data : Bytes}
    (hreport : isReport opcode data = true) (src : UInt16) (now : UInt32) :
    KeepsUp s (.vnd opcode src data now) { s with
      path := s.path.vndClientCb opcode src data now
      received := s.received ++
        [(s.path.item src data, decide (s.waiting.length < bmtMqttQueueSize))] } := by
  obtain ⟨q, hq⟩ := Option.isSome_iff_exists.mp h.created
  have hwait := waiting_of_queue hq
  have hbacklog : backlogAfter s.waiting.length (.vnd opcode src data now) =
      s.waiting.length + 1 := if_pos hreport
  unfold KeepsUp
  rw [hbacklog, vndClientCb_report hreport]
  have hcases := enqueueTagReport_cases
    { s.path with
      meshReceived := s.path.meshReceived + 1
      status := s.path.status.tagStatus src now } hq (s.path.item src data)
  rcases hcases with hroom | hfull
  · obtain ⟨hroom, q', hsend, heq⟩ := hroom
    rw [heq, hwait, decide_eq_true hroom]
    refine Or.inl ⟨Or.inl ?_, ?_⟩
    · have hrefused := refused_concat s.received (s.path.item src data) true
      rwa [if_pos rfl, List.append_nil] at hrefused
    · rw [waiting_of_queue rfl, BoundedQueue.items_of_send hsend, List.length_append,
        List.length_singleton]
  · obtain ⟨hfull, -⟩ := hfull
    have hno : decide (q.items.length < bmtMqttQueueSize) = false :=
      decide_eq_false (by omega)
    rw [hwait, hno]
    refine Or.inr ⟨?_, by omega⟩
    have hrefused := refused_concat s.received (s.path.item src data) false
    rw [if_neg Bool.false_ne_true] at hrefused
    intro hnil
    exact List.append_ne_nil_of_right_ne_nil _ (List.cons_ne_nil _ _) (hrefused.symm.trans hnil)

theorem keepsUp_step (h : s.Conserved) {e : ReportEvent} (hs : s.step e = some s') :
    KeepsUp s e s' := by
  cases e with
  | vnd opcode src data now =>
    unfold ReportRun.step at hs
    dsimp only at hs
    split_ifs at hs with hreport
    · cases hs
      exact keepsUp_report h hreport src now
    · cases hs
      obtain ⟨otaResults, heq⟩ :=
        vndClientCb_other (Bool.eq_false_iff.mpr hreport) s.path src now
      rw [heq]
      exact Or.inl ⟨Or.inl rfl, (if_neg hreport).symm⟩
  | status e =>
    rcases step_status hs with ⟨rfl, status, rfl⟩ | ⟨hne, status, meshReceived, rfl⟩
    · exact Or.inl ⟨Or.inr rfl, rfl⟩
    · exact Or.inl ⟨Or.inl rfl, (backlogAfter_status hne _).symm⟩
  | take =>
    obtain ⟨path, htake, rfl⟩ := Option.map_eq_some_iff.mp hs
    obtain ⟨q, item, q', -, hq, hreceive, rfl⟩ := takeItem_eq htake
    refine Or.inl ⟨Or.inl rfl, ?_⟩
    rw [waiting_of_queue hq, waiting_of_queue rfl, BoundedQueue.items_of_receive hreceive]
    rfl
  | handled calls now =>
    obtain ⟨item, -, hs⟩ := Option.bind_eq_some_iff.mp hs
    cases hs
    exact Or.inl ⟨Or.inl rfl, rfl⟩
  | zoneTimeout ok now =>
    cases hs
    exact Or.inl ⟨Or.inl rfl, rfl⟩
  | reannounce calls ok =>
    obtain ⟨status, -, rfl⟩ := Option.map_eq_some_iff.mp hs
    exact Or.inl ⟨Or.inl rfl, rfl⟩

theorem noneRefused_iff (h : s.Conserved) (hnone : s.NoneRefused) {es : List ReportEvent}
    (hrun : (Run.run ReportRun.step s es).isSome = true) :
    Run.Throughout ReportRun.step NoneRefused s es ↔
      ∀ pre, pre <+: es → pre.foldl backlogAfter s.waiting.length ≤ bmtMqttQueueSize := by
  induction es generalizing s with
  | nil =>
    refine ⟨fun _ pre hpre => ?_, fun _ => hnone⟩
    rw [List.prefix_nil.mp hpre]
    exact s.waiting_le
  | cons e es ih =>
    obtain ⟨s'', hs''⟩ := Option.isSome_iff_exists.mp hrun
    obtain ⟨s', hs, hrest⟩ := Option.bind_eq_some_iff.mp hs''
    rw [Run.throughout_cons hs]
    rcases keepsUp_step h hs with ⟨hsame, hwait⟩ | ⟨hsome, hover⟩
    · have hnone' : s'.refused = [] := hsame.elim (fun heq => heq.trans hnone) id
      rw [ih (h.step hs) hnone' (Option.isSome_of_eq_some hrest), hwait]
      refine ⟨?_, fun hall => ⟨hnone, ?_⟩⟩
      · rintro ⟨-, hall⟩ pre hpre
        cases pre with
        | nil => exact s.waiting_le
        | cons d pre =>
          obtain ⟨rfl, htail⟩ := List.cons_prefix_cons.mp hpre
          exact hall pre htail
      · intro pre hpre
        exact hall (e :: pre) (List.cons_prefix_cons.mpr ⟨rfl, hpre⟩)
    · -- the report of this step is refused, and its prefix is too long
      refine ⟨fun hall => absurd hall.2.first hsome, fun hall => absurd hover ?_⟩
      have hfirst := hall [e] (List.cons_prefix_cons.mpr ⟨rfl, List.nil_prefix⟩)
      exact Nat.not_lt_of_le hfirst

end ReportRun

/-- Between mesh and server no report is lost, doubled or reordered but for those that found 64 of
them waiting, and the counters of `bmt_mqtt.c` say how many. -/
theorem reports_conserved (es : List ReportEvent) :
    Run.Throughout ReportRun.step ReportRun.Conserved {} es :=
  Run.throughout_of_forall (fun _ _ _ h hs => h.step hs) es (ReportRun.conserved_boot {})

/-- No report is refused in a run just when its backlog never exceeds the queue. -/
theorem none_refused_iff_backlog_fits (es : List ReportEvent)
    (hrun : (Run.run ReportRun.step {} es).isSome = true) :
    Run.Throughout ReportRun.step ReportRun.NoneRefused {} es ↔
      ∀ pre, pre <+: es → ReportRun.backlog pre ≤ bmtMqttQueueSize :=
  ReportRun.noneRefused_iff (ReportRun.conserved_boot {}) rfl hrun

def tagOneReport : TagReport := ⟨2, 100, 1, -60, 12, 0⟩

def tagOneForwarded : List ReportEvent :=
  [.vnd bmtOpVndTagStatus 5 tagOneReport.toBytes 1000, .take, .handled {} 1001]

theorem none_refused_iff_backlog_fits_tagOne :
    (Run.run ReportRun.step {} tagOneForwarded).isSome = true ∧
      (Run.Throughout ReportRun.step ReportRun.NoneRefused {} tagOneForwarded ↔
        ∀ pre, pre <+: tagOneForwarded → ReportRun.backlog pre ≤ bmtMqttQueueSize) := by
  have hrun : (Run.run ReportRun.step {} tagOneForwarded).isSome = true := by decide +kernel
  exact ⟨hrun, none_refused_iff_backlog_fits tagOneForwarded hrun⟩

end BleMeshTracking.Gateway

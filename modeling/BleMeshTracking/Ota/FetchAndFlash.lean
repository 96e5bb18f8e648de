import BleMeshTracking.Library.CString
import BleMeshTracking.Ota.PendingResult

/-!
# Downloading a firmware image

`bmt_https_ota_fetch_and_flash` of `bmt_https_ota.c`, which the OTA tasks of gateway, scanners and
relays run: the calls it makes on the handle of `esp_https_ota`, for every outcome of each of them,
and the images that a series of updates leaves installed.
-/

namespace BleMeshTracking.Ota

open CString (strncmp IsDigit decimal fields)

inductive HttpsErr
  | ok
  | fail
  | notFound
  | inProgress
  | other (code : Int)
  deriving DecidableEq

/-- `esp_app_desc_t`, the arrays at their sizes. -/
structure AppDesc where
  version : List UInt8
  appElfSha256 : List UInt8
  version_length : version.length = 32
  sha256_length : appElfSha256.length = 32

structure HttpsCalls where
  otaBegin : HttpsErr := .ok
  getImgDesc : HttpsErr := .ok
  newDesc : AppDesc
  /-- The successive results of `esp_https_ota_perform`. -/
  perform : List HttpsErr := [.ok]
  isComplete : Bool := true
  finish : HttpsErr := .ok

inductive HttpsCall
  | otaBegin
  | getImgDesc
  | perform
  | isCompleteDataReceived
  | finish
  | abort
  deriving DecidableEq

def HttpsCall.Closes (x : HttpsCall) : Prop := x = .finish ∨ x = .abort

/-- The `while (1)` around `esp_https_ota_perform`; without a result the loop is still running. -/
def performLoop : List HttpsErr → List HttpsCall × Option HttpsErr
  | [] => ([], none)
  | r :: rs =>
    if r = .inProgress then (.perform :: (performLoop rs).1, (performLoop rs).2)
    else ([.perform], some r)

def closeHandle (c : HttpsCalls) : Option HttpsErr → List HttpsCall × Option HttpsErr
  | none => ([], none)
  | some err =>
    if err = .ok then
      if c.isComplete then ([.isCompleteDataReceived, .finish], some c.finish)
      else ([.isCompleteDataReceived, .abort], some .fail)
    else ([.abort], some err)

def bmtHttpsOtaFetchAndFlash (cur : AppDesc) (c : HttpsCalls) :
    List HttpsCall × Option HttpsErr :=
  if c.otaBegin ≠ .ok then ([.otaBegin], some c.otaBegin)
  else if c.getImgDesc ≠ .ok then ([.otaBegin, .getImgDesc, .abort], some c.getImgDesc)
  else if c.newDesc.appElfSha256 = cur.appElfSha256 then
    ([.otaBegin, .getImgDesc, .abort], some .notFound)
  else if strncmp 32 c.newDesc.version cur.version ≤ 0 then
    ([.otaBegin, .getImgDesc, .abort], some .notFound)
  else
    let (calls, err) := performLoop c.perform
    let (close, ret) := closeHandle c err
    ([.otaBegin, .getImgDesc] ++ calls ++ close, ret)

/-- Both version checks let the image through. -/
def Newer (cur new : AppDesc) : Prop :=
  new.appElfSha256 ≠ cur.appElfSha256 ∧ 0 < strncmp 32 new.version cur.version

instance (cur new : AppDesc) : Decidable (Newer cur new) := by
  unfold Newer
  infer_instance

def HttpsCalls.performed (c : HttpsCalls) : Option HttpsErr :=
  c.perform.find? (· ≠ .inProgress)

theorem performLoop_snd (rs : List HttpsErr) :
    (performLoop rs).2 = rs.find? (· ≠ .inProgress) := by
  induction rs with
  | nil => rfl
  | cons r rs ih =>
    by_cases hr : r = .inProgress
    · simp [performLoop, hr, ih]
    · simp [performLoop, hr]

theorem eq_perform_of_mem {rs : List HttpsErr} {x : HttpsCall} (hx : x ∈ (performLoop rs).1) :
    x = .perform := by
  induction rs with
  | nil => cases hx
  | cons r rs ih =>
    unfold performLoop at hx
    split_ifs at hx with hr
    · rcases List.mem_cons.mp hx with rfl | hx
      · rfl
      · exact ih hx
    · exact List.mem_singleton.mp hx

section Fetch

variable {cur : AppDesc} {c : HttpsCalls}

theorem fetch_of_begin (h : c.otaBegin ≠ .ok) :
    bmtHttpsOtaFetchAndFlash cur c = ([.otaBegin], some c.otaBegin) := if_pos h

theorem fetch_of_desc (hb : c.otaBegin = .ok) (h : c.getImgDesc ≠ .ok) :
    bmtHttpsOtaFetchAndFlash cur c = ([.otaBegin, .getImgDesc, .abort], some c.getImgDesc) := by
  rw [bmtHttpsOtaFetchAndFlash, if_neg (not_not_intro hb), if_pos h]

theorem fetch_of_not_newer (hb : c.otaBegin = .ok) (hd : c.getImgDesc = .ok)
    (h : ¬Newer cur c.newDesc) :
    bmtHttpsOtaFetchAndFlash cur c = ([.otaBegin, .getImgDesc, .abort], some .notFound) := by
  rw [bmtHttpsOtaFetchAndFlash, if_neg (not_not_intro hb), if_neg (not_not_intro hd)]
  by_cases hsha : c.newDesc.appElfSha256 = cur.appElfSha256
  · rw [if_pos hsha]
  · rw [if_neg hsha, if_pos]
    exact not_lt.mp fun hv => h ⟨hsha, hv⟩

theorem fetch_of_newer (hb : c.otaBegin = .ok) (hd : c.getImgDesc = .ok)
    (h : Newer cur c.newDesc) :
    bmtHttpsOtaFetchAndFlash cur c =
      ([.otaBegin, .getImgDesc] ++ (performLoop c.perform).1 ++ (closeHandle c c.performed).1,
        (closeHandle c c.performed).2) := by
  rw [bmtHttpsOtaFetchAndFlash, if_neg (not_not_intro hb), if_neg (not_not_intro hd),
    if_neg h.1, if_neg (not_le.mpr h.2)]
  dsimp only
  rw [performLoop_snd]
  rfl

def HttpsCalls.Downloads (cur : AppDesc) (c : HttpsCalls) : Prop :=
  c.otaBegin = .ok ∧ c.getImgDesc = .ok ∧ Newer cur c.newDesc

/-- The exits before the loop leave with an error and an aborted handle, if there is one. -/
theorem fetch_of_not_downloads (h : ¬c.Downloads cur) :
    ∃ err, err ≠ .ok ∧
      bmtHttpsOtaFetchAndFlash cur c =
        (if c.otaBegin = .ok then [.otaBegin, .getImgDesc, .abort] else [.otaBegin], some err) := by
  by_cases hb : c.otaBegin = .ok
  · by_cases hd : c.getImgDesc = .ok
    · refine ⟨.notFound, by decide, ?_⟩
      rw [fetch_of_not_newer hb hd fun hn => h ⟨hb, hd, hn⟩, if_pos hb]
    · exact ⟨c.getImgDesc, hd, by rw [fetch_of_desc hb hd, if_pos hb]⟩
  · exact ⟨c.otaBegin, hb, by rw [fetch_of_begin hb, if_neg hb]⟩

def ClosedOnce (calls : List HttpsCall) : Prop :=
  ∃ pre last, calls = pre ++ [last] ∧ last.Closes ∧ ∀ x ∈ pre, ¬x.Closes

theorem closedOnce_aborted : ClosedOnce [.otaBegin, .getImgDesc, .abort] := by
  refine ⟨[.otaBegin, .getImgDesc], .abort, rfl, Or.inr rfl, ?_⟩
  simp [HttpsCall.Closes]

theorem not_closes_of_mem {rs : List HttpsErr} {x : HttpsCall}
    (hx : x ∈ [.otaBegin, .getImgDesc] ++ (performLoop rs).1) : ¬x.Closes := by
  rcases List.mem_append.mp hx with hx | hx
  · simp only [List.mem_cons, List.not_mem_nil, or_false] at hx
    rcases hx with rfl | rfl <;> simp [HttpsCall.Closes]
  · rw [eq_perform_of_mem hx]
    simp [HttpsCall.Closes]

theorem ClosedOnce.of_append {open_ close : List HttpsCall} (ho : ∀ x ∈ open_, ¬x.Closes)
    (hc : ClosedOnce close) : ClosedOnce (open_ ++ close) := by
  obtain ⟨pre, last, rfl, hlast, hpre⟩ := hc
  refine ⟨open_ ++ pre, last, (List.append_assoc ..).symm, hlast, ?_⟩
  exact fun x hx => (List.mem_append.mp hx).elim (ho x) (hpre x)

theorem closedOnce_closeHandle {err : HttpsErr} :
    ClosedOnce (closeHandle c (some err)).1 := by
  unfold closeHandle
  dsimp only
  split_ifs
  · exact ⟨[.isCompleteDataReceived], .finish, rfl, Or.inl rfl, by simp [HttpsCall.Closes]⟩
  · exact ⟨[.isCompleteDataReceived], .abort, rfl, Or.inr rfl, by simp [HttpsCall.Closes]⟩
  · exact ⟨[], .abort, rfl, Or.inr rfl, by simp⟩

theorem closeHandle_returns (err : HttpsErr) : ∃ ret, (closeHandle c (some err)).2 = some ret := by
  unfold closeHandle
  dsimp only
  split_ifs <;> exact ⟨_, rfl⟩

theorem finish_mem_closeHandle_iff {r : Option HttpsErr} :
    .finish ∈ (closeHandle c r).1 ↔ r = some .ok ∧ c.isComplete = true := by
  cases r with
  | none => simp [closeHandle]
  | some err =>
    unfold closeHandle
    dsimp only
    split_ifs with he hc <;> simp [*]

theorem closeHandle_ok_iff {r : Option HttpsErr} :
    (closeHandle c r).2 = some .ok ↔
      (r = some .ok ∧ c.isComplete = true) ∧ c.finish = .ok := by
  cases r with
  | none => simp [closeHandle]
  | some err =>
    unfold closeHandle
    dsimp only
    split_ifs with he hc <;> simp [*]

theorem fetch_finish_mem_iff :
    .finish ∈ (bmtHttpsOtaFetchAndFlash cur c).1 ↔
      c.Downloads cur ∧ c.performed = some .ok ∧ c.isComplete = true := by
  by_cases h : c.Downloads cur
  · rw [fetch_of_newer h.1 h.2.1 h.2.2, List.mem_append, finish_mem_closeHandle_iff]
    refine ⟨?_, fun hr => Or.inr hr.2⟩
    rintro (hf | hr)
    · exact absurd (Or.inl rfl) (not_closes_of_mem hf)
    · exact ⟨h, hr⟩
  · obtain ⟨err, -, hf⟩ := fetch_of_not_downloads h
    rw [hf]
    refine iff_of_false ?_ fun hr => h hr.1
    dsimp only
    split_ifs <;> simp

theorem fetch_ok_iff :
    (bmtHttpsOtaFetchAndFlash cur c).2 = some .ok ↔
      .finish ∈ (bmtHttpsOtaFetchAndFlash cur c).1 ∧ c.finish = .ok := by
  rw [fetch_finish_mem_iff]
  by_cases h : c.Downloads cur
  · rw [fetch_of_newer h.1 h.2.1 h.2.2]
    simp only [closeHandle_ok_iff, h, true_and]
  · obtain ⟨err, herr, hf⟩ := fetch_of_not_downloads h
    rw [hf]
    refine iff_of_false ?_ fun hr => h hr.1.1
    exact fun he => herr (Option.some.inj he)

theorem fetch_returns_iff :
    (∃ err, (bmtHttpsOtaFetchAndFlash cur c).2 = some err) ↔
      (c.Downloads cur → ∃ r ∈ c.perform, r ≠ .inProgress) := by
  by_cases h : c.Downloads cur
  · rw [fetch_of_newer h.1 h.2.1 h.2.2]
    simp only [h, forall_const]
    cases hp : c.performed with
    | none =>
      refine iff_of_false (by simp [closeHandle]) ?_
      rintro ⟨r, hr, hne⟩
      exact List.find?_eq_none.mp hp r hr (decide_eq_true hne)
    | some r =>
      refine iff_of_true (closeHandle_returns r) ⟨r, List.mem_of_find?_eq_some hp, ?_⟩
      simpa using List.find?_some hp
  · obtain ⟨err, -, hf⟩ := fetch_of_not_downloads h
    rw [hf]
    exact iff_of_true ⟨err, rfl⟩ fun hd => absurd hd h

theorem fetch_closedOnce (hb : c.otaBegin = .ok) {err : HttpsErr}
    (hr : (bmtHttpsOtaFetchAndFlash cur c).2 = some err) :
    ClosedOnce (bmtHttpsOtaFetchAndFlash cur c).1 := by
  by_cases h : c.Downloads cur
  · rw [fetch_of_newer h.1 h.2.1 h.2.2] at hr ⊢
    cases hp : c.performed with
    | none => simp [hp, closeHandle] at hr
    | some r => exact ClosedOnce.of_append (fun x => not_closes_of_mem) closedOnce_closeHandle
  · obtain ⟨err', -, hf⟩ := fetch_of_not_downloads h
    rw [hf]
    dsimp only
    rw [if_pos hb]
    exact closedOnce_aborted

/-- While the download runs the handle is open. -/
theorem fetch_not_closes (hr : (bmtHttpsOtaFetchAndFlash cur c).2 = none) :
    ∀ x ∈ (bmtHttpsOtaFetchAndFlash cur c).1, ¬x.Closes := by
  by_cases h : c.Downloads cur
  · rw [fetch_of_newer h.1 h.2.1 h.2.2] at hr ⊢
    cases hp : c.performed with
    | none =>
      simp only [closeHandle, List.append_nil]
      exact fun x => not_closes_of_mem
    | some r =>
      obtain ⟨ret, hret⟩ := closeHandle_returns (c := c) r
      rw [hp, hret] at hr
      cases hr
  · obtain ⟨err, -, hf⟩ := fetch_of_not_downloads h
    rw [hf] at hr
    cases hr

end Fetch

/-- How the function treats the handle and what its result tells. -/
structure Disciplined (cur : AppDesc) (c : HttpsCalls) : Prop where
  returns_iff : (∃ err, (bmtHttpsOtaFetchAndFlash cur c).2 = some err) ↔
    (c.Downloads cur → ∃ r ∈ c.perform, r ≠ .inProgress)
  /-- One `finish` or `abort`, the last call. -/
  closed : c.otaBegin = .ok → ∀ err, (bmtHttpsOtaFetchAndFlash cur c).2 = some err →
    ClosedOnce (bmtHttpsOtaFetchAndFlash cur c).1
  running : (bmtHttpsOtaFetchAndFlash cur c).2 = none →
    ∀ x ∈ (bmtHttpsOtaFetchAndFlash cur c).1, ¬x.Closes
  finished : .finish ∈ (bmtHttpsOtaFetchAndFlash cur c).1 →
    c.newDesc.appElfSha256 ≠ cur.appElfSha256 ∧
      0 < strncmp 32 c.newDesc.version cur.version ∧
      c.performed = some .ok ∧ c.isComplete = true
  ok_iff : (bmtHttpsOtaFetchAndFlash cur c).2 = some .ok ↔
    .finish ∈ (bmtHttpsOtaFetchAndFlash cur c).1 ∧ c.finish = .ok
  /-- The version checks refuse an image before anything of it is written. -/
  skipped : c.otaBegin = .ok → c.getImgDesc = .ok → ¬Newer cur c.newDesc →
    (bmtHttpsOtaFetchAndFlash cur c).2 = some .notFound ∧
      .perform ∉ (bmtHttpsOtaFetchAndFlash cur c).1 ∧
      .finish ∉ (bmtHttpsOtaFetchAndFlash cur c).1

theorem disciplined (cur : AppDesc) (c : HttpsCalls) : Disciplined cur c where
  returns_iff := fetch_returns_iff
  closed hb _ hr := fetch_closedOnce hb hr
  running := fetch_not_closes
  finished hf := by
    obtain ⟨⟨_, _, hsha, hver⟩, hperf⟩ := fetch_finish_mem_iff.mp hf
    exact ⟨hsha, hver, hperf⟩
  ok_iff := fetch_ok_iff
  skipped hb hd hn := by
    rw [fetch_of_not_newer hb hd hn]
    simp

structure Update where
  bringUp : HttpsErr := .ok
  calls : HttpsCalls

inductive UpdateEnd
  | reboot
  | reportFail
  | silent
  deriving DecidableEq

def Update.wifiTask (cur : AppDesc) (u : Update) : Option UpdateEnd :=
  if u.bringUp ≠ .ok then some .reportFail
  else match (bmtHttpsOtaFetchAndFlash cur u.calls).2 with
    | none => none
    | some .ok => some .reboot
    | some .notFound => some .silent
    | some _ => some .reportFail

/-- The images that a series of updates installs, one after the other. -/
def installs : AppDesc → List Update → List AppDesc
  | _, [] => []
  | cur, u :: us =>
    if u.wifiTask cur = some .reboot then u.calls.newDesc :: installs u.calls.newDesc us
    else installs cur us

/-- A version as the build sets it, `YYYYMMDDHHMMSS`. -/
def AppDesc.Stamped (d : AppDesc) : Prop :=
  (∀ c ∈ d.version.take 14, IsDigit c) ∧ d.version[14]? = some 0

instance (d : AppDesc) : Decidable d.Stamped :=
  haveI := List.decidableBAll (fun c => IsDigit c) (d.version.take 14)
  instDecidableAnd

/-- Year, month, day, hour, minute and second; lists of numbers are ordered by their first
difference, as times of the calendar are. -/
def AppDesc.buildTime (d : AppDesc) : List ℕ := fields [4, 2, 2, 2, 2, 2] (d.version.take 14)

theorem AppDesc.length_take_version (d : AppDesc) : (d.version.take 14).length = 14 := by
  rw [List.length_take, d.version_length]
  rfl

theorem AppDesc.Stamped.version_eq {d : AppDesc} (h : d.Stamped) :
    d.version = d.version.take 14 ++ 0 :: d.version.drop 15 := by
  obtain ⟨hlt, hz⟩ := List.getElem?_eq_some_iff.mp h.2
  conv_lhs => rw [← List.take_append_drop 14 d.version]
  rw [List.drop_eq_getElem_cons hlt, hz]

/-- Between timestamps `strncmp` decides which build is later. -/
theorem strncmp_version_pos_iff {cur new : AppDesc} (hc : cur.Stamped) (hn : new.Stamped) :
    0 < strncmp 32 new.version cur.version ↔ cur.buildTime < new.buildTime := by
  have hlc := cur.length_take_version
  have hln := new.length_take_version
  have hs : 0 < strncmp 32 new.version cur.version ↔
      decimal (cur.version.take 14) < decimal (new.version.take 14) := by
    have h := CString.strncmp_pos_iff (n := 32) (new.version.drop 15) (cur.version.drop 15)
      hn.1 hc.1 (hln.trans hlc.symm) (by omega)
    rwa [← hn.version_eq, ← hc.version_eq] at h
  rw [hs, AppDesc.buildTime, AppDesc.buildTime, CString.fields_lt_iff hc.1 hn.1]
  · exact hlc
  · exact hln

theorem wifiTask_reboot_iff {cur : AppDesc} {u : Update} :
    u.wifiTask cur = some .reboot ↔
      u.bringUp = .ok ∧ (bmtHttpsOtaFetchAndFlash cur u.calls).2 = some .ok := by
  unfold Update.wifiTask
  by_cases hb : u.bringUp = .ok
  · rw [if_neg (not_not_intro hb)]
    split
    · simp [*]
    · simp [*]
    · simp [*]
    · rename_i err hok _ heq
      simp [hb, heq, show err ≠ .ok from hok]
  · simp [hb]

def HttpsErr.toEspErr : HttpsErr → EspErr
  | .ok => .ok
  | .notFound => .notFound
  | _ => .fail

theorem otaWifiTask_marking_iff {s : OtaNode} {w : WifiCalls} {cur : AppDesc} {u : Update}
    {err : HttpsErr} (hs : s.wifi = .fetching) (hb : u.bringUp = .ok)
    (hr : (bmtHttpsOtaFetchAndFlash cur u.calls).2 = some err) (hw : w.fetch = err.toEspErr) :
    (s.otaWifiTask w).wifi = .marking ↔ u.wifiTask cur = some .reboot := by
  rw [wifiTask_reboot_iff, hr]
  cases err <;> simp [OtaNode.otaWifiTask, hs, hb, hw, HttpsErr.toEspErr]

/-- An update that reboots installs a later build. -/
theorem buildTime_lt_of_reboot {cur : AppDesc} {u : Update} (hc : cur.Stamped)
    (hn : u.calls.newDesc.Stamped) (h : u.wifiTask cur = some .reboot) :
    cur.buildTime < u.calls.newDesc.buildTime := by
  have hfin := (fetch_ok_iff.mp (wifiTask_reboot_iff.mp h).2).1
  obtain ⟨_, hver, _⟩ := (disciplined cur u.calls).finished hfin
  exact (strncmp_version_pos_iff hc hn).mp hver

/-- Every later image is a later build than every image before it. -/
theorem pairwise_installs {cur : AppDesc} {us : List Update} (hc : cur.Stamped)
    (hus : ∀ u ∈ us, u.calls.newDesc.Stamped) :
    ((cur :: installs cur us).map AppDesc.buildTime).Pairwise (· < ·) := by
  induction us generalizing cur with
  | nil => simp [installs]
  | cons u us ih =>
    obtain ⟨hu, hrest⟩ := List.forall_mem_cons.mp hus
    unfold installs
    split_ifs with hr
    · have hlt := buildTime_lt_of_reboot hc hu hr
      have hnew := ih hu hrest
      rw [List.map_cons, List.pairwise_cons]
      refine ⟨?_, hnew⟩
      intro t ht
      rcases List.mem_cons.mp ht with rfl | ht
      · exact hlt
      · exact hlt.trans ((List.pairwise_cons.mp hnew).1 t ht)
    · exact ih hc hrest

/-- Every download keeps the discipline, and over every series of updates between timestamped
images the installed build gets later with each install. -/
theorem fetch_discipline :
    (∀ cur c, Disciplined cur c) ∧
      ∀ cur us, AppDesc.Stamped cur → (∀ u ∈ us, u.calls.newDesc.Stamped) →
        ((cur :: installs cur us).map AppDesc.buildTime).Pairwise (· < ·) :=
  ⟨disciplined, fun _ _ => pairwise_installs⟩

def mayImage (day : ℕ) : AppDesc where
  version := [50, 48, 50, 53, 48, 53, 48, 48 + UInt8.ofNat day, 49, 50, 48, 48, 48, 48] ++
    List.replicate 18 0
  appElfSha256 := List.replicate 32 (UInt8.ofNat day)
  version_length := rfl
  sha256_length := rfl

/-- A download in three parts, then an older image. -/
theorem fetch_discipline_may :
    Disciplined (mayImage 1) { newDesc := mayImage 3, perform := [.inProgress, .inProgress, .ok] } ∧
      ((mayImage 1 :: installs (mayImage 1)
        [{ calls := { newDesc := mayImage 3 } }, { calls := { newDesc := mayImage 2 } }]).map
          AppDesc.buildTime).Pairwise (· < ·) :=
  ⟨fetch_discipline.1 _ _, fetch_discipline.2 _ _ (by decide +kernel) (by decide +kernel)⟩

end BleMeshTracking.Ota

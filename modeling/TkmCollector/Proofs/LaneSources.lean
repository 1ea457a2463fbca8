import Mathlib.Data.List.Forall2
import TkmCollector.Proofs.LaneTimers

namespace TkmCollector.Proofs

open MonitorDevice

/-- The request that fetches the data of a source. The collector has none for `SysProcVMStat`. -/
def Fetches : CollectorRequestType → Monitor.DataSourceType → Prop
  | .getProcInfo, source => source = .procInfo
  | .getProcAcct, source => source = .procAcct
  | .getProcEventStats, source => source = .procEvent
  | .getContextInfo, source => source = .contextInfo
  | .getSysProcStat, source => source = .sysProcStat
  | .getSysProcBuddyInfo, source => source = .sysProcBuddyInfo
  | .getSysProcWireless, source => source = .sysProcWireless
  | .getSysProcMemInfo, source => source = .sysProcMemInfo
  | .getSysProcPressure, source => source = .sysProcPressure
  | .getSysProcDiskStats, source => source = .sysProcDiskStats
  | .createSession, _ => False

/-- The sources that a session lists for a lane. -/
def laneSources (info : Monitor.SessionInfo) : UpdateLane → List Monitor.DataSourceType
  | .fast => info.fastLaneSources
  | .pace => info.paceLaneSources
  | .slow => info.slowLaneSources
  | .any => []

/-- A tick of the timer that the lane has got asks for the sources of the lane, one request for
each of them and in their order. -/
def LaneFaithful (d : MonitorDevice) (lane : UpdateLane) : Prop :=
  ∀ timer, d.startUpdateLanes.laneTimer lane = some timer →
    ∃ o, d.startUpdateLanes.step (.timer timer) = .ok o ∧
      List.Forall₂ (fun rq source => Fetches rq.type source) o.monitor (laneSources d.sessionInfo lane)

/-- The lane lists none but the ten sources of the switch, and there is a connection to ask. -/
def LaneCovered (d : MonitorDevice) (lane : UpdateLane) : Prop :=
  (∀ source ∈ laneSources d.sessionInfo lane, source ≠ .sysProcVMStat ∧ ∀ v, source ≠ .other v) ∧
    (laneSources d.sessionInfo lane = [] ∨ d.connection ≠ none)

section Lanes

variable {d : MonitorDevice} {lane lane' : UpdateLane} {source : Monitor.DataSourceType}

lemma updateLaneSource_lane {entry : DataSource} (h : updateLaneSource lane source = some entry) :
    entry.lane = lane := by
  cases source <;> simp [updateLaneSource] at h <;> rw [← h]

lemma updateLaneSource_fetches {entry : DataSource} (h : updateLaneSource lane source = some entry) :
    Fetches entry.callback.type source := by
  cases source <;> simp [updateLaneSource] at h <;> rw [← h] <;> rfl

lemma exists_updateLaneSource (h : source ≠ .sysProcVMStat ∧ ∀ v, source ≠ .other v) :
    ∃ entry, updateLaneSource lane source = some entry := by
  cases source with
  | sysProcVMStat => exact absurd rfl h.1
  | other v => exact absurd rfl (h.2 v)
  | _ => exact ⟨_, rfl⟩

lemma filter_lane (sources : List Monitor.DataSourceType) (hlane' : lane' ≠ .any) :
    (sources.filterMap (updateLaneSource lane')).filter
        (fun entry => entry.lane = lane ∨ entry.lane = .any) =
      if lane' = lane then sources.filterMap (updateLaneSource lane') else [] := by
  have hall : ∀ entry ∈ sources.filterMap (updateLaneSource lane'), entry.lane = lane' := by
    intro entry hentry
    obtain ⟨source, -, hsource⟩ := List.mem_filterMap.mp hentry
    exact updateLaneSource_lane hsource
  by_cases hsame : lane' = lane
  · rw [if_pos hsame]
    apply List.filter_eq_self.mpr
    intro entry hentry
    simp [hall entry hentry, hsame]
  · rw [if_neg hsame]
    apply List.filter_eq_nil_iff.mpr
    intro entry hentry
    simp [hall entry hentry, hsame, hlane']

lemma due_startUpdateLanes (hlane : lane ≠ .any) :
    d.startUpdateLanes.dataSources.filter (fun entry => entry.lane = lane ∨ entry.lane = .any) =
      (laneSources d.sessionInfo lane).filterMap (updateLaneSource lane) := by
  change (_ ++ _ ++ _ : List DataSource).filter _ = _
  rw [List.filter_append, List.filter_append, filter_lane _ (by simp), filter_lane _ (by simp),
    filter_lane _ (by simp)]
  cases lane with
  | fast => simp [laneSources]
  | pace => simp [laneSources]
  | slow => simp [laneSources]
  | any => exact absurd rfl hlane

lemma startUpdateLanes_timer {timer : Timer} (h : d.startUpdateLanes.laneTimer lane = some timer) :
    timer ∈ d.startUpdateLanes.loop.timers ∧ timer.lane = lane ∧ lane ≠ .any := by
  cases lane with
  | any => simp [laneTimer] at h
  | _ =>
    rw [← Option.some.inj h]
    simp [startUpdateLanes]

/-- Requests that match the sources one by one are those of entries that are there for all. -/
lemma forall₂_fetches_iff (lane : UpdateLane) (sources : List Monitor.DataSourceType) :
    List.Forall₂ (fun rq source => Fetches rq.type source)
        ((sources.filterMap (updateLaneSource lane)).map (·.callback)) sources ↔
      ∀ source ∈ sources, source ≠ .sysProcVMStat ∧ ∀ v, source ≠ .other v := by
  constructor
  · intro h source hsource
    have hlength := h.length_eq
    rw [List.length_map] at hlength
    have hsome := List.filterMap_length_eq_length.mp hlength source hsource
    cases source with
    | sysProcVMStat => cases hsome
    | other v => cases hsome
    | _ => simp
  · intro h
    induction sources with
    | nil => exact .nil
    | cons source sources ih =>
      obtain ⟨entry, hentry⟩ := exists_updateLaneSource (h source (.head sources))
      rw [List.filterMap_cons_some hentry]
      exact .cons (updateLaneSource_fetches hentry) (ih fun other hother => h other (.tail source hother))

lemma tick_startUpdateLanes {timer : Timer} (h : d.startUpdateLanes.laneTimer lane = some timer) :
    d.startUpdateLanes.step (.timer timer) =
      if (laneSources d.sessionInfo lane).filterMap (updateLaneSource lane) = [] then
        .ok ⟨d.startUpdateLanes, [], [], [], true⟩
      else match d.connection with
        | none => .error .nullConnection
        | some _ => .ok ⟨d.startUpdateLanes, [], [],
            ((laneSources d.sessionInfo lane).filterMap (updateLaneSource lane)).map (·.callback), true⟩ := by
  obtain ⟨hmem, rfl, hlane⟩ := startUpdateLanes_timer h
  rw [step, if_pos hmem]
  unfold update
  rw [due_startUpdateLanes hlane]
  rfl

end Lanes

/-- After `startUpdateLanes`, whatever sources were there before, the tick of a lane asks for the
sources of the lane exactly when none of them is missing in the switch. -/
theorem lane_faithful (d : MonitorDevice) (lane : UpdateLane) : LaneFaithful d lane ↔ LaneCovered d lane := by
  constructor
  · intro h
    cases htimer : d.startUpdateLanes.laneTimer lane with
    | none =>
      have hany : lane = .any := by
        cases lane with
        | any => rfl
        | _ => cases htimer
      rw [hany]
      exact ⟨by simp [laneSources], .inl rfl⟩
    | some timer =>
      obtain ⟨o, ho, hsent⟩ := h timer htimer
      rw [tick_startUpdateLanes htimer] at ho
      by_cases hnone : (laneSources d.sessionInfo lane).filterMap (updateLaneSource lane) = []
      · rw [if_pos hnone, Except.ok.injEq] at ho
        rw [← ho] at hsent
        have hempty : laneSources d.sessionInfo lane = [] := List.forall₂_nil_left_iff.mp hsent
        unfold LaneCovered
        rw [hempty]
        exact ⟨by simp, .inl rfl⟩
      · rw [if_neg hnone] at ho
        cases hconnection : d.connection with
        | none => simp [hconnection] at ho
        | some c =>
          simp only [hconnection, Except.ok.injEq] at ho
          rw [← ho] at hsent
          exact ⟨(forall₂_fetches_iff lane _).mp hsent, .inr (by simp [hconnection])⟩
  · rintro ⟨hcovered, hconnection⟩ timer htimer
    have hsent := (forall₂_fetches_iff lane _).mpr hcovered
    rw [tick_startUpdateLanes htimer]
    by_cases hnone : (laneSources d.sessionInfo lane).filterMap (updateLaneSource lane) = []
    · rw [hnone] at hsent
      rw [if_pos hnone]
      exact ⟨_, rfl, hsent⟩
    · rw [if_neg hnone]
      have hsources : laneSources d.sessionInfo lane ≠ [] := by
        intro hempty
        rw [hempty] at hnone
        exact hnone rfl
      obtain ⟨c, hc⟩ := Option.ne_none_iff_exists'.mp (hconnection.resolve_left hsources)
      rw [hc]
      exact ⟨_, rfl, hsent⟩

/-- A device whose session lists sources for its fast lane. -/
def fastLaneOf (sources : List Monitor.DataSourceType) : MonitorDevice :=
  { loaded default with
    connection := some ⟨0⟩
    sessionInfo := { (default : Monitor.SessionInfo) with fastLaneSources := sources } }

/-- A source that the database can store and that no lane asks for. -/
theorem lane_without_vmStat : ¬ LaneFaithful (fastLaneOf [.sysProcVMStat]) .fast := by
  intro h
  obtain ⟨o, ho, hsent⟩ := h ⟨0, .fast, 0⟩ rfl
  have hnone : o.monitor = [] := by
    rw [← Except.ok.inj ho]
  rw [hnone] at hsent
  cases hsent

end TkmCollector.Proofs

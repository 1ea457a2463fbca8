import TkmCollector.Collector
import TkmCollector.Dispatcher

namespace TkmCollector.Proofs

open Dispatcher

/-- What the database is asked for by a request, if it is handed on to the database. -/
def databaseAction : Dispatcher.Action → Option Collector.ClientAction
  | .initDatabase => some .initDatabase
  | .getDevices => some .getDevices
  | .getSessions => some .getSessions
  | .removeSession => some .remSession
  | .addDevice => some .addDevice
  | .removeDevice => some .removeDevice
  | .connectDevice | .disconnectDevice | .startCollecting | .stopCollecting | .quitCollector
  | .sendStatus | .quit => none

/-- What a device is asked for by a request, if it is handed on to a device. -/
def deviceAction : Dispatcher.Action → Option IDevice.Action
  | .connectDevice => some .connect
  | .disconnectDevice => some .disconnect
  | .startCollecting => some .startCollecting
  | .stopCollecting => some .stopCollecting
  | .initDatabase | .getDevices | .getSessions | .removeSession | .addDevice | .removeDevice
  | .quitCollector | .sendStatus | .quit => none

lemma databaseAction_of_device {action : Dispatcher.Action} {action' : IDevice.Action}
    (h : deviceAction action = some action') : databaseAction action = none := by
  cases action with
  | connectDevice | disconnectDevice | startCollecting | stopCollecting => rfl
  | _ => cases h

/-- What the database gets with a request. -/
def databaseBulk (rq : Dispatcher.Request) : BulkData :=
  match rq.action with
  | .initDatabase | .getDevices => .int 0
  | _ => rq.bulkData

/-- The status for the client of a request for a device that is not known. -/
def noSuchDevice (client : Option ClientId) : Dispatcher.Request :=
  ⟨client, .sendStatus,
    (Args.emplace [] .status (valFor .statusError)).emplace .reason "No such device", .int 0⟩

/-- The message that a status is sent in. -/
def statusMessage (rq : Dispatcher.Request) (status : String) : Control.Message :=
  .status {
    requestId := (rq.args.lookup .requestId).getD ""
    what := whatFor status
    reason := (rq.args.lookup .reason).getD "" }

/-- The ways in which a handler deals with a request. -/
inductive Dispatched (known : String → Bool) (rq : Dispatcher.Request) :
    Dispatcher.Outcome → Prop where
  | database (action : Collector.ClientAction) (ha : databaseAction rq.action = some action) :
      Dispatched known rq (toDatabase rq action.toAction (databaseBulk rq))
  | device (action : IDevice.Action) (deviceData : Control.DeviceData)
      (ha : deviceAction rq.action = some action)
      (hb : rq.bulkData.castDeviceData = .ok deviceData) (hknown : known deviceData.hash = true) :
      Dispatched known rq
        ⟨[], [], some (deviceData.hash, ⟨rq.client, action, rq.args, rq.bulkData⟩), none⟩
  | unknown (action : IDevice.Action) (deviceData : Control.DeviceData)
      (ha : deviceAction rq.action = some action)
      (hb : rq.bulkData.castDeviceData = .ok deviceData) (hknown : known deviceData.hash = false) :
      Dispatched known rq ⟨[noSuchDevice rq.client], [], none, none⟩
  | quitting (ha : rq.action = .quitCollector) : Dispatched known rq doQuitCollector
  | unheard (ha : rq.action = .sendStatus) (hc : rq.client = none) :
      Dispatched known rq ⟨[], [], none, none⟩
  | answered (client : ClientId) (status : String) (ha : rq.action = .sendStatus)
      (hc : rq.client = some client) (hs : rq.args.lookup .status = some status) :
      Dispatched known rq ⟨[], [], none, some (client, statusMessage rq status)⟩

section Handlers

variable {known : String → Bool} {rq : Dispatcher.Request} {o : Dispatcher.Outcome}

lemma toDevice_dispatched {action : IDevice.Action} (ha : deviceAction rq.action = some action)
    (h : toDevice known rq action = .ok o) : Dispatched known rq o := by
  unfold toDevice at h
  cases hb : rq.bulkData.castDeviceData with
  | error fault => simp [hb] at h
  | ok deviceData =>
    cases hknown : known deviceData.hash with
    | true =>
      simp only [hb, hknown, if_true, Except.ok.injEq] at h
      rw [← h]
      exact .device action deviceData ha hb hknown
    | false =>
      simp only [hb, hknown, Bool.false_eq_true, if_false, Except.ok.injEq] at h
      rw [← h]
      exact .unknown action deviceData ha hb hknown

lemma doSendStatus_dispatched (ha : rq.action = .sendStatus) (h : doSendStatus rq = .ok o) :
    Dispatched known rq o := by
  unfold doSendStatus Args.atKey at h
  cases hc : rq.client with
  | none =>
    simp only [hc, Except.ok.injEq] at h
    rw [← h]
    exact .unheard ha hc
  | some client =>
    cases hs : rq.args.lookup .status with
    | none => simp [hc, hs] at h
    | some status =>
      simp only [hc, hs, Except.ok.injEq] at h
      rw [← h]
      exact .answered client status ha hc hs

/-- A handler that returns deals with its request in one of these ways. -/
theorem requestHandler_dispatched (h : requestHandler known rq = .ok o) : Dispatched known rq o := by
  unfold requestHandler at h
  have hdatabase := @Dispatched.database known rq
  unfold databaseBulk at hdatabase
  cases ha : rq.action with
  | initDatabase | getDevices | getSessions | removeSession | addDevice | removeDevice =>
    simp only [ha, Except.ok.injEq] at h hdatabase
    rw [← h]
    exact hdatabase _ rfl
  | connectDevice | disconnectDevice | startCollecting | stopCollecting =>
    simp only [ha] at h
    exact toDevice_dispatched (by rw [ha]; rfl) h
  | quitCollector =>
    simp only [ha, Except.ok.injEq] at h
    rw [← h]
    exact .quitting ha
  | sendStatus =>
    simp only [ha] at h
    exact doSendStatus_dispatched ha h
  | quit => simp [ha, doQuit] at h

end Handlers

end TkmCollector.Proofs

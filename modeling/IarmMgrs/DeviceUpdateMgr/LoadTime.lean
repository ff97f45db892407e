import IarmMgrs.DeviceUpdateMgr.Config
import IarmMgrs.DeviceUpdateMgr.Sessions

/-! The `timeToLoad` of `sendLoadInit`, in the arithmetic of the source: an `int` is computed and
stored as an `unsigned int`. -/

namespace IarmMgrs.DeviceUpdateMgr.LoadTime

open Lib.CInt
open Sessions (Configuration LoadInitiate sendLoadInit)
open Config (Globals)

/-- The globals, as far as the update sessions read them. -/
def sessionConfiguration (g : Globals) : Configuration where
  interactiveDownload := g.interactiveDownload
  interactiveLoad := g.interactiveLoad
  backgroundDownload := g.backgroundDownload
  requestedPercentIncrement := BitVec.ofInt 32 g.requestedPercentIncrement
  loadImageImmediately := g.loadImageImmediately
  loadDelayType := BitVec.ofInt 32 g.loadDelayType
  loadTimeAfterInactive := BitVec.ofInt 32 g.loadTimeAfterInactive
  loadBeforeHour := BitVec.ofInt 32 g.loadBeforeHour

structure Hour where
  hour : BitVec 32
  nonneg : 0 ≤ hour.toInt
  lt : hour.toInt < 24

/-- The `int` that is stored in `timeToLoad`.  The difference is logged in any case. -/
def secondsToLoad (loadBeforeHour hour : Int) : Option Int :=
  (sub loadBeforeHour hour).bind fun diff =>
    if hour < loadBeforeHour then some 0
    else
      (add 24 diff).bind fun hours =>
        (mul hours 60).bind fun minutes => mul minutes 60

/-- The broadcast's `timeToLoad` is the number of seconds that has been computed, at most a day. -/
structure LoadsInTime (cfg : Configuration) (now : Hour) (id : BitVec 32) (seconds : Int)
    (eventData : LoadInitiate) : Prop where
  broadcast : sendLoadInit cfg now.hour id = .loadInitiate eventData
  computed : secondsToLoad cfg.loadBeforeHour.toInt now.hour.toInt = some seconds
  kept : (eventData.timeToLoad.toNat : Int) = seconds
  day : eventData.timeToLoad.toNat = 0 ∨
    0 < eventData.timeToLoad.toNat ∧ eventData.timeToLoad.toNat ≤ 86400

end IarmMgrs.DeviceUpdateMgr.LoadTime

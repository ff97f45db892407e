import IarmMgrs.DeviceUpdateMgr.LoadTime

namespace IarmMgrs.DeviceUpdateMgr.LoadTime

open Lib.CInt Lib.CString
open JsonParser (parse)
open Config (Globals)
open Sessions (Configuration LoadInitiate sendLoadInit)

variable {cfg : Configuration} {now : Hour} {id : BitVec 32} {seconds : Int}
  {eventData : LoadInitiate} {loadBeforeHour hour : Int}

theorem secondsToLoad_some (h : secondsToLoad loadBeforeHour hour = some seconds) :
    InRange seconds ∧
      seconds = if hour < loadBeforeHour then 0 else (24 + (loadBeforeHour - hour)) * 60 * 60 := by
  obtain ⟨diff, hdiff, h⟩ := Option.bind_eq_some_iff.mp h
  obtain ⟨-, rfl⟩ := checked_eq_some_iff.mp hdiff
  split_ifs at h with hlt
  · obtain rfl := Option.some.inj h
    exact ⟨by decide, (if_pos hlt).symm⟩
  · obtain ⟨hours, hadd, h⟩ := Option.bind_eq_some_iff.mp h
    obtain ⟨-, rfl⟩ := checked_eq_some_iff.mp hadd
    obtain ⟨minutes, hmul, h⟩ := Option.bind_eq_some_iff.mp h
    obtain ⟨-, rfl⟩ := checked_eq_some_iff.mp hmul
    obtain ⟨hrange, rfl⟩ := checked_eq_some_iff.mp h
    exact ⟨hrange, (if_neg hlt).symm⟩

theorem secondsToLoad_defined (hpos : 0 ≤ hour) (hlt : hour < 24) (hto : loadBeforeHour ≤ intMax)
    (h : hour ≤ loadBeforeHour + 24) :
    ∃ seconds, secondsToLoad loadBeforeHour hour = some seconds := by
  have hmax : intMax = 2147483647 := rfl
  have hmin : intMin = -2147483648 := rfl
  have hsub : sub loadBeforeHour hour = some (loadBeforeHour - hour) :=
    checked_of_inRange ⟨by omega, by omega⟩
  rw [secondsToLoad, hsub, Option.bind_some]
  split
  · exact ⟨0, rfl⟩
  · have hadd : add 24 (loadBeforeHour - hour) = some (24 + (loadBeforeHour - hour)) :=
      checked_of_inRange ⟨by omega, by omega⟩
    have hminutes : mul (24 + (loadBeforeHour - hour)) 60 =
        some ((24 + (loadBeforeHour - hour)) * 60) := checked_of_inRange ⟨by omega, by omega⟩
    rw [hadd, Option.bind_some, hminutes, Option.bind_some]
    exact ⟨_, checked_of_inRange ⟨by omega, by omega⟩⟩

theorem sendLoadInit_timeToLoad (hsend : sendLoadInit cfg now.hour id = .loadInitiate eventData)
    (h : secondsToLoad cfg.loadBeforeHour.toInt now.hour.toInt = some seconds) :
    eventData.timeToLoad.toNat = toUnsigned seconds := by
  obtain rfl := Sessions.Broadcast.loadInitiate.inj hsend
  obtain ⟨-, rfl⟩ := secondsToLoad_some h
  simp only
  split
  · rfl
  · have hword : BitVec.ofInt 32
        ((24 + (cfg.loadBeforeHour.toInt - now.hour.toInt)) * 60 * 60) =
        (24 + (cfg.loadBeforeHour - now.hour)) * 60 * 60 := by
      rw [BitVec.ofInt_mul, BitVec.ofInt_mul, BitVec.ofInt_add, Int.sub_eq_add_neg,
        BitVec.ofInt_add, BitVec.ofInt_neg, BitVec.ofInt_toInt, BitVec.ofInt_toInt,
        ← BitVec.sub_eq_add_neg]
      rfl
    rw [← hword, BitVec.toNat_ofInt]
    rfl

/-- The load is timed as it should be exactly if the hour to load is at most a day back. -/
theorem loadsInTime_iff (cfg : Configuration) (now : Hour) (id : BitVec 32) :
    (∃ seconds eventData, LoadsInTime cfg now id seconds eventData) ↔
      now.hour.toInt ≤ cfg.loadBeforeHour.toInt + 24 := by
  have hpos := now.nonneg
  have hlt := now.lt
  constructor
  · rintro ⟨seconds, eventData, hload⟩
    obtain ⟨-, hseconds⟩ := secondsToLoad_some hload.computed
    have hkept := hload.kept
    split_ifs at hseconds with hbefore
    · omega
    · omega
  · intro hle
    have hmax : cfg.loadBeforeHour.toInt ≤ intMax := by
      have hbound := BitVec.toInt_lt (x := cfg.loadBeforeHour)
      simp only [intMax]
      omega
    obtain ⟨seconds, hsome⟩ := secondsToLoad_defined hpos hlt hmax hle
    obtain ⟨hrange, hseconds⟩ := secondsToLoad_some hsome
    have hbounds : 0 ≤ seconds ∧ seconds ≤ 86400 := by
      split_ifs at hseconds with hbefore
      · omega
      · omega
    have hsend : sendLoadInit cfg now.hour id = .loadInitiate _ := rfl
    have htime := sendLoadInit_timeToLoad hsend hsome
    have hkept := (toUnsigned_eq_iff hrange).mpr hbounds.1
    rw [← htime] at hkept
    exact ⟨seconds, _, rfl, hsome, hkept, by omega⟩

def Hour.eleven : Hour := ⟨23, by decide, by decide⟩

def negativeHour : Globals :=
  Config.loadConfig (parse [(lit "loadBeforeHour", .string (lit "-2"))]).dict .default

theorem negativeHour_wraps :
    ¬ ∃ seconds eventData,
      LoadsInTime (sessionConfiguration negativeHour) .eleven 1 seconds eventData := by
  rintro ⟨seconds, eventData, hload⟩
  obtain rfl := Sessions.Broadcast.loadInitiate.inj hload.broadcast
  exact absurd hload.day (by decide)

end IarmMgrs.DeviceUpdateMgr.LoadTime

import IarmMgrs.DeviceUpdateMgr.ConfigFile
import IarmMgrs.DeviceUpdateMgr.JsonParserLaws
import Mathlib.Data.List.TakeWhile

namespace IarmMgrs.DeviceUpdateMgr.ConfigFile

open Lib Lib.CString Lib.CInt Lib.Decimal
open Config (Globals foldersToWatch)
open EventData (atoi)
open JsonParser (VarVal Parser Callback Json Object lastValue parse Entry parse_entries)

theorem takeWhile_digits {digits : List UInt8} (h : ∀ c ∈ digits, IsDigit c) :
    digits.takeWhile (fun c => decide (48 ≤ c ∧ c ≤ 57)) = digits :=
  List.takeWhile_eq_self_iff.mpr fun c hc => decide_eq_true (h c hc)

theorem IsDigit.plain {c : UInt8} (h : IsDigit c) :
    ¬ (c = 32 ∨ 9 ≤ c ∧ c ≤ 13) ∧ c ≠ 45 ∧ c ≠ 43 := by
  simp only [IsDigit, UInt8.le_iff_toNat_le, ← UInt8.toNat_inj, ne_eq] at h ⊢
  change 48 ≤ c.toNat ∧ c.toNat ≤ 57 at h
  change ¬ (c.toNat = 32 ∨ 9 ≤ c.toNat ∧ c.toNat ≤ 13) ∧ ¬ c.toNat = 45 ∧ ¬ c.toNat = 43
  omega

theorem atoi_digits {digits : List UInt8} (h : ∀ c ∈ digits, IsDigit c) (hne : digits ≠ []) :
    atoi digits = Int.bmod (min (2 ^ 63 - 1) (value digits)) (2 ^ 32) := by
  cases digits with
  | nil => exact absurd rfl hne
  | cons c cs =>
    obtain ⟨hspace, hminus, hplus⟩ := IsDigit.plain (h c List.mem_cons_self)
    unfold atoi
    rw [List.dropWhile_cons_of_neg (by simpa using hspace)]
    dsimp only
    split
    · next heq => exact absurd (List.cons.inj heq).1 hminus
    · next heq => exact absurd (List.cons.inj heq).1 hplus
    · rw [takeWhile_digits h]
      rfl

theorem atoi_negative {digits : List UInt8} (h : ∀ c ∈ digits, IsDigit c) :
    atoi (45 :: digits) = Int.bmod (max (-2 ^ 63) (-(value digits : Int))) (2 ^ 32) := by
  unfold atoi
  rw [List.dropWhile_cons_of_neg (by decide)]
  simp only [takeWhile_digits h, if_true]
  rfl

theorem atoi_intText {n : Int} (h : InRange n) : atoi (intText n) = n := by
  obtain ⟨hlo, hhi⟩ := h
  simp only [intMin, intMax] at hlo hhi
  have hself : Int.bmod n (2 ^ 32) = n := Int.bmod_eq_of_le_mul_two (by omega) (by omega)
  rw [intText]
  split
  · rw [atoi_negative (natText_digits _), value_natText]
    rwa [show max (-2 ^ 63) (-(n.natAbs : Int)) = n by omega]
  · rw [atoi_digits (natText_digits _) (natText_ne_nil _), value_natText]
    rwa [show min (2 ^ 63 - 1) (n.natAbs : Int) = n by omega]

theorem readConfData_done (confData : List UInt8) : readConfData confData [] = confData := by
  rw [readConfData, if_neg fun h => h.2 rfl]

theorem readConfData_eq (confData rest : List UInt8) (k : Nat)
    (hlow : confData.length + chunkSize * k < enough + chunkSize)
    (henough : enough ≤ confData.length + chunkSize * k) :
    readConfData confData rest = confData ++ rest.take (chunkSize * k) := by
  induction k generalizing confData rest with
  | zero =>
    rw [readConfData, if_neg fun h => Nat.not_lt.mpr henough h.1, Nat.mul_zero, List.take_zero,
      List.append_nil]
  | succ k ih =>
    rw [Nat.mul_succ] at hlow henough
    rw [Nat.mul_succ, Nat.add_comm, List.take_add, ← List.append_assoc]
    by_cases hrest : rest = []
    · subst hrest
      simp [readConfData_done]
    · have hmore : confData.length < enough := by omega
      rw [readConfData, if_pos ⟨hmore, hrest⟩]
      by_cases hlen : chunkSize ≤ rest.length
      · have htake : (confData ++ rest.take chunkSize).length = confData.length + chunkSize := by
          rw [List.length_append, List.length_take_of_le hlen]
        exact ih _ _ (by omega) (by omega)
      · -- a short read is the last one
        have hdrop : rest.drop chunkSize = [] := List.drop_of_length_le (by omega)
        rw [hdrop, readConfData_done, List.take_nil, List.append_nil]

theorem readConfData_nil (bytes : List UInt8) : readConfData [] bytes = bytes.take readable := by
  rw [readConfData_eq [] bytes 33 (by decide) (by decide), List.nil_append, Nat.mul_comm]
  rfl

theorem Entry.reads {lists : Heap (List VarVal)} {lo hi : Addr} {j : Json} {vv : VarVal}
    (h : Entry lists lo hi j vv) : vv.str = textOf j ∧ vv.boolean = flagOf j := by
  unfold Entry at h
  split at h
  · next hnull =>
    subst h
    cases j with
    | array elements => exact ⟨rfl, rfl⟩
    | _ => cases hnull
  · cases j with
    | null =>
      obtain rfl := h
      exact ⟨rfl, rfl⟩
    | boolean value =>
      obtain rfl := h
      exact ⟨rfl, rfl⟩
    | number text =>
      obtain rfl := h
      exact ⟨rfl, rfl⟩
    | string text =>
      obtain rfl := h
      by_cases htext : text = lit "true" ∨ text = lit "false"
      · simp [textOf, flagOf, htext, VarVal.new]
      · obtain ⟨htrue, hfalse⟩ := not_or.mp htext
        simp [textOf, flagOf, htrue, hfalse, VarVal.new]
    | array elements =>
      obtain ⟨a, vvs, rfl, -⟩ := h
      exact ⟨rfl, rfl⟩

theorem dict_parse (o : Object) (key : List UInt8) :
    ((parse o).dict key).map VarVal.str = (lastValue o key).map textOf ∧
      ((parse o).dict key).map VarVal.boolean = (lastValue o key).map flagOf := by
  have hentries := parse_entries o
  cases hlast : lastValue o key with
  | none => simp [hentries.missing key hlast]
  | some j =>
    obtain ⟨vv, hvv, hentry⟩ := hentries.last key j hlast
    obtain ⟨hstr, hboolean⟩ := Entry.reads hentry
    simp [hvv, hstr, hboolean]

theorem loadConfig_parse (o : Object) (g : Globals) :
    Config.loadConfig (parse o).dict g = settings o g := by
  have hint : ∀ key : List UInt8, ((parse o).dict key).map (fun vv => atoi (cstr 0 vv.str)) =
      (lastValue o key).map fun j => atoi (cstr 0 (textOf j)) := by
    intro key
    have hstr := congrArg (Option.map fun text => atoi (cstr 0 text)) (dict_parse o key).1
    rw [Option.map_map, Option.map_map] at hstr
    exact hstr
  simp only [Config.loadConfig, settings, Config.stringOf, Config.booleanOf, Config.intOf,
    (dict_parse o _).1, (dict_parse o _).2, hint]

variable {yajl : List UInt8 → List Callback} {fs : FileSystem} {filePath : Path}
  {bytes : List UInt8} {o : Object}

theorem loadConfig_document (s : State) (hfile : candidates.find? fs.fileExists = some filePath)
    (hcontents : fs.contents filePath = some bytes)
    (hyajl : yajl (cstr 0 (bytes.take readable)) = o.callbacks) :
    loadConfig yajl fs s =
      (⟨parse o, Config.loadConfig (parse o).dict s.globals⟩, true) := by
  have hparse : parseText yajl (readConfData [] bytes) = parse o := by
    rw [readConfData_nil, parseText, hyajl, parse]
  simp only [loadConfig, hfile, hcontents, hparse]

/-- Whatever object of scalars and arrays yajl finds in what is read of the first file there is,
each global gets what the last value of its key says, which may be nothing, and keeps its value
without one. -/
theorem loadConfig_settings (s : State) (hfile : candidates.find? fs.fileExists = some filePath)
    (hcontents : fs.contents filePath = some bytes)
    (hyajl : yajl (cstr 0 (bytes.take readable)) = o.callbacks) :
    loadConfig yajl fs s = (⟨parse o, settings o s.globals⟩, true) := by
  rw [loadConfig_document s hfile hcontents hyajl, loadConfig_parse]

def wrongTypes : List UInt8 :=
  lit "\x7b\"loadBeforeHour\":7,\"backgroundDownload\":5,\"loadBeforeHour\":true\x7d"

def wrongTypesObject : Object :=
  [(lit "loadBeforeHour", .number (lit "7")), (lit "backgroundDownload", .number (lit "5")),
    (lit "loadBeforeHour", .boolean true)]

theorem loadConfig_settings_wrongTypes :
    (loadConfig (fun text => if text = wrongTypes then wrongTypesObject.callbacks else [])
        ⟨fun _ => true, fun _ => some wrongTypes⟩ .init).1.globals =
      { Globals.default with backgroundDownload := false, loadBeforeHour := 0 } := by
  rw [loadConfig_settings (o := wrongTypesObject) .init rfl rfl (if_pos (by decide))]
  decide

section Written

theorem SpellsText.reads {text : List UInt8} {j : Json} (h : SpellsText text j) :
    textOf j = text := by
  obtain ⟨rfl, htrue, hfalse⟩ := h
  simp [textOf, htrue, hfalse]

theorem SpellsFlag.reads {value : Bool} {j : Json} (h : SpellsFlag value j) :
    flagOf j = value := by
  obtain rfl | rfl := h
  · rfl
  · cases value <;> rfl

theorem intText_plain (n : Int) : 0 ∉ intText n ∧ IsText (intText n) := by
  have hforeign : ∀ c, ¬ (c = 45 ∨ IsDigit c) → ∀ text, c ∈ text → intText n ≠ text := by
    rintro c hc text hmem rfl
    exact hc (intText_chars n c hmem)
  exact ⟨fun hnul => absurd (intText_chars n 0 hnul) (by decide),
    hforeign 116 (by decide) _ (by decide), hforeign 102 (by decide) _ (by decide)⟩

theorem SpellsInt.reads {n : Int} {j : Json} (h : SpellsInt n j) :
    atoi (cstr 0 (textOf j)) = n := by
  obtain ⟨hrange, hj⟩ := h
  obtain ⟨hnul, htrue, hfalse⟩ := intText_plain n
  have htext : textOf j = intText n := by
    obtain rfl | rfl := hj
    · rfl
    · simp [textOf, htrue, hfalse]
  rw [htext, cstr_eq_self 0 hnul, atoi_intText hrange]

variable {g : Globals} {folders : List (List UInt8)} {key : String}

theorem Has.text {text : List UInt8} (h : Has o key (SpellsText text)) (old : List UInt8) :
    ((lastValue o (lit key)).map textOf).getD old = text := by
  obtain ⟨j, hlast, hj⟩ := h
  rw [hlast]
  exact hj.reads

theorem Has.flag {value : Bool} (h : Has o key (SpellsFlag value)) (old : Bool) :
    ((lastValue o (lit key)).map flagOf).getD old = value := by
  obtain ⟨j, hlast, hj⟩ := h
  rw [hlast]
  exact hj.reads

theorem Has.int {n : Int} (h : Has o key (SpellsInt n)) (old : Int) :
    ((lastValue o (lit key)).map fun j => atoi (cstr 0 (textOf j))).getD old = n := by
  obtain ⟨j, hlast, hj⟩ := h
  rw [hlast]
  exact hj.reads

theorem Writes.settings (h : Writes g folders o) (old : Globals) : settings o old = g := by
  simp only [ConfigFile.settings, h.serverUpdatePath.text, h.tempFilePath.text, h.forceUpdate.flag,
    h.interactiveDownload.flag, h.interactiveLoad.flag, h.loadDelayType.int,
    h.loadTimeAfterInactive.int, h.timeToLoad.int, h.backgroundDownload.flag,
    h.loadImageImmediately.flag, h.loadBeforeHour.int, h.requestedPercentIncrement.int,
    h.recheckForUpdatesMin.int, h.delayTillAnnounceTimeMin.int, h.oneAnnouncePerRun.flag]

theorem denotesAll_strings {lists : Heap (List VarVal)} {lo hi : Addr} {vvs : List VarVal}
    (htexts : ∀ folder ∈ folders, IsText folder)
    (h : JsonParser.DenotesAll lists lo hi (folders.map .string) vvs) :
    vvs.map VarVal.str = folders := by
  induction folders generalizing vvs with
  | nil =>
    obtain rfl := h
    rfl
  | cons folder folders ih =>
    obtain ⟨vv, rest, rfl, hvv, hrest⟩ := h
    obtain ⟨htrue, hfalse⟩ := htexts folder List.mem_cons_self
    obtain rfl := hvv
    rw [List.map_cons, ih (fun f hf => htexts f (List.mem_cons_of_mem folder hf)) hrest]
    simp [htrue, hfalse]

theorem anyNull_strings : JsonParser.anyNull (folders.map .string) = false := by
  induction folders with
  | nil => rfl
  | cons folder folders ih => simpa [JsonParser.anyNull, JsonParser.Json.hasNull] using ih

theorem Writes.watched (h : Writes g folders o) :
    (foldersToWatch (parse o)).map (·.map (·.map VarVal.str)) = some (some folders) := by
  obtain ⟨vv, hvv, hentry⟩ := (parse_entries o).last _ _ h.deviceFoldersToWatch
  rw [Entry, JsonParser.Json.nullInArray, anyNull_strings, if_neg Bool.false_ne_true] at hentry
  obtain ⟨a, vvs, rfl, -, -, hlist, hall⟩ := hentry
  simp [foldersToWatch, hvv, hlist, denotesAll_strings h.areTexts hall]

theorem reads_whole (hnul : 0 ∉ bytes) (hlength : bytes.length ≤ readable)
    (hyajl : yajl bytes = o.callbacks) : yajl (cstr 0 (bytes.take readable)) = o.callbacks := by
  rw [List.take_of_length_le hlength, cstr_eq_self 0 hnul, hyajl]

/-- A configuration that is written down in a text without terminators that is not too long is
loaded as it is, with the folders to watch, whatever the globals were before. -/
theorem loadConfig_roundTrip (s : State) (hfile : candidates.find? fs.fileExists = some filePath)
    (hcontents : fs.contents filePath = some bytes) (hnul : 0 ∉ bytes)
    (hlength : bytes.length ≤ readable) (hyajl : yajl bytes = o.callbacks)
    (hwrites : Writes g folders o) :
    (loadConfig yajl fs s).2 = true ∧ (loadConfig yajl fs s).1.globals = g ∧
      (foldersToWatch (loadConfig yajl fs s).1.configuration).map (·.map (·.map VarVal.str)) =
        some (some folders) := by
  rw [loadConfig_document s hfile hcontents (reads_whole hnul hlength hyajl), loadConfig_parse]
  exact ⟨rfl, hwrites.settings s.globals, hwrites.watched⟩

def sampleObject : Object :=
  [(lit "serverUpdatePath", .string (lit "/srv/device_update/")),
    (lit "tempFilePath", .string (lit "/tmp/devUpdate/")),
    (lit "forceUpdate", .boolean false), (lit "interactiveDownload", .boolean false),
    (lit "interactiveLoad", .boolean false), (lit "loadDelayType", .number (intText 0)),
    (lit "loadTimeAfterInactive", .number (intText 0)), (lit "timeToLoad", .number (intText 0)),
    (lit "backgroundDownload", .boolean true), (lit "loadImageImmediately", .boolean false),
    (lit "loadBeforeHour", .number (intText 4)),
    (lit "requestedPercentIncrement", .number (intText 10)),
    (lit "recheckForUpdatesMin", .number (intText 0)),
    (lit "delayTillAnnounceTimeMin", .number (intText 10)),
    (lit "oneAnnouncePerRun", .boolean false),
    (lit "deviceFoldersToWatch", .array [.string (lit "XR11v2"), .string (lit "XR15")])]

def sampleText : List UInt8 :=
  ["\x7b\"serverUpdatePath\":", "\"/srv/device_update/\",", "\"tempFilePath\":",
    "\"/tmp/devUpdate/\",", "\"forceUpdate\":", "false,", "\"interactiveDownload\":", "false,",
    "\"interactiveLoad\":", "false,", "\"loadDelayType\":0,", "\"loadTimeAfterInactive\":", "0,",
    "\"timeToLoad\":0,", "\"backgroundDownload\":", "true,", "\"loadImageImmediately\":",
    "false,", "\"loadBeforeHour\":4,", "\"requestedPercent", "Increment\":10,",
    "\"recheckForUpdatesMin\":", "0,", "\"delayTillAnnounce", "TimeMin\":10,",
    "\"oneAnnouncePerRun\":", "false,", "\"deviceFoldersTo", "Watch\":",
    "[\"XR11v2\",\"XR15\"]\x7d"].flatMap lit

theorem sampleObject_writes : Writes .default [lit "XR11v2", lit "XR15"] sampleObject := by
  refine ⟨⟨_, rfl, ?_⟩, ⟨_, rfl, ?_⟩, ⟨_, rfl, ?_⟩, ⟨_, rfl, ?_⟩, ⟨_, rfl, ?_⟩, ⟨_, rfl, ?_⟩,
    ⟨_, rfl, ?_⟩, ⟨_, rfl, ?_⟩, ⟨_, rfl, ?_⟩, ⟨_, rfl, ?_⟩, ⟨_, rfl, ?_⟩, ⟨_, rfl, ?_⟩,
    ⟨_, rfl, ?_⟩, ⟨_, rfl, ?_⟩, ⟨_, rfl, ?_⟩, rfl, by decide⟩
  all_goals
    first
      | exact ⟨rfl, by decide⟩
      | exact .inl rfl
      | exact ⟨by decide, .inl rfl⟩

def sampleFiles : FileSystem where
  fileExists path := path = confName
  contents path := if path = confName then some sampleText else none

def sampleYajl (text : List UInt8) : List Callback :=
  if text = sampleText then sampleObject.callbacks else []

theorem sampleFiles_found : candidates.find? sampleFiles.fileExists = some confName ∧
    sampleFiles.contents confName = some sampleText :=
  ⟨by decide, by simp [sampleFiles]⟩

theorem sampleText_read : sampleText.length ≤ readable ∧ 0 ∉ sampleText := by decide +kernel

theorem loadConfig_roundTrip_sample :
    (loadConfig sampleYajl sampleFiles .init).1.globals = .default :=
  (loadConfig_roundTrip .init sampleFiles_found.1 sampleFiles_found.2
    sampleText_read.2 sampleText_read.1
    (if_pos rfl) sampleObject_writes).2.1

end Written

end IarmMgrs.DeviceUpdateMgr.ConfigFile

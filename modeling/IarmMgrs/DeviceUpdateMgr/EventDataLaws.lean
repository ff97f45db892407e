import IarmMgrs.DeviceUpdateMgr.EventData
import IarmMgrs.MfrMgr.CryptoLaws

namespace IarmMgrs.DeviceUpdateMgr.EventData

open Lib.CString Lib.Search
open Packages (npos dot)
open MfrMgr.Crypto (toInt toSize toInt_le toInt_of_le)

variable {xml tag pre text post : List UInt8} {idx k n : Nat}

theorem lit_lt : lit "<" = [60] := by decide

theorem lit_lt_slash : lit "</" = [60, 47] := by decide

@[simp] theorem length_startTag (tag : List UInt8) : (startTag tag).length = tag.length + 1 := by
  simp [startTag, lit_lt]

@[simp] theorem length_endTag (tag : List UInt8) : (endTag tag).length = tag.length + 2 := by
  simp [endTag, lit_lt_slash]

theorem startTag_ne_nil (tag : List UInt8) : startTag tag ≠ [] := by
  simp [startTag, lit_lt]

theorem endTag_ne_nil (tag : List UInt8) : endTag tag ≠ [] := by
  simp [endTag, lit_lt_slash]

theorem getXMLTagText_of_none (h : ∀ k, ¬ At (startTag tag) xml k) :
    getXMLTagText xml tag = .ok [] := by
  rw [getXMLTagText, find_none_iff.mpr h]

theorem getXMLTagText_of_first (h : First (startTag tag) xml k) :
    getXMLTagText xml tag =
      substr xml (k + (tag.length + 2)) (spanCount xml tag (k + (tag.length + 2))) := by
  rw [getXMLTagText, find_some_iff.mpr h]

/-- The first start tag ends with the content, without its bracket. -/
def CutOff (xml tag : List UInt8) : Prop :=
  ∃ k, First (startTag tag) xml k ∧ k + (startTag tag).length = xml.length

theorem getXMLTagText_error_iff : getXMLTagText xml tag = .error ⟨⟩ ↔ CutOff xml tag := by
  cases hfind : find (startTag tag) xml with
  | none =>
    have hnone := find_none_iff.mp hfind
    rw [getXMLTagText_of_none hnone]
    refine iff_of_false (fun h => nomatch h) ?_
    rintro ⟨k, hfirst, -⟩
    exact hnone k hfirst.1
  | some k =>
    have hfirst := find_some_iff.mp hfind
    have hle := hfirst.1.le (startTag_ne_nil tag)
    have hcut : CutOff xml tag ↔ k + (startTag tag).length = xml.length := by
      constructor
      · rintro ⟨j, hj, hend⟩
        rwa [hfirst.unique hj]
      · exact fun hend => ⟨k, hfirst, hend⟩
    rw [getXMLTagText_of_first hfirst, hcut, substr_eq_error_iff]
    rw [length_startTag] at hle ⊢
    omega

/-- A text is extracted unless the content breaks off behind the name of the tag. -/
theorem getXMLTagText_returns_iff (xml tag : List UInt8) :
    (∃ text, getXMLTagText xml tag = .ok text) ↔ ¬ CutOff xml tag := by
  rw [← getXMLTagText_error_iff]
  cases getXMLTagText xml tag with
  | error => simp
  | ok text => simp

theorem getXMLTagText_throws : getXMLTagText (lit "<image:type") imageType = .error ⟨⟩ := rfl

theorem toInt_bounds (n : Nat) : -2 ^ 31 ≤ toInt n ∧ toInt n < 2 ^ 31 := by
  have hle := Int.le_bmod (x := n) (m := 2 ^ 32) (by decide)
  have hlt := Int.bmod_lt (x := n) (m := 2 ^ 32) (by decide)
  unfold toInt
  omega

theorem toInt_of_lt (h : n < 2 ^ 31) : toInt n = n := by
  have hmax : (n : Int) ≤ 2 ^ 31 - 1 := by omega
  exact toInt_of_le hmax

theorem spanCount_eq_iff (h : idx + n < 2 ^ 63) :
    spanCount xml tag idx = n ↔ toInt ((find (endTag tag) xml).getD npos) = idx + n := by
  have hbounds := toInt_bounds ((find (endTag tag) xml).getD npos)
  simp only [spanCount, toSize, Lib.CInt.sizeBits]
  omega

def document (pre tag text post : List UInt8) : List UInt8 :=
  (pre ++ (startTag tag ++ lit ">")) ++ (text ++ (endTag tag ++ (lit ">" ++ post)))

def textStart (pre tag : List UInt8) : Nat := pre.length + (tag.length + 2)

/-- The searches find the tags of the element, and its end fits an `int`. -/
def Found (pre tag text post : List UInt8) : Prop :=
  First (startTag tag) (document pre tag text post) pre.length ∧
    First (endTag tag) (document pre tag text post) (textStart pre tag + text.length) ∧
    textStart pre tag + text.length < 2 ^ 31

/-- The searches find other tags, and the same text between them. -/
def FoundElsewhere (pre tag text post : List UInt8) : Prop :=
  ∃ k e, k < pre.length ∧ First (startTag tag) (document pre tag text post) k ∧
    First (endTag tag) (document pre tag text post) e ∧
    text <+: (document pre tag text post).drop (k + (tag.length + 2)) ∧
    toInt e = (k + (tag.length + 2) : Nat) + text.length

theorem length_front (pre tag : List UInt8) :
    (pre ++ (startTag tag ++ lit ">")).length = textStart pre tag := by
  have hgt : (lit ">").length = 1 := by decide
  simp only [List.length_append, length_startTag, hgt, textStart]

theorem startTag_at (pre tag text post : List UInt8) :
    At (startTag tag) (document pre tag text post) pre.length := by
  rw [document, List.append_assoc, at_append, List.append_assoc]
  exact List.prefix_append _ _

theorem endTag_at (pre tag text post : List UInt8) :
    At (endTag tag) (document pre tag text post) (textStart pre tag + text.length) := by
  rw [document, ← List.append_assoc, ← length_front, ← List.length_append, at_append]
  exact List.prefix_append _ _

theorem drop_textStart (pre tag text post : List UInt8) :
    (document pre tag text post).drop (textStart pre tag) =
      text ++ (endTag tag ++ (lit ">" ++ post)) := by
  rw [document, ← length_front, List.drop_left]

theorem getXMLTagText_document_iff (hsize : (document pre tag text post).length < 2 ^ 63)
    {e : Nat} (hk : First (startTag tag) (document pre tag text post) k) (hpre : k ≤ pre.length)
    (he : First (endTag tag) (document pre tag text post) e) :
    getXMLTagText (document pre tag text post) tag = .ok text ↔
      text <+: (document pre tag text post).drop (k + (tag.length + 2)) ∧
        toInt e = (k + (tag.length + 2) : Nat) + text.length := by
  have hend := (endTag_at pre tag text post).le (endTag_ne_nil tag)
  rw [length_endTag] at hend
  have hstart : k + (tag.length + 2) ≤ textStart pre tag := Nat.add_le_add_right hpre _
  have hlt : text.length < ((document pre tag text post).drop (k + (tag.length + 2))).length := by
    rw [List.length_drop]
    omega
  rw [getXMLTagText_of_first hk, substr_eq_ok_iff, and_iff_right (by omega),
    take_eq_iff_of_lt hlt, spanCount_eq_iff (by omega), find_some_iff.mpr he]
  rfl

/-- The text of the element is extracted exactly if no longer start tag and no end tag comes
before its own ones, or the text stands behind them just the same; `hsize` is the size that a
`std::string` cannot exceed. -/
theorem getXMLTagText_exact_iff (pre tag text post : List UInt8)
    (hsize : (document pre tag text post).length < 2 ^ 63) :
    getXMLTagText (document pre tag text post) tag = .ok text ↔
      Found pre tag text post ∨ FoundElsewhere pre tag text post := by
  obtain ⟨k, hpre, hk⟩ := (startTag_at pre tag text post).exists_first
  obtain ⟨e, hle, he⟩ := (endTag_at pre tag text post).exists_first
  rw [getXMLTagText_document_iff hsize hk hpre he]
  obtain rfl | hlt := Nat.eq_or_lt_of_le hpre
  · have helse : ¬ FoundElsewhere pre tag text post := by
      rintro ⟨j, -, hj, hfirst, -⟩
      exact Nat.ne_of_lt hj (hfirst.unique hk)
    have hstarts : text <+: (document pre tag text post).drop (pre.length + (tag.length + 2)) :=
      drop_textStart pre tag text post ▸ List.prefix_append _ _
    have hstart : textStart pre tag = pre.length + (tag.length + 2) := rfl
    rw [or_iff_left helse, and_iff_right hstarts, ← hstart]
    constructor
    · intro hspan
      have hnat := toInt_le e
      have hbound := (toInt_bounds e).2
      obtain rfl : e = textStart pre tag + text.length := by omega
      exact ⟨hk, he, by omega⟩
    · rintro ⟨-, hfound, hint⟩
      rw [he.unique hfound, toInt_of_lt hint]
      rfl
  · have hfound : ¬ Found pre tag text post := fun h => Nat.ne_of_lt hlt (hk.unique h.1)
    rw [or_iff_right hfound]
    constructor
    · rintro ⟨hstarts, hspan⟩
      exact ⟨k, e, hlt, hk, he, hstarts, hspan⟩
    · rintro ⟨j, i, -, hj, hi, hstarts, hspan⟩
      obtain rfl := hk.unique hj
      obtain rfl := he.unique hi
      exact ⟨hstarts, hspan⟩

theorem getXMLTagText_exact_iff_alone :
    getXMLTagText (document [] softwareVersion (lit "2.1.0") []) softwareVersion =
      .ok (lit "2.1.0") :=
  (getXMLTagText_exact_iff [] softwareVersion (lit "2.1.0") [] (by decide)).mpr
    (.inl ⟨by decide, by decide, by decide⟩)

theorem getXMLTagText_inexact :
    ¬ ∀ pre tag text post : List UInt8, find (startTag tag ++ lit ">") pre = none → 60 ∉ text →
      getXMLTagText (document pre tag text post) tag = .ok text := by
  intro h
  have htext := h (lit "<image:types>9</image:types>") imageType (lit "3") [] (by decide)
    (by decide)
  have hgot : getXMLTagText (document (lit "<image:types>9</image:types>") imageType (lit "3") [])
      imageType = .ok (lit ">9") := rfl
  exact absurd (Except.ok.inj (hgot.symm.trans htext)) (by decide)

/-- The text from a position to the first end tag, or to the end of the content if there is no
end tag behind the position. -/
def Spans (xml tag : List UInt8) (start : Nat) (text : List UInt8) : Prop :=
  (text <+: xml.drop start ∧ First (endTag tag) xml (start + text.length)) ∨
    (text = xml.drop start ∧ ∀ e, First (endTag tag) xml e → e < start)

/-- The text behind the first start tag and one more character, or no text without one. -/
def Extracts (xml tag text : List UInt8) : Prop :=
  (text = [] ∧ ∀ k, ¬ At (startTag tag) xml k) ∨
    ∃ k, First (startTag tag) xml k ∧ k + (tag.length + 2) ≤ xml.length ∧
      Spans xml tag (k + (tag.length + 2)) text

theorem endTag_lt_length {k : Nat} (h : First (endTag tag) xml k) : k < xml.length := by
  have hle := h.1.le (endTag_ne_nil tag)
  rw [length_endTag] at hle
  omega

theorem spanCount_of_end {e : Nat} (hlen : xml.length < 2 ^ 31) (he : First (endTag tag) xml e)
    (hle : idx ≤ e) : spanCount xml tag idx = e - idx := by
  have hlt := endTag_lt_length he
  rw [spanCount_eq_iff (by omega), find_some_iff.mpr he, Option.getD_some,
    toInt_of_lt (Nat.lt_trans hlt hlen)]
  omega

/-- An end tag in front of the start, or none, makes a count that covers all the rest. -/
theorem spanCount_of_no_end (hlen : xml.length < 2 ^ 31) (hidx : idx ≤ xml.length)
    (hend : ∀ e, First (endTag tag) xml e → e < idx) :
    xml.length - idx ≤ spanCount xml tag idx := by
  have hint : toInt ((find (endTag tag) xml).getD npos) < idx ∧
      -1 ≤ toInt ((find (endTag tag) xml).getD npos) := by
    cases hfind : find (endTag tag) xml with
    | none =>
      have hnpos : toInt npos = -1 := by decide
      rw [Option.getD_none, hnpos]
      omega
    | some e =>
      have he := find_some_iff.mp hfind
      have hlt := hend e he
      rw [Option.getD_some, toInt_of_lt (by omega)]
      omega
  simp only [spanCount, toSize, Lib.CInt.sizeBits]
  omega

theorem take_spanCount_iff (hlen : xml.length < 2 ^ 31) (hidx : idx ≤ xml.length) :
    (xml.drop idx).take (spanCount xml tag idx) = text ↔ Spans xml tag idx text := by
  by_cases hend : ∃ e, First (endTag tag) xml e ∧ idx ≤ e
  · obtain ⟨e, he, hle⟩ := hend
    have hlt : e - idx ≤ (xml.drop idx).length := by
      have hlt := endTag_lt_length he
      rw [List.length_drop]
      omega
    rw [spanCount_of_end hlen he hle]
    constructor
    · rintro rfl
      refine .inl ⟨List.take_prefix _ _, ?_⟩
      rwa [List.length_take_of_le hlt, Nat.add_sub_cancel' hle]
    · rintro (⟨hstarts, hfirst⟩ | ⟨-, hnone⟩)
      · rw [he.unique hfirst, Nat.add_sub_cancel_left]
        exact (List.prefix_iff_eq_take.mp hstarts).symm
      · exact absurd (hnone e he) (Nat.not_lt.mpr hle)
  · have hnone : ∀ e, First (endTag tag) xml e → e < idx := fun e he =>
      Nat.lt_of_not_le fun hle => hend ⟨e, he, hle⟩
    have hall : (xml.drop idx).take (spanCount xml tag idx) = xml.drop idx := by
      apply List.take_of_length_le
      rw [List.length_drop]
      exact spanCount_of_no_end hlen hidx hnone
    rw [hall]
    constructor
    · exact fun h => .inr ⟨h.symm, hnone⟩
    · rintro (⟨-, hfirst⟩ | ⟨h, -⟩)
      · exact absurd (hnone _ hfirst) (by omega)
      · exact h.symm

theorem getXMLTagText_iff (hlen : xml.length < 2 ^ 31) :
    getXMLTagText xml tag = .ok text ↔ Extracts xml tag text := by
  cases hfind : find (startTag tag) xml with
  | none =>
    have hnone := find_none_iff.mp hfind
    rw [getXMLTagText_of_none hnone, Except.ok.injEq]
    constructor
    · exact fun h => .inl ⟨h.symm, hnone⟩
    · rintro (⟨rfl, -⟩ | ⟨k, hk, -⟩)
      · rfl
      · exact absurd hk.1 (hnone k)
  | some k =>
    have hk := find_some_iff.mp hfind
    rw [getXMLTagText_of_first hk, substr_eq_ok_iff]
    constructor
    · rintro ⟨hle, htake⟩
      exact .inr ⟨k, hk, hle, (take_spanCount_iff hlen hle).mp htake⟩
    · rintro (⟨-, hnone⟩ | ⟨j, hj, hle, hspans⟩)
      · exact absurd hk.1 (hnone k)
      · obtain rfl := hk.unique hj
        exact ⟨hle, (take_spanCount_iff hlen hle).mpr hspans⟩

def elementText (xml tag : List UInt8) : List UInt8 :=
  match find (startTag tag ++ lit ">") xml with
  | none => []
  | some k =>
    let rest := xml.drop (k + (tag.length + 2))
    match find (endTag tag ++ lit ">") rest with
    | none => []
    | some e => rest.take e

structure Described (bytes : List UInt8) (myData : Announce) : Prop where
  version : myData.deviceImageVersion.Terminated 0 ∧
    myData.deviceImageVersion.str 0 = elementText bytes softwareVersion
  name : myData.deviceName.Terminated 0 ∧
    myData.deviceName.str 0 = elementText bytes productName

section Fields

variable {safec : Safec} {forceUpdate : Bool} {f : File} {myData myData' : Announce} {n : Nat}

/-- The source takes the text for that of the tag, and it fits the array; or it takes a text that
does not, and `strcpy_s` happens to leave the right one. -/
def Stored (safec : Safec) (dest : Buf UInt8 n) (xml tag text : List UInt8) : Prop :=
  (Extracts xml tag text ∧ text.length < n) ∨
    ∃ long, Extracts xml tag long ∧ n ≤ long.length ∧
      (safec.refused dest).Terminated 0 ∧ (safec.refused dest).str 0 = text

theorem strcpyS_fits (safec : Safec) (dest : Buf UInt8 n) {src : List UInt8} (hnul : 0 ∉ src)
    (hlen : src.length < n) :
    (safec.strcpyS dest src).Terminated 0 ∧ (safec.strcpyS dest src).str 0 = src := by
  have hchars : (dest.write (src ++ [0])).chars = src ++ 0 :: dest.chars.drop (src.length + 1) := by
    rw [Buf.chars_write (by rw [List.length_append, List.length_singleton]; exact hlen)]
    simp
  have hcopy : safec.strcpyS dest src = dest.write (src ++ [0]) := by
    simp [Safec.strcpyS, MfrMgr.SerializedData.strcpyS, cstr_eq_self 0 hnul, hlen]
  rw [hcopy, Buf.Terminated, Buf.str, hchars, cstr_append_nul]
  exact ⟨by simp, cstr_eq_self 0 hnul⟩

theorem strcpyS_refused {dest : Buf UInt8 n} {src : List UInt8} (hnul : 0 ∉ src)
    (hlen : n ≤ src.length) : safec.strcpyS dest src = safec.refused dest := by
  simp [Safec.strcpyS, MfrMgr.SerializedData.strcpyS, cstr_eq_self 0 hnul, Nat.not_lt.mpr hlen]

theorem getXMLTagText_subset (h : getXMLTagText xml tag = .ok text) : text ⊆ xml := by
  unfold getXMLTagText at h
  split at h
  · obtain rfl := Except.ok.inj h
    exact List.nil_subset _
  · obtain ⟨-, rfl⟩ := substr_eq_ok_iff.mp h
    exact List.Subset.trans (List.take_subset _ _) (List.drop_subset _ _)

theorem stored_iff {dest : Buf UInt8 n} {src : List UInt8} (hnul : 0 ∉ xml)
    (hlen : xml.length < 2 ^ 31) (h : getXMLTagText xml tag = .ok src) :
    ((safec.strcpyS dest src).Terminated 0 ∧ (safec.strcpyS dest src).str 0 = text) ↔
      Stored safec dest xml tag text := by
  have hsrc : 0 ∉ src := fun hmem => hnul (getXMLTagText_subset h hmem)
  have honly : ∀ other, Extracts xml tag other → src = other := fun other hother =>
    Except.ok.inj (h.symm.trans ((getXMLTagText_iff hlen).mpr hother))
  have hextracts := (getXMLTagText_iff hlen).mp h
  by_cases hfits : src.length < n
  · obtain ⟨hterm, hstr⟩ := strcpyS_fits safec dest hsrc hfits
    rw [hstr, and_iff_right hterm]
    constructor
    · rintro rfl
      exact .inl ⟨hextracts, hfits⟩
    · rintro (⟨hother, -⟩ | ⟨long, hlong, hle, -⟩)
      · exact honly text hother
      · rw [honly long hlong] at hfits
        exact absurd hfits (Nat.not_lt.mpr hle)
  · rw [strcpyS_refused hsrc (Nat.not_lt.mp hfits)]
    constructor
    · exact fun hleft => .inr ⟨src, hextracts, Nat.not_lt.mp hfits, hleft⟩
    · rintro (⟨hother, hlt⟩ | ⟨-, -, -, hleft⟩)
      · rw [← honly text hother] at hlt
        exact absurd hlt hfits
      · exact hleft

theorem length_text (h : f.length ≤ maxLength) : f.text.length < 2 ^ 31 := by
  have hle : f.text.length ≤ f.length.toNat :=
    Nat.le_trans (cstr_initial 0 _).length_le (List.length_take_le _ _)
  have hmax : (maxLength : Int) = 10485760 := by decide
  omega

theorem contents_some {xml : List UInt8} (h : f.contents = some xml) :
    xml = f.text ∧ xml.length < 2 ^ 31 := by
  unfold File.contents at h
  split_ifs at h with hopens hlength hread
  obtain rfl := Option.some.inj h
  exact ⟨rfl, length_text (by omega)⟩

theorem describe_true (h : describe safec forceUpdate xml myData = .ok (true, myData')) :
    ∃ version type name, getXMLTagText xml softwareVersion = .ok version ∧
      getXMLTagText xml imageType = .ok type ∧ getXMLTagText xml productName = .ok name ∧
      myData' = { myData with
        deviceImageVersion := safec.strcpyS myData.deviceImageVersion version
        deviceImageType := ((atoi type) % 2 ^ 32).toNat
        deviceName := safec.strcpyS myData.deviceName name
        forceUpdate := forceUpdate } := by
  obtain ⟨version, hversion, h⟩ := bind_eq_ok_iff.mp h
  split_ifs at h with hempty
  · cases h
  obtain ⟨type, htype, h⟩ := bind_eq_ok_iff.mp h
  obtain ⟨name, hname, h⟩ := map_eq_ok_iff.mp h
  exact ⟨version, type, name, hversion, htype, hname, (Prod.mk.inj h).2.symm⟩

theorem getEventData_true (h : getEventData safec forceUpdate f myData = .ok (true, myData')) :
    f.text.length < 2 ^ 31 ∧ describe safec forceUpdate f.text myData = .ok (true, myData') := by
  unfold getEventData at h
  split at h
  · cases h
  · next xml hcontents =>
    obtain ⟨hxml, hlen⟩ := contents_some hcontents
    rw [hxml] at h hlen
    exact ⟨hlen, h⟩

/-- A description that is accepted has its two fields right exactly if the source finds the texts
of their elements, and these fit the fields. -/
theorem getEventData_described_iff (safec : Safec) (forceUpdate : Bool) (f : File)
    (myData myData' : Announce)
    (h : getEventData safec forceUpdate f myData = .ok (true, myData')) :
    Described f.bytes myData' ↔
      Stored safec myData.deviceImageVersion f.text softwareVersion
          (elementText f.bytes softwareVersion) ∧
        Stored safec myData.deviceName f.text productName (elementText f.bytes productName) := by
  obtain ⟨hlen, htrue⟩ := getEventData_true h
  obtain ⟨version, type, name, hversion, -, hname, rfl⟩ := describe_true htrue
  have hnul : (0 : UInt8) ∉ f.text := nul_notMem_cstr 0 _
  rw [← stored_iff hnul hlen hversion, ← stored_iff hnul hlen hname]
  exact ⟨fun hd => ⟨hd.version, hd.name⟩, fun hd => ⟨hd.1, hd.2⟩⟩

def description (version name : List UInt8) : File :=
  ⟨document [] softwareVersion version (document [] productName name []), true, true, true, true⟩

def Announce.zeroed : Announce := ⟨Buf.zeroed 0 _, Buf.zeroed 0 _, 0, Buf.zeroed 0 _, false⟩

def Announce.described (version name : List UInt8) : Announce :=
  { Announce.zeroed with
    deviceImageVersion := (Buf.zeroed 0 _).write version
    deviceName := (Buf.zeroed 0 _).write name }

/-- A name that takes the whole array is dropped, and the description is accepted. -/
theorem getEventData_drops_name :
    getEventData ⟨id⟩ false (description (lit "1") (List.replicate 64 65)) .zeroed =
        .ok (true, .described (lit "1") []) ∧
      ¬ Described (description (lit "1") (List.replicate 64 65)).bytes
        (.described (lit "1") []) := by
  refine ⟨by decide +kernel, fun h => absurd h.name.2 ?_⟩
  decide +kernel

theorem getEventData_described_iff_short :
    Described (description (lit "1") (lit "tv")).bytes (.described (lit "1") (lit "tv")) := by
  refine (getEventData_described_iff ⟨id⟩ false _ .zeroed _ (by decide +kernel)).mpr ⟨?_, ?_⟩
  · refine .inl ⟨(getXMLTagText_iff ?_).mp ?_, ?_⟩ <;> decide +kernel
  · refine .inl ⟨(getXMLTagText_iff ?_).mp ?_, ?_⟩ <;> decide +kernel

theorem describe_error_iff : describe safec forceUpdate xml myData = .error ⟨⟩ ↔
    CutOff xml softwareVersion ∨ getXMLTagText xml softwareVersion ≠ .ok [] ∧
      (CutOff xml imageType ∨ CutOff xml productName) := by
  cases hversion : getXMLTagText xml softwareVersion with
  | error => simp [describe, hversion, ← getXMLTagText_error_iff, Except.bind]
  | ok version =>
    by_cases hempty : version = []
    · simp [describe, hversion, hempty, ← getXMLTagText_error_iff, Except.bind]
    · cases htype : getXMLTagText xml imageType with
      | error =>
        simp [describe, hversion, hempty, htype, ← getXMLTagText_error_iff, Except.bind]
      | ok type =>
        simp [describe, hversion, hempty, htype, ← getXMLTagText_error_iff, Except.bind,
          map_eq_error_iff]

def File.BreaksOff (f : File) : Prop :=
  f.contents.isSome = true ∧ (CutOff f.text softwareVersion ∨
    getXMLTagText f.text softwareVersion ≠ .ok [] ∧
      (CutOff f.text imageType ∨ CutOff f.text productName))

theorem getEventData_error_iff :
    getEventData safec forceUpdate f myData = .error ⟨⟩ ↔ f.BreaksOff := by
  rw [getEventData, File.BreaksOff]
  cases hcontents : f.contents with
  | none => simp
  | some xml =>
    rw [← (contents_some hcontents).1, Option.isSome_some, and_iff_right rfl]
    exact describe_error_iff

variable {package : Unpacked} {filePath : List UInt8} {files : List (List UInt8)}

theorem announceFiles_throws_iff :
    (announceFiles safec forceUpdate package filePath files).2 = true ↔
      ∃ filename ∈ files, isXml filename = true ∧ (package.file filename).BreaksOff := by
  induction files with
  | nil => simp [announceFiles]
  | cons filename files ih =>
    have herror : getEventData safec forceUpdate (package.file filename)
        (package.myData filePath filename) = .error ⟨⟩ ↔ _ := getEventData_error_iff
    rw [announceFiles, List.exists_mem_cons_iff, ← herror]
    by_cases hxml : isXml filename = true
    · rw [if_pos hxml, and_iff_right hxml]
      split
      · next hthrow => exact iff_of_true rfl (.inl hthrow)
      · next hrefused => simp [hrefused, ih]
      · next hdata => simp [hdata, ih]
    · simp [hxml, ih]

theorem announceFiles_mem {data : Announce}
    (h : data ∈ (announceFiles safec forceUpdate package filePath files).1) :
    ∃ filename ∈ files, isXml filename = true ∧
      getEventData safec forceUpdate (package.file filename)
        (package.myData filePath filename) = .ok (true, data) := by
  induction files with
  | nil => cases h
  | cons filename files ih =>
    rw [announceFiles] at h
    rw [List.exists_mem_cons_iff]
    by_cases hxml : isXml filename = true
    · rw [if_pos hxml] at h
      split at h
      · cases h
      · exact .inr (ih h)
      · next hdata =>
        obtain rfl | hmem := List.mem_cons.mp h
        · exact .inl ⟨hxml, hdata⟩
        · exact .inr (ih hmem)
    · rw [if_neg hxml] at h
      exact .inr (ih h)

theorem processDeviceFile_throws_iff :
    (processDeviceFile safec forceUpdate package filePath).2 = true ↔
      (package.mkdir = true ∧ package.tar = true) ∧
        ∃ filename ∈ package.files, isXml filename = true ∧
          (package.file filename).BreaksOff := by
  rw [processDeviceFile]
  cases hmkdir : package.mkdir with
  | false => simp
  | true =>
    cases htar : package.tar with
    | false => simp
    | true => simpa using announceFiles_throws_iff

theorem processDeviceFile_announces {data : Announce}
    (h : data ∈ (processDeviceFile safec forceUpdate package filePath).1) :
    ∃ filename ∈ package.files, isXml filename = true ∧
      getEventData safec forceUpdate (package.file filename)
        (package.myData filePath filename) = .ok (true, data) := by
  unfold processDeviceFile at h
  split at h
  · cases h
  · exact announceFiles_mem h

end Fields

end IarmMgrs.DeviceUpdateMgr.EventData

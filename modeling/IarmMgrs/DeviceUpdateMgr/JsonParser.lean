import IarmMgrs.Lib.CString
import IarmMgrs.Lib.Heap

namespace IarmMgrs.DeviceUpdateMgr.JsonParser

open Lib Lib.CString

structure VarVal where
  str : List UInt8
  array : Option Addr
  boolean : Bool
  deriving DecidableEq

def VarVal.new : VarVal := ⟨[], none, false⟩

/-- `brk` is the address of the next list that is allocated. -/
structure Parser where
  lists : Heap (List VarVal)
  brk : Addr
  curKey : List UInt8
  dict : List UInt8 → Option VarVal
  arrays : List Addr
  array : Option Addr

namespace Parser

def init : Parser := ⟨fun _ => none, 0, [], fun _ => none, [], none⟩

def store (vv : VarVal) (s : Parser) : Parser :=
  { s with dict := Function.update s.dict s.curKey (some vv) }

def pushBack (a : Addr) (vv : VarVal) (s : Parser) : Parser :=
  { s with lists := Function.update s.lists a ((s.lists a).map (· ++ [vv])) }

/-- What `newString` and `newBool` do with a new value. -/
def add (vv : VarVal) (s : Parser) : Parser :=
  match s.array with
  | some a => s.pushBack a vv
  | none => s.store vv

def newKey (keyName : List UInt8) (s : Parser) : Parser := { s with curKey := keyName }

def newString (value : List UInt8) : Parser → Parser := add { VarVal.new with str := value }

def newNull : Parser → Parser := store .new

def newBool (value : Bool) : Parser → Parser := add { VarVal.new with boolean := value }

def allocate (s : Parser) : Parser :=
  { s with lists := Function.update s.lists s.brk (some []), brk := s.brk + 1 }

def newArray (s : Parser) : Parser :=
  let vv := { VarVal.new with array := some s.brk }
  match s.array with
  | some a => { s.allocate.pushBack a vv with arrays := a :: s.arrays, array := some s.brk }
  | none => { s.allocate.store vv with array := some s.brk }

def endArray (s : Parser) : Parser :=
  match s.arrays with
  | a :: arrays => { s with array := some a, arrays := arrays }
  | [] => { s with array := none }

end Parser

inductive Callback
  | null
  | boolean (value : Bool)
  | number (text : List UInt8)
  | string (text : List UInt8)
  | startMap
  | mapKey (key : List UInt8)
  | endMap
  | startArray
  | endArray
  deriving DecidableEq

def parseString (text : List UInt8) : Parser → Parser :=
  if text = lit "true" ∨ text = lit "false" then Parser.newBool (text = lit "true")
  else Parser.newString text

def handle (s : Parser) : Callback → Parser
  | .null => s.newNull
  | .boolean value => s.newBool value
  | .number text => s.newString text
  | .string text => parseString text s
  | .startMap | .endMap => s
  | .mapKey key => s.newKey key
  | .startArray => s.newArray
  | .endArray => s.endArray

inductive Json
  | null
  | boolean (value : Bool)
  | number (text : List UInt8)
  | string (text : List UInt8)
  | array (elements : List Json)

mutual

def Json.callbacks : Json → List Callback
  | .null => [.null]
  | .boolean value => [.boolean value]
  | .number text => [.number text]
  | .string text => [.string text]
  | .array elements => .startArray :: (callbacksAll elements ++ [.endArray])

def callbacksAll : List Json → List Callback
  | [] => []
  | j :: js => j.callbacks ++ callbacksAll js

end

abbrev Object := List (List UInt8 × Json)

def memberCallbacks (m : List UInt8 × Json) : List Callback := .mapKey m.1 :: m.2.callbacks

def Object.callbacks (o : Object) : List Callback :=
  .startMap :: (o.flatMap memberCallbacks ++ [.endMap])

/-- `parse`, of a document that is one object. -/
def parse (o : Object) : Parser := o.callbacks.foldl handle .init

mutual

/-- What a `varVal` stands for, all lists below it being at addresses from `lo` to `hi`. -/
def Denotes (lists : Heap (List VarVal)) (lo hi : Addr) : Json → VarVal → Prop
  | .null, vv => vv = .new
  | .boolean value, vv => vv = { VarVal.new with boolean := value }
  | .number text, vv => vv = { VarVal.new with str := text }
  | .string text, vv =>
    vv = if text = lit "true" ∨ text = lit "false" then
      { VarVal.new with boolean := text = lit "true" } else { VarVal.new with str := text }
  | .array elements, vv => ∃ a vvs, vv = { VarVal.new with array := some a } ∧
      lo ≤ a ∧ a < hi ∧ lists a = some vvs ∧ DenotesAll lists lo hi elements vvs

def DenotesAll (lists : Heap (List VarVal)) (lo hi : Addr) : List Json → List VarVal → Prop
  | [], vvs => vvs = []
  | j :: js, vvs => ∃ vv rest, vvs = vv :: rest ∧ Denotes lists lo hi j vv ∧
      DenotesAll lists lo hi js rest

end

mutual

def Json.hasNull : Json → Bool
  | .null => true
  | .array elements => anyNull elements
  | _ => false

def anyNull : List Json → Bool
  | [] => false
  | j :: js => j.hasNull || anyNull js

end

def Json.nullInArray : Json → Bool
  | .array elements => anyNull elements
  | _ => false

def lastValue (o : Object) (key : List UInt8) : Option Json :=
  (o.filter fun m => m.1 = key).getLast?.map (·.2)

/-- Each key maps to its last value, and no array is left open. -/
structure Rebuilt (o : Object) (s : Parser) : Prop where
  array : s.array = none
  arrays : s.arrays = []
  entries : ∀ key, match lastValue o key with
    | none => s.dict key = none
    | some j => ∃ vv, s.dict key = some vv ∧ Denotes s.lists 0 s.brk j vv

end IarmMgrs.DeviceUpdateMgr.JsonParser

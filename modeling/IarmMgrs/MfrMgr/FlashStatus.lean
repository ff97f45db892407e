import IarmMgrs.MfrMgr.FlashLaws

namespace IarmMgrs.MfrMgr.Flash

open Lib Lib.CString Lib.Transition

/-- `notifyStruct` as a request fills it. -/
def WriteImageArg.notifyStruct (param : WriteImageArg) : MfrUpgradeStatusNotify :=
  ⟨some param.address, param.interval, true⟩

def Kind.statusAtCall (lastStatus : Progress) : Kind → Progress
  | .write | .verify => .notStarted
  | .mirror => lastStatus

section Requests

variable (lib : Bool)

instance (kind : Kind) (load : Load) (s : State) : Decidable (Missing lib kind load s) :=
  inferInstanceAs (Decidable (_ ∨ _ ∧ _))

/-- The request comes to the call of its HAL entry point. -/
def Reaches (r : Request) (s : State) : Prop :=
  ¬ Missing lib r.kind r.load s ∧
    (r.kind = .mirror ∨ ¬ (s.lastStatus = .verifying ∨ s.lastStatus = .flashing)) ∧
    ∃ param ∈ r.arg, isValidWriteImageParam param.toWriteImageParam = true

instance (r : Request) (s : State) : Decidable (Reaches lib r s) :=
  inferInstanceAs (Decidable (_ ∧ _ ∧ _))

def Intact (r : Request) (s : State) : Prop :=
  (handle lib r s).1.lastStatus = s.lastStatus ∧ (handle lib r s).1.notifyStruct = s.notifyStruct

def SetsNothing (r : Request) (s : State) : Prop :=
  Reaches lib r s → s.lastStatus = r.kind.statusAtCall s.lastStatus ∧
    ∀ param ∈ r.arg, s.notifyStruct = param.notifyStruct

end Requests

/-- The callback data of each accepted operation, and of the last request that has reached the HAL,
with the place of its argument. -/
structure Routing where
  own : Nat → Option (List UInt8)
  last : Option (Addr × List UInt8)

def Routing.init : Routing := ⟨fun _ => none, none⟩

section Callbacks

variable (lib : Bool)

/-- A request that is answered with success has started an operation. -/
def Routing.note (s : State) (act : Action) (t : Routing) : Routing :=
  match act with
  | .callback .. => t
  | .request r =>
    { own :=
        if (handle lib r s).2 = .success then
          Function.update t.own s.nextOperation (r.arg.map (·.cbData.str 0))
        else t.own
      last :=
        if Reaches lib r s then r.arg.map fun param => (param.address, param.cbData.str 0)
        else t.last }

def observe : State × Routing → Action → Option (State × Routing) :=
  observed (step lib) (Routing.note lib)

def observeInit : State × Routing := (.init, .init)

def Routed (p : State × Routing) : Action → Prop
  | .request _ => True
  | .callback operation status memory => ∀ cbData, p.2.own operation = some cbData →
      (writeImageCb operation status memory p.1).broadcasts =
        p.1.broadcasts ++ [(status, cbData)]

/-- What there is at an address reads as the string, as far as `strncpy` goes. -/
def ReadsAs (memory : Addr → Buf UInt8 maxBuf) (address : Addr) (cbData : List UInt8) : Prop :=
  ((memory address).copyWhole 0 (memory address).chars).str 0 = cbData

def ReadsOwn (p : State × Routing) : Action → Prop
  | .request _ => True
  | .callback operation _ memory => ∀ cbData, p.2.own operation = some cbData →
      ∀ last ∈ p.2.last, ReadsAs memory last.1 cbData

/-- The bus leaves the argument of the last request that has reached the HAL as it was. -/
def ArgumentKept (p : State × Routing) : Action → Prop
  | .request _ => True
  | .callback _ _ memory => ∀ last ∈ p.2.last, ReadsAs memory last.1 last.2

/-- At a callback of an accepted operation the last request that has reached the HAL has the
operation's callback data. -/
def Undisturbed (p : State × Routing) : Action → Prop
  | .request _ => True
  | .callback operation _ _ => ∀ cbData, p.2.own operation = some cbData →
      p.2.last.map Prod.snd = some cbData

end Callbacks

end IarmMgrs.MfrMgr.Flash

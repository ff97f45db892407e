import IarmMgrs.MfrMgr.SerializedData

/-! The other calls of `mfrCli.c`, which `mfrSrv.c` passes on to the vendor's library, against the
same calls made to the library itself.  The library is a parameter with a state of its own.  A call
is one step from the client to the library and back. -/

namespace IarmMgrs.MfrMgr.Remote

open Lib.CString
open Flash (IarmResult maxBuf)
open SerializedData (memcpyS strcpyS)
open Crypto (toSize)
open Srv (Func ImageParam)

def mfrErrNone : Int := 0
def mfrErrGeneral : Int := 0x1000

/-- `MFR_MAX_STR_SIZE`, `MFR_DFAST_INPUT_BYTES` and `MFR_DFAST_OUTPUT_BYTES`. -/
structure Sizes where
  maxStrSize : Nat
  dfastInputBytes : Nat
  dfastOutputBytes : Nat
  dfastOutputBytes_pos : 0 < dfastOutputBytes

abbrev Name := { s : List UInt8 // 0 ∉ s }

structure HostFirmwareInfo (z : Sizes) where
  firmwareVersion : Buf UInt8 z.maxStrSize
  firmwareDay : Int
  firmwareMonth : Int
  firmwareYear : Int
  deriving DecidableEq

structure DFAST2Params (z : Sizes) where
  seedIn : Buf UInt32 z.dfastInputBytes
  keyOut : Buf UInt32 z.dfastOutputBytes
  deriving DecidableEq

structure Result (σ ο : Type) where
  err : Int
  out : ο
  state : σ

/-- The functions of the library.  The buffer that `getPathConfiguration` leaves means nothing if
it was not given one. -/
structure Vendor (z : Sizes) (σ : Type) where
  setImageWriteProgress : Option Name → Int → Int → σ → Result σ Unit
  getImageWriteProgress : Option Name → Int → Int → σ → Result σ Int
  deletePDRI : σ → Result σ Unit
  scrubAllBanks : σ → Result σ Unit
  reboot : Option Name → σ → Result σ Unit
  setCableCardType : Int → σ → Result σ Unit
  setHostFirmwareInfo : HostFirmwareInfo z → σ → Result σ Unit
  getPathConfiguration : Int → Option (Buf UInt8 z.maxStrSize) → Int → σ →
    Result σ (Buf UInt8 z.maxStrSize × Int)
  getDFAST2Data : DFAST2Params z → σ → Result σ (DFAST2Params z)

/-- A call with its arguments and what stands behind those that are pointers, a null pointer being
`none`.  The caller has as much room for a path as the RPC. -/
inductive Call (z : Sizes)
  | setImageWriteProgress (imageName : Option Name) (imageType progress : Int)
  | getImageWriteProgress (imageName : Option Name) (imageType progress : Int)
  | deletePDRI
  | scrubAllBanks
  | reboot (imageName : Option Name)
  | setCableCardType (type : Int)
  | setHostFirmwareInfo (firmwareInfo : HostFirmwareInfo z)
  | getPathConfiguration (type : Int) (path : Option (Buf UInt8 z.maxStrSize)) (len : Int)
  | getDFAST2Data (params : DFAST2Params z)
  deriving DecidableEq

structure Reply (z : Sizes) where
  err : Int
  args : Call z
  deriving DecidableEq

variable {z : Sizes} {σ : Type}

def direct (vendor : Vendor z σ) : Call z → σ → Reply z × σ
  | .setImageWriteProgress imageName imageType progress, s =>
    let r := vendor.setImageWriteProgress imageName imageType progress s
    (⟨r.err, .setImageWriteProgress imageName imageType progress⟩, r.state)
  | .getImageWriteProgress imageName imageType progress, s =>
    let r := vendor.getImageWriteProgress imageName imageType progress s
    (⟨r.err, .getImageWriteProgress imageName imageType r.out⟩, r.state)
  | .deletePDRI, s => let r := vendor.deletePDRI s; (⟨r.err, .deletePDRI⟩, r.state)
  | .scrubAllBanks, s => let r := vendor.scrubAllBanks s; (⟨r.err, .scrubAllBanks⟩, r.state)
  | .reboot imageName, s =>
    let r := vendor.reboot imageName s
    (⟨r.err, .reboot imageName⟩, r.state)
  | .setCableCardType type, s =>
    let r := vendor.setCableCardType type s
    (⟨r.err, .setCableCardType type⟩, r.state)
  | .setHostFirmwareInfo firmwareInfo, s =>
    let r := vendor.setHostFirmwareInfo firmwareInfo s
    (⟨r.err, .setHostFirmwareInfo firmwareInfo⟩, r.state)
  | .getPathConfiguration type path len, s =>
    let r := vendor.getPathConfiguration type path len s
    (⟨r.err, .getPathConfiguration type (path.map fun _ => r.out.1) r.out.2⟩, r.state)
  | .getDFAST2Data params, s =>
    let r := vendor.getDFAST2Data params s
    (⟨r.err, .getDFAST2Data r.out⟩, r.state)

structure ImageWriteProgressParam extends ImageParam where
  imageType : Int
  progress : Int

structure HostFirmwareInfoParam (z : Sizes) where
  version : Buf UInt8 z.maxStrSize
  day : Int
  month : Int
  year : Int

structure PathConfigurationParam (z : Sizes) where
  type : Int
  path : Buf UInt8 z.maxStrSize
  len : Int

/-- What a call meets: whether `RDK_MFRLIB_NAME` is defined and `find_func` finds the function,
whether the bus brings the call to the server and the answer back, and what the stack of the
client holds for `param`. -/
structure Env (z : Sizes) where
  mfrlibName : Bool
  found : Bool
  delivered : Bool
  answered : Bool
  image : ImageWriteProgressParam
  firmware : HostFirmwareInfoParam z
  path : PathConfigurationParam z

/-- The server: its `static` pointers, and the library. -/
structure Server (σ : Type) where
  func : Func → Bool
  vendor : σ

section Handlers

variable {π : Type} (env : Env z) (vendor : Vendor z σ)

def handler (func : Func) (valid : π → Bool) (call : π → σ → Result σ π) (param : π)
    (s : Server σ) : IarmResult × π × Server σ :=
  if !env.mfrlibName || !(s.func func || env.found) then (.invalidState, param, s)
  else
    let s := { s with func := Function.update s.func func true }
    if !valid param then (.invalidParam, param, s)
    else
      let r := call param s.vendor
      (if r.err = mfrErrNone then .success else .invalidState, r.out, { s with vendor := r.state })

def isTerminated (imageName : Buf UInt8 maxBuf) : Bool := imageName.Terminated 0

/-- What the vendor's function sees of an array. -/
def nameOf {n : Nat} (b : Buf UInt8 n) : Option Name := some ⟨b.str 0, nul_notMem_cstr 0 b.chars⟩

def srvSetImageWriteProgress : ImageWriteProgressParam → Server σ →
    IarmResult × ImageWriteProgressParam × Server σ :=
  handler env .setImageWriteProgress (fun param => isTerminated param.imageName) fun param s =>
    let r := vendor.setImageWriteProgress (nameOf param.imageName) param.imageType param.progress s
    ⟨r.err, param, r.state⟩

def srvGetImageWriteProgress : ImageWriteProgressParam → Server σ →
    IarmResult × ImageWriteProgressParam × Server σ :=
  handler env .getImageWriteProgress (fun param => isTerminated param.imageName) fun param s =>
    let r := vendor.getImageWriteProgress (nameOf param.imageName) param.imageType param.progress s
    ⟨r.err, { param with progress := r.out }, r.state⟩

def srvDeletePDRI : Unit → Server σ → IarmResult × Unit × Server σ :=
  handler env .deletePDRI (fun _ => true) fun _ => vendor.deletePDRI

def srvScrubAllBanks : Unit → Server σ → IarmResult × Unit × Server σ :=
  handler env .scrubAllBanks (fun _ => true) fun _ => vendor.scrubAllBanks

def srvReboot : ImageParam → Server σ → IarmResult × ImageParam × Server σ :=
  handler env .reboot (fun param => isTerminated param.imageName) fun param s =>
    let r := vendor.reboot (nameOf param.imageName) s
    ⟨r.err, param, r.state⟩

def srvSetCableCardType : Int → Server σ → IarmResult × Int × Server σ :=
  handler env .setCableCardType (fun _ => true) fun type s =>
    let r := vendor.setCableCardType type s
    ⟨r.err, type, r.state⟩

/-- The array is copied with what stands behind the terminator. -/
def srvSetHostFirmwareInfo : HostFirmwareInfoParam z → Server σ →
    IarmResult × HostFirmwareInfoParam z × Server σ :=
  handler env .setHostFirmwareInfo (fun param => param.version.Terminated 0) fun param s =>
    let r := vendor.setHostFirmwareInfo ⟨param.version, param.day, param.month, param.year⟩ s
    ⟨r.err, param, r.state⟩

def srvGetPathConfiguration : PathConfigurationParam z → Server σ →
    IarmResult × PathConfigurationParam z × Server σ :=
  handler env .getPathConfiguration (fun _ => true) fun param s =>
    let r := vendor.getPathConfiguration param.type (some param.path) param.len s
    ⟨r.err, { param with path := r.out.1, len := r.out.2 }, r.state⟩

/-- The function gets a copy of the parameter, which stays as it is. -/
def srvGetDFAST2Data : DFAST2Params z → Server σ → IarmResult × DFAST2Params z × Server σ :=
  handler env .getDFAST2Data (fun _ => true) fun param s =>
    let r := vendor.getDFAST2Data param s
    ⟨r.err, param, r.state⟩

end Handlers

section Client

variable (env : Env z) (vendor : Vendor z σ)

def busCall {π : Type} (serve : π → Server σ → IarmResult × π × Server σ) (param : π)
    (s : Server σ) : IarmResult × π × Server σ :=
  if !env.delivered then (.ipccoreFail, param, s)
  else
    let (retCode, answer, s) := serve param s
    if env.answered then (retCode, answer, s) else (.ipccoreFail, param, s)

def fromRpc (rpcRet : IarmResult) : Int := if rpcRet = .success then mfrErrNone else mfrErrGeneral

def copyName (imageName : Option Name) : Option (Buf UInt8 maxBuf) :=
  imageName.bind fun name => strcpyS env.image.imageName name.1

def mfrSetImageWriteProgress (imageName : Option Name) (imageType progress : Int) (s : Server σ) :
    Int × Server σ :=
  match copyName env imageName with
  | none => (mfrErrGeneral, s)
  | some copy =>
    let (rpcRet, _, s) := busCall env (srvSetImageWriteProgress env vendor)
      ⟨⟨copy⟩, imageType, progress⟩ s
    (fromRpc rpcRet, s)

def mfrGetImageWriteProgress (imageName : Option Name) (imageType progress : Int) (s : Server σ) :
    Int × Int × Server σ :=
  match copyName env imageName with
  | none => (mfrErrGeneral, progress, s)
  | some copy =>
    let (rpcRet, param, s) := busCall env (srvGetImageWriteProgress env vendor)
      { env.image with imageName := copy, imageType := imageType } s
    (fromRpc rpcRet, if rpcRet = .success then param.progress else progress, s)

def mfrDeletePDRI (s : Server σ) : Int × Server σ :=
  let (rpcRet, _, s) := busCall env (srvDeletePDRI env vendor) () s
  (fromRpc rpcRet, s)

def mfrScrubAllBanks (s : Server σ) : Int × Server σ :=
  let (rpcRet, _, s) := busCall env (srvScrubAllBanks env vendor) () s
  (fromRpc rpcRet, s)

def mfrReboot (imageName : Option Name) (s : Server σ) : Int × Server σ :=
  match copyName env imageName with
  | none => (mfrErrGeneral, s)
  | some copy =>
    let (rpcRet, _, s) := busCall env (srvReboot env vendor) ⟨copy⟩ s
    (fromRpc rpcRet, s)

def mfrSetCableCardType (type : Int) (s : Server σ) : Int × Server σ :=
  let (rpcRet, _, s) := busCall env (srvSetCableCardType env vendor) type s
  (fromRpc rpcRet, s)

def mfrSetHostFirmwareInfo (firmwareInfo : HostFirmwareInfo z) (s : Server σ) : Int × Server σ :=
  match strcpyS env.firmware.version (firmwareInfo.firmwareVersion.str 0) with
  | none => (mfrErrGeneral, s)
  | some version =>
    let (rpcRet, _, s) := busCall env (srvSetHostFirmwareInfo env vendor)
      ⟨version, firmwareInfo.firmwareDay, firmwareInfo.firmwareMonth, firmwareInfo.firmwareYear⟩ s
    (fromRpc rpcRet, s)

def givePath : IarmResult → PathConfigurationParam z → Option (Buf UInt8 z.maxStrSize) → Int →
    Int × Option (Buf UInt8 z.maxStrSize) × Int
  | .success, param, none, _ => (mfrErrGeneral, none, param.len)
  | .success, param, some dest, _ =>
    match memcpyS true z.maxStrSize (some param.path.chars) (toSize param.len) with
    | none => (mfrErrGeneral, some dest, param.len)
    | some bytes => (mfrErrNone, some (dest.write bytes), param.len)
  | _, _, path, len => (mfrErrGeneral, path, len)

def mfrGetPathConfiguration (type : Int) (path : Option (Buf UInt8 z.maxStrSize)) (len : Int)
    (s : Server σ) : (Int × Option (Buf UInt8 z.maxStrSize) × Int) × Server σ :=
  let (rpcRet, param, s) := busCall env (srvGetPathConfiguration env vendor)
    { env.path with type := type } s
  (givePath rpcRet param path len, s)

/-- The parameter is not copied back. -/
def mfrGetDFAST2Data (params : DFAST2Params z) (s : Server σ) : Int × Server σ :=
  let (rpcRet, _, s) := busCall env (srvGetDFAST2Data env vendor) params s
  (fromRpc rpcRet, s)

def remote : Call z → Server σ → Reply z × Server σ
  | .setImageWriteProgress imageName imageType progress, s =>
    let (err, s) := mfrSetImageWriteProgress env vendor imageName imageType progress s
    (⟨err, .setImageWriteProgress imageName imageType progress⟩, s)
  | .getImageWriteProgress imageName imageType progress, s =>
    let (err, progress, s) := mfrGetImageWriteProgress env vendor imageName imageType progress s
    (⟨err, .getImageWriteProgress imageName imageType progress⟩, s)
  | .deletePDRI, s => let (err, s) := mfrDeletePDRI env vendor s; (⟨err, .deletePDRI⟩, s)
  | .scrubAllBanks, s => let (err, s) := mfrScrubAllBanks env vendor s; (⟨err, .scrubAllBanks⟩, s)
  | .reboot imageName, s =>
    let (err, s) := mfrReboot env vendor imageName s
    (⟨err, .reboot imageName⟩, s)
  | .setCableCardType type, s =>
    let (err, s) := mfrSetCableCardType env vendor type s
    (⟨err, .setCableCardType type⟩, s)
  | .setHostFirmwareInfo firmwareInfo, s =>
    let (err, s) := mfrSetHostFirmwareInfo env vendor firmwareInfo s
    (⟨err, .setHostFirmwareInfo firmwareInfo⟩, s)
  | .getPathConfiguration type path len, s =>
    let ((err, path, len), s) := mfrGetPathConfiguration env vendor type path len s
    (⟨err, .getPathConfiguration type path len⟩, s)
  | .getDFAST2Data params, s =>
    let (err, s) := mfrGetDFAST2Data env vendor params s
    (⟨err, .getDFAST2Data params⟩, s)

end Client

def calls {α ρ τ : Type} (call : α → τ → ρ × τ) : List α → τ → List ρ × τ
  | [], s => ([], s)
  | a :: as, s =>
    let (reply, s) := call a s
    let (replies, s) := calls call as s
    (reply :: replies, s)

def remotes (vendor : Vendor z σ) : List (Env z × Call z) → Server σ → List (Reply z) × Server σ :=
  calls fun a => remote a.1 vendor a.2

section Purpose

/-- The library reads the version as a string, and reads nothing behind a pointer that is there
for its answer.  The length it gives is that of something in the buffer. -/
structure Documented (vendor : Vendor z σ) : Prop where
  version : ∀ day month year s, ∀ v w : Buf UInt8 z.maxStrSize, v.str 0 = w.str 0 →
    vendor.setHostFirmwareInfo ⟨v, day, month, year⟩ s =
      vendor.setHostFirmwareInfo ⟨w, day, month, year⟩ s
  progress : ∀ imageName imageType p q s,
    let r := vendor.getImageWriteProgress imageName imageType p s
    let t := vendor.getImageWriteProgress imageName imageType q s
    r.err = t.err ∧ r.state = t.state ∧ (r.err = mfrErrNone → r.out = t.out)
  path : ∀ type p q k l s,
    let r := vendor.getPathConfiguration type (some p) k s
    let t := vendor.getPathConfiguration type (some q) l s
    r.err = t.err ∧ r.state = t.state ∧ (r.err = mfrErrNone → r.out.2 = t.out.2 ∧
      r.out.1.chars.take (toSize r.out.2) = t.out.1.chars.take (toSize t.out.2) ∧
        0 < toSize r.out.2 ∧ toSize r.out.2 ≤ z.maxStrSize)

def Call.Agree : Call z → Call z → Prop
  | .getPathConfiguration type path len, .getPathConfiguration type' path' len' =>
    type = type' ∧ len = len' ∧
      (path.map fun p => p.chars.take (toSize len)) = path'.map fun p => p.chars.take (toSize len')
  | c, c' => c = c'

/-- The library is always given a place for a path. -/
def Call.placed : Call z → Call z
  | .getPathConfiguration type none len =>
    .getPathConfiguration type (some (.zeroed 0 z.maxStrSize)) len
  | c => c

def Env.Grants (env : Env z) : Prop :=
  env.mfrlibName = true ∧ env.found = true ∧ env.delivered = true ∧ env.answered = true

def Call.ofDFAST2 : Call z → Bool
  | .getDFAST2Data _ => true
  | _ => false

/-- The arguments get through: a name fits its array, a version ends in its own, there is a place
for the path.  The keys of DFAST2 never do. -/
def Call.Carried : Call z → Prop
  | .setImageWriteProgress imageName _ _ | .getImageWriteProgress imageName _ _
  | .reboot imageName => ∃ name ∈ imageName, name.1.length < maxBuf
  | .setHostFirmwareInfo firmwareInfo => firmwareInfo.firmwareVersion.Terminated 0
  | .getPathConfiguration _ path _ => path ≠ none
  | .getDFAST2Data _ => False
  | _ => True

structure Told (d r : Reply z) : Prop where
  err : r.err = mfrErrNone ∨ r.err = mfrErrGeneral
  success : r.err = mfrErrNone → d.err = mfrErrNone ∧
    (d.args.ofDFAST2 = false → d.args.Agree r.args)

/-- Every call reaches the library at most once, in order, and succeeds only if it does there. -/
inductive Follows (vendor : Vendor z σ) : List (Call z) → List (Reply z) → σ → σ → Prop
  | nil (s : σ) : Follows vendor [] [] s s
  | served {c : Call z} {cs : List (Call z)} {r : Reply z} {rs : List (Reply z)} {s s' : σ} :
      Told (direct vendor c.placed s).1 r → Follows vendor cs rs (direct vendor c.placed s).2 s' →
        Follows vendor (c :: cs) (r :: rs) s s'
  | unserved {c : Call z} {cs : List (Call z)} {r : Reply z} {rs : List (Reply z)} {s s' : σ} :
      r.err = mfrErrGeneral → Follows vendor cs rs s s' → Follows vendor (c :: cs) (r :: rs) s s'

/-- The reply of the library, but for the kind of an error and what a failure leaves. -/
structure Same (d r : Reply z) : Prop where
  err : r.err = if d.err = mfrErrNone then mfrErrNone else mfrErrGeneral
  args : d.err = mfrErrNone → d.args.Agree r.args

/-- Through the server the calls do what they do to the library, whichever it is. -/
def Faithful (cs : List (Call z)) : Prop :=
  ∀ (σ : Type) (vendor : Vendor z σ), Documented vendor →
    ∀ (as : List (Env z × Call z)) (s : Server σ), as.map Prod.snd = cs →
      (∀ a ∈ as, a.1.Grants) →
        List.Forall₂ Same (calls (direct vendor) cs s.vendor).1 (remotes vendor as s).1 ∧
          (remotes vendor as s).2.vendor = (calls (direct vendor) cs s.vendor).2

end Purpose

end IarmMgrs.MfrMgr.Remote

import RpcEmu.Lib.Masks
import Mathlib.Data.UInt
import Mathlib.Logic.Function.Basic

/-!
# The OHCI host controller

`usb_ohci.c`: the registers, and the lists of descriptors in main memory that a frame walks.

Main memory is words that an address may or may not reach.  A device is what `usb_device.h` says it is: a
state of its own, and operations whose answers fit the buffers they are given.  Three fields of the state are
records that nothing reads: the descriptors retired, the words that transfers wrote data to, and what passed
between the controller and its devices on endpoint 0.
-/

namespace RpcEmu.Usb

/-! ## Devices -/

/-- `UsbResult`. -/
inductive UsbResult where
  | ack | stall | nak | noDevice
  deriving DecidableEq, Repr

/-- `UsbSetup`: the eight bytes of a control request. -/
structure UsbSetup where
  requestType : UInt8
  request : UInt8
  value : UInt16
  index : UInt16
  length : UInt16
  deriving DecidableEq, Repr

/-- `UsbDeviceOps`.  An operation that fills a buffer gives the bytes it supplies, never more than the buffer
holds. -/
structure UsbDeviceOps (D : Type) where
  reset : Option (D → D)
  control : D → UsbSetup → List UInt8 → UsbResult × List UInt8 × D
  read : Option (D → UInt32 → Nat → UsbResult × List UInt8 × D)
  write : Option (D → UInt32 → List UInt8 → UsbResult × D)
  control_fits : ∀ d setup data, (control d setup data).2.1.length ≤ data.length
  read_fits : ∀ f ∈ read, ∀ d endpoint len, (f d endpoint len).2.1.length ≤ len

/-- `UsbDevice`. -/
structure UsbDevice (D : Type) where
  ops : UsbDeviceOps D
  address : UInt8
  lowSpeed : Bool
  state : D

/-- `usb_host_poll` and `usb_host_device_gone`: what the host does to a device between frames, and whether it
has left. -/
structure UsbHost (D : Type) where
  poll : D → D
  gone : D → Bool

def UsbHost.steady {D : Type} : UsbHost D := ⟨fun d => d, fun _ => false⟩

def usbDirIn : UInt8 := 0x80
def usbTypeMask : UInt8 := 0x60
def usbTypeStandard : UInt8 := 0x00
def usbReqSetAddress : UInt8 := 0x05

/-! ## The controller -/

/-- What passes between the controller and the device in a port on endpoint 0.  A device that is plugged in
or reset is fresh. -/
inductive Exchange where
  | fresh (port : Fin 4)
  | setup (port : Fin 4) (request : UsbSetup)
  | control (port : Fin 4) (request : UsbSetup) (result : UsbResult)
  | address (port : Fin 4) (address : UInt8)
  deriving DecidableEq, Repr

/-- Main memory as `mem_phys_read32` and `mem_phys_write32` give it: the word an address reaches, and what
is read where there is none to write. -/
structure Ram (κ : Type) where
  cell : UInt32 → Option κ
  otherwise : UInt32 → UInt32

def allRam : Ram UInt32 := ⟨some, fun _ => 0⟩

/-- `Ohci`, with the main memory it works in.  `retired`, `stored` and `talk` are records, newest last,
newest first and newest last. -/
structure Ohci (κ D : Type) where
  control : UInt32
  commandStatus : UInt32
  interruptStatus : UInt32
  interruptEnable : UInt32
  hcca : UInt32
  periodCurrentEd : UInt32
  controlHeadEd : UInt32
  controlCurrentEd : UInt32
  bulkHeadEd : UInt32
  bulkCurrentEd : UInt32
  doneHead : UInt32
  fmInterval : UInt32
  fmRemaining : UInt32
  fmNumber : UInt32
  periodicStart : UInt32
  lsThreshold : UInt32
  rhDescriptorA : UInt32
  rhDescriptorB : UInt32
  rhStatus : UInt32
  rhPortStatus : Fin 4 → UInt32
  portDevice : Fin 4 → Option (UsbDevice D)
  setup : UsbSetup
  setupValid : Bool
  setupTaken : Nat
  addressPending : Bool
  pendingAddress : UInt8
  controlData : List UInt8
  controlLength : Nat
  controlDone : Bool
  doneQueue : UInt32
  donePending : Bool
  rhDebounce : Nat
  irqAsserted : Bool
  mem : κ → UInt32
  retired : List UInt32
  stored : List UInt32
  talk : List Exchange

def ohciPle : UInt32 := 0x00000004
def ohciCle : UInt32 := 0x00000010
def ohciBle : UInt32 := 0x00000020
def ohciHcfsMask : UInt32 := 0x000000c0
def ohciHcfsReset : UInt32 := 0x00000000
def ohciHcfsOperational : UInt32 := 0x00000080
def ohciHcr : UInt32 := 0x00000001
def ohciClf : UInt32 := 0x00000002
def ohciBlf : UInt32 := 0x00000004
def ohciOcr : UInt32 := 0x00000008
def ohciWdh : UInt32 := 0x00000002
def ohciSf : UInt32 := 0x00000004
def ohciRhsc : UInt32 := 0x00000040
def ohciMie : UInt32 := 0x80000000
def ohciAllIntrs : UInt32 := 0x4000007f

def edFlags : UInt32 := 0
def edTailP : UInt32 := 4
def edHeadP : UInt32 := 8
def edNextEd : UInt32 := 12
def edDirMask : UInt32 := 0x00001800
def edDirOut : UInt32 := 0x00000800
def edDirIn : UInt32 := 0x00001000
def edSkip : UInt32 := 0x00004000
def edFormatIso : UInt32 := 0x00008000
def edHalted : UInt32 := 0x00000001
def edToggleCarry : UInt32 := 0x00000002
def edHeadMask : UInt32 := 0xfffffffc

/-- `ED_FA`. -/
def edFa (f : UInt32) : UInt32 := f &&& 0x7f

/-- `ED_EN`. -/
def edEn (f : UInt32) : UInt32 := (f >>> 7) &&& 0xf

def tdFlags : UInt32 := 0
def tdCbp : UInt32 := 4
def tdNextTd : UInt32 := 8
def tdBe : UInt32 := 12
def tdRounding : UInt32 := 0x00040000
def tdDpMask : UInt32 := 0x00180000
def tdDpSetup : UInt32 := 0x00000000
def tdDpOut : UInt32 := 0x00080000
def tdDpIn : UInt32 := 0x00100000

def itdFlags : UInt32 := 0
def itdBp0 : UInt32 := 4
def itdBe : UInt32 := 12
def itdPsw : UInt32 := 16

/-- `ITD_SF`. -/
def itdSf (f : UInt32) : UInt32 := f &&& 0xffff

/-- `ITD_FC`: held as the count less one. -/
def itdFc (f : UInt32) : UInt32 := ((f >>> 24) &&& 7) + 1

def pswOffsetMask : UInt16 := 0x1fff
def pswPageSelect : UInt32 := 0x1000
def pswLengthMask : UInt32 := 0x0fff

def ccNoError : UInt32 := 0x0
def ccStall : UInt32 := 0x4
def ccDeviceNotResponding : UInt32 := 0x5
def ccDataOverrun : UInt32 := 0x8
def ccDataUnderrun : UInt32 := 0x9
def ccNotAccessed : UInt32 := 0xe
def ccNotAccessedMask : UInt32 := 0xe

def rhConnected : UInt32 := 0x00000001
def rhEnabled : UInt32 := 0x00000002
def rhSuspended : UInt32 := 0x00000004
def rhReset : UInt32 := 0x00000010
def rhPowered : UInt32 := 0x00000100
def rhLowSpeed : UInt32 := 0x00000200
def rhConnectChange : UInt32 := 0x00010000
def rhEnableChange : UInt32 := 0x00020000
def rhSuspendChange : UInt32 := 0x00040000
def rhResetChange : UInt32 := 0x00100000
def rhsLps : UInt32 := 0x00000001
def rhsDrwe : UInt32 := 0x00008000
def rhsLpsc : UInt32 := 0x00010000
def rhsCrwe : UInt32 := 0x80000000

def hccaInterruptTable : UInt32 := 0x00
def hccaFrameNumber : UInt32 := 0x80
def hccaDoneHead : UInt32 := 0x84

/-- `OHCI_MAX_TRANSFER`: two pages. -/
def ohciMaxTransfer : Nat := 8192

/-- `ITD_PACKET_MAX`. -/
def itdPacketMax : UInt32 := 4096

/-- `RH_DEBOUNCE_FRAMES`. -/
def rhDebounceFrames : Nat := 100

section Functions

variable {κ D : Type} [DecidableEq κ] (ram : Ram κ)

/-! ## Interrupts -/

/-- `usb_ohci_update_irq`. -/
def usbOhciUpdateIrq (o : Ohci κ D) : Ohci κ D :=
  { o with
    irqAsserted := o.interruptEnable &&& ohciMie != 0 &&
      o.interruptStatus &&& o.interruptEnable &&& ohciAllIntrs != 0 }

/-- `usb_ohci_raise`. -/
def usbOhciRaise (o : Ohci κ D) (sources : UInt32) : Ohci κ D :=
  usbOhciUpdateIrq { o with interruptStatus := o.interruptStatus ||| sources }

/-! ## Guest memory -/

/-- `ohci_read32`. -/
def ohciRead32 (o : Ohci κ D) (addr : UInt32) : UInt32 :=
  match ram.cell addr with
  | some c => o.mem c
  | none => ram.otherwise addr

/-- `ohci_write32`. -/
def ohciWrite32 (o : Ohci κ D) (addr val : UInt32) : Ohci κ D :=
  match ram.cell addr with
  | some c => { o with mem := Function.update o.mem c val }
  | none => o

/-- `ohci_read_bytes`. -/
def ohciReadBytes (o : Ohci κ D) (addr : UInt32) : Nat → List UInt8
  | 0 => []
  | len + 1 =>
    (ohciRead32 ram o (addr &&& ~~~3) >>> ((addr &&& 3) * 8)).toUInt8 :: ohciReadBytes o (addr + 1) len

/-- A byte of `ohci_write_bytes`. -/
def ohciWriteByte (o : Ohci κ D) (addr : UInt32) (byte : UInt8) : Ohci κ D :=
  let at' := addr &&& ~~~3
  let shift := (addr &&& 3) * 8
  let word := ohciRead32 ram o at' &&& ~~~(0xff <<< shift)
  { ohciWrite32 ram o at' (word ||| byte.toUInt32 <<< shift) with stored := at' :: o.stored }

/-- `ohci_write_bytes`. -/
def ohciWriteBytes (o : Ohci κ D) (addr : UInt32) : List UInt8 → Ohci κ D
  | [] => o
  | byte :: data => ohciWriteBytes (ohciWriteByte ram o addr byte) (addr + 1) data

/-! ## The root hub -/

/-- `usb_ohci_root_hub_changed`. -/
def usbOhciRootHubChanged (o : Ohci κ D) : Ohci κ D :=
  if ∃ port, o.rhPortStatus port &&& 0xffff0000 ≠ 0 then usbOhciRaise o ohciRhsc
  else usbOhciUpdateIrq { o with interruptStatus := o.interruptStatus &&& ~~~ohciRhsc }

/-- The device in a port, as `f` leaves it. -/
def Ohci.mapDevice (o : Ohci κ D) (port : Fin 4) (f : UsbDevice D → UsbDevice D) : Ohci κ D :=
  { o with portDevice := Function.update o.portDevice port ((o.portDevice port).map f) }

/-- `usb_ohci_attach`, into a port that has nothing in it. -/
def usbOhciAttach (o : Ohci κ D) (port : Fin 4) (dev : UsbDevice D) : Ohci κ D :=
  if (o.portDevice port).isSome then o
  else
    let status := o.rhPortStatus port ||| (rhConnected ||| rhConnectChange)
    { o with
      portDevice := Function.update o.portDevice port (some { dev with address := 0 })
      rhPortStatus := Function.update o.rhPortStatus port
        (if dev.lowSpeed then status ||| rhLowSpeed else status)
      rhDebounce := rhDebounceFrames
      talk := o.talk ++ [.fresh port] }

/-- `usb_ohci_detach`. -/
def usbOhciDetach (o : Ohci κ D) (port : Fin 4) : Ohci κ D :=
  match o.portDevice port with
  | none => o
  | some _ =>
    let status := o.rhPortStatus port &&& ~~~(rhConnected ||| rhEnabled ||| rhLowSpeed)
    usbOhciRootHubChanged { o with
      portDevice := Function.update o.portDevice port none
      rhPortStatus := Function.update o.rhPortStatus port (status ||| (rhConnectChange ||| rhEnableChange)) }

def Ohci.answers (o : Ohci κ D) (address : UInt32) (port : Fin 4) : Bool :=
  match o.portDevice port with
  | some dev => o.rhPortStatus port &&& rhEnabled != 0 && dev.address.toUInt32 == address
  | none => false

/-- `usb_device_at_address`: the port of the first device that does. -/
def usbDeviceAtAddress (o : Ohci κ D) (address : UInt32) : Option (Fin 4 × UsbDevice D) :=
  ((List.finRange 4).find? (o.answers address)).bind fun port => (o.portDevice port).map (port, ·)

/-! ## Transfer descriptors -/

/-- `td_length`. -/
def tdLength (cbp be : UInt32) : UInt32 :=
  if cbp = 0 then 0
  else if cbp &&& ~~~0xfff = be &&& ~~~0xfff then be - cbp + 1
  else 0x1000 - (cbp &&& 0xfff) + (be &&& 0xfff) + 1

def tdFirst (cbp be : UInt32) (len : Nat) : Nat :=
  if cbp &&& ~~~0xfff = be &&& ~~~0xfff then len else min (0x1000 - (cbp &&& 0xfff)).toNat len

/-- `td_buffer`, reading. -/
def tdBufferRead (o : Ohci κ D) (cbp be : UInt32) (len : Nat) : List UInt8 :=
  let head := tdFirst cbp be len
  ohciReadBytes ram o cbp head ++ ohciReadBytes ram o (be &&& ~~~0xfff) (len - head)

/-- `td_buffer`, writing. -/
def tdBufferWrite (o : Ohci κ D) (cbp be : UInt32) (data : List UInt8) : Ohci κ D :=
  let head := tdFirst cbp be data.length
  ohciWriteBytes ram (ohciWriteBytes ram o cbp (data.take head)) (be &&& ~~~0xfff) (data.drop head)

/-- `td_retire`. -/
def tdRetire (o : Ohci κ D) (td cc : UInt32) : Ohci κ D :=
  let flags := ohciRead32 ram o (td + tdFlags) &&& 0x0fffffff
  let o := ohciWrite32 ram o (td + tdFlags) (flags ||| cc <<< 28)
  let o := ohciWrite32 ram o (td + tdNextTd) o.doneQueue
  { o with doneQueue := td, donePending := true, retired := o.retired ++ [td] }

/-- `td_fail`. -/
def tdFail (o : Ohci κ D) (ed td cc : UInt32) : Ohci κ D :=
  let o := tdRetire ram o td cc
  ohciWrite32 ram o (ed + edHeadP) (ohciRead32 ram o (ed + edHeadP) ||| edHalted)

/-- `ohci.setup`, from the eight bytes of a SETUP. -/
def UsbSetup.ofBytes (s : List UInt8) : UsbSetup where
  requestType := s.getD 0 0
  request := s.getD 1 0
  value := (s.getD 2 0).toUInt16 ||| (s.getD 3 0).toUInt16 <<< 8
  index := (s.getD 4 0).toUInt16 ||| (s.getD 5 0).toUInt16 <<< 8
  length := (s.getD 6 0).toUInt16 ||| (s.getD 7 0).toUInt16 <<< 8

def UsbSetup.isSetAddress (s : UsbSetup) : Bool :=
  s.requestType &&& usbTypeMask == usbTypeStandard && s.request == usbReqSetAddress

def UsbSetup.newAddress (s : UsbSetup) : UInt8 := (s.value &&& 0x7f).toUInt8

def UsbSetup.isIn (s : UsbSetup) : Bool := s.requestType &&& usbDirIn != 0

def setupStage (o : Ohci κ D) (port : Fin 4) (setup : UsbSetup) : Ohci κ D :=
  let o := if setup.isSetAddress then
      { o with setup, pendingAddress := setup.newAddress, addressPending := true, setupValid := false }
    else { o with setup, setupValid := true }
  { o with setupTaken := 0, controlLength := 0, controlDone := false, talk := o.talk ++ [.setup port setup] }

/-- `dev->ops->control`, with the first `len` bytes of the buffer: what it answers, how much it supplies,
and what it leaves. -/
def callControl (o : Ohci κ D) (port : Fin 4) (dev : UsbDevice D) (len : Nat) :
    UsbResult × Nat × Ohci κ D :=
  let (result, answer, state) := dev.ops.control dev.state o.setup (o.controlData.take len)
  (result, answer.length,
    { o.mapDevice port (fun dev => { dev with state }) with
      controlData := answer ++ o.controlData.drop answer.length
      talk := o.talk ++ [.control port o.setup result] })

def takeAddress (o : Ohci κ D) (port : Fin 4) : Ohci κ D :=
  if o.addressPending then
    { o.mapDevice port (fun dev => { dev with address := o.pendingAddress }) with
      addressPending := false, talk := o.talk ++ [.address port o.pendingAddress] }
  else o

def giveAnswer (o : Ohci κ D) (cbp be : UInt32) (want : Nat) : UsbResult × Nat × Ohci κ D :=
  let moved := min (o.controlLength - o.setupTaken) want
  let o := tdBufferWrite ram o cbp be ((o.controlData.drop o.setupTaken).take moved)
  (.ack, moved, { o with setupTaken := o.setupTaken + moved })

/-- `TD_DP_IN` on endpoint 0. -/
def controlIn (o : Ohci κ D) (port : Fin 4) (dev : UsbDevice D) (cbp be : UInt32) (want : Nat) :
    UsbResult × Nat × Ohci κ D :=
  if !o.setupValid then (.ack, 0, takeAddress o port)
  else if !o.setup.isIn then
    if o.controlDone then (.ack, 0, o)
    else
      let (result, _, o) := callControl o port dev o.setupTaken
      (result, 0, if result = .ack then { o with controlDone := true } else o)
  else if o.setupTaken = 0 then
    let (result, len, o) := callControl o port dev ohciMaxTransfer
    if result = .ack then giveAnswer ram { o with controlLength := len } cbp be want
    else (result, 0, { o with controlLength := 0 })
  else giveAnswer ram o cbp be want

/-- `TD_DP_OUT` on endpoint 0: data of a request that goes out, or the status stage of a read. -/
def controlOut (o : Ohci κ D) (cbp be : UInt32) (want : Nat) : UsbResult × Nat × Ohci κ D :=
  if o.setupValid && !o.setup.isIn && o.setup.length > 0 && !o.controlDone then
    let take := min want (ohciMaxTransfer - o.setupTaken)
    let data := tdBufferRead ram o cbp be take
    (.ack, want, { o with
      controlData := o.controlData.take o.setupTaken ++ data ++ o.controlData.drop (o.setupTaken + take)
      setupTaken := o.setupTaken + take })
  else (.ack, want, { o with setupValid := false })

/-- `TD_DP_SETUP`. -/
def runSetup (o : Ohci κ D) (port : Fin 4) (endpoint cbp be : UInt32) (want : Nat) :
    UsbResult × Nat × Ohci κ D :=
  if endpoint = 0 ∧ 8 ≤ want then
    (.ack, want, setupStage o port (UsbSetup.ofBytes (tdBufferRead ram o cbp be 8)))
  else (.stall, 0, o)

/-- `TD_DP_IN`. -/
def runIn (o : Ohci κ D) (port : Fin 4) (dev : UsbDevice D) (endpoint cbp be : UInt32) (want : Nat) :
    UsbResult × Nat × Ohci κ D :=
  if endpoint = 0 then controlIn ram o port dev cbp be want
  else
    match dev.ops.read with
    | none => (.stall, 0, o)
    | some read =>
      let (result, answer, state) := read dev.state endpoint want
      let o := o.mapDevice port fun dev => { dev with state }
      if result = .ack then (result, answer.length, tdBufferWrite ram o cbp be answer) else (result, 0, o)

/-- `TD_DP_OUT`. -/
def runOut (o : Ohci κ D) (port : Fin 4) (dev : UsbDevice D) (endpoint cbp be : UInt32) (want : Nat) :
    UsbResult × Nat × Ohci κ D :=
  if endpoint = 0 then controlOut ram o cbp be want
  else
    match dev.ops.write with
    | none => (.stall, 0, o)
    | some write =>
      let (result, state) := write dev.state endpoint (tdBufferRead ram o cbp be want)
      (result, if result = .ack then want else 0, o.mapDevice port fun dev => { dev with state })

def tdDp (flags td : UInt32) : UInt32 :=
  if flags &&& edDirMask = edDirOut then tdDpOut
  else if flags &&& edDirMask = edDirIn then tdDpIn
  else td &&& tdDpMask

def runStage (o : Ohci κ D) (port : Fin 4) (dev : UsbDevice D) (dp endpoint cbp be : UInt32) (want : Nat) :
    UsbResult × Nat × Ohci κ D :=
  if dp = tdDpSetup then runSetup ram o port endpoint cbp be want
  else if dp = tdDpIn then runIn ram o port dev endpoint cbp be want
  else if dp = tdDpOut then runOut ram o port dev endpoint cbp be want
  else (.stall, 0, o)

def resultCc : UsbResult → UInt32
  | .ack => ccNoError
  | .stall => ccStall
  | _ => ccDeviceNotResponding

def shortCc (cc flags : UInt32) (moved want : Nat) : UInt32 :=
  if moved < want ∧ cc = ccNoError ∧ flags &&& tdRounding = 0 then ccDataUnderrun else cc

def tdOutcome (o : Ohci κ D) (ed td flags cbp : UInt32) (result : UsbResult) (moved want : Nat) : Ohci κ D :=
  let o := ohciWrite32 ram o (td + tdCbp) (if want ≤ moved then 0 else cbp + UInt32.ofNat moved)
  let cc := shortCc (resultCc result) flags moved want
  if cc ≠ ccNoError then tdFail ram o ed td cc else tdRetire ram o td cc

/-- `ohci_run_td`: is the descriptor dealt with, and what it leaves. -/
def ohciRunTd (o : Ohci κ D) (ed flags td : UInt32) : Bool × Ohci κ D :=
  let word := ohciRead32 ram o (td + tdFlags)
  let cbp := ohciRead32 ram o (td + tdCbp)
  let be := ohciRead32 ram o (td + tdBe)
  let want := (tdLength cbp be).toNat
  match usbDeviceAtAddress o (edFa flags) with
  | none => (true, tdFail ram o ed td ccDeviceNotResponding)
  | some (port, dev) =>
    if ohciMaxTransfer < want then (true, tdFail ram o ed td ccDataUnderrun)
    else
      let (result, moved, o) := runStage ram o port dev (tdDp flags word) (edEn flags) cbp be want
      if result = .nak then (false, o)
      else (true, tdOutcome ram o ed td word cbp result moved want)

/-! ## Isochronous transfer descriptors -/

/-- `itd_psw_read`. -/
def itdPswRead (o : Ohci κ D) (itd index : UInt32) : UInt16 :=
  let word := ohciRead32 ram o (itd + itdPsw + (index &&& ~~~1) * 2)
  if index &&& 1 ≠ 0 then (word >>> 16).toUInt16 else word.toUInt16

/-- `itd_psw_write`. -/
def itdPswWrite (o : Ohci κ D) (itd index : UInt32) (val : UInt16) : Ohci κ D :=
  let at' := itd + itdPsw + (index &&& ~~~1) * 2
  let word := ohciRead32 ram o at'
  ohciWrite32 ram o at'
    (if index &&& 1 ≠ 0 then (word &&& (0x0000ffff : UInt32)) ||| val.toUInt32 <<< 16
     else (word &&& 0xffff0000) ||| val.toUInt32)

/-- `itd_address`. -/
def itdAddress (page0 page1 offset : UInt32) : UInt32 :=
  (if offset &&& pswPageSelect ≠ 0 then page1 else page0) ||| (offset &&& 0xfff)

def itdRoom (o : Ohci κ D) (itd bp0 be count index : UInt32) : UInt32 :=
  let offset := (itdPswRead ram o itd index &&& pswOffsetMask).toUInt32
  if index + 1 < count then
    let next := (itdPswRead ram o itd (index + 1) &&& pswOffsetMask).toUInt32
    if offset < next then next - offset else 0
  else
    let last := if be &&& ~~~0xfff = bp0 &&& ~~~0xfff then be &&& 0xfff else pswPageSelect ||| (be &&& 0xfff)
    if offset ≤ last then last - offset + 1 else 0

/-- A packet from the device: its condition code if it is not `cc`, and its length. -/
def itdRead (o : Ohci κ D) (port : Fin 4) (dev : UsbDevice D) (endpoint page0 page1 offset room cc : UInt32) :
    UInt32 × UInt32 × Ohci κ D :=
  match dev.ops.read with
  | none => (ccStall, 0, o)
  | some read =>
    let (result, answer, state) := read dev.state endpoint room.toNat
    let o := o.mapDevice port fun dev => { dev with state }
    match result with
    | .ack =>
      let len := min (UInt32.ofNat answer.length) room
      (cc, len, if len = 0 then o else
        tdBufferWrite ram o (itdAddress page0 page1 offset) (itdAddress page0 page1 (offset + len - 1)) answer)
    | .nak => (cc, 0, o)
    | .stall => (ccStall, 0, o)
    | .noDevice => (ccDeviceNotResponding, 0, o)

def itdWrite (o : Ohci κ D) (port : Fin 4) (dev : UsbDevice D) (endpoint page0 page1 offset room cc : UInt32) :
    UInt32 × UInt32 × Ohci κ D :=
  match dev.ops.write with
  | none => (ccStall, 0, o)
  | some write =>
    let data := tdBufferRead ram o (itdAddress page0 page1 offset) (itdAddress page0 page1 (offset + room - 1))
      room.toNat
    let (result, state) := write dev.state endpoint data
    let o := o.mapDevice port fun dev => { dev with state }
    match result with
    | .stall => (ccStall, 0, o)
    | .noDevice => (ccDeviceNotResponding, 0, o)
    | _ => (cc, room, o)

/-- `itd_run_packet`. -/
def itdRunPacket (o : Ohci κ D) (itd bp0 be count index : UInt32) (port : Fin 4) (dev : UsbDevice D)
    (endpoint : UInt32) (reading : Bool) : Ohci κ D :=
  let page0 := bp0 &&& ~~~0xfff
  let page1 := be &&& ~~~0xfff
  let offset := (itdPswRead ram o itd index &&& pswOffsetMask).toUInt32
  let asked := itdRoom ram o itd bp0 be count index
  let cc := if itdPacketMax < asked then ccDataOverrun else ccNoError
  let room := min asked itdPacketMax
  let (cc, len, o) :=
    if reading then itdRead ram o port dev endpoint page0 page1 offset room cc
    else itdWrite ram o port dev endpoint page0 page1 offset room cc
  itdPswWrite ram o itd index ((cc <<< 12) ||| (len &&& pswLengthMask)).toUInt16

/-- `itd_result`: what the first packet that went wrong reports. -/
def itdResult (o : Ohci κ D) (itd : UInt32) (count : UInt32) : UInt32 :=
  let codes := (List.range count.toNat).map fun i => (itdPswRead ram o itd (UInt32.ofNat i) >>> 12).toUInt32
  (codes.find? fun cc => cc != ccNoError && cc &&& ccNotAccessedMask != ccNotAccessed).getD ccNoError

def itdIndex (o : Ohci κ D) (flags : UInt32) : UInt32 := (o.fmNumber - itdSf flags) &&& 0xffff

/-- `ohci_run_itd`. -/
def ohciRunItd (o : Ohci κ D) (flags itd : UInt32) : Bool × Ohci κ D :=
  let word := ohciRead32 ram o (itd + itdFlags)
  let bp0 := ohciRead32 ram o (itd + itdBp0)
  let be := ohciRead32 ram o (itd + itdBe)
  let count := itdFc word
  let index := itdIndex o word
  if 0x8000 ≤ index then (false, o)
  else
    match usbDeviceAtAddress o (edFa flags) with
    | none => (true, tdRetire ram o itd ccDeviceNotResponding)
    | some (port, dev) =>
      let o := if index < count then
          itdRunPacket ram o itd bp0 be count index port dev (edEn flags) (flags &&& edDirMask != edDirOut)
        else o
      if index + 1 < count then (false, o) else (true, tdRetire ram o itd (itdResult ram o itd count))

/-! ## Endpoints and lists -/

def runDescriptor (o : Ohci κ D) (ed flags td : UInt32) : Bool × Ohci κ D :=
  if flags &&& edFormatIso ≠ 0 then ohciRunItd ram o flags td else ohciRunTd ram o ed flags td

/-- The loop of `ohci_run_ed`, with what its guard has left. -/
def runQueue (ed flags tail : UInt32) : Nat → Ohci κ D → UInt32 → Ohci κ D
  | 0, o, _ => o
  | guard + 1, o, head =>
    let td := head &&& edHeadMask
    if td = tail ∨ td = 0 then o
    else
      let tdNext := ohciRead32 ram o (td + tdNextTd) &&& edHeadMask
      match runDescriptor ram o ed flags td with
      | (false, o) => o
      | (true, o) =>
        let halted := ohciRead32 ram o (ed + edHeadP) &&& edHalted
        let head := tdNext ||| (head &&& edToggleCarry) ||| halted
        let o := ohciWrite32 ram o (ed + edHeadP) head
        if halted ≠ 0 then o else runQueue ed flags tail guard o head

/-- `ohci_run_ed`, but for the next endpoint, which it returns as it found it. -/
def ohciRunEd (o : Ohci κ D) (ed : UInt32) : Ohci κ D :=
  let flags := ohciRead32 ram o (ed + edFlags)
  let tail := ohciRead32 ram o (ed + edTailP) &&& edHeadMask
  let head := ohciRead32 ram o (ed + edHeadP)
  if flags &&& edSkip ≠ 0 ∨ head &&& edHalted ≠ 0 then o
  else runQueue ram ed flags tail 64 o head

/-- The loop of `ohci_run_list`, with what its guard has left. -/
def runEds : Nat → Ohci κ D → UInt32 → Ohci κ D
  | 0, o, _ => o
  | guard + 1, o, ed =>
    if ed = 0 then o
    else runEds guard (ohciRunEd ram o ed) (ohciRead32 ram o (ed + edNextEd) &&& edHeadMask)

/-- `ohci_run_list`. -/
def ohciRunList (o : Ohci κ D) (ed : UInt32) : Ohci κ D := runEds ram 128 o ed

/-- `ohci_writeback_done`. -/
def ohciWritebackDone (o : Ohci κ D) : Ohci κ D :=
  if !o.donePending || o.hcca = 0 || o.interruptStatus &&& ohciWdh ≠ 0 then o
  else
    let o := ohciWrite32 ram o (o.hcca + hccaDoneHead) o.doneQueue
    usbOhciRaise { o with doneHead := o.doneQueue, doneQueue := 0, donePending := false } ohciWdh

/-! ## Frames -/

variable (host : UsbHost D)

def unplugGone (o : Ohci κ D) : Ohci κ D :=
  (List.finRange 4).foldl (fun o port => match o.portDevice port with
    | some dev => if host.gone dev.state then usbOhciDetach o port else o
    | none => o) o

def startFrame (o : Ohci κ D) : Ohci κ D :=
  let o := { o with
    fmNumber := (o.fmNumber + 1) &&& 0xffff
    fmRemaining := o.fmInterval &&& 0x3fff
    portDevice := fun port => (o.portDevice port).map fun dev => { dev with state := host.poll dev.state } }
  unplugGone host o

def Ohci.operational (o : Ohci κ D) : Bool := o.control &&& ohciHcfsMask == ohciHcfsOperational

def settle (o : Ohci κ D) : Ohci κ D :=
  if 0 < o.rhDebounce then
    let o := { o with rhDebounce := o.rhDebounce - 1 }
    if o.rhDebounce = 0 then usbOhciRootHubChanged o else o
  else o

def tellFrame (o : Ohci κ D) : Ohci κ D :=
  if o.hcca ≠ 0 then ohciWrite32 ram o (o.hcca + hccaFrameNumber) o.fmNumber else o

def runPeriodic (o : Ohci κ D) : Ohci κ D :=
  if o.control &&& ohciPle ≠ 0 ∧ o.hcca ≠ 0 then
    ohciRunList ram o (ohciRead32 ram o (o.hcca + hccaInterruptTable + (o.fmNumber &&& 31) * 4) &&& edHeadMask)
  else o

def runControlList (o : Ohci κ D) : Ohci κ D :=
  if o.control &&& ohciCle ≠ 0 ∧ o.commandStatus &&& ohciClf ≠ 0 then
    ohciRunList ram o (o.controlHeadEd &&& edHeadMask)
  else o

def runBulkList (o : Ohci κ D) : Ohci κ D :=
  if o.control &&& ohciBle ≠ 0 ∧ o.commandStatus &&& ohciBlf ≠ 0 then
    ohciRunList ram o (o.bulkHeadEd &&& edHeadMask)
  else o

/-- `usb_ohci_frame`. -/
def usbOhciFrame (o : Ohci κ D) : Ohci κ D :=
  let o := startFrame host o
  if !o.operational then o
  else
    let o := tellFrame ram (settle o)
    let o := runBulkList ram (runControlList ram (runPeriodic ram o))
    usbOhciRaise (ohciWritebackDone ram o) ohciSf

/-! ## The register file -/

/-- `SetPortReset`: the device goes back to address 0, and no request is in progress any more. -/
def resetDevice (o : Ohci κ D) (port : Fin 4) : Ohci κ D :=
  { o.mapDevice port (fun dev =>
      { dev with address := 0, state := (dev.ops.reset.map fun reset => reset dev.state).getD dev.state }) with
    setupValid := false
    addressPending := false
    talk := o.talk ++ [.fresh port] }

def portStatus (status val : UInt32) : UInt32 :=
  let connected := status &&& rhConnected ≠ 0
  let status := if val &&& 0x001 ≠ 0 ∧ status &&& rhEnabled ≠ 0 then status &&& ~~~rhEnabled ||| rhEnableChange
    else status
  let status := if val &&& 0x002 ≠ 0 ∧ connected then status ||| rhEnabled else status
  let status := if val &&& 0x004 ≠ 0 ∧ connected then status ||| rhSuspended else status
  let status := if val &&& 0x008 ≠ 0 ∧ status &&& rhSuspended ≠ 0 then
      status &&& ~~~rhSuspended ||| rhSuspendChange
    else status
  let status := if val &&& 0x010 ≠ 0 ∧ connected then
      status &&& ~~~rhReset ||| (rhEnabled ||| rhResetChange)
    else status
  let status := if val &&& 0x100 ≠ 0 then status ||| rhPowered else status
  let status := if val &&& 0x200 ≠ 0 then status &&& ~~~rhPowered else status
  status &&& ~~~(val &&& 0xffff0000)

/-- `usb_ohci_write_port`. -/
def usbOhciWritePort (o : Ohci κ D) (port : Fin 4) (val : UInt32) : Ohci κ D :=
  let status := o.rhPortStatus port
  let o := if val &&& 0x010 ≠ 0 ∧ status &&& rhConnected ≠ 0 then resetDevice o port else o
  let o := { o with rhPortStatus := Function.update o.rhPortStatus port (portStatus status val) }
  if val &&& 0xffff0000 ≠ 0 then usbOhciRootHubChanged o else o

/-- `usb_ohci_reset`. -/
def usbOhciReset (o : Ohci κ D) : Ohci κ D :=
  usbOhciUpdateIrq { o with
    control := ohciHcfsReset
    commandStatus := 0
    interruptStatus := 0
    interruptEnable := 0
    hcca := 0
    periodCurrentEd := 0
    controlHeadEd := 0
    controlCurrentEd := 0
    bulkHeadEd := 0
    bulkCurrentEd := 0
    doneHead := 0
    doneQueue := 0
    donePending := false
    fmInterval := 0x2edf
    fmRemaining := 0
    periodicStart := 0x2a2f
    lsThreshold := 0x0628
    rhDescriptorA := 0x01000000 ||| 4
    rhDescriptorB := 0
    rhStatus := 0
    setupValid := false
    addressPending := false
    setupTaken := 0
    controlLength := 0
    controlDone := false
    rhPortStatus := fun port => match o.portDevice port with
      | some dev => if dev.lowSpeed then rhConnected ||| rhConnectChange ||| rhLowSpeed
          else rhConnected ||| rhConnectChange
      | none => 0
    rhDebounce := rhDebounceFrames }

/-- `usb_ohci_init`: nothing is plugged in. -/
def usbOhciInit (mem : κ → UInt32) : Ohci κ D :=
  usbOhciReset {
    control := 0, commandStatus := 0, interruptStatus := 0, interruptEnable := 0, hcca := 0
    periodCurrentEd := 0, controlHeadEd := 0, controlCurrentEd := 0, bulkHeadEd := 0, bulkCurrentEd := 0
    doneHead := 0, fmInterval := 0, fmRemaining := 0, fmNumber := 0, periodicStart := 0, lsThreshold := 0
    rhDescriptorA := 0, rhDescriptorB := 0, rhStatus := 0, rhPortStatus := fun _ => 0
    portDevice := fun _ => none, setup := ⟨0, 0, 0, 0, 0⟩, setupValid := false, setupTaken := 0
    addressPending := false, pendingAddress := 0, controlData := List.replicate ohciMaxTransfer 0
    controlLength := 0, controlDone := false, doneQueue := 0, donePending := false, rhDebounce := 0
    irqAsserted := false, mem, retired := [], stored := [], talk := [] }

/-- `HcRhStatus`: requests to all the ports. -/
def writeRhStatus (o : Ohci κ D) (val : UInt32) : Ohci κ D :=
  let o := if val &&& rhsLpsc ≠ 0 then
      { o with rhPortStatus := fun port => o.rhPortStatus port ||| rhPowered } else o
  let o := if val &&& rhsLps ≠ 0 then
      { o with rhPortStatus := fun port => o.rhPortStatus port &&& ~~~rhPowered } else o
  let o := if val &&& rhsDrwe ≠ 0 then { o with rhStatus := o.rhStatus ||| rhsDrwe } else o
  if val &&& rhsCrwe ≠ 0 then { o with rhStatus := o.rhStatus &&& ~~~rhsDrwe } else o

inductive Reg where
  | control | commandStatus | interruptStatus | interruptEnable | interruptDisable | hcca
  | periodCurrentEd | controlHeadEd | controlCurrentEd | bulkHeadEd | bulkCurrentEd | doneHead
  | fmInterval | fmNumber | periodicStart | lsThreshold | rhDescriptorA | rhDescriptorB | rhStatus
  | port (port : Fin 4)
  | unused
  deriving DecidableEq, Repr

local instance ports_ne_zero : NeZero 4 := ⟨by decide⟩

def Reg.ofOffset (offset : UInt32) : Reg :=
  if offset = 0x04 then .control
  else if offset = 0x08 then .commandStatus
  else if offset = 0x0c then .interruptStatus
  else if offset = 0x10 then .interruptEnable
  else if offset = 0x14 then .interruptDisable
  else if offset = 0x18 then .hcca
  else if offset = 0x1c then .periodCurrentEd
  else if offset = 0x20 then .controlHeadEd
  else if offset = 0x24 then .controlCurrentEd
  else if offset = 0x28 then .bulkHeadEd
  else if offset = 0x2c then .bulkCurrentEd
  else if offset = 0x30 then .doneHead
  else if offset = 0x34 then .fmInterval
  else if offset = 0x3c then .fmNumber
  else if offset = 0x40 then .periodicStart
  else if offset = 0x44 then .lsThreshold
  else if offset = 0x48 then .rhDescriptorA
  else if offset = 0x4c then .rhDescriptorB
  else if offset = 0x50 then .rhStatus
  else if 0x54 ≤ offset ∧ offset < 0x64 then .port (Fin.ofNat 4 ((offset - 0x54) / 4).toNat)
  else .unused

/-- `usb_ohci_write`. -/
def usbOhciWrite (o : Ohci κ D) (offset val : UInt32) : Ohci κ D :=
  match Reg.ofOffset offset with
  | .port port => usbOhciWritePort o port val
  | .control => { o with control := val }
  | .commandStatus =>
    if val &&& ohciHcr ≠ 0 then usbOhciReset o
    else { o with commandStatus := o.commandStatus ||| (val &&& (ohciClf ||| ohciBlf ||| ohciOcr)) }
  | .interruptStatus =>
    let o := { o with interruptStatus := o.interruptStatus &&& ~~~val }
    usbOhciUpdateIrq (if val &&& ohciWdh ≠ 0 then { o with doneHead := 0 } else o)
  | .interruptEnable => usbOhciUpdateIrq { o with interruptEnable := o.interruptEnable ||| val }
  | .interruptDisable => usbOhciUpdateIrq { o with interruptEnable := o.interruptEnable &&& ~~~val }
  | .hcca => { o with hcca := val &&& ~~~0xff }
  | .periodCurrentEd => { o with periodCurrentEd := val }
  | .controlHeadEd => { o with controlHeadEd := val }
  | .controlCurrentEd => { o with controlCurrentEd := val }
  | .bulkHeadEd => { o with bulkHeadEd := val }
  | .bulkCurrentEd => { o with bulkCurrentEd := val }
  | .doneHead => { o with doneHead := val }
  | .fmInterval => { o with fmInterval := val }
  | .fmNumber => { o with fmNumber := val &&& 0xffff }
  | .periodicStart => { o with periodicStart := val }
  | .lsThreshold => { o with lsThreshold := val }
  | .rhDescriptorA => { o with rhDescriptorA := (val &&& 0xffffff00) ||| 4 }
  | .rhDescriptorB => { o with rhDescriptorB := val }
  | .rhStatus => writeRhStatus o val
  | .unused => o

end Functions

end RpcEmu.Usb

import RpcEmu.Usb.Ohci
import RpcEmu.Lib.Runs

/-!
# Control transfers

A control transfer is a SETUP, then data, then a status stage, each a descriptor of its own that a NAK may
hold up for any number of frames.  The controller keeps one request in mind, whoever it is for.

`frame_inv` carries a step over a frame, whatever its lists, and `proper_of_inTurn` says that a run whose
descriptors all come in their turn is a proper one.  `not_proper` is a run of two devices that is not.
-/

namespace RpcEmu.Usb

open Runs

/-! ## What the devices have been told -/

/-- What the device in a port has been told: the request its last SETUP carried, how that was answered last,
and the address it was sent and has not taken. -/
structure Line where
  request : Option UsbSetup
  answer : Option UsbResult
  newAddress : Option UInt8
  deriving DecidableEq

structure Heard where
  line : Fin 4 → Line
  owner : Option (Fin 4)
  addressOwner : Option (Fin 4)

def nothingHeard : Heard := ⟨fun _ => ⟨none, none, none⟩, none, none⟩

def hear (k : Heard) : Exchange → Heard
  | .fresh port => {
      line := Function.update k.line port ⟨none, none, none⟩
      owner := if k.owner = some port then none else k.owner
      addressOwner := if k.addressOwner = some port then none else k.addressOwner }
  | .setup port s => {
      line := Function.update k.line port
        ⟨some s, none, if s.isSetAddress then some s.newAddress else (k.line port).newAddress⟩
      owner := some port
      addressOwner := if s.isSetAddress then some port else k.addressOwner }
  | .control port _ result => {
      k with line := Function.update k.line port { k.line port with answer := some result } }
  | .address port _ => { k with line := Function.update k.line port { k.line port with newAddress := none } }

/-- A request is passed to the device that was sent it, until it is answered; an address is taken by the
device that was sent it. -/
def Proper (k : Heard) : Exchange → Prop
  | .control port s _ =>
    (k.line port).request = some s ∧ ((k.line port).answer = none ∨ (k.line port).answer = some .nak)
  | .address port a => (k.line port).newAddress = some a
  | _ => True

instance (k : Heard) (x : Exchange) : Decidable (Proper k x) := by
  cases x <;> unfold Proper <;> infer_instance

def heard (talk : List Exchange) : Heard := exec hear nothingHeard talk

/-- Every exchange of the talk is proper. -/
def ProperTalk (talk : List Exchange) : Prop := Along hear Proper nothingHeard talk

instance (talk : List Exchange) : Decidable (ProperTalk talk) :=
  inferInstanceAs (Decidable (Along hear Proper nothingHeard talk))

lemma heard_concat (talk : List Exchange) (x : Exchange) : heard (talk ++ [x]) = hear (heard talk) x := by
  rw [heard, exec_append]
  rfl

lemma properTalk_concat {talk : List Exchange} {x : Exchange} :
    ProperTalk (talk ++ [x]) ↔ ProperTalk talk ∧ Proper (heard talk) x := by
  rw [ProperTalk, along_append, along_cons]
  exact and_congr_right fun _ => and_iff_left (along_nil _)

section Controller

variable {κ D : Type}

structure Transfer where
  setup : UsbSetup
  setupValid : Bool
  addressPending : Bool
  pendingAddress : UInt8
  controlDone : Bool
  talk : List Exchange

def Ohci.transfer (o : Ohci κ D) : Transfer where
  setup := o.setup
  setupValid := o.setupValid
  addressPending := o.addressPending
  pendingAddress := o.pendingAddress
  controlDone := o.controlDone
  talk := o.talk

structure ControlState extends Transfer where
  setupTaken : Nat
  controlData : List UInt8
  controlLength : Nat

def Ohci.kept (o : Ohci κ D) : ControlState where
  toTransfer := o.transfer
  setupTaken := o.setupTaken
  controlData := o.controlData
  controlLength := o.controlLength

lemma transfer_of_kept {o o' : Ohci κ D} (h : o'.kept = o.kept) : o'.transfer = o.transfer :=
  congrArg ControlState.toTransfer h

/-- The transfer kept is what the talk comes to. -/
structure InMind (c : Transfer) : Prop where
  proper : ProperTalk c.talk
  setup : c.setupValid → ∀ port, (heard c.talk).owner = some port →
    ((heard c.talk).line port).request = some c.setup
  done : c.setupValid → c.setup.isIn = false → ∀ port, (heard c.talk).owner = some port →
    ((heard c.talk).line port).answer = some .ack → c.controlDone
  address : c.addressPending → ∀ port, (heard c.talk).addressOwner = some port →
    ((heard c.talk).line port).newAddress = some c.pendingAddress

def Ohci.asks (o : Ohci κ D) : Bool := if o.setup.isIn then o.setupTaken == 0 else !o.controlDone

/-- An IN stage on endpoint 0 comes in its turn: where an address is pending, the device is the one the last
SET_ADDRESS went to; where the request would be passed, it is the one the last SETUP went to, which has not
refused the request, nor answered with nothing if it was asked for data. -/
def StageInTurn (o : Ohci κ D) (port : Fin 4) : Prop :=
  (o.setupValid = false → o.addressPending = true → (heard o.talk).addressOwner = some port) ∧
    (o.setupValid = true → o.asks = true → (heard o.talk).owner = some port ∧
      ((heard o.talk).line port).answer ≠ some .stall ∧ ((heard o.talk).line port).answer ≠ some .noDevice ∧
      (o.setup.isIn = true → ((heard o.talk).line port).answer ≠ some .ack))

instance (o : Ohci κ D) (port : Fin 4) : Decidable (StageInTurn o port) := by
  unfold StageInTurn
  infer_instance

variable {c : Transfer} {o o' : Ohci κ D} {port : Fin 4}

/-! ## The stages -/

lemma owner_fresh {k : Heard} {q : Fin 4} (h : (hear k (.fresh port)).owner = some q) :
    k.owner = some q ∧ q ≠ port := by
  simp only [hear] at h
  split at h
  · exact absurd h nofun
  next hne => exact ⟨h, fun heq => hne (heq ▸ h)⟩

lemma addressOwner_fresh {k : Heard} {q : Fin 4} (h : (hear k (.fresh port)).addressOwner = some q) :
    k.addressOwner = some q ∧ q ≠ port := by
  simp only [hear] at h
  split at h
  · exact absurd h nofun
  next hne => exact ⟨h, fun heq => hne (heq ▸ h)⟩

lemma line_fresh {k : Heard} {q : Fin 4} (h : q ≠ port) : (hear k (.fresh port)).line q = k.line q :=
  Function.update_of_ne h _ _

lemma InMind.fresh (h : InMind c) (port : Fin 4) : InMind { c with talk := c.talk ++ [.fresh port] } := by
  refine ⟨properTalk_concat.mpr ⟨h.proper, trivial⟩, ?_, ?_, ?_⟩
  · intro hvalid q hq
    rw [heard_concat] at hq ⊢
    obtain ⟨howner, hne⟩ := owner_fresh hq
    rw [line_fresh hne]
    exact h.setup hvalid q howner
  · intro hvalid hin q hq hack
    rw [heard_concat] at hq hack
    obtain ⟨howner, hne⟩ := owner_fresh hq
    rw [line_fresh hne] at hack
    exact h.done hvalid hin q howner hack
  · intro hpending q hq
    rw [heard_concat] at hq ⊢
    obtain ⟨howner, hne⟩ := addressOwner_fresh hq
    rw [line_fresh hne]
    exact h.address hpending q howner

lemma InMind.forget (h : InMind c) : InMind { c with setupValid := false } :=
  ⟨h.proper, nofun, nofun, h.address⟩

lemma InMind.forgetAll (h : InMind c) (done : Bool) :
    InMind { c with setupValid := false, addressPending := false, controlDone := done } :=
  ⟨h.proper, nofun, nofun, nofun⟩

lemma inMind_setupStage (h : InMind o.transfer) (port : Fin 4) (s : UsbSetup) :
    InMind (setupStage o port s).transfer := by
  have hline : (hear (heard o.talk) (.setup port s)).line port =
      ⟨some s, none, if s.isSetAddress then some s.newAddress else ((heard o.talk).line port).newAddress⟩ :=
    Function.update_self _ _ _
  have hproper : ProperTalk (o.talk ++ [.setup port s]) := properTalk_concat.mpr ⟨h.proper, trivial⟩
  unfold setupStage
  split
  next hset =>
    refine ⟨hproper, nofun, nofun, fun _ q hq => ?_⟩
    simp only [Ohci.transfer, heard_concat, hear, hset, if_true, Option.some.injEq] at hq
    subst hq
    show ((heard (o.talk ++ [.setup port s])).line port).newAddress = some s.newAddress
    rw [heard_concat, hline, if_pos hset]
  next hset =>
    refine ⟨hproper, fun _ q hq => ?_, fun _ _ q hq hack => ?_, fun hpending q hq => ?_⟩
    · simp only [Ohci.transfer, heard_concat, hear, Option.some.injEq] at hq
      subst hq
      show ((heard (o.talk ++ [.setup port s])).line port).request = some s
      rw [heard_concat, hline]
    · simp only [Ohci.transfer, heard_concat, hear, Option.some.injEq] at hq
      subst hq
      have hnone : ((heard (o.talk ++ [.setup port s])).line port).answer = none := by
        rw [heard_concat, hline]
      exact absurd (hnone.symm.trans hack) nofun
    · have howner : (heard o.talk).addressOwner = some q := by
        simpa only [Ohci.transfer, heard_concat, hear, hset, if_false, Bool.false_eq_true] using hq
      have haddress := h.address hpending q howner
      show ((heard (o.talk ++ [.setup port s])).line q).newAddress = some o.pendingAddress
      rw [heard_concat]
      by_cases hqp : q = port
      · subst hqp
        rw [hline, if_neg hset]
        exact haddress
      · rw [show (hear (heard o.talk) (.setup port s)).line q = (heard o.talk).line q from
          Function.update_of_ne hqp _ _]
        exact haddress

lemma InMind.passed (h : InMind c) (hvalid : c.setupValid) (howner : (heard c.talk).owner = some port)
    (hanswer : ((heard c.talk).line port).answer = none ∨ ((heard c.talk).line port).answer = some .nak)
    (result : UsbResult) (done : Bool) (hdone : c.setup.isIn = false → result = .ack → done = true) :
    InMind { c with controlDone := done, talk := c.talk ++ [.control port c.setup result] } := by
  have hrequest := h.setup hvalid port howner
  have hline : ∀ q, (hear (heard c.talk) (.control port c.setup result)).line q =
      if q = port then { (heard c.talk).line port with answer := some result } else (heard c.talk).line q :=
    fun q => Function.update_apply _ _ _ _
  refine ⟨properTalk_concat.mpr ⟨h.proper, hrequest, hanswer⟩, ?_, ?_, ?_⟩
  · intro _ q hq
    rw [heard_concat] at hq ⊢
    rw [hline]
    split
    · exact hrequest
    · exact h.setup hvalid q hq
  · intro _ hin q hq hack
    rw [heard_concat] at hq hack
    obtain rfl : port = q := Option.some.inj (howner.symm.trans hq)
    rw [hline, if_pos rfl] at hack
    exact hdone hin (Option.some.inj hack)
  · intro hpending q hq
    rw [heard_concat] at hq ⊢
    rw [hline]
    have haddress := h.address hpending q hq
    split
    next heq => exact heq ▸ haddress
    · exact haddress

lemma InMind.taken (h : InMind c) (hpending : c.addressPending)
    (howner : (heard c.talk).addressOwner = some port) :
    InMind { c with addressPending := false, talk := c.talk ++ [.address port c.pendingAddress] } := by
  have hline : ∀ q, (hear (heard c.talk) (.address port c.pendingAddress)).line q =
      if q = port then { (heard c.talk).line port with newAddress := none } else (heard c.talk).line q :=
    fun q => Function.update_apply _ _ _ _
  refine ⟨properTalk_concat.mpr ⟨h.proper, h.address hpending port howner⟩, ?_, ?_, nofun⟩
  · intro hvalid q hq
    rw [heard_concat] at hq ⊢
    rw [hline]
    have hrequest := h.setup hvalid q hq
    split
    next heq => exact heq ▸ hrequest
    · exact hrequest
  · intro hvalid hin q hq hack
    rw [heard_concat] at hq hack
    rw [hline] at hack
    refine h.done hvalid hin q hq ?_
    split at hack
    next heq => exact heq ▸ hack
    · exact hack

/-! ## A descriptor -/

variable (ram : Ram κ)

lemma inMind_controlOut (h : InMind o.transfer) (cbp be : UInt32) (want : Nat) :
    InMind (controlOut ram o cbp be want).2.2.transfer := by
  unfold controlOut
  split
  · exact h
  · exact h.forget

/-! ## What has nothing to do with control transfers -/

lemma kept_rootHubChanged (o : Ohci κ D) : (usbOhciRootHubChanged o).kept = o.kept := by
  unfold usbOhciRootHubChanged
  split <;> rfl

lemma kept_detach (o : Ohci κ D) (port : Fin 4) : (usbOhciDetach o port).kept = o.kept := by
  unfold usbOhciDetach
  split
  · rfl
  · exact kept_rootHubChanged _

lemma kept_startFrame (host : UsbHost D) (o : Ohci κ D) : (startFrame host o).kept = o.kept := by
  have hports : ∀ (f : Ohci κ D → Fin 4 → Ohci κ D), (∀ o port, (f o port).kept = o.kept) →
      ∀ (ports : List (Fin 4)) (o : Ohci κ D), (ports.foldl f o).kept = o.kept := by
    intro f hf ports
    induction ports with
    | nil => exact fun o => rfl
    | cons port ports ih => exact fun o => (ih _).trans (hf o port)
  refine hports _ (fun o port => ?_) _ _
  split
  · split
    · exact kept_detach o port
    · rfl
  · rfl

lemma kept_settle (o : Ohci κ D) : (settle o).kept = o.kept := by
  unfold settle
  split
  · dsimp only
    split
    · exact kept_rootHubChanged _
    · rfl
  · rfl

/-! ## The registers -/

lemma kept_writeRhStatus (o : Ohci κ D) (val : UInt32) : (writeRhStatus o val).kept = o.kept := by
  unfold writeRhStatus
  dsimp only
  repeat' split
  all_goals rfl

lemma inMind_writePort (h : InMind o.transfer) (port : Fin 4) (val : UInt32) :
    InMind (usbOhciWritePort o port val).transfer := by
  have hreset : InMind (resetDevice o port).transfer := (h.forgetAll o.controlDone).fresh port
  unfold usbOhciWritePort
  dsimp only
  split
  · rw [transfer_of_kept (kept_rootHubChanged _)]
    split
    · exact hreset
    · exact h
  · split
    · exact hreset
    · exact h

lemma inMind_write (h : InMind o.transfer) (offset val : UInt32) : InMind (usbOhciWrite o offset val).transfer := by
  unfold usbOhciWrite
  cases Reg.ofOffset offset with
  | port port => exact inMind_writePort h port val
  | commandStatus =>
    dsimp only
    split
    · exact h.forgetAll false
    · exact h
  | interruptStatus =>
    dsimp only
    split <;> exact h
  | rhStatus =>
    dsimp only
    rw [transfer_of_kept (kept_writeRhStatus o val)]
    exact h
  | _ => exact h

lemma inMind_init (mem : κ → UInt32) : InMind (usbOhciInit (D := D) mem).transfer :=
  ⟨along_nil _, nofun, nofun, nofun⟩

variable [DecidableEq κ]

@[simp] lemma kept_write (o : Ohci κ D) (a v : UInt32) : (ohciWrite32 ram o a v).kept = o.kept := by
  unfold ohciWrite32
  cases ram.cell a <;> rfl

@[simp] lemma kept_writeBytes (o : Ohci κ D) (addr : UInt32) (data : List UInt8) :
    (ohciWriteBytes ram o addr data).kept = o.kept := by
  induction data generalizing o addr with
  | nil => rfl
  | cons byte data ih =>
    rw [ohciWriteBytes, ih]
    exact kept_write ram o _ _

@[simp] lemma kept_bufferWrite (o : Ohci κ D) (cbp be : UInt32) (data : List UInt8) :
    (tdBufferWrite ram o cbp be data).kept = o.kept := by
  rw [tdBufferWrite, kept_writeBytes, kept_writeBytes]

@[simp] lemma transfer_giveAnswer (o : Ohci κ D) (cbp be : UInt32) (want : Nat) :
    (giveAnswer ram o cbp be want).2.2.transfer = o.transfer := by
  show (tdBufferWrite ram o cbp be _).transfer = o.transfer
  exact transfer_of_kept (kept_bufferWrite ram o cbp be _)

@[simp] lemma kept_retire (o : Ohci κ D) (td cc : UInt32) : (tdRetire ram o td cc).kept = o.kept := by
  unfold tdRetire
  show (ohciWrite32 ram (ohciWrite32 ram o _ _) _ _).kept = _
  rw [kept_write, kept_write]

@[simp] lemma kept_fail (o : Ohci κ D) (ed td cc : UInt32) : (tdFail ram o ed td cc).kept = o.kept := by
  unfold tdFail
  dsimp only
  rw [kept_write, kept_retire]

@[simp] lemma kept_outcome (o : Ohci κ D) (ed td flags cbp : UInt32) (result : UsbResult) (moved want : Nat) :
    (tdOutcome ram o ed td flags cbp result moved want).kept = o.kept := by
  unfold tdOutcome
  dsimp only
  split
  · rw [kept_fail, kept_write]
  · rw [kept_retire, kept_write]

/-- **An IN stage that comes in its turn.** -/
lemma inMind_controlIn (h : InMind o.transfer) (port : Fin 4) (dev : UsbDevice D) (cbp be : UInt32) (want : Nat)
    (hturn : StageInTurn o port) : InMind (controlIn ram o port dev cbp be want).2.2.transfer := by
  have hanswer : o.setupValid → o.asks → ((heard o.talk).line port).answer = none ∨
      ((heard o.talk).line port).answer = some .nak := by
    intro hvalid hasks
    obtain ⟨howner, hstall, hgone, hack⟩ := hturn.2 hvalid hasks
    cases hans : ((heard o.talk).line port).answer with
    | none => exact Or.inl rfl
    | some result =>
      cases result with
      | nak => exact Or.inr rfl
      | stall => exact absurd hans hstall
      | noDevice => exact absurd hans hgone
      | ack =>
        cases hin : o.setup.isIn with
        | true => exact absurd hans (hack hin)
        | false =>
          have hdone : o.controlDone = true := h.done hvalid hin port howner hans
          simp [Ohci.asks, hin, hdone] at hasks
  unfold controlIn
  split
  next hvalid =>
    rw [Bool.not_eq_true'] at hvalid
    unfold takeAddress
    split
    next hpending => exact h.taken hpending (hturn.1 hvalid hpending)
    · exact h
  next hvalid =>
    rw [Bool.not_eq_true', Bool.not_eq_false] at hvalid
    split
    next hin =>
      rw [Bool.not_eq_true'] at hin
      split
      · exact h
      next hdone =>
        have hasks : o.asks = true := by simp [Ohci.asks, hin, hdone]
        have hpassed := h.passed hvalid (hturn.2 hvalid hasks).1 (hanswer hvalid hasks)
          (callControl o port dev o.setupTaken).1
        dsimp only
        split
        · exact hpassed true fun _ _ => rfl
        next hnack => exact hpassed o.controlDone fun _ hack => absurd hack hnack
    next hin =>
      rw [Bool.not_eq_true', Bool.not_eq_false] at hin
      split
      next htaken =>
        have hasks : o.asks = true := by simp [Ohci.asks, hin, htaken]
        have hpassed := h.passed hvalid (hturn.2 hvalid hasks).1 (hanswer hvalid hasks)
          (callControl o port dev ohciMaxTransfer).1 o.controlDone fun hout => absurd (hin.symm.trans hout) nofun
        dsimp only
        split
        · rw [transfer_giveAnswer]
          exact hpassed
        · exact hpassed
      · rw [transfer_giveAnswer]
        exact h

/-- A stage that uses the request the controller has in mind, or the address it has pending, is for the device that it
is from, and not for a request that has been refused or answered with nothing. -/
def InTurn (o : Ohci κ D) (flags td : UInt32) : Prop :=
  flags &&& edFormatIso = 0 → edEn flags = 0 → tdDp flags (ohciRead32 ram o (td + tdFlags)) = tdDpIn →
    (tdLength (ohciRead32 ram o (td + tdCbp)) (ohciRead32 ram o (td + tdBe))).toNat ≤ ohciMaxTransfer →
    ∀ found ∈ usbDeviceAtAddress o (edFa flags), StageInTurn o found.1

instance (o : Ohci κ D) (flags td : UInt32) : Decidable (InTurn ram o flags td) := by
  unfold InTurn
  infer_instance

lemma inMind_runTd (h : InMind o.transfer) (ed flags td : UInt32) (hformat : flags &&& edFormatIso = 0)
    (hturn : InTurn ram o flags td) : InMind (ohciRunTd ram o ed flags td).2.transfer := by
  unfold ohciRunTd
  dsimp only
  cases hfound : usbDeviceAtAddress o (edFa flags) with
  | none =>
    dsimp only
    rw [transfer_of_kept (kept_fail ram _ _ _ _)]
    exact h
  | some found =>
    obtain ⟨port, dev⟩ := found
    dsimp only
    split
    · rw [transfer_of_kept (kept_fail ram _ _ _ _)]
      exact h
    next hfits =>
      have hstage : InMind (runStage ram o port dev (tdDp flags (ohciRead32 ram o (td + tdFlags))) (edEn flags)
          (ohciRead32 ram o (td + tdCbp)) (ohciRead32 ram o (td + tdBe))
          (tdLength (ohciRead32 ram o (td + tdCbp)) (ohciRead32 ram o (td + tdBe))).toNat).2.2.transfer := by
        unfold runStage
        split
        · unfold runSetup
          split
          · exact inMind_setupStage h port _
          · exact h
        split
        next hin =>
          unfold runIn
          split
          next hzero =>
            exact inMind_controlIn ram h port dev _ _ _
              (hturn hformat hzero hin (Nat.le_of_not_lt hfits) _ hfound)
          split
          · exact h
          · dsimp only
            split
            · rw [transfer_of_kept (kept_bufferWrite ram _ _ _ _)]
              exact h
            · exact h
        split
        · unfold runOut
          split
          · exact inMind_controlOut ram h _ _ _
          split
          · exact h
          · exact h
        · exact h
      split
      · exact hstage
      · rw [transfer_of_kept (kept_outcome ram _ _ _ _ _ _ _ _)]
        exact hstage

lemma kept_runPacket (o : Ohci κ D) (itd bp0 be count index : UInt32) (port : Fin 4) (dev : UsbDevice D)
    (endpoint : UInt32) (reading : Bool) :
    (itdRunPacket ram o itd bp0 be count index port dev endpoint reading).kept = o.kept := by
  have hread : ∀ page0 page1 offset room cc,
      (itdRead ram o port dev endpoint page0 page1 offset room cc).2.2.kept = o.kept := by
    intro page0 page1 offset room cc
    unfold itdRead
    split
    · rfl
    · dsimp only
      split
      · dsimp only
        split
        · rfl
        · rw [kept_bufferWrite]
          rfl
      · rfl
      · rfl
      · rfl
  have hwrite : ∀ page0 page1 offset room cc,
      (itdWrite ram o port dev endpoint page0 page1 offset room cc).2.2.kept = o.kept := by
    intro page0 page1 offset room cc
    unfold itdWrite
    split
    · rfl
    · dsimp only
      split <;> rfl
  unfold itdRunPacket itdPswWrite
  dsimp only
  rw [kept_write]
  cases reading with
  | true => exact hread _ _ _ _ _
  | false => exact hwrite _ _ _ _ _

lemma kept_runItd (o : Ohci κ D) (flags itd : UInt32) : (ohciRunItd ram o flags itd).2.kept = o.kept := by
  unfold ohciRunItd
  dsimp only
  split
  · rfl
  · cases usbDeviceAtAddress o (edFa flags) with
    | none => exact kept_retire ram o _ _
    | some found =>
      have hpacket : (if itdIndex o (ohciRead32 ram o (itd + itdFlags)) < itdFc (ohciRead32 ram o (itd + itdFlags)) then
          itdRunPacket ram o itd (ohciRead32 ram o (itd + itdBp0)) (ohciRead32 ram o (itd + itdBe))
            (itdFc (ohciRead32 ram o (itd + itdFlags))) (itdIndex o (ohciRead32 ram o (itd + itdFlags))) found.1
            found.2 (edEn flags) (flags &&& edDirMask != edDirOut)
          else o).kept = o.kept := by
        split
        · exact kept_runPacket ram o _ _ _ _ _ _ _ _ _
        · rfl
      dsimp only
      split
      · exact hpacket
      · rw [kept_retire]
        exact hpacket

/-- **The step.**  A descriptor that comes in its turn. -/
theorem inMind_runDescriptor (h : InMind o.transfer) (ed flags td : UInt32) (hturn : InTurn ram o flags td) :
    InMind (runDescriptor ram o ed flags td).2.transfer := by
  unfold runDescriptor
  split
  · rw [transfer_of_kept (kept_runItd ram _ _ _)]
    exact h
  next hformat => exact inMind_runTd ram h ed flags td (by simpa using hformat) hturn

/-! ## A frame -/

def queueVisits (ed flags tail : UInt32) : Nat → Ohci κ D → UInt32 → List (Ohci κ D × UInt32 × UInt32)
  | 0, _, _ => []
  | guard + 1, o, head =>
    let td := head &&& edHeadMask
    if td = tail ∨ td = 0 then []
    else
      let tdNext := ohciRead32 ram o (td + tdNextTd) &&& edHeadMask
      (o, flags, td) :: match runDescriptor ram o ed flags td with
        | (false, _) => []
        | (true, o) =>
          let halted := ohciRead32 ram o (ed + edHeadP) &&& edHalted
          let head := tdNext ||| (head &&& edToggleCarry) ||| halted
          if halted ≠ 0 then [] else queueVisits ed flags tail guard (ohciWrite32 ram o (ed + edHeadP) head) head

def edVisits (o : Ohci κ D) (ed : UInt32) : List (Ohci κ D × UInt32 × UInt32) :=
  let flags := ohciRead32 ram o (ed + edFlags)
  let tail := ohciRead32 ram o (ed + edTailP) &&& edHeadMask
  let head := ohciRead32 ram o (ed + edHeadP)
  if flags &&& edSkip ≠ 0 ∨ head &&& edHalted ≠ 0 then [] else queueVisits ram ed flags tail 64 o head

def listVisits : Nat → Ohci κ D → UInt32 → List (Ohci κ D × UInt32 × UInt32)
  | 0, _, _ => []
  | guard + 1, o, ed =>
    if ed = 0 then []
    else edVisits ram o ed ++
      listVisits guard (ohciRunEd ram o ed) (ohciRead32 ram o (ed + edNextEd) &&& edHeadMask)

def periodicVisits (o : Ohci κ D) : List (Ohci κ D × UInt32 × UInt32) :=
  if o.control &&& ohciPle ≠ 0 ∧ o.hcca ≠ 0 then
    listVisits ram 128 o (ohciRead32 ram o (o.hcca + hccaInterruptTable + (o.fmNumber &&& 31) * 4) &&& edHeadMask)
  else []

def controlVisits (o : Ohci κ D) : List (Ohci κ D × UInt32 × UInt32) :=
  if o.control &&& ohciCle ≠ 0 ∧ o.commandStatus &&& ohciClf ≠ 0 then
    listVisits ram 128 o (o.controlHeadEd &&& edHeadMask)
  else []

def bulkVisits (o : Ohci κ D) : List (Ohci κ D × UInt32 × UInt32) :=
  if o.control &&& ohciBle ≠ 0 ∧ o.commandStatus &&& ohciBlf ≠ 0 then
    listVisits ram 128 o (o.bulkHeadEd &&& edHeadMask)
  else []

def frameVisits (host : UsbHost D) (o : Ohci κ D) : List (Ohci κ D × UInt32 × UInt32) :=
  let o := startFrame host o
  if !o.operational then []
  else
    let o := tellFrame ram (settle o)
    let o' := runPeriodic ram o
    periodicVisits ram o ++ controlVisits ram o' ++ bulkVisits ram (runControlList ram o')

section Frame

variable {ram} {I : Ohci κ D → Prop} {P : Ohci κ D × UInt32 × UInt32 → Prop}
  (hkeep : ∀ o o' : Ohci κ D, o'.kept = o.kept → I o → I o')
  (hrun : ∀ (o : Ohci κ D) (ed flags td : UInt32), I o → P (o, flags, td) → I (runDescriptor ram o ed flags td).2)

include hkeep hrun

lemma queue_inv (ed flags tail : UInt32) (guard : Nat) (o : Ohci κ D) (head : UInt32) (h : I o)
    (hvisits : ∀ v ∈ queueVisits ram ed flags tail guard o head, P v) :
    I (runQueue ram ed flags tail guard o head) ∧ ∀ v ∈ queueVisits ram ed flags tail guard o head, I v.1 := by
  induction guard generalizing o head with
  | zero => exact ⟨h, List.forall_mem_nil _⟩
  | succ guard ih =>
    unfold queueVisits at hvisits ⊢
    unfold runQueue
    dsimp only at hvisits ⊢
    split
    · exact ⟨h, List.forall_mem_nil _⟩
    next hgo =>
      rw [if_neg hgo, List.forall_mem_cons] at hvisits
      obtain ⟨hfirst, hrest⟩ := hvisits
      have hran := hrun o ed flags (head &&& edHeadMask) h hfirst
      rw [List.forall_mem_cons]
      generalize runDescriptor ram o ed flags (head &&& edHeadMask) = out at hran hrest ⊢
      obtain ⟨done, o'⟩ := out
      cases done with
      | false => exact ⟨hran, h, List.forall_mem_nil _⟩
      | true =>
        have hwritten := fun v => hkeep o' (ohciWrite32 ram o' (ed + edHeadP) v) (kept_write ram o' _ v) hran
        dsimp only at hrest ⊢
        split
        · exact ⟨hwritten _, h, List.forall_mem_nil _⟩
        next hon =>
          rw [if_neg hon] at hrest
          obtain ⟨hend, hmid⟩ := ih _ _ (hwritten _) hrest
          exact ⟨hend, h, hmid⟩

lemma ed_inv (o : Ohci κ D) (ed : UInt32) (h : I o) (hvisits : ∀ v ∈ edVisits ram o ed, P v) :
    I (ohciRunEd ram o ed) ∧ ∀ v ∈ edVisits ram o ed, I v.1 := by
  unfold edVisits at hvisits ⊢
  unfold ohciRunEd
  dsimp only at hvisits ⊢
  split
  · exact ⟨h, List.forall_mem_nil _⟩
  next hon =>
    rw [if_neg hon] at hvisits
    exact queue_inv hkeep hrun ed _ _ 64 o _ h hvisits

lemma list_inv (guard : Nat) (o : Ohci κ D) (ed : UInt32) (h : I o)
    (hvisits : ∀ v ∈ listVisits ram guard o ed, P v) :
    I (runEds ram guard o ed) ∧ ∀ v ∈ listVisits ram guard o ed, I v.1 := by
  induction guard generalizing o ed with
  | zero => exact ⟨h, List.forall_mem_nil _⟩
  | succ guard ih =>
    unfold listVisits at hvisits ⊢
    unfold runEds
    split
    · exact ⟨h, List.forall_mem_nil _⟩
    next hon =>
      rw [if_neg hon, List.forall_mem_append] at hvisits
      obtain ⟨hran, hfirst⟩ := ed_inv hkeep hrun o ed h hvisits.1
      obtain ⟨hend, hrest⟩ := ih _ _ hran hvisits.2
      exact ⟨hend, List.forall_mem_append.mpr ⟨hfirst, hrest⟩⟩

/-- **A frame.**  What every descriptor that is run keeps, and what rests on what the controller has of a
control transfer alone, a frame keeps, and each of its descriptors is run in it. -/
theorem frame_inv (host : UsbHost D) (o : Ohci κ D) (h : I o) (hvisits : ∀ v ∈ frameVisits ram host o, P v) :
    I (usbOhciFrame ram host o) ∧ ∀ v ∈ frameVisits ram host o, I v.1 := by
  have hstart := hkeep _ _ (kept_startFrame host o) h
  unfold frameVisits at hvisits ⊢
  unfold usbOhciFrame
  dsimp only at hvisits ⊢
  split
  · exact ⟨hstart, List.forall_mem_nil _⟩
  next hop =>
    rw [if_neg hop, List.forall_mem_append, List.forall_mem_append] at hvisits
    obtain ⟨⟨hperiodic, hcontrol⟩, hbulk⟩ := hvisits
    have htold : I (tellFrame ram (settle (startFrame host o))) := by
      refine hkeep _ _ ?_ (hkeep _ _ (kept_settle _) hstart)
      unfold tellFrame
      split
      · exact kept_write ram _ _ _
      · rfl
    set o₁ := tellFrame ram (settle (startFrame host o))
    have h₁ : I (runPeriodic ram o₁) ∧ ∀ v ∈ periodicVisits ram o₁, I v.1 := by
      unfold periodicVisits at hperiodic ⊢
      unfold runPeriodic
      split
      next hple =>
        rw [if_pos hple] at hperiodic
        exact list_inv hkeep hrun 128 o₁ _ htold hperiodic
      · exact ⟨htold, List.forall_mem_nil _⟩
    set o₂ := runPeriodic ram o₁
    have h₂ : I (runControlList ram o₂) ∧ ∀ v ∈ controlVisits ram o₂, I v.1 := by
      unfold controlVisits at hcontrol ⊢
      unfold runControlList
      split
      next hcle =>
        rw [if_pos hcle] at hcontrol
        exact list_inv hkeep hrun 128 o₂ _ h₁.1 hcontrol
      · exact ⟨h₁.1, List.forall_mem_nil _⟩
    set o₃ := runControlList ram o₂
    have h₃ : I (runBulkList ram o₃) ∧ ∀ v ∈ bulkVisits ram o₃, I v.1 := by
      unfold bulkVisits at hbulk ⊢
      unfold runBulkList
      split
      next hble =>
        rw [if_pos hble] at hbulk
        exact list_inv hkeep hrun 128 o₃ _ h₂.1 hbulk
      · exact ⟨h₂.1, List.forall_mem_nil _⟩
    refine ⟨hkeep _ _ ?_ h₃.1, ?_⟩
    · show (ohciWritebackDone ram _).kept = _
      unfold ohciWritebackDone
      split
      · rfl
      · exact kept_write ram _ _ _
    · rw [List.forall_mem_append, List.forall_mem_append]
      exact ⟨⟨h₁.2, h₂.2⟩, h₃.2⟩

end Frame

/-! ## Runs -/

/-- What happens to a controller: a frame, a write to a register, a driver at work on its schedules, a device
that is plugged in or pulled out. -/
inductive Input (κ D : Type) where
  | frame
  | write (offset val : UInt32)
  | store (mem : κ → UInt32)
  | attach (port : Fin 4) (dev : UsbDevice D)
  | detach (port : Fin 4)

def inputStep (host : UsbHost D) (o : Ohci κ D) : Input κ D → Ohci κ D
  | .frame => usbOhciFrame ram host o
  | .write offset val => usbOhciWrite o offset val
  | .store mem => { o with mem }
  | .attach port dev => usbOhciAttach o port dev
  | .detach port => usbOhciDetach o port

/-- Every descriptor a frame visits comes in turn. -/
def TakesTurns (host : UsbHost D) (o : Ohci κ D) : Input κ D → Prop
  | .frame => ∀ v ∈ frameVisits ram host o, InTurn ram v.1 v.2.1 v.2.2
  | _ => True

instance (host : UsbHost D) (o : Ohci κ D) (e : Input κ D) : Decidable (TakesTurns ram host o e) := by
  cases e <;> unfold TakesTurns <;> infer_instance

/-- **The step**, whatever happens. -/
theorem inMind_inputStep (host : UsbHost D) (o : Ohci κ D) (e : Input κ D) (h : InMind o.transfer)
    (hturn : TakesTurns ram host o e) : InMind (inputStep ram host o e).transfer := by
  cases e with
  | frame =>
    exact (frame_inv (I := fun o => InMind o.transfer) (P := fun v => InTurn ram v.1 v.2.1 v.2.2)
      (fun o o' heq h => transfer_of_kept heq ▸ h)
      (fun o ed flags td h hturn => inMind_runDescriptor ram h ed flags td hturn) host o h hturn).1
  | write offset val => exact inMind_write h offset val
  | store mem => exact h
  | attach port dev =>
    show InMind (usbOhciAttach o port dev).transfer
    unfold usbOhciAttach
    split
    · exact h
    · exact h.fresh port
  | detach port =>
    show InMind (usbOhciDetach o port).transfer
    rw [transfer_of_kept (kept_detach _ _)]
    exact h

/-- **Control transfers do not mix as long as they take turns.**  In a run from the start in which every
descriptor comes in its turn, each request that is passed to a device is the last that a SETUP carried to it,
it is passed no more once it has been answered, and no device takes an address but the one it was sent. -/
theorem proper_of_inTurn (host : UsbHost D) (mem : κ → UInt32) (es : List (Input κ D))
    (hturns : Along (inputStep ram host) (TakesTurns ram host) (usbOhciInit mem) es) :
    ProperTalk (exec (inputStep ram host) (usbOhciInit mem) es).talk :=
  (exec_inv (I := fun o : Ohci κ D => InMind o.transfer) (fun o e h hturn => inMind_inputStep ram host o e h hturn)
    es _ (inMind_init mem) hturns).proper

end Controller

section Runs

def readyOps : UsbDeviceOps Unit where
  reset := none
  control := fun d _ data => (.ack, data.take 8, d)
  read := none
  write := none
  control_fits := fun _ _ data => List.length_take_le' 8 data
  read_fits := nofun

def readyDevice : UsbDevice Unit := ⟨readyOps, 0, false, ()⟩

def addressing (a : UInt32) : UInt32 :=
  if a = 0x100 then 0x00080000 else if a = 0x104 then 0x3f0 else if a = 0x108 then 0x200
  else if a = 0x204 then 0x400 else if a = 0x208 then 0x210 else if a = 0x20c then 0x407
  else if a = 0x210 then 0x00100000 else if a = 0x218 then 0x3f0
  else if a = 0x400 then 0x00010500 else 0

/-- The device at address 1 is sent GET_DESCRIPTOR, and the device at address 0, whose endpoint is next on the
list, SET_CONFIGURATION. -/
def requests (a : UInt32) : UInt32 :=
  if a = 0x100 then 0x00080001 else if a = 0x104 then 0x3f0 else if a = 0x108 then 0x200 else if a = 0x10c then 0x110
  else if a = 0x204 then 0x400 else if a = 0x208 then 0x3f0 else if a = 0x20c then 0x407
  else if a = 0x110 then 0x00080000 else if a = 0x114 then 0x3f0 else if a = 0x118 then 0x220
  else if a = 0x224 then 0x408 else if a = 0x228 then 0x3f0 else if a = 0x22c then 0x40f
  else if a = 0x400 then 0x01000680 else if a = 0x404 then 0x00120000 else if a = 0x408 then 0x00010900 else 0

def dataStage (a : UInt32) : UInt32 :=
  if a = 0x100 then 0x00080001 else if a = 0x104 then 0x3f0 else if a = 0x108 then 0x210
  else if a = 0x210 then 0x00100000 else if a = 0x214 then 0x420 else if a = 0x218 then 0x3f0
  else if a = 0x21c then 0x427 else 0

/-- The same two requests, each with the stages it takes: data and status for the first, status for the second. -/
def wholeRequests (a : UInt32) : UInt32 :=
  if a = 0x208 then 0x210 else if a = 0x228 then 0x240
  else if a = 0x210 then 0x00100000 else if a = 0x214 then 0x420 else if a = 0x218 then 0x230
  else if a = 0x21c then 0x427 else if a = 0x230 then 0x00080000 else if a = 0x238 then 0x3f0
  else if a = 0x240 then 0x00100000 else if a = 0x248 then 0x3f0 else requests a

attribute [local instance] ports_ne_zero

/-- A device is plugged into each of the first two ports, the first is given address 1, and the second is left
at address 0. -/
def twoDevices : List (Input UInt32 Unit) :=
  [.attach 0 readyDevice, .attach 1 readyDevice, .write 0x54 0x10, .store addressing, .write 0x20 0x100,
    .write 0x08 0x2, .write 0x04 0x90, .frame, .write 0x58 0x10]

/-- The two devices are sent a request each. -/
def inTurn : List (Input UInt32 Unit) := twoDevices ++ [.store wholeRequests, .frame]

lemma inTurn_talk : (exec (inputStep allRam .steady) (usbOhciInit fun _ => 0) inTurn).talk.drop 5 =
    [.fresh 1, .setup 0 ⟨0x80, 6, 0x100, 0, 0x12⟩, .control 0 ⟨0x80, 6, 0x100, 0, 0x12⟩ .ack,
      .setup 1 ⟨0, 9, 1, 0, 0⟩, .control 1 ⟨0, 9, 1, 0, 0⟩ .ack] := by
  decide +kernel

theorem proper_of_inTurn_twoDevices :
    ProperTalk (exec (inputStep allRam .steady) (usbOhciInit fun _ => 0) inTurn).talk ∧
      (exec (inputStep allRam .steady) (usbOhciInit fun _ => 0) inTurn).talk.drop 5 =
        [.fresh 1, .setup 0 ⟨0x80, 6, 0x100, 0, 0x12⟩, .control 0 ⟨0x80, 6, 0x100, 0, 0x12⟩ .ack,
          .setup 1 ⟨0, 9, 1, 0, 0⟩, .control 1 ⟨0, 9, 1, 0, 0⟩ .ack] :=
  ⟨proper_of_inTurn allRam .steady (fun _ => 0) inTurn (by decide +kernel), inTurn_talk⟩

lemma twoDevices_mix : ¬ ProperTalk (exec (inputStep allRam .steady) (usbOhciInit fun _ => 0)
    (twoDevices ++ [.store requests, .frame, .store dataStage, .frame])).talk := by
  decide +kernel

/-- **Two devices at a time.**  Both SETUPs are run before the data stage of the first: the first device is
passed the request of the second. -/
theorem not_proper :
    ¬ ∀ es : List (Input UInt32 Unit),
      ProperTalk (exec (inputStep allRam .steady) (usbOhciInit fun _ => 0) es).talk :=
  fun h => twoDevices_mix (h _)

end Runs

end RpcEmu.Usb

import RpcEmu.Usb.Ohci

/-!
# What running a descriptor writes

The controller works in the memory its descriptors are in, so what matters of a step is which words it can
have changed.  `Moves ram W o o'` says that from `o` to `o'` only the words at the addresses in `W` have, and
those that data was written to, which the record `stored` has gained.

* **One lemma a function.**  A stage of a transfer moves data and nothing else (`runStage_moves`), a packet
  the status halfwords besides (`itdRunPacket_moves`).
* **One lemma a descriptor.**  `runDescriptor_cases`: either it is left as it was, or it goes the way of
  `tdRetire` or `tdFail` after nothing but its own words have changed.
-/

namespace RpcEmu.Usb

structure Regs where
  control : UInt32
  commandStatus : UInt32
  interruptStatus : UInt32
  hcca : UInt32
  controlHeadEd : UInt32
  bulkHeadEd : UInt32
  fmNumber : UInt32

structure Done where
  doneQueue : UInt32
  donePending : Bool
  retired : List UInt32

section Moves

variable {κ D : Type} (ram : Ram κ)

def Ohci.regs (o : Ohci κ D) : Regs where
  control := o.control
  commandStatus := o.commandStatus
  interruptStatus := o.interruptStatus
  hcca := o.hcca
  controlHeadEd := o.controlHeadEd
  bulkHeadEd := o.bulkHeadEd
  fmNumber := o.fmNumber

def Ohci.done (o : Ohci κ D) : Done where
  doneQueue := o.doneQueue
  donePending := o.donePending
  retired := o.retired

/-- From one state to the other, only the words at addresses in `W` and those that data was written to have
changed. -/
structure Moves (W : UInt32 → Prop) (o o' : Ohci κ D) : Prop where
  regs : o'.regs = o.regs
  words : ∃ new, o'.stored = new ++ o.stored ∧ ∀ addr, (∀ a ∈ new, ram.cell a ≠ ram.cell addr) →
    (∀ a, W a → ram.cell a ≠ ram.cell addr) → ohciRead32 ram o' addr = ohciRead32 ram o addr

/-- Data may move, and no descriptor. -/
abbrev MovesData (o o' : Ohci κ D) : Prop := Moves ram (fun _ => False) o o' ∧ o'.done = o.done

variable {ram} {W W' : UInt32 → Prop} {o o' o'' : Ohci κ D}

lemma Moves.rfl' : Moves ram W o o := ⟨rfl, [], rfl, fun _ _ _ => rfl⟩

lemma Moves.trans (h : Moves ram W o o') (h' : Moves ram W o' o'') : Moves ram W o o'' := by
  obtain ⟨new, hnew, hwords⟩ := h.words
  obtain ⟨new', hnew', hwords'⟩ := h'.words
  refine ⟨h'.regs.trans h.regs, new' ++ new, by rw [hnew', hnew, List.append_assoc], ?_⟩
  intro addr hdata hW
  rw [hwords' addr (fun a ha => hdata a (List.mem_append_left new ha)) hW,
    hwords addr (fun a ha => hdata a (List.mem_append_right new' ha)) hW]

lemma Moves.mono (h : Moves ram W o o') (hW : ∀ a, W a → W' a) : Moves ram W' o o' := by
  obtain ⟨new, hnew, hwords⟩ := h.words
  exact ⟨h.regs, new, hnew, fun addr hdata hW' => hwords addr hdata fun a ha => hW' a (hW a ha)⟩

lemma Moves.congr (h : Moves ram W o o') (hmem : o''.mem = o'.mem) (hstored : o''.stored = o'.stored)
    (hregs : o''.regs = o'.regs) : Moves ram W o o'' := by
  obtain ⟨new, hnew, hwords⟩ := h.words
  refine ⟨hregs.trans h.regs, new, hstored.trans hnew, fun addr hdata hW => ?_⟩
  rw [← hwords addr hdata hW]
  simp only [ohciRead32, hmem]

lemma MovesData.trans (h : MovesData ram o o') (h' : MovesData ram o' o'') : MovesData ram o o'' :=
  ⟨h.1.trans h'.1, h'.2.trans h.2⟩

lemma movesData_of_eq (hmem : o'.mem = o.mem) (hstored : o'.stored = o.stored) (hregs : o'.regs = o.regs)
    (hdone : o'.done = o.done) : MovesData ram o o' := by
  refine ⟨⟨hregs, [], hstored, fun addr _ _ => ?_⟩, hdone⟩
  simp only [ohciRead32, hmem]

variable (ram)

lemma movesData_setupStage (port : Fin 4) (setup : UsbSetup) : MovesData ram o (setupStage o port setup) := by
  unfold setupStage
  split <;> exact movesData_of_eq rfl rfl rfl rfl

lemma movesData_callControl (port : Fin 4) (dev : UsbDevice D) (len : Nat) :
    MovesData ram o (callControl o port dev len).2.2 :=
  movesData_of_eq rfl rfl rfl rfl

lemma movesData_takeAddress (port : Fin 4) : MovesData ram o (takeAddress o port) := by
  unfold takeAddress
  split <;> exact movesData_of_eq rfl rfl rfl rfl

lemma movesData_controlOut (cbp be : UInt32) (want : Nat) :
    MovesData ram o (controlOut ram o cbp be want).2.2 := by
  unfold controlOut
  split <;> exact movesData_of_eq rfl rfl rfl rfl

lemma movesData_itdWrite (port : Fin 4) (dev : UsbDevice D) (endpoint page0 page1 offset room cc : UInt32) :
    MovesData ram o (itdWrite ram o port dev endpoint page0 page1 offset room cc).2.2 := by
  have hstate : ∀ f, MovesData ram o (o.mapDevice port f) := fun f => movesData_of_eq rfl rfl rfl rfl
  unfold itdWrite
  split
  · exact ⟨.rfl', rfl⟩
  · dsimp only
    split <;> exact hstate _

variable [DecidableEq κ]

/-! ## Words and bytes -/

lemma ohciRead32_write_of_ne {a addr v : UInt32} (h : ram.cell a ≠ ram.cell addr) :
    ohciRead32 ram (ohciWrite32 ram o a v) addr = ohciRead32 ram o addr := by
  unfold ohciWrite32 ohciRead32
  cases ha : ram.cell a with
  | none => rfl
  | some c =>
    cases haddr : ram.cell addr with
    | none => rfl
    | some c' =>
      have hne : c' ≠ c := fun heq => h (by rw [ha, haddr, heq])
      simp [Function.update_of_ne hne]

lemma ohciRead32_write_self {a v : UInt32} (h : ram.cell a ≠ none) :
    ohciRead32 ram (ohciWrite32 ram o a v) a = v := by
  unfold ohciWrite32 ohciRead32
  cases ha : ram.cell a with
  | none => exact absurd ha h
  | some c => simp

lemma ohciWrite32_eq (a v : UInt32) : ∃ mem, ohciWrite32 ram o a v = { o with mem } := by
  unfold ohciWrite32
  cases ram.cell a with
  | none => exact ⟨o.mem, rfl⟩
  | some c => exact ⟨_, rfl⟩

@[simp] lemma regs_write (a v : UInt32) : (ohciWrite32 ram o a v).regs = o.regs := by
  obtain ⟨mem, h⟩ := ohciWrite32_eq ram (o := o) a v
  rw [h]
  rfl

@[simp] lemma done_write (a v : UInt32) : (ohciWrite32 ram o a v).done = o.done := by
  obtain ⟨mem, h⟩ := ohciWrite32_eq ram (o := o) a v
  rw [h]
  rfl

@[simp] lemma stored_write (a v : UInt32) : (ohciWrite32 ram o a v).stored = o.stored := by
  obtain ⟨mem, h⟩ := ohciWrite32_eq ram (o := o) a v
  rw [h]

lemma moves_write {a v : UInt32} (ha : W a) : Moves ram W o (ohciWrite32 ram o a v) :=
  ⟨regs_write ram a v, [], stored_write ram a v, fun _ _ hW => ohciRead32_write_of_ne ram (hW a ha)⟩

lemma movesData_writeByte (addr : UInt32) (byte : UInt8) : MovesData ram o (ohciWriteByte ram o addr byte) := by
  unfold ohciWriteByte
  refine ⟨⟨regs_write ram _ _, [addr &&& ~~~3], by rfl, fun addr' hdata _ => ?_⟩, done_write ram _ _⟩
  exact ohciRead32_write_of_ne ram (hdata _ (List.mem_singleton.mpr rfl))

lemma movesData_writeBytes (o : Ohci κ D) (addr : UInt32) (data : List UInt8) :
    MovesData ram o (ohciWriteBytes ram o addr data) := by
  induction data generalizing o addr with
  | nil => exact ⟨.rfl', rfl⟩
  | cons byte data ih => exact (movesData_writeByte ram addr byte).trans (ih _ _)

lemma movesData_bufferWrite (o : Ohci κ D) (cbp be : UInt32) (data : List UInt8) :
    MovesData ram o (tdBufferWrite ram o cbp be data) :=
  (movesData_writeBytes ram o _ _).trans (movesData_writeBytes ram _ _ _)

/-! ## Stages of a transfer -/

lemma movesData_giveAnswer (cbp be : UInt32) (want : Nat) :
    MovesData ram o (giveAnswer ram o cbp be want).2.2 :=
  (movesData_bufferWrite ram o cbp be _).trans (movesData_of_eq rfl rfl rfl rfl)

lemma movesData_controlIn (port : Fin 4) (dev : UsbDevice D) (cbp be : UInt32) (want : Nat) :
    MovesData ram o (controlIn ram o port dev cbp be want).2.2 := by
  unfold controlIn
  split
  · exact movesData_takeAddress ram port
  split
  · split
    · exact ⟨.rfl', rfl⟩
    · rcases hc : callControl o port dev o.setupTaken with ⟨result, len, o₁⟩
      have hcall : MovesData ram o o₁ := by
        simpa only [hc] using movesData_callControl ram (o := o) port dev o.setupTaken
      dsimp only
      split
      · exact hcall.trans (movesData_of_eq rfl rfl rfl rfl)
      · exact hcall
  split
  · rcases hc : callControl o port dev ohciMaxTransfer with ⟨result, len, o₁⟩
    have hcall : MovesData ram o o₁ := by
      simpa only [hc] using movesData_callControl ram (o := o) port dev ohciMaxTransfer
    dsimp only
    have hset : ∀ n, MovesData ram o { o₁ with controlLength := n } := fun n =>
      hcall.trans (movesData_of_eq rfl rfl rfl rfl)
    split
    · exact (hset len).trans (movesData_giveAnswer ram cbp be want)
    · exact hset 0
  · exact movesData_giveAnswer ram cbp be want

lemma movesData_runStage (port : Fin 4) (dev : UsbDevice D) (dp endpoint cbp be : UInt32) (want : Nat) :
    MovesData ram o (runStage ram o port dev dp endpoint cbp be want).2.2 := by
  unfold runStage
  split
  · unfold runSetup
    split
    · exact movesData_setupStage ram port _
    · exact ⟨.rfl', rfl⟩
  split
  · unfold runIn
    split
    · exact movesData_controlIn ram port dev cbp be want
    split
    · exact ⟨.rfl', rfl⟩
    · have hstate : ∀ f, MovesData ram o (o.mapDevice port f) := fun f => movesData_of_eq rfl rfl rfl rfl
      dsimp only
      split
      · exact (hstate _).trans (movesData_bufferWrite ram _ cbp be _)
      · exact hstate _
  split
  · unfold runOut
    split
    · exact movesData_controlOut ram cbp be want
    split
    · exact ⟨.rfl', rfl⟩
    · exact movesData_of_eq rfl rfl rfl rfl
  · exact ⟨.rfl', rfl⟩

/-! ## Descriptors -/

/-- One of the packet status words. -/
def IsPsw (itd a : UInt32) : Prop := ∃ off, off &&& 3 = 0 ∧ itdPsw ≤ off ∧ off ≤ 28 ∧ a = itd + off

/-- The descriptor is retired or fails. -/
def Ends (ed td : UInt32) (o o' : Ohci κ D) : Prop :=
  ∃ cc, o' = tdRetire ram o td cc ∨ o' = tdFail ram o ed td cc

lemma tdRetire_eq (o : Ohci κ D) (td cc : UInt32) : ∃ flags,
    tdRetire ram o td cc =
      { ohciWrite32 ram (ohciWrite32 ram o (td + tdFlags) flags) (td + tdNextTd) o.doneQueue with
        doneQueue := td, donePending := true, retired := o.retired ++ [td] } := by
  refine ⟨(ohciRead32 ram o (td + tdFlags) &&& 0x0fffffff) ||| cc <<< (28 : UInt32), ?_⟩
  have hdone := done_write ram (o := o) (td + tdFlags)
    ((ohciRead32 ram o (td + tdFlags) &&& 0x0fffffff) ||| cc <<< (28 : UInt32))
  have hretired := (congrArg Done.retired (done_write ram (td + tdNextTd) o.doneQueue)).trans
    (congrArg Done.retired hdone)
  unfold tdRetire
  dsimp only
  rw [show (ohciWrite32 ram o (td + tdFlags) _).doneQueue = o.doneQueue from congrArg Done.doneQueue hdone]
  exact congrArg (fun r => { ohciWrite32 ram _ (td + tdNextTd) o.doneQueue with
    doneQueue := td, donePending := true, retired := r ++ [td] }) hretired

/-- The words that retiring writes. -/
def RetireWords (td a : UInt32) : Prop := a = td + tdFlags ∨ a = td + tdNextTd

lemma tdRetire_moves (o : Ohci κ D) (td cc : UInt32) : Moves ram (RetireWords td) o (tdRetire ram o td cc) := by
  obtain ⟨flags, heq⟩ := tdRetire_eq ram o td cc
  have hwrites : Moves ram (RetireWords td) o
      (ohciWrite32 ram (ohciWrite32 ram o (td + tdFlags) flags) (td + tdNextTd) o.doneQueue) :=
    (moves_write ram (Or.inl rfl)).trans (moves_write ram (Or.inr rfl))
  rw [heq]
  exact hwrites.congr rfl rfl rfl

lemma tdRetire_done (o : Ohci κ D) (td cc : UInt32) :
    (tdRetire ram o td cc).done = ⟨td, true, o.retired ++ [td]⟩ := by
  obtain ⟨flags, heq⟩ := tdRetire_eq ram o td cc
  rw [heq]
  rfl

lemma tdRetire_link (o : Ohci κ D) {td : UInt32} (cc : UInt32) (h : ram.cell (td + tdNextTd) ≠ none) :
    ohciRead32 ram (tdRetire ram o td cc) (td + tdNextTd) = o.doneQueue := by
  obtain ⟨flags, heq⟩ := tdRetire_eq ram o td cc
  rw [heq]
  exact ohciRead32_write_self ram h

lemma Ends.spec {ed td : UInt32} {o o' : Ohci κ D} (h : Ends ram ed td o o') (hram : ram.cell (td + tdNextTd) ≠ none)
    (hne : ram.cell (ed + edHeadP) ≠ ram.cell (td + tdNextTd)) :
    Moves ram (fun a => RetireWords td a ∨ a = ed + edHeadP) o o' ∧
      o'.done = ⟨td, true, o.retired ++ [td]⟩ ∧ ohciRead32 ram o' (td + tdNextTd) = o.doneQueue := by
  obtain ⟨cc, rfl | rfl⟩ := h
  · exact ⟨(tdRetire_moves ram o td cc).mono fun _ ha => Or.inl ha, tdRetire_done ram o td cc,
      tdRetire_link ram o cc hram⟩
  · unfold tdFail
    dsimp only
    refine ⟨((tdRetire_moves ram o td cc).mono fun _ ha => Or.inl ha).trans (moves_write ram (Or.inr rfl)), ?_, ?_⟩
    · rw [done_write, tdRetire_done]
    · rw [ohciRead32_write_of_ne ram hne, tdRetire_link ram o cc hram]

/-- Only the words of `W` and data, and the descriptor is done with. -/
def Finishes (W : UInt32 → Prop) (ed td : UInt32) (o o' : Ohci κ D) : Prop :=
  ∃ o₁, Moves ram W o o₁ ∧ o₁.done = o.done ∧ Ends ram ed td o₁ o'

lemma tdOutcome_finishes (ed td flags cbp : UInt32) (result : UsbResult) (moved want : Nat) {o o' : Ohci κ D}
    (h : MovesData ram o o') :
    Finishes ram (· = td + tdCbp) ed td o (tdOutcome ram o' ed td flags cbp result moved want) := by
  refine ⟨ohciWrite32 ram o' (td + tdCbp) (if want ≤ moved then 0 else cbp + UInt32.ofNat moved),
    (h.1.mono fun _ ha => ha.elim).trans (moves_write ram rfl), by rw [done_write, h.2],
    shortCc (resultCc result) flags moved want, ?_⟩
  unfold tdOutcome
  dsimp only
  split
  · exact Or.inr rfl
  · exact Or.inl rfl

lemma ohciRunTd_cases (ed flags td : UInt32) :
    (∃ o', ohciRunTd ram o ed flags td = (false, o') ∧ MovesData ram o o') ∨
      ∃ o', ohciRunTd ram o ed flags td = (true, o') ∧ Finishes ram (· = td + tdCbp) ed td o o' := by
  unfold ohciRunTd
  dsimp only
  cases usbDeviceAtAddress o (edFa flags) with
  | none => exact Or.inr ⟨_, rfl, o, .rfl', rfl, _, Or.inr rfl⟩
  | some found =>
    obtain ⟨port, dev⟩ := found
    dsimp only
    split
    · exact Or.inr ⟨_, rfl, o, .rfl', rfl, _, Or.inr rfl⟩
    · have hstage := movesData_runStage ram (o := o) port dev (tdDp flags (ohciRead32 ram o (td + tdFlags)))
        (edEn flags) (ohciRead32 ram o (td + tdCbp)) (ohciRead32 ram o (td + tdBe))
        (tdLength (ohciRead32 ram o (td + tdCbp)) (ohciRead32 ram o (td + tdBe))).toNat
      split
      · exact Or.inl ⟨_, rfl, hstage⟩
      · exact Or.inr ⟨_, rfl, tdOutcome_finishes ram ed td _ _ _ _ _ hstage⟩

lemma isPsw_of_index (itd : UInt32) {index : UInt32} (h : index < 8) :
    IsPsw itd (itd + itdPsw + (index &&& ~~~1) * 2) := by
  have hall : ∀ k : Fin 8, (itdPsw + (UInt32.ofNat k &&& ~~~1) * 2) &&& 3 = 0 ∧
      itdPsw ≤ itdPsw + (UInt32.ofNat k &&& ~~~1) * 2 ∧ itdPsw + (UInt32.ofNat k &&& ~~~1) * 2 ≤ 28 := by
    decide
  have hlt : index.toNat < 8 := UInt32.lt_iff_toNat_lt.mp h
  obtain ⟨halign, hlow, hhigh⟩ := hall ⟨index.toNat, hlt⟩
  simp only [UInt32.ofNat_toNat] at halign hlow hhigh
  exact ⟨_, halign, hlow, hhigh, UInt32.add_assoc itd itdPsw _⟩

lemma movesData_itdRead (port : Fin 4) (dev : UsbDevice D) (endpoint page0 page1 offset room cc : UInt32) :
    MovesData ram o (itdRead ram o port dev endpoint page0 page1 offset room cc).2.2 := by
  have hstate : ∀ f, MovesData ram o (o.mapDevice port f) := fun f => movesData_of_eq rfl rfl rfl rfl
  unfold itdRead
  split
  · exact ⟨.rfl', rfl⟩
  · dsimp only
    split
    · dsimp only
      split
      · exact hstate _
      · exact (hstate _).trans (movesData_bufferWrite ram _ _ _ _)
    · exact hstate _
    · exact hstate _
    · exact hstate _

lemma itdRunPacket_moves (itd bp0 be count : UInt32) {index : UInt32} (port : Fin 4) (dev : UsbDevice D)
    (endpoint : UInt32) (reading : Bool) (h : index < 8) :
    Moves ram (IsPsw itd) o (itdRunPacket ram o itd bp0 be count index port dev endpoint reading) ∧
      (itdRunPacket ram o itd bp0 be count index port dev endpoint reading).done = o.done := by
  have hwrite : ∀ {o' : Ohci κ D} (val : UInt16), MovesData ram o o' →
      Moves ram (IsPsw itd) o (itdPswWrite ram o' itd index val) ∧
        (itdPswWrite ram o' itd index val).done = o.done := by
    intro o' val h'
    unfold itdPswWrite
    exact ⟨(h'.1.mono fun _ ha => ha.elim).trans (moves_write ram (isPsw_of_index itd h)),
      by rw [done_write, h'.2]⟩
  unfold itdRunPacket
  dsimp only
  cases reading with
  | true => exact hwrite _ (movesData_itdRead ram port dev endpoint _ _ _ _ _)
  | false => exact hwrite _ (movesData_itdWrite ram port dev endpoint _ _ _ _ _)

lemma itdFc_le (flags : UInt32) : itdFc flags ≤ 8 := by
  have h : ((flags >>> 24) &&& 7).toNat ≤ 7 := by
    rw [UInt32.toNat_and]
    exact Nat.and_le_right
  unfold itdFc
  rw [UInt32.le_iff_toNat_le, UInt32.toNat_add]
  simp only [UInt32.reduceToNat]
  omega

lemma ohciRunItd_cases (ed flags itd : UInt32) :
    (∃ o', ohciRunItd ram o flags itd = (false, o') ∧ Moves ram (IsPsw itd) o o' ∧ o'.done = o.done ∧
        (0x8000 ≤ itdIndex o (ohciRead32 ram o (itd + itdFlags)) → o' = o)) ∨
      ∃ o', ohciRunItd ram o flags itd = (true, o') ∧ Finishes ram (IsPsw itd) ed itd o o' := by
  unfold ohciRunItd
  dsimp only
  split
  · exact Or.inl ⟨o, rfl, .rfl', rfl, fun _ => rfl⟩
  next hnear =>
    cases usbDeviceAtAddress o (edFa flags) with
    | none => exact Or.inr ⟨_, rfl, o, .rfl', rfl, _, Or.inl rfl⟩
    | some found =>
      obtain ⟨port, dev⟩ := found
      dsimp only
      set word := ohciRead32 ram o (itd + itdFlags)
      set o₁ : Ohci κ D := if itdIndex o word < itdFc word then
          itdRunPacket ram o itd (ohciRead32 ram o (itd + itdBp0)) (ohciRead32 ram o (itd + itdBe)) (itdFc word)
            (itdIndex o word) port dev (edEn flags) (flags &&& edDirMask != edDirOut)
        else o with ho₁
      have hmoves : Moves ram (IsPsw itd) o o₁ ∧ o₁.done = o.done := by
        rw [ho₁]
        split
        next hlt =>
          refine itdRunPacket_moves ram itd _ _ _ port dev _ _ ?_
          exact UInt32.lt_of_lt_of_le hlt (itdFc_le _)
        · exact ⟨.rfl', rfl⟩
      split
      · exact Or.inl ⟨o₁, rfl, hmoves.1, hmoves.2, fun hfar => absurd hfar hnear⟩
      · exact Or.inr ⟨_, rfl, o₁, hmoves.1, hmoves.2, _, Or.inl rfl⟩

end Moves

end RpcEmu.Usb

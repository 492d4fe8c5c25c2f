import RpcEmu.Copro.WriteLog

/-!
# Everything that happens to a bus

Between being fitted and being taken out, a bus is touched by core accesses, by the guest's register
writes and by nothing else.  `BusOp` lists the ways, one constructor each, and `busStep` says what
each does, so that a fact about all of a card's histories is a fact about lists of `BusOp`s.  The card
itself comes later (`CardRun`), and is shown there to do nothing else to its bus.

Two operations leave the bus as it is and are there for what else they do: `lookup` and `canStall`
read the region table, and `reset` is the card's reset, which restarts the core and does not come
near the bus.
-/

namespace RpcEmu

open Bytes Runs

inductive BusOp
  /-- `copro_bus_read`, `copro_bus_write` or `copro_bus_resume` -/
  | call (e : BusEvent)
  /-- `copro_bus_log_pop` -/
  | pop
  /-- `copro_bus_region`, on a port -/
  | lookup (addr : UInt32)
  /-- `copro_bus_can_stall` -/
  | canStall
  /-- card RAM stored to by its aperture, a DMA transfer or a core with no hook -/
  | setRam (ram : Block)
  /-- the control area stored to by its aperture -/
  | setCtl (ctl : Block)
  /-- MAPOFF -/
  | mapOff (val : UInt32)
  /-- MAPCOUNT -/
  | mapCount (val : UInt32)
  /-- LOGOFF -/
  | logOff (val : UInt32)
  /-- LOGENTRIES -/
  | logEntries (val : UInt32)
  /-- LOGTAIL -/
  | logTail (val : UInt32)
  /-- WAITDATA -/
  | waitData (val : UInt32)
  /-- `coproc_reset` -/
  | reset

def busStep (bus : CoproBus) : BusOp → CoproBus
  | .call e => (e.perform bus).2
  | .pop => (coproBusLogPop bus).2
  | .lookup _ => bus
  | .canStall => bus
  | .setRam ram => { bus with ram := ram }
  | .setCtl ctl => { bus with ctl := ctl }
  | .mapOff val => { bus with mapOff := val }
  | .mapCount val => (coproBusSetMap bus bus.mapOff val).2
  | .logOff val => { bus with logOff := val }
  | .logEntries val => (coproBusSetLog bus bus.logOff val).2
  | .logTail val =>
    if decide (bus.logEntries ≠ 0) && decide (val < bus.logEntries) then { bus with logTail := val }
    else bus
  | .waitData val => { bus with waitValue := val }
  | .reset => bus

def CoproBus.sizes (bus : CoproBus) : Bool × UInt32 × Bool × UInt32 :=
  (bus.ramPresent, bus.ramSize, bus.ctlPresent, bus.ctlSize)

@[simp] lemma ctlSetWord_sizes (bus : CoproBus) (offset value : UInt32) :
    (ctlSetWord bus offset value).sizes = bus.sizes := by
  unfold ctlSetWord
  split <;> rfl

@[simp] lemma logPush_sizes (bus : CoproBus) (cycle addr value info : UInt32) :
    (logPush bus cycle addr value info).sizes = bus.sizes := by
  rw [logPush_eq]
  split_ifs
  · rfl
  · rfl
  · show (ctlSetWord _ _ _).sizes = _
    rw [ctlSetWord_sizes, ctlSetWord_sizes, ctlSetWord_sizes, ctlSetWord_sizes]

lemma OutsideLog.sizes_eq {bus bus' : CoproBus} (h : OutsideLog bus bus') :
    bus'.sizes = bus.sizes := by
  obtain ⟨ram, hs, rfl⟩ := h
  rfl

@[simp] lemma perform_sizes (bus : CoproBus) (e : BusEvent) :
    (e.perform bus).2.sizes = bus.sizes := by
  cases hw : loggedWrite bus e with
  | none => exact (outsideLog_perform hw).sizes_eq
  | some w =>
    obtain ⟨bus', ho, hp⟩ := perform_of_loggedWrite hw
    rw [hp, logPush_sizes, ho.sizes_eq]

/-- **The memories a card is fitted with keep their sizes.** -/
lemma busStep_sizes (bus : CoproBus) (op : BusOp) : (busStep bus op).sizes = bus.sizes := by
  cases op with
  | call e => exact perform_sizes bus e
  | pop =>
    simp only [busStep, coproBusLogPop]
    split_ifs <;> rfl
  | mapCount val =>
    simp only [busStep, coproBusSetMap]
    split_ifs <;> rfl
  | logEntries val =>
    simp only [busStep, coproBusSetLog]
    split_ifs <;> rfl
  | logTail val =>
    simp only [busStep]
    split_ifs <;> rfl
  | lookup addr => rfl
  | canStall => rfl
  | setRam ram => rfl
  | setCtl ctl => rfl
  | mapOff val => rfl
  | logOff val => rfl
  | waitData val => rfl
  | reset => rfl

lemma exec_busStep_sizes (bus : CoproBus) (ops : List BusOp) :
    (exec busStep bus ops).sizes = bus.sizes := by
  induction ops generalizing bus with
  | nil => rfl
  | cons op ops ih =>
    rw [exec_cons, ih, busStep_sizes]

end RpcEmu

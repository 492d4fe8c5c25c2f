import RpcEmu.Cpu.Z80Kept

/-!
# A Z80 instruction that stalls

A step that stalls ends in one of two ways (`step_ends`):

* it **faulted** too, because one of its accesses was a bus error or because the bytes it was decoded
  from — a zero for each that stalled — are not an opcode this core has;
* or it is **abandoned**, and its registers are those kept in `saved`.

`bytesRefused` says of the bytes a step has read whether they are such an opcode; only the prefixes
and the opcode bytes matter to it.
-/

namespace RpcEmu

open Effects CoreView

namespace CpuZ80

/-! ## The bytes an instruction is decoded from -/

def edBytesRefused (pfx : UInt8) : List UInt8 → Bool
  | [] => false
  | op :: _ => edRefuses pfx op

def cbOpcodeRefused (pfx : UInt8) : List UInt8 → Bool
  | [] => false
  | op :: _ => cbRefuses pfx op

def cbBytesRefused (pfx : UInt8) (bytes : List UInt8) : Bool :=
  cbOpcodeRefused pfx (if pfx ≠ 0 then bytes.tail else bytes)

def mainBytesRefused (pfx : UInt8) : List UInt8 → Bool
  | [] => false
  | op :: bytes => if op = 0xcb then cbBytesRefused pfx bytes else mainRefuses pfx op

/-- Do the pages refuse what comes after the byte that ended the prefixes?  The main page reads that
byte again; ED does not. -/
def pageRefused (pfx next : UInt8) (bytes : List UInt8) : Bool :=
  if next = 0xed then edBytesRefused pfx bytes else mainBytesRefused pfx bytes

/-- **Does the core refuse these bytes?** -/
def bytesRefused : UInt8 → List UInt8 → Bool
  | _, [] => false
  | pfx, b :: bytes => if isPrefixByte b then bytesRefused b bytes else pageRefused pfx b bytes

/-! ## Reads -/

def replied (s : State) (addr : UInt32) : CpuMemResult × UInt8 → State
  | (.ok, _) => s
  | (.stall, _) => { s with stalled := true, stallAddr := addr, stallIsWrite := false }
  | (.busError, _) => s.fault faultAccess (addr &&& 0xffff)

section Reads

variable {s : State} (hh : s.hooked = true)
include hh

lemma run_rd8 (addr : UInt16) :
    (rd8 addr).run s = .ask (.memRead addr.toUInt32) fun r =>
      .done (byteOf r, replied s addr.toUInt32 r) := by
  rw [rd8, StateT.run_bind, StateT.run_get, pure_bind, if_pos hh]
  refine congrArg (Prog.ask _) (funext fun r => ?_)
  obtain ⟨res, v⟩ := r
  cases res <;> rfl

def State.fetched (s : State) (r : CpuMemResult × UInt8) : State :=
  { replied s s.pc.toUInt32 r with pc := s.pc + 1 }

lemma run_fetch8 :
    fetch8.run s = .ask (.memRead s.pc.toUInt32) fun r => .done (byteOf r, s.fetched r) := by
  rw [fetch8, StateT.run_bind, StateT.run_get, pure_bind, StateT.run_bind, run_rd8 hh]
  refine congrArg (Prog.ask _) (funext fun r => ?_)
  obtain ⟨res, v⟩ := r
  cases res <;> rfl

lemma kept_replied (addr : UInt16) (r : CpuMemResult × UInt8) :
    view.Kept false s [⟨.memRead addr.toUInt32, r⟩] (replied s addr.toUInt32 r) := by
  have hk := kept_rd8 addr s
  rw [run_rd8 hh] at hk
  exact hk r

lemma kept_fetched (r : CpuMemResult × UInt8) :
    view.Kept false s [⟨.memRead s.pc.toUInt32, r⟩] (s.fetched r) := by
  have hk := kept_fetch8 s
  rw [run_fetch8 hh] at hk
  exact hk r

/-- **Code that starts by fetching a byte** refuses what it refuses once it has the byte. -/
lemma kept_fetch8_bind {α : Type} {f : UInt8 → Exec State α} {B : List UInt8 → Bool}
    (hf : ∀ v (t : State), t.hooked = true →
      ((f v).run t).Always fun tr out => view.Kept (B (v :: bytesRead tr)) t tr out.2) :
    ((fetch8 >>= f).run s).Always fun tr out => view.Kept (B (bytesRead tr)) s tr out.2 := by
  rw [StateT.run_bind, run_fetch8 hh]
  intro r
  have hk := kept_fetched hh r
  refine Prog.Always.mono (fun tr out h => ?_) (hf (byteOf r) (s.fetched r) (hk.hooked.trans hh))
  have htrans := hk.trans h
  rw [Bool.false_or] at htrans
  exact htrans

/-! ## The pages -/

lemma kept_edPage (pfx : UInt8) :
    ((edPage pfx).run s).Always fun tr out =>
      view.Kept (edBytesRefused pfx (bytesRead tr)) s tr out.2 :=
  kept_fetch8_bind hh fun op t _ =>
    kept_bind (kept_charge fun _ => edPageCharge op) (fun _ => kept_edBody pfx op) t

lemma kept_cbOpcode (pfx : UInt8) :
    ((cbOpcode pfx).run s).Always fun tr out =>
      view.Kept (cbOpcodeRefused pfx (bytesRead tr)) s tr out.2 :=
  kept_fetch8_bind hh fun op t _ =>
    kept_bind (kept_charge fun _ => cbCycles pfx op) (fun _ => kept_cbBody pfx op) t

lemma kept_cbPage (pfx : UInt8) :
    ((cbPage pfx).run s).Always fun tr out =>
      view.Kept (cbBytesRefused pfx (bytesRead tr)) s tr out.2 := by
  rw [cbPage]
  by_cases hp : pfx = 0
  · rw [if_neg (not_not.mpr hp)]
    refine Prog.Always.mono (fun tr out h => ?_) (kept_cbOpcode hh pfx)
    rw [cbBytesRefused, if_neg (not_not.mpr hp)]
    exact h
  · rw [if_pos hp, fetchDisp, bind_assoc]
    refine kept_fetch8_bind hh fun d t ht => ?_
    rw [StateT.run_bind, StateT.run_modify, pure_bind]
    refine Prog.Always.mono (fun tr out h => ?_)
      (kept_cbOpcode (s := { t with disp := d, dispFetched := true }) ht pfx)
    rw [cbBytesRefused, if_pos hp]
    exact ⟨⟨h.hooked, h.stalled, h.unhooked⟩, h.faulted, h.rest⟩

lemma kept_mainOpcode {op : UInt8} (hhalt : isHalt op = false) (pfx : UInt8) :
    ((mainOpcode pfx op).run s).Always fun tr out =>
      view.Kept (mainBytesRefused pfx (op :: bytesRead tr)) s tr out.2 := by
  by_cases hcb : op = 0xcb
  · subst hcb
    rw [mainOpcode, StateT.run_bind, StateT.run_get, pure_bind]
    by_cases hf : s.faulted = true
    · rw [if_pos hf]
      have hnone : mainBytesRefused pfx [0xcb] = false := by
        rw [mainBytesRefused, if_pos rfl, cbBytesRefused]
        split <;> rfl
      show view.Kept (mainBytesRefused pfx [0xcb]) s [] s
      rw [hnone]
      exact Kept.refl s
    · rw [if_neg hf, show mainBody pfx 0xcb = fallsOut (cbPage pfx) from rfl, fallsOut, bind_assoc,
        StateT.run_bind]
      refine Prog.Always.bind (kept_cbPage hh pfx) fun tr out h => ?_
      show view.Kept _ s (tr ++ []) _
      rw [List.append_nil, mainBytesRefused, if_pos rfl]
      exact h
  · have hk := kept_guard (a := ()) fun _ => kept_bind_left (kept_mainBody hhalt hcb pfx)
      (kept_mainCharge pfx op)
    refine Prog.Always.mono (fun tr out h => ?_) (hk s)
    rw [mainBytesRefused, if_neg hcb]
    exact h

omit hh in
lemma halt_asks_nothing {op : UInt8} (h : isHalt op = true) (pfx : UInt8) (s : State) :
    ((mainOpcode pfx op).run s).Always fun tr _ => tr = [] := by
  simp only [isHalt, Bool.and_eq_true, decide_eq_true_eq] at h
  obtain ⟨hx, hy, hz⟩ := h
  rw [mainOpcode, StateT.run_bind, StateT.run_get, pure_bind]
  split
  · rfl
  · rw [StateT.run_bind, mainBody, hx, mainQuadrant1, if_pos (by simp [hy, hz])]
    show Prog.Always _ (StateT.run (if _ then _ else _) _)
    split <;> rfl

/-- **The main page**, where it stalls. -/
lemma kept_mainPage (pfx : UInt8) :
    ((mainPage pfx).run s).Always fun tr out => anyStall tr = true →
      view.Kept (mainBytesRefused pfx (bytesRead tr)) s tr out.2 := by
  rw [mainPage, StateT.run_bind, run_fetch8 hh]
  intro r
  have hk := kept_fetched hh r
  cases hhalt : isHalt (byteOf r) with
  | true =>
    -- a stalled fetch gives a zero, which is not HALT
    have hok : r.1.isStall = false := by
      obtain ⟨res, v⟩ := r
      cases res with
      | ok => rfl
      | stall => exact absurd (show isHalt 0 = true from hhalt) (by decide)
      | busError => rfl
    refine Prog.Always.mono (fun tr out htr hst => ?_) (halt_asks_nothing hhalt pfx (s.fetched r))
    rw [htr] at hst
    have hst' : r.1.isStall = true := by simpa [anyStall, CpuOp.stalls] using hst
    exact absurd (hok.symm.trans hst') (by decide)
  | false =>
    refine Prog.Always.mono (fun tr out h _ => ?_)
      (kept_mainOpcode (hk.hooked.trans hh) hhalt pfx)
    have htrans := hk.trans h
    rw [Bool.false_or] at htrans
    exact htrans

end Reads

/-! ## The stall flag -/

lemma tracked_cbPage (pfx : UInt8) : Respects view.Tracked (cbPage pfx) := by
  have hop : Respects view.Tracked (cbOpcode pfx) :=
    tracked_bind (tracked_of_kept kept_fetch8) fun op =>
      tracked_of_kept (kept_bind (kept_charge fun _ => cbCycles pfx op) fun _ => kept_cbBody pfx op)
  exact Respects.of_ite (tracked_bind (tracked_of_kept kept_fetchDisp) fun _ => hop) hop

lemma tracked_edPage (pfx : UInt8) : Respects view.Tracked (edPage pfx) :=
  tracked_bind (tracked_of_kept kept_fetch8) fun op =>
    tracked_of_kept (kept_bind (kept_charge fun _ => edPageCharge op) fun _ => kept_edBody pfx op)

lemma tracked_mainBody (pfx op : UInt8) : Respects view.Tracked (mainBody pfx op) := by
  by_cases hcb : op = 0xcb
  · subst hcb
    exact tracked_bind (tracked_cbPage pfx) fun _ => tracked_of_kept (kept_pure true)
  · cases hhalt : isHalt op with
    | true =>
      simp only [isHalt, Bool.and_eq_true, decide_eq_true_eq] at hhalt
      obtain ⟨hx, hy, hz⟩ := hhalt
      rw [mainBody, hx, mainQuadrant1, if_pos (by simp [hy, hz])]
      exact tracked_bind (tracked_modify (fun _ => rfl) fun _ => rfl) fun _ =>
        tracked_of_kept (kept_pure true)
    | false => exact tracked_of_kept (kept_mainBody hhalt hcb pfx)

lemma tracked_mainPage (pfx : UInt8) : Respects view.Tracked (mainPage pfx) := by
  refine tracked_bind (tracked_of_kept kept_fetch8) fun op =>
    tracked_bind (tracked_of_kept kept_get) fun s => ?_
  refine Respects.of_ite (tracked_of_kept (kept_pure ())) ?_
  exact tracked_bind (tracked_mainBody pfx op) fun fell =>
    tracked_of_kept (kept_mainCharge pfx op fell)

lemma tracked_abandon : Respects view.Tracked abandon :=
  tracked_bind (tracked_modify (fun _ => rfl) fun _ => rfl) fun _ => tracked_of_kept (kept_pure _)

lemma tracked_finish : Respects view.Tracked finish := by
  refine tracked_bind (tracked_of_kept kept_get) fun s =>
    Respects.of_ite (tracked_of_kept (kept_pure _)) (Respects.of_ite tracked_abandon ?_)
  exact tracked_bind (tracked_modify (fun _ => rfl) fun _ => rfl) fun _ =>
    tracked_of_kept (kept_pure _)

lemma tracked_executeFrom (pfx next : UInt8) : Respects view.Tracked (executeFrom pfx next) := by
  have hrefuse : ∀ op, Respects view.Tracked (do
      illegal op
      pure 0 : Exec State Nat) := fun op =>
    tracked_bind (tracked_of_kept (kept_illegal op)) fun _ => tracked_of_kept (kept_pure _)
  refine tracked_bind (tracked_of_kept kept_get) fun s =>
    Respects.of_ite (tracked_of_kept (kept_pure _)) (Respects.of_ite tracked_abandon ?_)
  refine Respects.of_ite (hrefuse pfx) (Respects.of_ite (hrefuse next) (Respects.of_ite ?_ ?_))
  · exact tracked_bind (tracked_of_kept (kept_modifyRegs _)) fun _ =>
      tracked_bind (tracked_edPage pfx) fun _ => tracked_finish
  · exact tracked_bind (tracked_mainPage pfx) fun _ => tracked_finish

lemma tracked_prefixLoop : ∀ (fuel : Nat) (pfx : UInt8), Respects view.Tracked (prefixLoop fuel pfx)
  | 0, _ => tracked_of_kept (kept_pure _)
  | fuel + 1, pfx => by
    rw [prefixLoop]
    refine tracked_bind (tracked_of_kept kept_get) fun s =>
      tracked_bind (tracked_of_kept (kept_rd8 _)) fun next =>
        tracked_bind (tracked_of_kept kept_get) fun _ => ?_
    refine Respects.of_ite (tracked_of_kept (kept_pure _)) ?_
    exact tracked_bind (tracked_of_kept (kept_modifyRegs _)) fun _ => tracked_prefixLoop fuel next

/-! ## The prefixes -/

section Step

variable {s : State} (hh : s.hooked = true)

/-- The prefixes are read, and whether the bytes are refused is for the page to say. -/
def Consumed (s : State) (tr : List CpuAsked) : Option (UInt8 × UInt8) × State → Prop
  | (none, t) => view.Kept false s tr t ∧ anyStall tr = false
  | (some (pfx, next), t) => view.Kept false s tr t ∧
    ∀ bytes, bytesRefused 0 (bytesRead tr ++ bytes) = pageRefused pfx next bytes

lemma byteOf_of_faulted {t : State} {addr : UInt32} {r : CpuMemResult × UInt8}
    (ht : t.faulted = false) (h : (replied t addr r).faulted = true) : byteOf r = 0 := by
  obtain ⟨res, v⟩ := r
  cases res with
  | ok => exact absurd (ht.symm.trans h) (by decide)
  | stall => rfl
  | busError => rfl

lemma not_stall_of_prefixByte {r : CpuMemResult × UInt8} (h : isPrefixByte (byteOf r) = true) :
    r.1.isStall = false := by
  obtain ⟨res, v⟩ := r
  cases res with
  | ok => rfl
  | stall => exact absurd (show isPrefixByte 0 = true from h) (by decide)
  | busError => rfl

include hh in
lemma prefixLoop_consumes : ∀ (fuel : Nat) (pfx : UInt8) (t : State) (tr : List CpuAsked),
    view.Kept false s tr t → t.faulted = false → anyStall tr = false →
    (∀ bytes, bytesRefused 0 (bytesRead tr ++ bytes) = bytesRefused pfx bytes) →
    ((prefixLoop fuel pfx).run t).Always fun tr' out => Consumed s (tr ++ tr') out
  | 0, pfx, t, tr, hk, _, hns, _ => by
    show view.Kept false s (tr ++ []) t ∧ anyStall (tr ++ []) = false
    rw [List.append_nil]
    exact ⟨hk, hns⟩
  | fuel + 1, pfx, t, tr, hk, hf, hns, hb => by
    have ht : t.hooked = true := hk.hooked.trans hh
    rw [prefixLoop, StateT.run_bind, StateT.run_get, pure_bind, StateT.run_bind, run_rd8 ht]
    intro r
    have hk' := hk.trans (kept_replied ht t.pc r)
    rw [Bool.false_or] at hk'
    -- what the bytes read so far say of those still to come
    have hb' : ∀ bytes, bytesRefused 0 (bytesRead (tr ++ [⟨.memRead t.pc.toUInt32, r⟩]) ++ bytes)
        = bytesRefused pfx (byteOf r :: bytes) := by
      intro bytes
      rw [bytesRead_append, List.append_assoc]
      exact hb _
    show Prog.Always _ (StateT.run (get >>= _) _)
    rw [StateT.run_bind, StateT.run_get, pure_bind]
    split
    · rename_i h
      refine ⟨hk', fun bytes => ?_⟩
      have hnot : isPrefixByte (byteOf r) = false := by
        rcases Bool.or_eq_true_iff.mp h with h | h
        · rw [byteOf_of_faulted hf h]
          decide
        · exact Bool.not_eq_true' _ |>.mp h
      rw [hb', bytesRefused, if_neg (by rw [hnot]; decide)]
    · rename_i h
      obtain ⟨hnf, hpre⟩ : (replied t t.pc.toUInt32 r).faulted = false ∧
          isPrefixByte (byteOf r) = true := by simpa using h
      have hns' : anyStall (tr ++ [⟨.memRead t.pc.toUInt32, r⟩]) = false := by
        rw [anyStall_append, hns, Bool.false_or]
        simpa [anyStall, CpuOp.stalls] using not_stall_of_prefixByte hpre
      have hk'' := hk'.trans (kept_of_sameBut (t := { replied t t.pc.toUInt32 r with
        pc := (replied t t.pc.toUInt32 r).pc + 1 }) ⟨rfl, rfl, rfl, rfl⟩)
      rw [Bool.false_or, List.append_nil] at hk''
      refine Prog.Always.mono (fun tr' out hc => ?_)
        (prefixLoop_consumes fuel (byteOf r) _ _ hk'' hnf hns' fun bytes => ?_)
      · rw [List.append_assoc] at hc
        exact hc
      · rw [hb', bytesRefused, if_pos hpre]

/-! ## The whole step -/

/-- How a step that stalled ends: faulted, if an access was a bus error or the core refuses the bytes;
else with the registers that were kept. -/
structure StallEnds (s : State) (tr : List CpuAsked) (t : State) : Prop where
  faulted : t.faulted = (anyBusError tr || bytesRefused 0 (bytesRead tr))
  kept : t.faulted = false →
    t.toRegs = s.prepare.saved ∧ t.halted = s.halted ∧ t.cycles = s.cycles

lemma eq_of_rest {t u : State} (h : view.rest t = view.rest u) :
    t.saved = u.saved ∧ t.halted = u.halted ∧ t.cycles = u.cycles := by
  have h1 := congrArg State.saved h
  have h2 := congrArg State.halted h
  have h3 := congrArg State.cycles h
  exact ⟨h1, h2, h3⟩

variable (hst : s.stalled = false) (hf : s.faulted = false)
include hh hst hf

lemma flags_of_kept {b : Bool} {tr : List CpuAsked} {t : State} (hk : view.Kept b s.prepare tr t) :
    t.stalled = anyStall tr ∧ t.faulted = (anyBusError tr || b) := by
  constructor
  · rw [show t.stalled = (s.stalled || anyStall tr) from hk.stalled, hst, Bool.false_or]
  · rw [show t.faulted = (s.faulted || anyBusError tr || b) from hk.faulted hh, hf, Bool.false_or]

lemma stallEnds_of_faulted {tr : List CpuAsked} {t : State}
    (hk : view.Kept (bytesRefused 0 (bytesRead tr)) s.prepare tr t) (ht : t.faulted = true) :
    StallEnds s tr t where
  faulted := (flags_of_kept hh hst hf hk).2
  kept h := absurd (ht.symm.trans h) (by decide)

lemma stallEnds_of_abandon {tr : List CpuAsked} {t : State}
    (hk : view.Kept (bytesRefused 0 (bytesRead tr)) s.prepare tr t) (ht : t.faulted = false) :
    StallEnds s tr { t with toRegs := t.saved } where
  faulted := (flags_of_kept hh hst hf hk).2
  kept _ := eq_of_rest (hk.rest hh ht)

lemma finish_ends {tr : List CpuAsked} {t : State} (hstall : t.stalled = anyStall tr)
    (hk : anyStall tr = true → view.Kept (bytesRefused 0 (bytesRead tr)) s.prepare tr t) :
    (finish.run t).Always fun tr' out =>
      anyStall (tr ++ tr') = true → StallEnds s (tr ++ tr') out.2 := by
  rw [finish, StateT.run_bind, StateT.run_get, pure_bind]
  by_cases hft : t.faulted = true
  · rw [if_pos hft]
    intro h
    rw [List.append_nil] at h ⊢
    exact stallEnds_of_faulted hh hst hf (hk h) hft
  · rw [if_neg hft]
    by_cases hs : t.stalled = true
    · rw [if_pos hs]
      intro h
      rw [List.append_nil] at h ⊢
      exact stallEnds_of_abandon hh hst hf (hk h) (eq_false_of_ne_true hft)
    · rw [if_neg hs]
      intro h
      rw [List.append_nil, ← hstall] at h
      exact absurd h hs

lemma page_ends {pfx next : UInt8} {tr : List CpuAsked} {t : State} {x : Exec State Unit}
    (hk : view.Kept false s.prepare tr t)
    (hb : ∀ bytes, bytesRefused 0 (bytesRead tr ++ bytes) = pageRefused pfx next bytes)
    (hns : t.stalled = false) (htr : Respects view.Tracked x)
    (hx : (x.run t).Always fun tr' out => anyStall tr' = true →
      view.Kept (pageRefused pfx next (bytesRead tr')) t tr' out.2) :
    ((x >>= fun _ => finish).run t).Always fun tr' out =>
      anyStall (tr ++ tr') = true → StallEnds s (tr ++ tr') out.2 := by
  have hnone : anyStall tr = false := (flags_of_kept hh hst hf hk).1.symm.trans hns
  rw [StateT.run_bind]
  refine Prog.Always.bind ((htr t).and hx) fun tr' out h => ?_
  obtain ⟨htracked, hkept⟩ := h
  have hboth : anyStall (tr ++ tr') = anyStall tr' := by
    rw [anyStall_append, hnone, Bool.false_or]
  have hstall : out.2.stalled = anyStall (tr ++ tr') := by
    rw [show out.2.stalled = (t.stalled || anyStall tr') from htracked.stalled, hns, hboth,
      Bool.false_or]
  refine Prog.Always.mono (fun tr'' out' h => ?_)
    (finish_ends hh hst hf hstall fun hany => ?_)
  · rw [List.append_assoc] at h
    exact h
  · rw [hboth] at hany
    have htrans := hk.trans (hkept hany)
    rw [Bool.false_or] at htrans
    rw [bytesRead_append, hb]
    exact htrans

lemma executeFrom_ends {pfx next : UInt8} {tr : List CpuAsked} {t : State}
    (hk : view.Kept false s.prepare tr t)
    (hb : ∀ bytes, bytesRefused 0 (bytesRead tr ++ bytes) = pageRefused pfx next bytes) :
    ((executeFrom pfx next).run t).Always fun tr' out =>
      anyStall (tr ++ tr') = true → StallEnds s (tr ++ tr') out.2 := by
  obtain ⟨hflag, hfault⟩ := flags_of_kept hh hst hf hk
  rw [Bool.or_false] at hfault
  have hnone : pageRefused pfx next [] = false := by
    rw [pageRefused]
    split <;> rfl
  have hrefused : bytesRefused 0 (bytesRead tr) = false := by
    have h := hb []
    rw [List.append_nil, hnone] at h
    exact h
  rw [executeFrom, StateT.run_bind, StateT.run_get, pure_bind]
  by_cases hft : t.faulted = true
  · rw [if_pos hft]
    intro _
    rw [List.append_nil]
    exact stallEnds_of_faulted hh hst hf (by rw [hrefused]; exact hk) hft
  · rw [if_neg hft]
    by_cases hs : t.stalled = true
    · rw [if_pos hs]
      intro _
      rw [List.append_nil]
      exact stallEnds_of_abandon hh hst hf (by rw [hrefused]; exact hk) (eq_false_of_ne_true hft)
    · rw [if_neg hs]
      have hvac : ∀ (P : Prop), anyStall (tr ++ []) = true → P := by
        intro P h
        rw [List.append_nil, ← hflag] at h
        exact absurd h hs
      have hns : t.stalled = false := eq_false_of_ne_true hs
      split
      · exact hvac _
      · split
        · exact hvac _
        · split
          · rename_i hed
            subst hed
            have hk' := hk.trans
              (kept_of_sameBut (t := { t with pc := t.pc + 1 }) ⟨rfl, rfl, rfl, rfl⟩)
            rw [Bool.false_or, List.append_nil] at hk'
            show Prog.Always _
              (StateT.run (edPage pfx >>= fun _ => finish) { t with pc := t.pc + 1 })
            refine page_ends hh hst hf hk' hb hns (tracked_edPage pfx) ?_
            refine Prog.Always.mono (fun tr' out h _ => ?_)
              (kept_edPage (s := { t with pc := t.pc + 1 }) (hk'.hooked.trans hh) pfx)
            rw [pageRefused, if_pos rfl]
            exact h
          · rename_i hed
            refine page_ends hh hst hf hk hb hns (tracked_mainPage pfx)
              (Prog.Always.mono (fun tr' out h hany => ?_) (kept_mainPage (hk.hooked.trans hh) pfx))
            rw [pageRefused, if_neg hed]
            exact h hany

omit hst hf in
/-- **A Z80 step that stalls** faults, or leaves the core with the registers it kept. -/
theorem step_ends (fuel : Nat) (hrun : (s.halted || s.faulted || s.stalled) = false) :
    ((step fuel).run s).Always fun tr out => anyStall tr = true → StallEnds s tr out.2 := by
  obtain ⟨⟨-, hf⟩, hst⟩ : (s.halted = false ∧ s.faulted = false) ∧ s.stalled = false := by
    simpa using hrun
  rw [step, StateT.run_bind, StateT.run_get, pure_bind, if_neg (by rw [hrun]; decide),
    StateT.run_bind, StateT.run_modify, pure_bind, StateT.run_bind]
  have hloop := prefixLoop_consumes (s := s.prepare) hh fuel 0 s.prepare [] (Kept.refl _) hf rfl
    fun _ => rfl
  refine Prog.Always.bind hloop fun tr out hc => ?_
  obtain ⟨_ | ⟨pfx, next⟩, t⟩ := out
  · have hnone : anyStall tr = false := hc.2
    intro h
    rw [List.append_nil, hnone] at h
    exact absurd h (by decide)
  · show Prog.Always _ (StateT.run (executeFrom pfx next >>= _) t)
    rw [StateT.run_bind]
    refine Prog.Always.bind (executeFrom_ends hh hst hf hc.1 hc.2) fun tr' out h => ?_
    show anyStall (tr ++ (tr' ++ [])) = true → StallEnds s (tr ++ (tr' ++ [])) out.2
    rw [List.append_nil]
    exact h

end Step

/-- **The stall flag** of a step says whether one of its accesses stalled. -/
theorem tracked_step (fuel : Nat) : Respects view.Tracked (step fuel) := by
  refine tracked_bind (tracked_of_kept kept_get) fun s =>
    Respects.of_ite (tracked_of_kept (kept_pure _)) ?_
  refine tracked_bind (tracked_modify (fun _ => rfl) fun _ => rfl) fun _ => ?_
  refine tracked_bind (tracked_prefixLoop fuel 0) fun out => ?_
  match out with
  | none => exact tracked_of_kept (kept_pure _)
  | some (pfx, next) =>
    exact tracked_bind (tracked_executeFrom pfx next) fun _ => tracked_of_kept (kept_pure _)

end CpuZ80

end RpcEmu

import RpcEmu.Mmu.Walk

/-!
# Accesses, and the caches in front of the walk

The accesses a guest makes, from `mem.h` and `mem.c`.  `mem_read32` and its siblings look a page up in
the fast map of the current privilege and read or write host memory through it.  What the map does
not have goes through `readmemfl` and its siblings: a single-entry page cache, then the TLB, then the
walk; the page found is entered in the fast maps (`vradd`, `vwadd`) for every privilege that is
allowed the access.

Beside them, what else changes the caches: CP15 writes, mode changes, the invalidation of a physical
region, and the instruction fetch.
-/

namespace RpcEmu.Mmu

open Bytes Pages

section Access

variable {D : Type} {cfg : Config} (io : Devices D) (s : Machine cfg D)

/-- `mmu`. -/
def mmuOn : Bool := s.ctrl &&& ctrlMmu != 0

/-! ## The fast maps -/

def hostWord (h : HostPage) (addr : UInt32) : UInt32 := (s.mem h.region).word (h.base + low addr)

def hostByte (h : HostPage) (addr : UInt32) : UInt32 :=
  (s.mem h.region (h.base + low addr)).toUInt32

/-- `vradd`: enter a page in the read map of every privilege that may read it. -/
def vradd (a : UInt32) (v : HostPage) (p : UInt32) : Machine cfg D :=
  { s with readMap := fun privileged =>
      if permits (tlbperm s (page a)) privileged false then (s.readMap privileged).install (page a) v p
      else s.readMap privileged }

/-- `vwadd`: enter a page in the write map of every privilege that may write it. -/
def vwadd (a : UInt32) (v : HostPage) (p : UInt32) : Machine cfg D :=
  { s with writeMap := fun privileged =>
      if permits (tlbperm s (page a)) privileged true then
        (s.writeMap privileged).install (page a) v p
      else s.writeMap privileged }

/-- The switch of `readmemfl` and `readmemfb` on the physical page: the host memory behind it. -/
def readHost (cfg : Config) (cache2 : UInt32) : Option HostPage :=
  match chunk cfg cache2 with
  | .rom => some ⟨.rom, cache2 &&& 0x7ff000⟩
  | .vram => if memVrammask cfg ≠ 0 then some ⟨.vram, cache2 &&& memVrammask cfg⟩ else none
  | .easi =>
    if inFramestore cfg cache2 then some ⟨.fb, cache2 - gfxcardFbPhys cfg⟩ else none
  | .simm0Bank0 => some ⟨.ram00, cache2 &&& memRammask cfg⟩
  | .simm0Bank1 => some ⟨.ram01, cache2 &&& memRammask cfg⟩
  | .simm1 => if haveRam1 cfg then some ⟨.ram1, cache2 &&& 0x7ffffff⟩ else none
  | .sdram0 => if haveSdram cfg then some ⟨.sdram0, cache2 &&& sdramBankMask⟩ else none
  | .sdram1 => if haveSdram cfg then some ⟨.sdram1, cache2 &&& sdramBankMask⟩ else none
  | .io | .unused => none

/-- The switch of `readmemfl` with the MMU off; the ROM and the framestore are left out. -/
def readHostOff (cfg : Config) (addr : UInt32) : Option HostPage :=
  match chunk cfg addr with
  | .vram =>
    if memVrammask cfg ≠ 0 then some ⟨.vram, addr &&& memVrammask cfg &&& ~~~0xfff⟩ else none
  | .simm0Bank0 => some ⟨.ram00, addr &&& memRammask cfg &&& ~~~0xfff⟩
  | .simm0Bank1 => some ⟨.ram01, addr &&& memRammask cfg &&& ~~~0xfff⟩
  | .simm1 => if haveRam1 cfg then some ⟨.ram1, addr &&& 0x7ffffff &&& ~~~0xfff⟩ else none
  | .sdram0 =>
    if haveSdram cfg then some ⟨.sdram0, addr &&& sdramBankMask &&& ~~~0xfff⟩ else none
  | .sdram1 =>
    if haveSdram cfg then some ⟨.sdram1, addr &&& sdramBankMask &&& ~~~0xfff⟩ else none
  | .rom | .io | .easi | .unused => none

/-- The switch of `writememfl` and `writememfb` on the physical page: the host memory to enter and the
physical page to enter it under.  Both test and enter the framestore by `writememcache2`, which is
the page of the last word write. -/
def writeHost (cfg : Config) (cache2 writememcache2 : UInt32) : Option (HostPage × UInt32) :=
  match chunk cfg cache2 with
  | .easi =>
    if inFramestore cfg writememcache2 then
      some (⟨.fb, writememcache2 - gfxcardFbPhys cfg⟩, writememcache2)
    else none
  | .vram => if memVrammask cfg ≠ 0 then some (⟨.vram, cache2 &&& memVrammask cfg⟩, cache2) else none
  | .simm0Bank0 => some (⟨.ram00, cache2 &&& memRammask cfg⟩, cache2)
  | .simm0Bank1 => some (⟨.ram01, cache2 &&& memRammask cfg⟩, cache2)
  | .simm1 => if haveRam1 cfg then some (⟨.ram1, cache2 &&& 0x7ffffff⟩, cache2) else none
  | .sdram0 => if haveSdram cfg then some (⟨.sdram0, cache2 &&& sdramBankMask⟩, cache2) else none
  | .sdram1 => if haveSdram cfg then some (⟨.sdram1, cache2 &&& sdramBankMask⟩, cache2) else none
  | .rom | .io | .unused => none

/-! ## The slow paths -/

/-- `clearmemcache`. -/
def clearmemcache : Machine cfg D :=
  { s with memcache := fun c => { s.memcache c with page := none }, memcacheMemmode := none }

/-- `memcache_check_mode`. -/
def memcacheCheckMode : Machine cfg D :=
  if s.memcacheMemmode = some s.memmode then s
  else { s with memcache := fun c => { s.memcache c with page := none },
                memcacheMemmode := some s.memmode }

def setMemcache (c : CacheOf) (v : PageCache) : Machine cfg D :=
  { s with memcache := Function.update s.memcache c v }

/-- The start of all four slow paths: the page cache, or else a translation that fills it.  An access
that aborts has no address. -/
def cachedTranslate (c : CacheOf) (addr : UInt32) (rw : IsWrite) :
    Option (Option UInt32 × Machine cfg D) :=
  if (s.memcache c).page = some (page addr) then
    some (some ((s.memcache c).phys + low addr), s)
  else
    let cache2 := (s.memcache c).phys
    match translateaddress io (setMemcache s c ⟨some (page addr), cache2⟩) addr rw false with
    | none => none
    | some (phys, t) =>
      if t.abort then some (none, setMemcache t c ⟨none, cache2⟩)
      else some (some phys, setMemcache t c ⟨some (page addr), frame phys⟩)

/-- `vraddrl[addr >> 12] = 0xffffffff`. -/
def forgetRead (addr : UInt32) : Machine cfg D :=
  { s with readMap := Function.update s.readMap s.memmode ((s.readMap s.memmode).erase (page addr)) }

def physRead (read : Memory → D → UInt32 × D) : UInt32 × Machine cfg D :=
  ((read s.mem s.dev).1, { s with dev := (read s.mem s.dev).2 })

def physWrite (write : Memory → D → Memory × D) : Machine cfg D :=
  { s with mem := (write s.mem s.dev).1, dev := (write s.mem s.dev).2 }

/-- `readmemfl`. -/
def readmemfl (addr : UInt32) : Option (UInt32 × Machine cfg D) :=
  if mmuOn s then
    match cachedTranslate io (memcacheCheckMode s) .reads addr false with
    | none => none
    | some (none, t) => some (0, forgetRead t addr)
    | some (some phys, t) =>
      let cache2 := (t.memcache .reads).phys
      match readHost cfg cache2 with
      | some h => some (hostWord t h (addr &&& ~~~3), vradd t addr h cache2)
      | none => some (physRead t fun m d => memPhysRead32 cfg io m d phys)
  else
    let t := match readHostOff cfg addr with
      | some h => vradd s addr h addr
      | none => s
    some (physRead t fun m d => memPhysRead32 cfg io m d addr)

/-- `readmemfb`. -/
def readmemfb (addr : UInt32) : Option (UInt32 × Machine cfg D) :=
  if mmuOn s then
    match cachedTranslate io (memcacheCheckMode s) .reads addr false with
    | none => none
    | some (none, t) => some (0, t)
    | some (some phys, t) =>
      let cache2 := (t.memcache .reads).phys
      match readHost cfg cache2 with
      | some h => some (hostByte t h addr, vradd t addr h cache2)
      | none => some (physRead t fun m d => memPhysRead8 cfg io m d phys)
  else some (physRead s fun m d => memPhysRead8 cfg io m d addr)

def enterAndWrite (c : CacheOf) (addr : UInt32) (write : Memory → D → Memory × D) : Machine cfg D :=
  let t := match writeHost cfg (s.memcache c).phys (s.memcache .words).phys with
    | some (h, p) => vwadd s addr h p
    | none => s
  physWrite t write

/-- `writememfl`. -/
def writememfl (addr val : UInt32) : Option (Machine cfg D) :=
  if mmuOn s then
    match cachedTranslate io (memcacheCheckMode s) .words addr true with
    | none => none
    | some (none, t) => some t
    | some (some phys, t) =>
      some (enterAndWrite t .words addr fun m d => memPhysWrite32 cfg io m d phys val)
  else some (physWrite s fun m d => memPhysWrite32 cfg io m d addr val)

/-- `writememfb`. -/
def writememfb (addr : UInt32) (val : UInt8) : Option (Machine cfg D) :=
  if mmuOn s then
    match cachedTranslate io (memcacheCheckMode s) .bytes addr true with
    | none => none
    | some (none, t) => some t
    | some (some phys, t) =>
      some (enterAndWrite t .bytes addr fun m d => memPhysWrite8 cfg io m d phys val)
  else some (physWrite s fun m d => memPhysWrite8 cfg io m d addr val)

/-! ## The accesses -/

/-- `mem_read32`. -/
def memRead32 (addr : UInt32) : Option (UInt32 × Machine cfg D) :=
  match (s.readMap s.memmode).entry (page addr) with
  | some h => some (hostWord s h addr, s)
  | none => readmemfl io s addr

/-- `mem_read8`. -/
def memRead8 (addr : UInt32) : Option (UInt32 × Machine cfg D) :=
  match (s.readMap s.memmode).entry (page addr) with
  | some h => some (hostByte s h addr, s)
  | none => readmemfb io s addr

/-- `mem_write32`. -/
def memWrite32 (addr val : UInt32) : Option (Machine cfg D) :=
  match (s.writeMap s.memmode).entry (page addr) with
  | some h => some { s with
      mem := Function.update s.mem h.region ((s.mem h.region).setWord (h.base + low addr) val) }
  | none => writememfl io s addr val

/-- `mem_write8`. -/
def memWrite8 (addr : UInt32) (val : UInt8) : Option (Machine cfg D) :=
  match (s.writeMap s.memmode).entry (page addr) with
  | some h => some { s with
      mem := Function.update s.mem h.region ((s.mem h.region).set (h.base + low addr) val) }
  | none => writememfb io s addr val

end Access

inductive Access
  | read32 (addr : UInt32)
  | read8 (addr : UInt32)
  | write32 (addr val : UInt32)
  | write8 (addr : UInt32) (val : UInt8)

def Access.addr : Access → UInt32
  | .read32 addr | .read8 addr | .write32 addr _ | .write8 addr _ => addr

def Access.isWrite : Access → IsWrite
  | .read32 _ | .read8 _ => false
  | .write32 _ _ | .write8 _ _ => true

section Steps

variable {D : Type} {cfg : Config} (io : Devices D) (s : Machine cfg D)

def access : Access → Option (UInt32 × Machine cfg D)
  | .read32 addr => memRead32 io s addr
  | .read8 addr => memRead8 io s addr
  | .write32 addr val => (memWrite32 io s addr val).map fun t => (0, t)
  | .write8 addr val => (memWrite8 io s addr val).map fun t => (0, t)

/-- `mem_set_privilege`; the maps follow `memmode`. -/
def memSetPrivilege (privileged : Bool) : Machine cfg D := { s with memmode := privileged }

/-- The User forms, `mem_user_read32` and its siblings: the access at User privilege. -/
def userAccess (a : Access) : Option (UInt32 × Machine cfg D) :=
  (access io (memSetPrivilege s false) a).map fun r => (r.1, memSetPrivilege r.2 s.memmode)

/-- What `updatemode` does to the MMU. -/
def updatemode (m : UInt32) : Machine cfg D :=
  memSetPrivilege { s with mode := m } (m &&& 0xf != 0)

/-- `cp15_tlb_flush_all`. -/
def cp15TlbFlushAll : Machine cfg D :=
  { clearmemcache s with
    tlb := s.tlb.flush
    readMap := fun m => (s.readMap m).flush
    writeMap := fun m => (s.writeMap m).flush }

/-- `cp15_tlb_invalidate_physical`. -/
def cp15TlbInvalidatePhysical (addr : UInt32) : Machine cfg D :=
  { s with
    readMap := fun m => (s.readMap m).drop fun p => p &&& 0x1f000000 == addr
    writeMap := fun m => (s.writeMap m).drop fun p => p &&& 0x1f000000 == addr }

/-- The memory a translation table base names, and the mask of its word indexes; an address that
names none keeps the one before. -/
def tlbramOf (cfg : Config) (old : Option (Region × UInt32)) (table : UInt32) : Option (Region × UInt32) :=
  match chunkCase ((table &&& 0x3f000000) >>> 24) with
  | .vram => some (.vram, memVrammask cfg >>> 2)
  | .simm0Bank0 => some (.ram00, memRammask cfg >>> 2)
  | .simm0Bank1 => some (.ram01, memRammask cfg >>> 2)
  | .simm1 => if haveRam1 cfg then some (.ram1, (0x7ffffff : UInt32) >>> 2) else none
  | .sdram0 => if haveSdram cfg then some (.sdram0, (0x7ffffff : UInt32) >>> 2) else none
  | .sdram1 => if haveSdram cfg then some (.sdram1, (0x7ffffff : UInt32) >>> 2) else none
  | .rom | .io | .easi | .unused => old

def armv4 (cfg : Config) : Bool := cfg.cpuModel = .sa110 || cfg.cpuModel = .arm810

def ctrlChanges (val : UInt32) : Bool := (s.ctrl ^^^ val) &&& 0x301 != 0

/-- `cp15_write`, register 1. -/
def writeControl (val : UInt32) : Machine cfg D :=
  let t := if ctrlChanges s val then cp15TlbFlushAll s else s
  let t := { t with ctrl := val }
  if val &&& 0x10 = 0 ∧ t.mode &&& 0x10 ≠ 0 then updatemode t (t.mode &&& 0xf) else t

/-- `cp15_write`; `crn` and `crm` are the instruction's register fields. -/
def cp15Write (opcode val : UInt32) : Machine cfg D :=
  let crn := (opcode >>> 16) &&& 0xf
  if crn = 1 then writeControl s val
  else if crn = 2 then
    let table := val &&& ~~~0x3fff
    cp15TlbFlushAll
      { s with translationTable := table, tlbram := tlbramOf cfg s.tlbram table }
  else if crn = 3 then
    if val ≠ s.domainAccessControl then cp15TlbFlushAll { s with domainAccessControl := val } else s
  else if crn = 5 then
    if armv4 cfg then { s with faultStatus := val } else cp15TlbFlushAll s
  else if crn = 6 then
    if armv4 cfg then { s with faultAddress := val } else cp15TlbFlushAll s
  else if crn = 7 then { s with pccache := none }
  else if crn = 8 ∧ armv4 cfg then cp15TlbFlushAll s
  else s

/-- `getpccache`: the host memory to fetch a page's instructions from.  `none` in the answer is a
Prefetch Abort. -/
def getpccache (addr : UInt32) : Option (Option HostPage × Machine cfg D) :=
  let addr := frame addr
  let found : Option (Option UInt32 × Machine cfg D) :=
    if mmuOn s then
      (translateaddress io s addr false true).map fun r =>
        if r.2.abort then (none, { r.2 with abort := false }) else (some r.1, r.2)
    else some (some addr, s)
  found.map fun r =>
    match r.1 with
    | none => (none, r.2)
    | some phys =>
      let t := { r.2 with writeMap := fun m => (r.2.writeMap m).erase (page addr) }
      match chunkCase ((phys &&& 0x3f000000) >>> 24) with
      | .rom => (some ⟨.rom, phys &&& 0x7ff000⟩, t)
      | .vram => (some ⟨.vram, phys &&& memVrammask cfg⟩, t)
      | .simm0Bank0 => (some ⟨.ram00, phys &&& memRammask cfg⟩, t)
      | .simm0Bank1 => (some ⟨.ram01, phys &&& memRammask cfg⟩, t)
      | .simm1 => (if haveRam1 cfg then some ⟨.ram1, phys &&& 0x7ffffff⟩ else none, t)
      | .sdram0 => (if haveSdram cfg then some ⟨.sdram0, phys &&& 0x7ffffff⟩ else none, t)
      | .sdram1 => (if haveSdram cfg then some ⟨.sdram1, phys &&& 0x7ffffff⟩ else none, t)
      | .io | .easi | .unused => (none, t)

/-- The MMU as `cp15_reset`, `mem_reset` and `arm_reset` leave it: off, every cache empty, in a
Supervisor mode. -/
def resetState (mem : Memory) (dev : D) : Machine cfg D where
  mem := mem
  dev := dev
  ctrl := if cfg.cpuModel = .arm610 then 0 else if armv4 cfg then 0x70 else 0x40
  translationTable := 0
  domainAccessControl := 0
  faultStatus := 0
  faultAddress := 0
  tlbram := none
  mode := 3
  memmode := true
  abort := false
  tlb := .empty
  readMap := fun _ => .empty
  writeMap := fun _ => .empty
  memcache := fun _ => ⟨none, 0⟩
  memcacheMemmode := none
  pccache := none

/-- What can happen to the MMU.  `others` is everything else in the machine: devices and bus masters
that change memory, and the devices' own state. -/
inductive Op (D : Type)
  | access (a : Access)
  | userAccess (a : Access)
  | updatemode (m : UInt32)
  | cp15Write (opcode val : UInt32)
  | invalidatePhysical (addr : UInt32)
  | fetch (addr : UInt32)
  | takeAbort
  | others (mem : Memory) (dev : D)

/-- One step, with the value a read returns; `none` where the emulator stops. -/
def step : Op D → Option (UInt32 × Machine cfg D)
  | .access a => access io s a
  | .userAccess a => userAccess io s a
  | .updatemode m => some (0, updatemode s m)
  | .cp15Write opcode val => some (0, cp15Write s opcode val)
  | .invalidatePhysical addr => some (0, cp15TlbInvalidatePhysical s addr)
  | .fetch addr => (getpccache io s addr).map fun r => (0, r.2)
  | .takeAbort => some (0, { s with abort := false })
  | .others mem dev => some (0, { s with mem := mem, dev := dev })

end Steps

end RpcEmu.Mmu

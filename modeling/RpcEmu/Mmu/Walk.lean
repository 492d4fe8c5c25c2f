import RpcEmu.Lib.Pages
import RpcEmu.Lib.RingMap
import RpcEmu.Mmu.Phys

/-!
# The MMU: page tables, permissions and the TLB

`cp15.c` from the descriptors up.  A walk of the page tables (`descend`) finds what they hold for an
address; the Domain and the access permissions then grant or refuse the access (`walk`), and
`translateaddress2` turns that into an entry of the TLB or a fault.

* The TLB is a table by page with a ring of 256 slots (`RingMap`); an entry has the physical page and
  a mask of the accesses it permits, one bit a privilege and direction.
* A first-level descriptor of type 3 stops the emulator, as does a walk before the table base has
  named a memory: such a step has no next state.
-/

namespace RpcEmu.Mmu

open Bytes Pages

/-- The two directions of an access, as `rw` and `is_write` are in the source. -/
abbrev IsWrite := Bool

/-- An entry of the TLB: `tlbcache` and `tlbperm`. -/
structure TlbEntry where
  paddr : UInt32
  perm : UInt8

structure HostPage where
  region : Region
  base : UInt32
  deriving DecidableEq

/-- The single-entry page caches: of reads (`readmemcache`), of word writes (`writememcache`) and of
byte writes (`writemembcache`). -/
inductive CacheOf
  | reads | words | bytes
  deriving DecidableEq

/-- A single-entry page cache: the page, `none` where the source has `0xffffffff`, and the physical
page (`readmemcache2` and its siblings), which stays when the cache is invalidated. -/
structure PageCache where
  page : Option UInt32
  phys : UInt32

structure Machine (cfg : Config) (D : Type) where
  mem : Memory
  dev : D
  -- `struct cp15`
  ctrl : UInt32
  translationTable : UInt32
  domainAccessControl : UInt32
  faultStatus : UInt32
  faultAddress : UInt32
  /-- The memory that holds the first-level table, and the mask of its word indexes. -/
  tlbram : Option (Region × UInt32)
  -- the processor's side
  mode : UInt32
  memmode : Bool
  /-- Bit 0x40 of `arm.event`: a Data Abort is pending. -/
  abort : Bool
  tlb : RingMap cfg.tlbcachesize UInt32 TlbEntry Unit
  /-- `vraddrl_mode`, `vwaddrl_mode` and their rings, by privilege. -/
  readMap : Bool → RingMap cfg.vaddrRingSize UInt32 HostPage UInt32
  writeMap : Bool → RingMap cfg.vaddrRingSize UInt32 HostPage UInt32
  memcache : CacheOf → PageCache
  /-- The privilege the page caches were filled under. -/
  memcacheMemmode : Option Bool
  pccache : Option UInt32

/-! ## Permissions -/

section Permissions

/-- `CP15_CTRL_MMU`. -/
def ctrlMmu : UInt32 := 1

/-- `cp15_check_permissions`: the access is refused. -/
def cp15CheckPermissions (ctrl : UInt32) (memmode : Bool) (ap : UInt32) (isWrite : IsWrite) : Bool :=
  if ap = 0 then
    if ctrl &&& 0x300 = 0x100 then !memmode || isWrite
    else if ctrl &&& 0x300 = 0x200 then isWrite
    else true
  else if ap = 1 then !memmode
  else if ap = 2 then !memmode && isWrite
  else false

/-- `cp15_domain_access`. -/
def cp15DomainAccess (dac domain : UInt32) : UInt32 := (dac >>> (domain <<< 1)) &&& 3

def permBit (privileged : Bool) (isWrite : IsWrite) : UInt8 :=
  (1 : UInt8) <<< ((if privileged then 2 else 0) ||| (if isWrite then 1 else 0))

def permits (perm : UInt8) (privileged : Bool) (isWrite : IsWrite) : Bool :=
  perm &&& permBit privileged isWrite != 0

/-- `cp15_perm_mask`: every privilege and direction is tried. -/
def cp15PermMask (ctrl domainAccess ap : UInt32) : UInt8 :=
  if domainAccess = 3 then permBit true false ||| permBit true true ||| permBit false false |||
    permBit false true
  else
    let allowed (privileged : Bool) (isWrite : IsWrite) : UInt8 :=
      if cp15CheckPermissions ctrl privileged ap isWrite then 0 else permBit privileged isWrite
    allowed false false ||| allowed false true ||| allowed true false ||| allowed true true

lemma permits_cp15PermMask (ctrl domainAccess ap : UInt32) (privileged : Bool) (isWrite : IsWrite) :
    permits (cp15PermMask ctrl domainAccess ap) privileged isWrite =
      (decide (domainAccess = 3) || !cp15CheckPermissions ctrl privileged ap isWrite) := by
  by_cases hd : domainAccess = 3
  · simp only [cp15PermMask, hd, if_true, decide_true, Bool.true_or]
    cases privileged <;> cases isWrite <;> decide
  · simp only [cp15PermMask, hd, if_false, decide_false, Bool.false_or]
    cases h1 : cp15CheckPermissions ctrl false ap false <;>
      cases h2 : cp15CheckPermissions ctrl false ap true <;>
      cases h3 : cp15CheckPermissions ctrl true ap false <;>
      cases h4 : cp15CheckPermissions ctrl true ap true <;>
      cases privileged <;> cases isWrite <;> simp only [h1, h2, h3, h4] <;> decide

lemma cp15CheckPermissions_privileged {ctrl ap : UInt32} {isWrite : IsWrite}
    (h : cp15CheckPermissions ctrl false ap isWrite = false) :
    cp15CheckPermissions ctrl true ap isWrite = false := by
  unfold cp15CheckPermissions at h ⊢
  split_ifs at h ⊢ <;> simp_all

end Permissions

/-! ## The walk -/

/-- What the page tables hold for an address: a type the emulator stops at, no translation (with the
fault's code), or a page with its Domain, permission bits and physical address. -/
inductive Descent
  | fatal
  | none (domain code : UInt32)
  | page (inSection : Bool) (domain ap phys : UInt32)
  deriving DecidableEq

inductive Walked
  | fatal
  | refused (domain code : UInt32)
  | granted (phys : UInt32) (perm : UInt8)
  deriving DecidableEq

section Walk

variable {D : Type} {cfg : Config} (io : Devices D) (s : Machine cfg D)

def firstLevel (addr : UInt32) : Option UInt32 :=
  s.tlbram.map fun t : Region × UInt32 =>
    (s.mem t.1).word ((((s.translationTable ||| ((addr >>> 18) &&& ~~~3)) >>> 2) &&& t.2) * 4)

def secondLevel (domain sld addr : UInt32) : Descent :=
  if sld &&& 3 = 1 then
    -- large page: a permission for each 16KB
    .page false domain ((sld >>> (((addr &&& 0xc000) >>> 13) + 4)) &&& 3)
      ((sld &&& 0xffff0000) ||| (addr &&& 0xffff))
  else if sld &&& 3 = 2 then
    -- small page: a permission for each 1KB
    .page false domain ((sld >>> (((addr &&& 0xc00) >>> 9) + 4)) &&& 3)
      ((sld &&& 0xfffff000) ||| (addr &&& 0xfff))
  else .none domain 0x7

def sldAddr (fld addr : UInt32) : UInt32 := (fld &&& (0xfffffc00 : UInt32)) ||| ((addr >>> 10) &&& 0x3fc)

/-- The descriptors of an address, and the devices after reading them: nothing keeps a second-level
table out of I/O space. -/
def descend (addr : UInt32) : Descent × D :=
  match firstLevel s addr with
  | none => (.fatal, s.dev)
  | some fld =>
    let domain := (fld >>> 5) &&& 0xf
    if fld &&& 3 = 0 then (.none domain 0x5, s.dev)
    else if fld &&& 3 = 1 then
      let sld := memPhysRead32 cfg io s.mem s.dev (sldAddr fld addr)
      (secondLevel domain sld.1 addr, sld.2)
    else if fld &&& 3 = 2 then
      (.page true domain ((fld >>> 10) &&& 3) ((fld &&& 0xfff00000) ||| (addr &&& 0xfffff)), s.dev)
    else (.fatal, s.dev)

def tables (addr : UInt32) : Descent := (descend io s addr).1

def grant (ctrl dac : UInt32) (memmode : Bool) (isWrite : IsWrite) : Descent → Walked
  | .fatal => .fatal
  | .none domain code => .refused domain code
  | .page inSection domain ap phys =>
    let domainAccess := cp15DomainAccess dac domain
    if domainAccess = 0 ∨ domainAccess = 2 then .refused domain (if inSection then 0x9 else 0xb)
    else if domainAccess = 1 ∧ cp15CheckPermissions ctrl memmode ap isWrite = true then
      .refused domain (if inSection then 0xd else 0xf)
    else .granted phys (cp15PermMask ctrl domainAccess (if domainAccess = 1 then ap else 3))

/-- **The walk of the page tables** for an access, at a privilege. -/
def walk (memmode : Bool) (addr : UInt32) (rw : IsWrite) : Walked :=
  grant s.ctrl s.domainAccessControl memmode rw (tables io s addr)

/-- `cp15_tlb_add_entry`. -/
def cp15TlbAddEntry (vaddr paddr : UInt32) (perm : UInt8) : Machine cfg D :=
  { s with tlb := s.tlb.install (page vaddr) ⟨frame paddr, perm⟩ () }

/-- `translateaddress2`: walk, and enter the page in the TLB or raise the fault.  `none` where the
emulator stops. -/
def translateaddress2 (addr : UInt32) (rw : IsWrite) (isPrefetch : Bool) :
    Option (UInt32 × Machine cfg D) :=
  let t := { s with dev := (descend io s addr).2 }
  match walk io s s.memmode addr rw with
  | .fatal => none
  | .granted phys perm => some (phys, cp15TlbAddEntry t addr phys perm)
  | .refused domain code =>
    some (0, if isPrefetch then { t with abort := true }
      else { t with abort := true, faultAddress := addr, faultStatus := (domain <<< 4) ||| code })

/-- `tlbperm` of a page; a page without an entry permits nothing. -/
def tlbperm (p : UInt32) : UInt8 := ((s.tlb.entry p).map TlbEntry.perm).getD 0

/-- `translateaddress`: the TLB's entry where it permits the access, the walk otherwise. -/
def translateaddress (addr : UInt32) (rw : IsWrite) (isPrefetch : Bool) :
    Option (UInt32 × Machine cfg D) :=
  match s.tlb.entry (page addr) with
  | some e =>
    if permits e.perm s.memmode rw then some (e.paddr ||| low addr, s)
    else translateaddress2 io s addr rw isPrefetch
  | none => translateaddress2 io s addr rw isPrefetch

end Walk

end RpcEmu.Mmu

import RpcEmu.Lib.Lines
import RpcEmu.Net.Frames
import RpcEmu.Net.JsonDecode
import RpcEmu.Net.RxQueue
import Mathlib.Data.List.TakeWhile

/-!
# The JSON wire

`net_json_poll_link` of `net_json.c`, on a link that is connected.  What `recv` brings is put behind what
is left from the last call, whole lines are cut off the front, and each is decoded and offered to the
guest.

**The gaps.**  A line that fills the buffer is thrown away, and its tail is taken for a line; and a close
throws away the whole lines that were not cut yet.
-/

namespace RpcEmu.Net

open Lines Runs

def netJsonMaxLine : Nat := 4096
def netJsonPollMax : Nat := 64

/-- The bytes of a line that `in` can hold: one is kept for the NUL. -/
def inRoom : Nat := netJsonMaxLine * 2 - 1

def newline : UInt8 := 10

/-- `JsonLink`: what is in `in`, and whether the link is connected. -/
structure JsonLink where
  inBuf : List UInt8
  connected : Bool
  deriving DecidableEq

/-- What a call of `recv` comes back with.  It is `got` with as many of the bytes as there is room for. -/
inductive Recv
  | got (b : UInt8) (bs : List UInt8)
  | again
  | closed
  deriving DecidableEq

/-- `net_json_drop`. -/
def netJsonDrop (link : JsonLink) : JsonLink := { link with inBuf := [], connected := false }

/-- What a poll does: the link after it, the bytes that came in, the lines that were cut, and the bytes that
were thrown away at a close. -/
structure Polled where
  link : JsonLink
  received : List UInt8
  lines : List (List UInt8)
  dropped : List UInt8
  deriving DecidableEq

/-- The call of `recv`, where there is room for it: the bytes, or that the connection is closed. -/
def recvInto (link : JsonLink) : List Recv → Option (List UInt8) × List Recv
  | [] => (some [], [])
  | r :: rs =>
    if link.inBuf.length < inRoom then
      match r with
      | .got b bs => (some ((b :: bs).take (inRoom - link.inBuf.length)), rs)
      | .again => (some [], rs)
      | .closed => (none, rs)
    else (some [], r :: rs)

/-- The loop of `net_json_poll_link`, with so many lines to go. -/
def pollLoop : Nat → JsonLink → List Recv → Polled
  | 0, link, _ => ⟨link, [], [], []⟩
  | n + 1, link, rs =>
    match recvInto link rs with
    | (none, _) => ⟨netJsonDrop link, [], [], link.inBuf⟩
    | (some taken, rs) =>
      let inBuf := link.inBuf ++ taken
      match inBuf.dropWhile fun b => b ≠ newline with
      | [] =>
        -- no whole line, and if the buffer is full there never will be one
        if inRoom ≤ inBuf.length then ⟨{ link with inBuf := [] }, taken, [], []⟩
        else ⟨{ link with inBuf := inBuf }, taken, [], []⟩
      | _ :: rest =>
        let p := pollLoop n { link with inBuf := rest } rs
        { p with received := taken ++ p.received, lines := (inBuf.takeWhile fun b => b ≠ newline) :: p.lines }

def frameForUs (hwaddr line : List UInt8) : Option (List UInt8) :=
  (netJsonDecode (cString line) netJsonMaxFrame).filter fun frame =>
    netJsonHeaderLen ≤ frame.length && netSwitchFrameIsForUs frame hwaddr

def offerLines (hwaddr : List UInt8) : NatState → List (List UInt8) → NatState × List (List UInt8 × Bool)
  | guest, [] => (guest, [])
  | guest, line :: lines =>
    match frameForUs hwaddr line with
    | none => offerLines hwaddr guest lines
    | some frame =>
      let (taken, guest) := networkNatInjectPacket guest frame
      let (guest, offered) := offerLines hwaddr guest lines
      (guest, (frame, taken) :: offered)

/-! ## A connection -/

/-- A connection from when it was made: the bytes received on it, the lines cut, the bytes a close threw
away, and the frames offered to the guest with its answers. -/
structure Wire where
  link : JsonLink
  guest : NatState
  received : List UInt8
  lines : List (List UInt8)
  dropped : List UInt8
  offered : List (List UInt8 × Bool)

def Wire.start (guest : NatState) : Wire := ⟨⟨[], true⟩, guest, [], [], [], []⟩

def Wire.delivered (w : Wire) : List (List UInt8) := (w.offered.filter Prod.snd).map Prod.fst

/-- A poll, with what its calls of `recv` come back with; or something that happens to the guest. -/
inductive WireEvent
  | poll (rs : List Recv)
  | guest (e : RxEvent)

/-- `net_json_poll_link`. -/
def netJsonPollLink (hwaddr : List UInt8) (w : Wire) (rs : List Recv) : Wire :=
  if !w.link.connected then w
  else
    let p := pollLoop netJsonPollMax w.link rs
    let (guest, offered) := offerLines hwaddr w.guest p.lines
    { link := p.link, guest := guest, received := w.received ++ p.received, lines := w.lines ++ p.lines,
      dropped := w.dropped ++ p.dropped, offered := w.offered ++ offered }

def wireStep (hwaddr : List UInt8) (w : Wire) : WireEvent → Wire
  | .poll rs => netJsonPollLink hwaddr w rs
  | .guest e => { w with guest := rxNext w.guest e }

/-- No line is longer than the buffer. -/
def Short (stream : List UInt8) : Prop := ∀ line ∈ stream.splitOn newline, line.length < inRoom

/-! ## What a poll cuts -/

section Cuts

variable {link : JsonLink}

lemma short_rest {line rest : List UInt8} (hline : newline ∉ line) (h : Short (line ++ newline :: rest)) :
    Short rest := by
  intro l hl
  refine h l ?_
  rw [List.splitOn_append_cons_self_of_not_mem hline]
  exact List.mem_cons_of_mem _ hl

lemma cut_of_dropWhile {buffer rest : List UInt8} {b : UInt8}
    (h : (buffer.dropWhile fun b => b ≠ newline) = b :: rest) :
    buffer = (buffer.takeWhile fun b => b ≠ newline) ++ newline :: rest ∧
      newline ∉ buffer.takeWhile fun b => b ≠ newline := by
  have hb : b = newline := by
    have hhead := List.head_dropWhile_not (fun b => decide (b ≠ newline)) (l := buffer) (by rw [h]; simp)
    simp only [h, List.head_cons] at hhead
    simpa using hhead
  subst hb
  refine ⟨?_, ?_⟩
  · rw [← h, List.takeWhile_append_dropWhile]
  · intro hmem
    simpa using List.mem_takeWhile_imp hmem

lemma notMem_of_dropWhile {buffer : List UInt8} (h : (buffer.dropWhile fun b => b ≠ newline) = []) :
    newline ∉ buffer := by
  intro hmem
  simpa using List.dropWhile_eq_nil_iff.mp h newline hmem

/-- **The lines cut off, what a close threw away and what is in the buffer are the bytes there were.** -/
lemma pollLoop_cuts (hconnected : link.connected = true) (n : Nat) (rs : List Recv)
    (hshort : Short (link.inBuf ++ (pollLoop n link rs).received)) :
    link.inBuf ++ (pollLoop n link rs).received =
        joined newline (pollLoop n link rs).lines ++
          ((pollLoop n link rs).dropped ++ (pollLoop n link rs).link.inBuf) ∧
      (∀ line ∈ (pollLoop n link rs).lines, newline ∉ line) ∧
      ((pollLoop n link rs).link.connected = true → (pollLoop n link rs).dropped = []) ∧
      ((pollLoop n link rs).link.connected = false → (pollLoop n link rs).link.inBuf = []) := by
  induction n generalizing link rs with
  | zero => simp [pollLoop, hconnected]
  | succ n ih =>
    rw [pollLoop] at hshort ⊢
    rcases hrecv : recvInto link rs with ⟨_ | taken, rs'⟩
    · simp [netJsonDrop]
    · simp only [hrecv] at hshort ⊢
      cases hcut : (link.inBuf ++ taken).dropWhile fun b => b ≠ newline with
      | nil =>
        simp only [hcut] at hshort ⊢
        have hnone := notMem_of_dropWhile hcut
        have hroom : ¬inRoom ≤ (link.inBuf ++ taken).length := by
          have hlen := mem_splitOn_joined (List.forall_mem_nil fun line => newline ∉ line) hnone
          have hlt : (link.inBuf ++ taken).length < inRoom := by
            split at hshort <;> exact hshort _ (by simpa using hlen)
          exact Nat.not_le.mpr hlt
        rw [if_neg hroom]
        simp [hconnected]
      | cons b rest =>
        simp only [hcut] at hshort ⊢
        obtain ⟨hbuffer, hfree⟩ := cut_of_dropWhile hcut
        rw [← List.append_assoc, hbuffer, List.append_assoc, List.cons_append] at hshort
        obtain ⟨hbytes, hlines, hopen, hclosed⟩ :=
          @ih { link with inBuf := rest } hconnected rs' (short_rest hfree hshort)
        refine ⟨?_, ?_, hopen, hclosed⟩
        · calc link.inBuf ++ (taken ++ (pollLoop n { link with inBuf := rest } rs').received)
              = (link.inBuf ++ taken) ++ (pollLoop n { link with inBuf := rest } rs').received :=
                (List.append_assoc _ _ _).symm
            _ = ((link.inBuf ++ taken).takeWhile fun b => b ≠ newline) ++
                newline :: (rest ++ (pollLoop n { link with inBuf := rest } rs').received) := by
              conv_lhs => rw [hbuffer]
              rw [List.append_assoc, List.cons_append]
            _ = _ := by
              rw [hbytes, joined_cons, List.append_assoc, List.cons_append]
        · exact List.forall_mem_cons.mpr ⟨hfree, hlines⟩

lemma pollLoop_quiet (hconnected : link.connected = true) (n : Nat) {rs : List Recv}
    (hquiet : ∀ r ∈ rs, r = .again) (hshort : Short link.inBuf) :
    (pollLoop n link rs).received = [] ∧ (pollLoop n link rs).link.connected = true ∧
      ((pollLoop n link rs).lines.length = n ∨ newline ∉ (pollLoop n link rs).link.inBuf) := by
  induction n generalizing link rs with
  | zero => simp [pollLoop, hconnected]
  | succ n ih =>
    have hrecv : ∃ rs', recvInto link rs = (some [], rs') ∧ ∀ r ∈ rs', r = .again := by
      cases rs with
      | nil => exact ⟨[], rfl, hquiet⟩
      | cons r rs =>
        obtain ⟨rfl, hrs⟩ := List.forall_mem_cons.mp hquiet
        rw [recvInto]
        split
        · exact ⟨rs, rfl, hrs⟩
        · exact ⟨_, rfl, hquiet⟩
    obtain ⟨rs', hrecv, hrs'⟩ := hrecv
    rw [pollLoop]
    simp only [hrecv, List.append_nil]
    cases hcut : link.inBuf.dropWhile fun b => b ≠ newline with
    | nil =>
      have hnone := notMem_of_dropWhile hcut
      dsimp only
      split
      · simp [hconnected]
      · simp [hconnected, hnone]
    | cons b rest =>
      obtain ⟨hbuffer, hfree⟩ := cut_of_dropWhile hcut
      rw [hbuffer] at hshort
      obtain ⟨hreceived, hstill, hcount⟩ :=
        @ih { link with inBuf := rest } hconnected rs' hrs' (short_rest hfree hshort)
      refine ⟨by simp [hreceived], hstill, ?_⟩
      rcases hcount with hcount | hcount
      · left
        simp [hcount]
      · right
        exact hcount

end Cuts

/-! ## Runs -/

section Runs

variable {hwaddr : List UInt8} {w : Wire}

lemma short_joined {lines : List (List UInt8)} {rest : List UInt8} (hlines : ∀ line ∈ lines, newline ∉ line)
    (h : Short (joined newline lines ++ rest)) : Short rest := by
  intro line hline
  refine h line ?_
  rw [splitOn_joined hlines]
  exact List.mem_append_right _ hline

lemma short_of_append {stream more : List UInt8} (h : Short (stream ++ more)) : Short stream := by
  intro line hline
  obtain ⟨line', hline', hle⟩ := exists_longer hline more
  exact Nat.lt_of_le_of_lt hle (h line' hline')

lemma offerLines_fst (guest : NatState) (lines : List (List UInt8)) :
    (offerLines hwaddr guest lines).2.map Prod.fst = lines.filterMap (frameForUs hwaddr) := by
  induction lines generalizing guest with
  | nil => rfl
  | cons line lines ih =>
    rw [offerLines]
    cases hframe : frameForUs hwaddr line with
    | none => rw [List.filterMap_cons_none hframe, ih]
    | some frame => rw [List.filterMap_cons_some hframe, List.map_cons, ih]

lemma offered_exec (es : List WireEvent) (h : w.offered.map Prod.fst = w.lines.filterMap (frameForUs hwaddr)) :
    (exec (wireStep hwaddr) w es).offered.map Prod.fst =
      (exec (wireStep hwaddr) w es).lines.filterMap (frameForUs hwaddr) := by
  induction es generalizing w with
  | nil => exact h
  | cons e es ih =>
    refine ih ?_
    cases e with
    | guest e => exact h
    | poll rs =>
      simp only [wireStep, netJsonPollLink]
      split
      · exact h
      · simp only [List.map_append, List.filterMap_append, h, offerLines_fst]

/-- What has come is the lines, what was dropped, and what is buffered. -/
structure Cut (w : Wire) : Prop where
  bytes : w.received = joined newline w.lines ++ (w.dropped ++ w.link.inBuf)
  lines : ∀ line ∈ w.lines, newline ∉ line
  opened : w.link.connected = true → w.dropped = []
  closed : w.link.connected = false → w.link.inBuf = []

lemma cut_start (guest : NatState) : Cut (Wire.start guest) := ⟨rfl, by simp [Wire.start], fun _ => rfl, fun _ => rfl⟩

/-- **One step.** -/
lemma Cut.step (h : Cut w) (e : WireEvent) (hshort : Short (wireStep hwaddr w e).received) :
    Cut (wireStep hwaddr w e) := by
  cases e with
  | guest e => exact ⟨h.bytes, h.lines, h.opened, h.closed⟩
  | poll rs =>
    simp only [wireStep, netJsonPollLink] at hshort ⊢
    split at hshort
    next hdown =>
      rw [if_pos hdown]
      exact h
    next hup =>
      rw [if_neg hup]
      have hconnected : w.link.connected = true := by simpa using hup
      have hbytes := h.bytes
      rw [h.opened hconnected, List.nil_append] at hbytes
      rw [hbytes, List.append_assoc] at hshort
      obtain ⟨hcut, hlines, hopen, hclosed⟩ :=
        pollLoop_cuts hconnected netJsonPollMax rs (short_joined h.lines hshort)
      refine ⟨?_, ?_, ?_, hclosed⟩ <;> dsimp only
      · rw [hbytes, h.opened hconnected, List.nil_append, List.append_assoc, hcut, joined_append,
          List.append_assoc]
      · intro line hline
        exact (List.mem_append.mp hline).elim (h.lines line) (hlines line)
      · intro hstill
        rw [h.opened hconnected, hopen hstill, List.append_nil]

lemma received_step (hwaddr : List UInt8) (w : Wire) (e : WireEvent) :
    ∃ more, (wireStep hwaddr w e).received = w.received ++ more := by
  cases e with
  | guest e => exact ⟨[], (List.append_nil _).symm⟩
  | poll rs =>
    simp only [wireStep, netJsonPollLink]
    split
    · exact ⟨[], (List.append_nil _).symm⟩
    · exact ⟨_, rfl⟩

lemma received_exec (hwaddr : List UInt8) (w : Wire) (es : List WireEvent) :
    ∃ more, (exec (wireStep hwaddr) w es).received = w.received ++ more := by
  induction es generalizing w with
  | nil => exact ⟨[], (List.append_nil _).symm⟩
  | cons e es ih =>
    obtain ⟨more, hstep⟩ := received_step hwaddr w e
    obtain ⟨more', hrest⟩ := ih (wireStep hwaddr w e)
    exact ⟨more ++ more', by rw [exec_cons, hrest, hstep, List.append_assoc]⟩

/-- **A run.** -/
lemma Cut.exec (h : Cut w) {es : List WireEvent} (hshort : Short (exec (wireStep hwaddr) w es).received) :
    Cut (exec (wireStep hwaddr) w es) := by
  induction es generalizing w with
  | nil => exact h
  | cons e es ih =>
    obtain ⟨more, hmore⟩ := received_exec hwaddr (wireStep hwaddr w e) es
    rw [exec_cons, hmore] at hshort
    exact ih (h.step e (short_of_append hshort)) (hmore ▸ hshort)

lemma Cut.complete_open (h : Cut w) (hconnected : w.link.connected = true) :
    complete newline w.received = w.lines ++ complete newline w.link.inBuf := by
  rw [h.bytes, h.opened hconnected, List.nil_append, complete_joined h.lines]

lemma Cut.complete_closed (h : Cut w) (hclosed : w.link.connected = false) :
    complete newline w.received = w.lines ++ complete newline w.dropped := by
  rw [h.bytes, h.closed hclosed, List.append_nil, complete_joined h.lines]

lemma Cut.first (h : Cut w) : w.lines <+: complete newline w.received := by
  cases hconnected : w.link.connected with
  | true => exact ⟨_, (h.complete_open hconnected).symm⟩
  | false => exact ⟨_, (h.complete_closed hconnected).symm⟩

lemma Cut.quiet (h : Cut w) (hwaddr : List UInt8) (hconnected : w.link.connected = true) (hshort : Short w.received)
    {rs : List Recv} (hrs : ∀ r ∈ rs, r = .again) :
    (wireStep hwaddr w (.poll rs)).received = w.received ∧
      (wireStep hwaddr w (.poll rs)).link.connected = true ∧ Cut (wireStep hwaddr w (.poll rs)) ∧
      ((wireStep hwaddr w (.poll rs)).lines.length = w.lines.length + netJsonPollMax ∨
        (wireStep hwaddr w (.poll rs)).lines = complete newline w.received) := by
  have hbytes := h.bytes
  rw [h.opened hconnected, List.nil_append] at hbytes
  have hbuffer := short_joined h.lines (hbytes ▸ hshort)
  obtain ⟨hreceived, hstill, hcount⟩ := pollLoop_quiet hconnected netJsonPollMax hrs hbuffer
  have hsame : (wireStep hwaddr w (.poll rs)).received = w.received := by
    simp [wireStep, netJsonPollLink, hconnected, hreceived]
  have hlink : (wireStep hwaddr w (.poll rs)).link = (pollLoop netJsonPollMax w.link rs).link := by
    simp [wireStep, netJsonPollLink, hconnected]
  have hlines : (wireStep hwaddr w (.poll rs)).lines =
      w.lines ++ (pollLoop netJsonPollMax w.link rs).lines := by
    simp [wireStep, netJsonPollLink, hconnected]
  have hopen : (wireStep hwaddr w (.poll rs)).link.connected = true := hlink ▸ hstill
  have hcut : Cut (wireStep hwaddr w (.poll rs)) := h.step (.poll rs) (hsame.symm ▸ hshort)
  refine ⟨hsame, hopen, hcut, ?_⟩
  rcases hcount with hcount | hcount
  · left
    rw [hlines, List.length_append, hcount]
  · right
    have hall := hcut.complete_open hopen
    rw [hlink, complete_of_notMem hcount, List.append_nil, hsame] at hall
    exact hall.symm

lemma Cut.drained (h : Cut w) (hconnected : w.link.connected = true) (hshort : Short w.received)
    {quiets : List (List Recv)} (hquiets : ∀ rs ∈ quiets, ∀ r ∈ rs, r = .again)
    (hcount : (complete newline w.received).length ≤ w.lines.length + netJsonPollMax * quiets.length) :
    (Runs.exec (wireStep hwaddr) w (quiets.map .poll)).lines = complete newline w.received := by
  induction quiets generalizing w with
  | nil =>
    obtain ⟨rest, hrest⟩ := h.first
    have hlen := congrArg List.length hrest
    rw [List.length_append] at hlen
    rw [List.length_nil, Nat.mul_zero, Nat.add_zero] at hcount
    have hnone : rest = [] := List.eq_nil_of_length_eq_zero (by omega)
    rw [hnone, List.append_nil] at hrest
    exact hrest
  | cons rs quiets ih =>
    obtain ⟨hrs, hrest⟩ := List.forall_mem_cons.mp hquiets
    obtain ⟨hsame, hopen, hcut, hlines⟩ := h.quiet hwaddr hconnected hshort hrs
    rw [List.map_cons, exec_cons]
    rw [← hsame] at hcount hshort hlines ⊢
    refine ih hcut hopen hshort hrest ?_
    rw [List.length_cons] at hcount
    rcases hlines with hlines | hlines
    · rw [hlines]
      have hmul : netJsonPollMax * (quiets.length + 1) = netJsonPollMax * quiets.length + netJsonPollMax :=
        Nat.mul_succ _ _
      omega
    · rw [hlines]
      exact Nat.le_add_right _ _

end Runs

/-- **The JSON wire delivers the same frames however the stream is cut.**  Where no line received is as long
as the buffer: the frames offered to the guest are those of the lines cut, in order, that are for this
machine; the lines cut are the first of those that ended, and polls enough make them all; and they are all
of them at a close that leaves no whole line uncut. -/
theorem json_wire (hwaddr : List UInt8) (guest : NatState) (es : List WireEvent)
    (hshort : Short (exec (wireStep hwaddr) (Wire.start guest) es).received) :
    (exec (wireStep hwaddr) (Wire.start guest) es).offered.map Prod.fst =
        (exec (wireStep hwaddr) (Wire.start guest) es).lines.filterMap (frameForUs hwaddr) ∧
      (exec (wireStep hwaddr) (Wire.start guest) es).lines <+:
        complete newline (exec (wireStep hwaddr) (Wire.start guest) es).received ∧
      ((exec (wireStep hwaddr) (Wire.start guest) es).link.connected = true →
        ∀ quiets : List (List Recv), (∀ rs ∈ quiets, ∀ r ∈ rs, r = .again) →
          (complete newline (exec (wireStep hwaddr) (Wire.start guest) es).received).length ≤
            (exec (wireStep hwaddr) (Wire.start guest) es).lines.length + netJsonPollMax * quiets.length →
          (exec (wireStep hwaddr) (Wire.start guest) (es ++ quiets.map .poll)).lines =
            complete newline (exec (wireStep hwaddr) (Wire.start guest) es).received) ∧
      ((exec (wireStep hwaddr) (Wire.start guest) es).link.connected = false →
        newline ∉ (exec (wireStep hwaddr) (Wire.start guest) es).dropped →
          (exec (wireStep hwaddr) (Wire.start guest) es).lines =
            complete newline (exec (wireStep hwaddr) (Wire.start guest) es).received) := by
  have hcut := (cut_start guest).exec hshort
  refine ⟨offered_exec es rfl, hcut.first, ?_, ?_⟩
  · intro hconnected quiets hquiets hcount
    rw [exec_append]
    exact hcut.drained hconnected hshort hquiets hcount
  · intro hclosed hdropped
    have hall := hcut.complete_closed hclosed
    rw [complete_of_notMem hdropped, List.append_nil] at hall
    exact hall.symm

def lineTo (dst : String) : List UInt8 :=
  ascii ("\x7b\"frame_type\": 2048, \"src\": [6,2,3,4,5,6], \"dst\": ".toList ++ dst.toList ++
    ", \"data\": \"AAEC\"\x7d".toList)

def readyGuest : NatState := networkNatSetirqstatus (started true) 4

theorem json_wire_pieces : ∃ es : List WireEvent,
    Short (exec (wireStep [6, 2, 3, 4, 5, 7]) (Wire.start readyGuest) es).received ∧
    (exec (wireStep [6, 2, 3, 4, 5, 7]) (Wire.start readyGuest) es).offered.map Prod.fst =
      (exec (wireStep [6, 2, 3, 4, 5, 7]) (Wire.start readyGuest) es).lines.filterMap
        (frameForUs [6, 2, 3, 4, 5, 7]) := by
  let es : List WireEvent := [.poll [.got 32 ((lineTo ("[255,255,255,255,255,255]")).take 20)],
    .poll [.got 32 ((lineTo ("[255,255,255,255,255,255]")).drop 20 ++ [newline])]]
  have hshort : Short (exec (wireStep [6, 2, 3, 4, 5, 7]) (Wire.start readyGuest) es).received := by
    unfold Short
    decide +kernel
  exact ⟨es, hshort, (json_wire _ _ es hshort).1⟩

def Wire.sent (w : Wire) : List (List UInt8) :=
  ((complete newline w.received).filter fun line => line.length < inRoom).filterMap fun line =>
    netJsonDecode (cString line) netJsonMaxFrame

lemma pollLoop_overlong (n : Nat) : pollLoop (n + 1) ⟨[], true⟩ [.got 120 (List.replicate (inRoom - 1) 120)] =
    ⟨⟨[], true⟩, List.replicate inRoom 120, [], []⟩ := by
  have hall : (120 : UInt8) :: List.replicate (inRoom - 1) 120 = List.replicate inRoom 120 := rfl
  have hnone : (List.replicate inRoom (120 : UInt8)).dropWhile (fun b => b ≠ newline) = [] := by
    rw [List.dropWhile_eq_nil_iff]
    intro b hb
    rw [List.eq_of_mem_replicate hb]
    rfl
  have hrecv : recvInto ⟨[], true⟩ [.got 120 (List.replicate (inRoom - 1) 120)] =
      (some (List.replicate inRoom 120), []) := by
    rw [recvInto, if_pos (by decide), hall]
    simp
  rw [pollLoop, hrecv]
  dsimp only
  rw [List.nil_append, hnone]
  dsimp only
  rw [if_pos (by simp)]

theorem json_wire_gaps :
    (∃ es, (exec (wireStep [6, 2, 3, 4, 5, 7]) (Wire.start readyGuest) es).delivered = [] ∧
      (exec (wireStep [6, 2, 3, 4, 5, 7]) (Wire.start readyGuest) es).sent.length = 1) ∧
    (∃ es, (exec (wireStep [6, 2, 3, 4, 5, 7]) (Wire.start readyGuest) es).delivered.length = 1 ∧
      (exec (wireStep [6, 2, 3, 4, 5, 7]) (Wire.start readyGuest) es).sent.length = 2) ∧
    (∃ es, (exec (wireStep [6, 2, 3, 4, 5, 7]) (Wire.start readyGuest) es).delivered.length = 1 ∧
      (exec (wireStep [6, 2, 3, 4, 5, 7]) (Wire.start readyGuest) es).sent = []) := by
  refine ⟨⟨[.poll [.got 32 (lineTo ("[2,0,0,0,0,1]") ++ [newline])]], by decide +kernel,
      by decide +kernel⟩,
    ⟨[.poll [.got 32 (lineTo ("[255,255,255,255,255,255]") ++ newline ::
      lineTo ("[255,255,255,255,255,255]") ++ [newline]), .closed]], by decide +kernel,
      by decide +kernel⟩, ?_⟩
  have hfirst : wireStep [6, 2, 3, 4, 5, 7] (Wire.start readyGuest)
      (.poll [.got 120 (List.replicate (inRoom - 1) 120)]) =
      { Wire.start readyGuest with received := List.replicate inRoom 120 } := by
    have hloop := pollLoop_overlong 63
    simp only [wireStep, netJsonPollLink, Wire.start, Bool.not_true, netJsonPollMax, hloop]
    rfl
  let tail := lineTo ("[255,255,255,255,255,255]")
  refine ⟨[.poll [.got 120 (List.replicate (inRoom - 1) 120)], .poll [.got 32 (tail ++ [newline])]],
    ?_, ?_⟩
  · rw [exec_cons, hfirst]
    decide +kernel
  · have hreceived : (wireStep [6, 2, 3, 4, 5, 7]
        { Wire.start readyGuest with received := List.replicate inRoom 120 }
        (.poll [.got 32 (tail ++ [newline])])).received =
        joined newline [List.replicate inRoom 120 ++ 32 :: tail] ++ [] := by
      have htaken : (pollLoop netJsonPollMax ⟨[], true⟩ [.got 32 (tail ++ [newline])]).received =
          32 :: tail ++ [newline] := by decide +kernel
      simp [wireStep, netJsonPollLink, Wire.start, htaken]
    have hfree : ∀ line ∈ [List.replicate inRoom 120 ++ 32 :: tail], newline ∉ line := by
      have htail : newline ∉ tail := by decide +kernel
      have hne : newline ≠ 120 ∧ newline ≠ 32 := by decide
      simp [htail, hne]
    rw [exec_cons, hfirst, exec_cons, exec_nil, Wire.sent, hreceived, complete_joined hfree]
    simp [complete]

end RpcEmu.Net

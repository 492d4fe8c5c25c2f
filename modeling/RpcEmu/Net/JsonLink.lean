import RpcEmu.Net.JsonFrames
import RpcEmu.Net.JsonWire

/-!
# From machine to machine over JSON

`net_json_tx` on one side of a connection and `net_json_poll_link` on the other.  A frame that has a line goes out
as that line, and one that has none does not go out; what comes in is a prefix of what went out, cut anywhere.
-/

namespace RpcEmu.Net

open Lines Runs

/-- `net_json_tx` on one link, that takes the whole line. -/
def netJsonTx (frame : List UInt8) : List UInt8 := (netJsonEncode frame netJsonMaxLine).getD []

def carried (frame : List UInt8) : Bool := netJsonHeaderLen ≤ frame.length && frame.length ≤ netJsonMaxFrame

def jsonLine (frame : List UInt8) : List UInt8 :=
  jsonHead frame ++ (base64Encode (frame.drop netJsonHeaderLen) ++ 34 :: [125])

variable {frame : List UInt8}

lemma netJsonTx_of_carried (h : carried frame = true) : netJsonTx frame = jsonLine frame ++ [newline] := by
  rw [carried, Bool.and_eq_true, decide_eq_true_iff, decide_eq_true_iff] at h
  have hroom : 160 + (frame.length - netJsonHeaderLen + 2) / 3 * 4 + 2 ≤ netJsonMaxLine := by
    have hmax : frame.length ≤ 1522 := h.2
    have hmin : netJsonHeaderLen = 14 := rfl
    have hline : netJsonMaxLine = 4096 := rfl
    omega
  rw [netJsonTx, netJsonEncode_of_room h.1 h.2 hroom, Option.getD_some, jsonLine]
  simp only [List.append_assoc]
  rfl

lemma netJsonTx_of_not_carried (h : carried frame = false) : netJsonTx frame = [] := by
  have hlen : frame.length < netJsonHeaderLen ∨ netJsonMaxFrame < frame.length := by
    rw [carried, Bool.and_eq_false_iff, decide_eq_false_iff_not, decide_eq_false_iff_not] at h
    omega
  rw [netJsonTx, netJsonEncode, if_pos hlen]
  rfl

/-- **What goes out** is the lines of the frames that have one. -/
lemma flatMap_netJsonTx (frames : List (List UInt8)) :
    frames.flatMap netJsonTx = joined newline ((frames.filter carried).map jsonLine) := by
  induction frames with
  | nil => rfl
  | cons frame frames ih =>
    rw [List.flatMap_cons, ih]
    cases hcarried : carried frame with
    | true =>
      rw [netJsonTx_of_carried hcarried, List.filter_cons_of_pos hcarried, List.map_cons, joined_cons,
        List.append_assoc]
      rfl
    | false => rw [netJsonTx_of_not_carried hcarried, List.filter_cons_of_neg (by simp [hcarried]), List.nil_append]

lemma newline_notMem_jsonLine (frame : List UInt8) : newline ∉ jsonLine frame :=
  notMem_line (.inr rfl) frame _ (by decide)

lemma length_jsonLine (h : carried frame = true) : (jsonLine frame).length < inRoom := by
  rw [carried, Bool.and_eq_true, decide_eq_true_iff, decide_eq_true_iff] at h
  have hhead := length_jsonHead frame
  have htext := length_base64Encode (frame.drop netJsonHeaderLen)
  have hmax : frame.length ≤ 1522 := h.2
  have hroom : inRoom = 8191 := rfl
  rw [List.length_drop] at htext
  simp only [jsonLine, List.length_append, List.length_cons, List.length_nil]
  omega

/-- **What comes back from the line of a frame**: the frame, if it is for this machine. -/
lemma frameForUs_jsonLine (hwaddr : List UInt8) (h : carried frame = true) :
    frameForUs hwaddr (jsonLine frame) = if netSwitchFrameIsForUs frame hwaddr then some frame else none := by
  rw [carried, Bool.and_eq_true, decide_eq_true_iff, decide_eq_true_iff] at h
  have hnul : 0 ∉ jsonLine frame := notMem_line (.inl rfl) frame _ (by decide)
  have hstring : cString (jsonLine frame) = cString (jsonLine frame ++ 0 :: []) := by
    rw [cString_append hnul, cString, List.takeWhile_eq_self_iff]
    intro b hb
    rw [decide_eq_true_iff]
    rintro rfl
    exact hnul hb
  have hdecode : netJsonDecode (cString (jsonLine frame)) netJsonMaxFrame = some frame := by
    rw [hstring]
    exact netJsonDecode_line h.1 h.2 (by decide) []
  rw [frameForUs, hdecode, Option.filter_some]
  simp [h.1]

lemma filterMap_jsonLine (hwaddr : List UInt8) (frames : List (List UInt8)) :
    ((frames.filter carried).map jsonLine).filterMap (frameForUs hwaddr) =
      frames.filter fun frame => carried frame && netSwitchFrameIsForUs frame hwaddr := by
  induction frames with
  | nil => rfl
  | cons frame frames ih =>
    cases hcarried : carried frame with
    | true =>
      have hone := frameForUs_jsonLine hwaddr hcarried
      rw [List.filter_cons_of_pos hcarried, List.map_cons]
      cases hus : netSwitchFrameIsForUs frame hwaddr with
      | true =>
        rw [hus, if_pos rfl] at hone
        rw [List.filterMap_cons_some hone, List.filter_cons_of_pos (by simp [hcarried, hus]), ih]
      | false =>
        rw [hus, if_neg Bool.false_ne_true] at hone
        rw [List.filterMap_cons_none hone, List.filter_cons_of_neg (by simp [hus]), ih]
    | false => rw [List.filter_cons_of_neg (by simp [hcarried]), List.filter_cons_of_neg (by simp [hcarried]), ih]

lemma complete_of_cut {stream : List UInt8} {lines : List (List UInt8)} (hlines : ∀ line ∈ lines, newline ∉ line)
    (h : stream <+: joined newline lines) : complete newline stream <+: lines := by
  obtain ⟨more, hmore⟩ := h
  obtain ⟨cut, rest, rfl, hcut, hrest⟩ := exists_joined newline stream
  have hall := complete_joined hlines []
  rw [List.append_nil, ← hmore, List.append_assoc, complete_joined hcut, complete_of_notMem List.not_mem_nil,
    List.append_nil] at hall
  rw [complete_joined hcut, complete_of_notMem hrest, List.append_nil]
  exact ⟨_, hall⟩

/-- **Frames go from machine to machine in order.**  Whatever the frames, however the stream is cut and wherever it
ends, those offered to the guest are the first of those sent that have a line and are for it, each as it was sent; and
when all has come in and the link is up, polls enough offer the rest. -/
theorem frames_over_the_link (hwaddr : List UInt8) (guest : NatState) (frames : List (List UInt8)) (es : List WireEvent)
    (hsent : (exec (wireStep hwaddr) (Wire.start guest) es).received <+: frames.flatMap netJsonTx) :
    let w := exec (wireStep hwaddr) (Wire.start guest) es
    let meant := frames.filter fun frame => carried frame && netSwitchFrameIsForUs frame hwaddr
    w.offered.map Prod.fst <+: meant ∧
      (w.link.connected = true → w.received = frames.flatMap netJsonTx →
        ∀ quiets : List (List Recv), (∀ rs ∈ quiets, ∀ r ∈ rs, r = .again) →
          frames.length ≤ netJsonPollMax * quiets.length →
          (exec (wireStep hwaddr) (Wire.start guest) (es ++ quiets.map .poll)).offered.map Prod.fst = meant) := by
  intro w meant
  have hfree : ∀ line ∈ (frames.filter carried).map jsonLine, newline ∉ line := by
    intro line hline
    obtain ⟨frame, -, rfl⟩ := List.mem_map.mp hline
    exact newline_notMem_jsonLine frame
  have hmeant : ((frames.filter carried).map jsonLine).filterMap (frameForUs hwaddr) = meant :=
    filterMap_jsonLine hwaddr frames
  have hlength : ((frames.filter carried).map jsonLine).length ≤ frames.length := by
    rw [List.length_map]
    exact List.length_filter_le _ _
  rw [flatMap_netJsonTx] at hsent
  have hshort : Short w.received := by
    obtain ⟨more, hmore⟩ := hsent
    refine @short_of_append w.received more fun line hline => ?_
    rw [hmore, ← List.append_nil (joined newline _), splitOn_joined hfree, List.mem_append] at hline
    rcases hline with hline | hline
    · obtain ⟨frame, hframe, rfl⟩ := List.mem_map.mp hline
      exact length_jsonLine (List.mem_filter.mp hframe).2
    · rw [List.splitOn_nil, List.mem_singleton] at hline
      rw [hline]
      decide
  have hcut : Cut w := (cut_start guest).exec hshort
  refine ⟨?_, fun hconnected hreceived quiets hquiets hcount => ?_⟩
  · rw [offered_exec es rfl, ← hmeant]
    exact (hcut.first.trans (complete_of_cut hfree hsent)).filterMap _
  · have hlines : complete newline w.received = (frames.filter carried).map jsonLine := by
      rw [hreceived, flatMap_netJsonTx, ← List.append_nil (joined newline _), complete_joined hfree,
        complete_of_notMem List.not_mem_nil, List.append_nil]
    have hdrained : (exec (wireStep hwaddr) w (quiets.map .poll)).lines = complete newline w.received :=
      hcut.drained hconnected hshort hquiets (by rw [hlines]; exact (hlength.trans hcount).trans (Nat.le_add_left _ _))
    have hoffered : (exec (wireStep hwaddr) (Wire.start guest) (es ++ quiets.map .poll)).offered.map Prod.fst =
        (exec (wireStep hwaddr) (Wire.start guest) (es ++ quiets.map .poll)).lines.filterMap (frameForUs hwaddr) :=
      offered_exec _ rfl
    rw [hoffered, exec_append, hdrained, hlines, hmeant]

def toEverybody : List UInt8 := [255, 255, 255, 255, 255, 255, 6, 2, 3, 4, 5, 6, 8, 0, 0, 1, 2]

def cutInTwo : List WireEvent :=
  [.poll [.got 0x7b ((netJsonTx toEverybody).take 20).tail],
    .poll [.got ((netJsonTx toEverybody).getD 20 0) ((netJsonTx toEverybody).drop 21)]]

theorem frames_over_the_link_one :
    (exec (wireStep [6, 2, 3, 4, 5, 7]) (Wire.start readyGuest) (cutInTwo ++ [[]].map .poll)).offered.map Prod.fst =
      [toEverybody] := by
  have hreceived : (exec (wireStep [6, 2, 3, 4, 5, 7]) (Wire.start readyGuest) cutInTwo).received =
      [toEverybody].flatMap netJsonTx := by decide +kernel
  have hall := (frames_over_the_link [6, 2, 3, 4, 5, 7] readyGuest [toEverybody] cutInTwo
    (hreceived ▸ List.prefix_rfl)).2 (by decide +kernel) hreceived [[]] (by simp) (by decide)
  rw [hall]
  decide +kernel

end RpcEmu.Net

import LoraServer.Frame
import LoraServer.EU868

/-!
# Runs of downlink operations on one device

A run hands each operation the node-session as it is stored when the operation starts. Every
call of every operation may fail. Everything below is derived from one inversion lemma,
`exec_transmit`, which says what carrying out a transmission can do to the `World`:

* `DownlinkOp.run_fCnt`: an operation sends at most one unconfirmed frame, with the stored
  `FCntDown`, and then stores it advanced by one when its save succeeds and leaves the session
  as it was when the save fails;
* `runOps_fCnt`: when the saves succeed, a run sends consecutive counters modulo `2^32`
  and stores the next one;
* `DownlinkOp.run_count` and `runOps_count`: a queue item only leaves the queue with a frame
  the gateway accepted, and when every save and delete succeeds it leaves with the first one;
* `DownlinkOp.run_keeps_queued`: a failed save or delete leaves the frame's items queued.
-/

namespace LoraServer

/-! ### Deleting items -/

namespace World

/-- Deleting `qs` from a device's queue, one item after the other. -/
def deleteQueueItems (w : World) (devEUI : EUI64) (qs : List QueueItem) : World :=
  qs.foldl (fun w qi => w.deleteQueueItem devEUI qi) w

variable (w : World) (dev : EUI64) (qs : List QueueItem)

@[simp] lemma deleteQueueItems_nodeSessions :
    (w.deleteQueueItems dev qs).nodeSessions = w.nodeSessions := by
  induction qs generalizing w with
  | nil => rfl
  | cons _ _ ih => exact ih _

@[simp] lemma deleteQueueItems_txPackets : (w.deleteQueueItems dev qs).txPackets = w.txPackets := by
  induction qs generalizing w with
  | nil => rfl
  | cons _ _ ih => exact ih _

@[simp] lemma deleteQueueItems_macQueues (d : EUI64) :
    (w.deleteQueueItems dev qs).macQueues d =
      if d = dev then qs.foldl List.erase (w.macQueues dev) else w.macQueues d := by
  induction qs generalizing w with
  | nil => split_ifs with h <;> simp [deleteQueueItems, h]
  | cons qi qs ih =>
    simp only [deleteQueueItems, List.foldl_cons] at ih ⊢
    rw [ih]
    split_ifs <;> simp_all

end World

section Transmit

variable (rep : Reporting) (r : DownlinkReplies)

lemma runCalls_deleteCalls (devEUI : EUI64) (i : ℕ) (items : List QueueItem) (w : World) :
    ∃ k, (runCalls (deleteCalls rep r devEUI i items) (.ok ()) w).2 =
        w.deleteQueueItems devEUI (items.take k) ∧
      ((∀ j, r.deleteQueueItem j = .ok ()) → k = items.length) ∧
      (∀ j, r.deleteQueueItem (i + j) ≠ .ok () → k ≤ j) := by
  induction items generalizing i w with
  | nil => exact ⟨0, rfl, fun _ => rfl, fun _ _ => Nat.zero_le _⟩
  | cons qi items ih =>
    cases h : r.deleteQueueItem i
    · exact ⟨0, by simp [deleteCalls, runCalls, h, World.deleteQueueItems],
        fun hall => absurd (hall i) (by simp [h]), fun _ _ => Nat.zero_le _⟩
    · obtain ⟨k, hk, hall, hfail⟩ := ih (i + 1) (w.deleteQueueItem devEUI qi)
      refine ⟨k + 1, by simpa [deleteCalls, runCalls, h, Write.apply, World.deleteQueueItems] using hk,
        fun h' => by simp [hall h'], fun j hj => ?_⟩
      cases j with
      | zero => exact absurd h hj
      | succ j => exact Nat.succ_le_succ (hfail j (by rwa [Nat.add_right_comm]))

/-- **What carrying out a transmission does.** Either the gateway refuses the packet and
nothing changes; or it accepts the packet of an unconfirmed frame whose save then fails, and
only the packet is recorded; or the packet is sent, the session saved with `FCntDown`
advanced when the frame is unconfirmed, and the first `k` items deleted: all of them when
every delete succeeds, none from the first failing delete on. -/
theorem exec_transmit (ns : NodeSession) (p : TXPacket) (c : Bool) (items : List QueueItem)
    (w : World) :
    (r.sendTXPacket ≠ .ok () ∧ ((Intent.transmit p c items).exec rep r ns w).2 = w) ∨
    (r.sendTXPacket = .ok () ∧ c = false ∧ r.saveNodeSession ≠ .ok () ∧
      ((Intent.transmit p c items).exec rep r ns w).2 = w.sendTXPacket p) ∨
    (r.sendTXPacket = .ok () ∧ (c = false → r.saveNodeSession = .ok ()) ∧
      ∃ k, ((Intent.transmit p c items).exec rep r ns w).2 =
        (if c then w.sendTXPacket p else (w.sendTXPacket p).saveNodeSession ns.advance).deleteQueueItems
          ns.devEUI (items.take k) ∧
        ((∀ i, r.deleteQueueItem i = .ok ()) → k = items.length) ∧
        (∀ j, r.deleteQueueItem j ≠ .ok () → k ≤ j)) := by
  simp only [Intent.exec, transmitCalls]
  cases hs : r.sendTXPacket with
  | error => exact .inl ⟨by simp, rfl⟩
  | ok =>
    cases c
    · cases hv : r.saveNodeSession with
      | error => exact .inr (.inl ⟨rfl, rfl, by simp, by simp [runCalls, hs, hv, Write.apply]⟩)
      | ok =>
        obtain ⟨k, hk, hall, hfail⟩ := runCalls_deleteCalls rep r ns.devEUI 0 items
          ((w.sendTXPacket p).saveNodeSession ns.advance)
        exact .inr (.inr ⟨rfl, fun _ => rfl, k, by simpa [runCalls, hs, hv, Write.apply] using hk, hall,
          by simpa using hfail⟩)
    · obtain ⟨k, hk, hall, hfail⟩ := runCalls_deleteCalls rep r ns.devEUI 0 items (w.sendTXPacket p)
      exact .inr (.inr ⟨rfl, by simp, k, by simpa [runCalls, hs, Write.apply] using hk, hall,
        by simpa using hfail⟩)

end Transmit

/-! ### Handing an operation the stored session -/

/-- The operation on the session stored for `devEUI`: its caller loads it first
(`session.GetNodeSession`, declared outside src/) and stops when there is none. -/
def DownlinkOp.run (ctx : Context) (devEUI : EUI64) (op : DownlinkOp) (w : World) :
    Except GoError Unit × World :=
  match w.nodeSessions devEUI with
  | none => (.error (.sentinel .sessionErrDoesNotExist), w)
  | some ns => op.call ctx ns w

/-- A run of operations on one device. -/
def runOps (ctx : Context) (devEUI : EUI64) : List DownlinkOp → World → World
  | [], w => w
  | op :: ops, w => runOps ctx devEUI ops (op.run ctx devEUI w).2

lemma DownlinkOp.run_eq (ctx : Context) (op : DownlinkOp) {dev : EUI64} {w : World}
    {ns : NodeSession} (h : w.nodeSessions dev = some ns) :
    op.run ctx dev w =
      (op.intent ctx ns (w.macQueues dev)).exec op.reporting op.replies ns w := by
  simp only [DownlinkOp.run, h]
  rw [DownlinkOp.call_eq, w.nodeSessions_devEUI dev ns h]

/-! ### Frame counters -/

/-- The `FCnt` of an unconfirmed data-down frame. -/
def TXPacket.unconfirmedFCnt? (p : TXPacket) : Option UInt32 :=
  if p.phyPayload.mType = .unconfirmedDataDown then
    p.phyPayload.macPayload.macPayload?.map (·.fhdr.fCnt)
  else none

/-- The counters of the unconfirmed data-down frames among the packets, oldest first. -/
def unconfirmedFCnts (ps : List TXPacket) : List UInt32 := ps.filterMap TXPacket.unconfirmedFCnt?

@[simp] lemma unconfirmedFCnts_append (ps qs : List TXPacket) :
    unconfirmedFCnts (ps ++ qs) = unconfirmedFCnts ps ++ unconfirmedFCnts qs :=
  List.filterMap_append ..

lemma unconfirmedFCnts_dataDownFrame {p : TXPacket} {ns : NodeSession}
    {dd : DataDownFrameContext} (hp : p.phyPayload = dataDownFrame ns dd) :
    unconfirmedFCnts [p] = if dd.confirmed then [] else [ns.fCntDown] := by
  cases h : dd.confirmed <;>
    simp [unconfirmedFCnts, TXPacket.unconfirmedFCnt?, hp, h, PHYBody.macPayload?]

/-- **One operation and the frame counter.** An operation handed the stored session `ns`
either sends no unconfirmed frame and leaves `ns` stored, or sends one whose `FCnt` is
`ns.FCntDown`; it then stores `ns` with `FCntDown` advanced by one (modulo `2^32`) when its
`SaveNodeSession` succeeds, and leaves `ns` stored when it fails. -/
theorem DownlinkOp.run_fCnt (ctx : Context) (op : DownlinkOp) {dev : EUI64} {w : World}
    {ns : NodeSession} (h : w.nodeSessions dev = some ns) :
    (unconfirmedFCnts (op.run ctx dev w).2.txPackets = unconfirmedFCnts w.txPackets ∧
      (op.run ctx dev w).2.nodeSessions dev = some ns) ∨
    (unconfirmedFCnts (op.run ctx dev w).2.txPackets = unconfirmedFCnts w.txPackets ++ [ns.fCntDown] ∧
      ((op.replies.saveNodeSession = .ok () ∧ (op.run ctx dev w).2.nodeSessions dev = some ns.advance) ∨
        (op.replies.saveNodeSession ≠ .ok () ∧ (op.run ctx dev w).2.nodeSessions dev = some ns))) := by
  have hdev := w.nodeSessions_devEUI dev ns h
  have hwf := op.intent_wellFormed ctx ns (w.macQueues dev)
  rw [op.run_eq ctx h]
  generalize op.intent ctx ns (w.macQueues dev) = i at hwf ⊢
  cases i with
  | finish => exact .inl ⟨rfl, h⟩
  | transmit p c items =>
    obtain ⟨dd, rfl, hp, -⟩ := hwf
    have hf := unconfirmedFCnts_dataDownFrame hp
    rcases exec_transmit op.reporting op.replies ns p dd.confirmed items w with
      ⟨-, hw⟩ | ⟨-, hc, hv, hw⟩ | ⟨-, hsv, k, hw, -⟩ <;> rw [hw]
    · exact .inl ⟨rfl, h⟩
    · exact .inr ⟨by simp [hf, hc], .inr ⟨hv, h⟩⟩
    · cases hc : dd.confirmed
      · exact .inr ⟨by simp [hf, hc], .inl ⟨hsv hc, by simp [hdev]⟩⟩
      · exact .inl ⟨by simp [hf, hc], by simpa using h⟩

lemma advance_fCntDown_toNat (ns : NodeSession) :
    ns.advance.fCntDown.toNat = (ns.fCntDown.toNat + 1) % 4294967296 :=
  uint32_toNat_add_one _

/-- **A run and the frame counter.** When every `SaveNodeSession` succeeds, a run that sends
`k` unconfirmed frames sends the counters `FCntDown, FCntDown + 1, …` modulo `2^32` and leaves
`FCntDown + k` stored. -/
theorem runOps_fCnt (ctx : Context) (dev : EUI64) :
    ∀ (ops : List DownlinkOp) (w : World) (ns : NodeSession), w.nodeSessions dev = some ns →
    (∀ op ∈ ops, op.replies.saveNodeSession = .ok ()) →
    ∃ k ns', (runOps ctx dev ops w).nodeSessions dev = some ns' ∧
      ns'.fCntDown.toNat = (ns.fCntDown.toNat + k) % 4294967296 ∧
      (unconfirmedFCnts (runOps ctx dev ops w).txPackets).map UInt32.toNat =
        (unconfirmedFCnts w.txPackets).map UInt32.toNat ++
          (List.range k).map fun i => (ns.fCntDown.toNat + i) % 4294967296
  | [], w, ns, h, _ =>
    ⟨0, ns, h, (Nat.mod_eq_of_lt ns.fCntDown.toNat_lt_size).symm, by simp [runOps]⟩
  | op :: ops, w, ns, h, hsave => by
    have hops : ∀ o ∈ ops, o.replies.saveNodeSession = .ok () := fun o ho => hsave o (.tail _ ho)
    rcases op.run_fCnt ctx h with ⟨hf, hs⟩ | ⟨hf, ⟨-, hs⟩ | ⟨hv, -⟩⟩
    · obtain ⟨k, ns', h1, h2, h3⟩ := runOps_fCnt ctx dev ops _ ns hs hops
      exact ⟨k, ns', h1, h2, by rw [runOps, h3, hf]⟩
    · obtain ⟨k, ns', h1, h2, h3⟩ := runOps_fCnt ctx dev ops _ ns.advance hs hops
      have hlt := ns.fCntDown.toNat_lt_size
      refine ⟨k + 1, ns', h1, by rw [h2, advance_fCntDown_toNat]; omega, ?_⟩
      rw [runOps, h3, hf, List.map_append, List.append_assoc, List.range_succ_eq_map]
      simp only [List.map_cons, List.map_map, List.map_singleton, List.singleton_append,
        Nat.add_zero, Nat.mod_eq_of_lt hlt]
      exact congrArg _ (congrArg _ (List.map_congr_left fun i _ => by
        simp only [Function.comp, advance_fCntDown_toNat]; omega))
    · exact absurd (hsave op (.head _)) hv

lemma runOps_sent (ctx : Context) (dev : EUI64) (ops : List DownlinkOp) (w : World)
    (ns : NodeSession) (h : w.nodeSessions dev = some ns)
    (hsave : ∀ op ∈ ops, op.replies.saveNodeSession = .ok ()) :
    let sent := (unconfirmedFCnts (runOps ctx dev ops w).txPackets).drop
      (unconfirmedFCnts w.txPackets).length
    ∃ ns', (runOps ctx dev ops w).nodeSessions dev = some ns' ∧
      sent.map UInt32.toNat =
        (List.range sent.length).map (fun i => (ns.fCntDown.toNat + i) % 4294967296) ∧
      ns'.fCntDown.toNat = (ns.fCntDown.toNat + sent.length) % 4294967296 := by
  intro sent
  obtain ⟨k, ns', hs, hk, hf⟩ := runOps_fCnt ctx dev ops w ns h hsave
  have hsent : sent.map UInt32.toNat =
      (List.range k).map fun i => (ns.fCntDown.toNat + i) % 4294967296 := by
    rw [List.map_drop, hf, ← List.length_map (unconfirmedFCnts w.txPackets) UInt32.toNat,
      List.drop_left]
  have hlen : sent.length = k := by simpa using congrArg List.length hsent
  rw [hlen]
  exact ⟨ns', hs, hsent, hk⟩

/-- **The frame counter of a device.** Each operation handed the stored session sends at most
one unconfirmed frame, with the stored `FCntDown`, and then stores `FCntDown + 1` (modulo
`2^32`) if its `SaveNodeSession` succeeds and leaves the session as it was if it fails. So in a
run in which every `SaveNodeSession` succeeds, the unconfirmed frames carry `FCntDown`,
`FCntDown + 1`, … modulo `2^32` and the stored `FCntDown` ends as many steps further on; as
long as that stays below `2^32`, the counters sent are strictly increasing and all below the
stored `FCntDown`. -/
theorem runOps_fCntDown (ctx : Context) (dev : EUI64) :
    (∀ (op : DownlinkOp) (w : World) (ns : NodeSession), w.nodeSessions dev = some ns →
      (unconfirmedFCnts (op.run ctx dev w).2.txPackets = unconfirmedFCnts w.txPackets ∧
        (op.run ctx dev w).2.nodeSessions dev = some ns) ∨
      (unconfirmedFCnts (op.run ctx dev w).2.txPackets =
          unconfirmedFCnts w.txPackets ++ [ns.fCntDown] ∧
        ((op.replies.saveNodeSession = .ok () ∧
            (op.run ctx dev w).2.nodeSessions dev = some ns.advance) ∨
          (op.replies.saveNodeSession ≠ .ok () ∧
            (op.run ctx dev w).2.nodeSessions dev = some ns)))) ∧
    ∀ (ops : List DownlinkOp) (w : World) (ns : NodeSession), w.nodeSessions dev = some ns →
      (∀ op ∈ ops, op.replies.saveNodeSession = .ok ()) →
      let sent := (unconfirmedFCnts (runOps ctx dev ops w).txPackets).drop
        (unconfirmedFCnts w.txPackets).length
      ∃ ns', (runOps ctx dev ops w).nodeSessions dev = some ns' ∧
        sent.map UInt32.toNat =
          (List.range sent.length).map (fun i => (ns.fCntDown.toNat + i) % 4294967296) ∧
        ns'.fCntDown.toNat = (ns.fCntDown.toNat + sent.length) % 4294967296 ∧
        (ns.fCntDown.toNat + sent.length < 4294967296 →
          (sent.map UInt32.toNat).Pairwise (· < ·) ∧ ∀ f ∈ sent, f.toNat < ns'.fCntDown.toNat) := by
  refine ⟨fun op _ _ h => op.run_fCnt ctx h, fun ops w ns h hsave => ?_⟩
  obtain ⟨ns', hs, hsent, hk⟩ := runOps_sent ctx dev ops w ns h hsave
  dsimp only at hsent hk ⊢
  generalize (unconfirmedFCnts (runOps ctx dev ops w).txPackets).drop
    (unconfirmedFCnts w.txPackets).length = sent at hsent hk ⊢
  refine ⟨ns', hs, hsent, hk, fun hno => ?_⟩
  -- below `2^32` the counters are `FCntDown + i` as unbounded integers
  have hid : sent.map UInt32.toNat = (List.range sent.length).map (ns.fCntDown.toNat + ·) := by
    rw [hsent]
    exact List.map_congr_left fun i hi => Nat.mod_eq_of_lt (by simp at hi; omega)
  rw [Nat.mod_eq_of_lt hno] at hk
  refine ⟨hid ▸ (List.pairwise_lt_range _).map _ fun a b hab => by omega, fun f hf => ?_⟩
  obtain ⟨i, hi, hfi⟩ := List.mem_map.mp (hid ▸ List.mem_map_of_mem UInt32.toNat hf)
  simp only [List.mem_range] at hi
  omega

/-- Two pushes from `FCntDown = 5` send the counters 5 and 6 and leave 7 stored. -/
theorem runOps_fCntDown_twoPushes :
    let push := DownlinkOp.handlePushDataDown (DownlinkReplies.succeeding (.ok none)) false 1 [1]
    let w := World.single (scenarioSession 5) []
    w.nodeSessions scenarioDevEUI = some (scenarioSession 5) ∧
    (∀ op ∈ [push, push], op.replies.saveNodeSession = .ok ()) ∧
    let sent := (unconfirmedFCnts (runOps eu868Context scenarioDevEUI [push, push] w).txPackets).drop
      (unconfirmedFCnts w.txPackets).length
    ∃ ns', (runOps eu868Context scenarioDevEUI [push, push] w).nodeSessions scenarioDevEUI = some ns' ∧
      sent.map UInt32.toNat =
        (List.range sent.length).map (fun i => ((scenarioSession 5).fCntDown.toNat + i) % 4294967296) ∧
      ns'.fCntDown.toNat = ((scenarioSession 5).fCntDown.toNat + sent.length) % 4294967296 ∧
      ((scenarioSession 5).fCntDown.toNat + sent.length < 4294967296 →
        (sent.map UInt32.toNat).Pairwise (· < ·) ∧ ∀ f ∈ sent, f.toNat < ns'.fCntDown.toNat) :=
  have hs : (World.single (scenarioSession 5) []).nodeSessions scenarioDevEUI =
      some (scenarioSession 5) := by decide
  have hsave : ∀ op ∈ [DownlinkOp.handlePushDataDown (DownlinkReplies.succeeding (.ok none)) false 1 [1],
      .handlePushDataDown (DownlinkReplies.succeeding (.ok none)) false 1 [1]],
      op.replies.saveNodeSession = .ok () := by
    simp [DownlinkOp.replies, DownlinkReplies.succeeding]
  ⟨hs, hsave, (runOps_fCntDown eu868Context scenarioDevEUI).2 _ _ _ hs hsave⟩

/-- The stored `FCntDown` is `uint32`: from `2^32 - 1` a push sends `2^32 - 1` and leaves 0
stored. And a push whose `SaveNodeSession` fails after the gateway accepted its frame leaves
the counter stored unchanged, so that the next push sends it again. -/
theorem fCntDown_wraps_or_repeats :
    let push := fun save => DownlinkOp.handlePushDataDown
      { DownlinkReplies.succeeding (.ok none) with saveNodeSession := save } false 1 [1]
    let wrapped := runOps eu868Context scenarioDevEUI [push (.ok ())]
      (World.single (scenarioSession 4294967295) [])
    unconfirmedFCnts wrapped.txPackets = [4294967295] ∧
    (wrapped.nodeSessions scenarioDevEUI).map (·.fCntDown) = some 0 ∧
    unconfirmedFCnts (runOps eu868Context scenarioDevEUI [push (.error "save failed"), push (.ok ())]
      (World.single (scenarioSession 5) [])).txPackets = [5, 5] := by
  decide

/-! ### The MAC-command queue -/

/-- The queue items a decision's frame was built from, once the gateway accepted its packet. -/
def Intent.carried (r : DownlinkReplies) : Intent → List QueueItem
  | .finish _ => []
  | .transmit _ _ items =>
    match r.sendTXPacket with
    | .ok () => items
    | .error _ => []

/-- The queue items a decision's frame is built from, whether or not the gateway accepts it. -/
def Intent.items : Intent → List QueueItem
  | .finish _ => []
  | .transmit _ _ items => items

/-- Whether a decision sends a confirmed frame. -/
def Intent.confirmed : Intent → Bool
  | .finish _ => false
  | .transmit _ c _ => c

/-- The queue items the frames of a run carry, in order. -/
def runCarried (ctx : Context) (devEUI : EUI64) : List DownlinkOp → World → List QueueItem
  | [], _ => []
  | op :: ops, w =>
    (match w.nodeSessions devEUI with
      | none => []
      | some ns => (op.intent ctx ns (w.macQueues devEUI)).carried op.replies) ++
    runCarried ctx devEUI ops (op.run ctx devEUI w).2

section Count

variable (v : QueueItem)

lemma count_le_foldl_erase (q : List QueueItem) :
    ∀ qs : List QueueItem, q.count v ≤ qs.count v + (qs.foldl List.erase q).count v
  | [] => by simp
  | a :: qs => by
    have ih := count_le_foldl_erase (q.erase a) qs
    have := List.count_erase v a q
    simp only [List.foldl_cons, List.count_cons] at ih ⊢
    split_ifs at this ⊢ <;> omega

lemma count_foldl_erase_of_sublist :
    ∀ {q qs : List QueueItem}, qs.Sublist q → qs.count v + (qs.foldl List.erase q).count v = q.count v
  | _, [], _ => by simp
  | q, a :: qs, h => by
    have ih := count_foldl_erase_of_sublist (by simpa using h.erase a : qs.Sublist (q.erase a))
    have herase := List.count_erase v a q
    have hpos := List.count_pos_iff.mpr (h.subset (List.mem_cons_self a qs))
    simp only [List.foldl_cons, List.count_cons] at ih ⊢
    by_cases hav : a = v
    · subst hav
      simp only [beq_self_eq_true, if_true] at herase ⊢
      omega
    · simp only [beq_iff_eq, hav, if_false, Nat.sub_zero, Nat.add_zero] at herase ⊢
      omega

lemma drop_sublist_foldl_erase : ∀ (k : ℕ) {items q : List QueueItem}, items.Sublist q →
    (items.drop k).Sublist ((items.take k).foldl List.erase q)
  | 0, _, _, h => h
  | _ + 1, [], _, _ => List.nil_sublist _
  | k + 1, a :: _, _, h => drop_sublist_foldl_erase k (by simpa using h.erase a)

end Count

/-- **One operation and the MAC-command queue.** An item leaves the device's queue only with
a frame the gateway accepted, built from it; when the save and the deletes succeed, each item
the frame was built from leaves the queue exactly once. -/
theorem DownlinkOp.run_count (ctx : Context) (op : DownlinkOp) (dev : EUI64) (w : World)
    (v : QueueItem) :
    let carried := match w.nodeSessions dev with
      | none => []
      | some ns => (op.intent ctx ns (w.macQueues dev)).carried op.replies
    (w.macQueues dev).count v ≤ carried.count v + ((op.run ctx dev w).2.macQueues dev).count v ∧
    (op.replies.saveNodeSession = .ok () → (∀ i, op.replies.deleteQueueItem i = .ok ()) →
      carried.count v + ((op.run ctx dev w).2.macQueues dev).count v = (w.macQueues dev).count v) := by
  cases h : w.nodeSessions dev with
  | none => simp [DownlinkOp.run, h]
  | some ns =>
    have hdev := w.nodeSessions_devEUI dev ns h
    have hwf := op.intent_wellFormed ctx ns (w.macQueues dev)
    simp only [op.run_eq ctx h]
    generalize op.intent ctx ns (w.macQueues dev) = i at hwf ⊢
    cases i with
    | finish => simp [Intent.carried, Intent.exec]
    | transmit p c items =>
      obtain ⟨dd, rfl, -, hsub⟩ := hwf
      rcases exec_transmit op.reporting op.replies ns p dd.confirmed items w with
        ⟨hs, hw⟩ | ⟨hs, hc, hv, hw⟩ | ⟨hs, -, k, hw, hall, -⟩ <;>
        simp only [hw, Intent.carried]
      · cases h' : op.replies.sendTXPacket
        · simp
        · exact absurd h' hs
      · simp [hs, hv]
      · simp only [hs, World.deleteQueueItems_macQueues, hdev, if_true]
        refine ⟨?_, fun _ hd => ?_⟩
        · have h1 := count_le_foldl_erase v (w.macQueues dev) (items.take k)
          have h2 := ((List.take_sublist k items).count_le v)
          split_ifs <;> simp only [World.saveNodeSession_macQueues,
            World.sendTXPacket_macQueues] <;> omega
        · rw [hall hd, List.take_length]
          split_ifs <;> exact count_foldl_erase_of_sublist v hsub

/-- **A failed call keeps the items queued.** When the gateway refuses the packet, or the save
after an unconfirmed frame fails, the device's queue is left as it was; when the `j`-th
`DeleteQueueItem` fails, the items the frame was built from, from the `j`-th on, are all still
queued, in order. -/
theorem DownlinkOp.run_keeps_queued (ctx : Context) (op : DownlinkOp) (dev : EUI64) (w : World)
    (ns : NodeSession) (h : w.nodeSessions dev = some ns) :
    let i := op.intent ctx ns (w.macQueues dev)
    let queue := (op.run ctx dev w).2.macQueues dev
    ((op.replies.sendTXPacket ≠ .ok () ∨ (i.confirmed = false ∧ op.replies.saveNodeSession ≠ .ok ())) →
      queue = w.macQueues dev) ∧
    ∀ j, op.replies.deleteQueueItem j ≠ .ok () → (i.items.drop j).Sublist queue := by
  have hdev := w.nodeSessions_devEUI dev ns h
  have hwf := op.intent_wellFormed ctx ns (w.macQueues dev)
  simp only [op.run_eq ctx h]
  generalize op.intent ctx ns (w.macQueues dev) = i at hwf ⊢
  cases i with
  | finish => simp [Intent.items, Intent.exec]
  | transmit p c items =>
    obtain ⟨dd, rfl, -, hsub⟩ := hwf
    rcases exec_transmit op.reporting op.replies ns p dd.confirmed items w with
      ⟨hs, hw⟩ | ⟨hs, hc, hv, hw⟩ | ⟨hs, hsave, k, hw, -, hfail⟩ <;>
      simp only [hw, Intent.items, Intent.confirmed, World.sendTXPacket_macQueues]
    · exact ⟨fun _ => trivial, fun j _ => (List.drop_sublist j items).trans hsub⟩
    · exact ⟨fun _ => trivial, fun j _ => (List.drop_sublist j items).trans hsub⟩
    · refine ⟨?_, fun j hj => ?_⟩
      · rintro (hs' | ⟨hc, hv⟩)
        exacts [absurd hs hs', absurd (hsave hc) hv]
      · have hrest := (List.drop_sublist_drop_left items (hfail j hj)).trans
          (drop_sublist_foldl_erase k hsub)
        split_ifs <;> simpa [hdev] using hrest

/-- A push whose save fails after the gateway accepted its unconfirmed frame leaves the queued
`DevStatusReq` where it was. -/
theorem run_keeps_queued_saveFails :
    let push := DownlinkOp.handlePushDataDown
      { DownlinkReplies.succeeding (.ok none) with saveNodeSession := .error "save failed" } false 1 [1]
    let w := World.single (scenarioSession 5) [⟨[0x06], false, false⟩]
    let i := push.intent eu868Context (scenarioSession 5) (w.macQueues scenarioDevEUI)
    let queue := (push.run eu868Context scenarioDevEUI w).2.macQueues scenarioDevEUI
    w.nodeSessions scenarioDevEUI = some (scenarioSession 5) ∧
    ((push.replies.sendTXPacket ≠ .ok () ∨ (i.confirmed = false ∧ push.replies.saveNodeSession ≠ .ok ())) →
      queue = w.macQueues scenarioDevEUI) ∧
    ∀ j, push.replies.deleteQueueItem j ≠ .ok () → (i.items.drop j).Sublist queue :=
  have hs : (World.single (scenarioSession 5) [⟨[0x06], false, false⟩]).nodeSessions scenarioDevEUI =
      some (scenarioSession 5) := by decide
  ⟨hs, DownlinkOp.run_keeps_queued eu868Context _ scenarioDevEUI _ _ hs⟩

lemma runOps_count_le (ctx : Context) (dev : EUI64) (v : QueueItem) :
    ∀ (ops : List DownlinkOp) (w : World), (w.macQueues dev).count v ≤
      (runCarried ctx dev ops w).count v + ((runOps ctx dev ops w).macQueues dev).count v
  | [], w => by simp [runCarried, runOps]
  | op :: ops, w => by
    have h1 := (op.run_count ctx dev w v).1
    have ih := runOps_count_le ctx dev v ops (op.run ctx dev w).2
    simp only [runCarried, runOps, List.count_append]
    omega

lemma runOps_count_eq (ctx : Context) (dev : EUI64) (v : QueueItem) :
    ∀ (ops : List DownlinkOp) (w : World),
    (∀ op ∈ ops, op.replies.saveNodeSession = .ok () ∧ ∀ i, op.replies.deleteQueueItem i = .ok ()) →
      (runCarried ctx dev ops w).count v + ((runOps ctx dev ops w).macQueues dev).count v =
        (w.macQueues dev).count v
  | [], w, _ => by simp [runCarried, runOps]
  | op :: ops, w, hall => by
    have h2 := (op.run_count ctx dev w v).2 (hall op (.head _)).1 (hall op (.head _)).2
    have ih := runOps_count_eq ctx dev v ops (op.run ctx dev w).2 fun o ho => hall o (.tail _ ho)
    simp only [runCarried, runOps, List.count_append]
    omega

end LoraServer

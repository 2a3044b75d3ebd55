import LoraServer.Concurrent
import LoraServer.Response

/-!
# What the gateway receives

A downlink operation deletes the items it selected only after the gateway has accepted the
frame built from them: `SendDataDown` first, then the delete loop. With several handlers on one
store, two of them can select the same item and both send it (`overlapping_pushes_share_fCnt`),
but no interleaving makes an item disappear unsent. The books of a device's queue say so:

* `Phase.owed`: the items a handler will still delete once its frame has gone out;
* `Phase.Accountable`: a handler's remaining calls are saves and deletes, possibly after the
  send of a frame built from exactly the items they delete;
* `Request.step_pays`: one move of a downlink handler keeps its calls accountable, and the frame
  it hands to the gateway pays for what it removes from the queue beyond what it owed;
* `concurrent_queue_delivery`: by induction over the schedule, whatever the interleaving of
  downlink handlers, the frames the gateway accepted, each listed with the items it was built
  from, cover every item that left the queue, counted with multiplicity;
* `concurrent_frames_origin`: with the invariant of `concurrent_sessions_origin`, every packet
  a handler hands to the gateway is the join-accept a join received from the application
  server, or a valid data-down frame of a session that is, up to `FCntDown`, one stored at the
  start or one a join installs.
-/

namespace LoraServer

/-! ### Frames and the items they are built from -/

/-- The request is a downlink operation. -/
def Request.isDownlink : Request → Bool
  | .downlink .. => true
  | .join .. => false

/-- The packet's frame is a valid data-down frame of a session of device `dev`, and its
mac-commands are those of `items`. -/
def TXPacket.BuiltFrom (ctx : Context) (dev : EUI64) (p : TXPacket) (items : List QueueItem) :
    Prop :=
  ∃ ns dd, ns.devEUI = dev ∧ p.phyPayload = dataDownFrame ns dd ∧ dd.validate = .ok () ∧
    dd.macCommands = macQueueItemsToMACCommands ctx items

lemma DownlinkOp.intent_frame {ctx : Context} {op : DownlinkOp} {ns : NodeSession}
    {q : List QueueItem} {p : TXPacket} {c : Bool} {items : List QueueItem}
    (h : op.intent ctx ns q = .transmit p c items) :
    ∃ dd, p.phyPayload = dataDownFrame ns dd ∧ dd.validate = .ok () ∧
      dd.macCommands = macQueueItemsToMACCommands ctx items := by
  cases op with
  | sendUplinkResponse r rxPacket =>
    obtain ⟨_, _, _, _, _, rfl, _, hv, rfl, _⟩ := uplinkResponseIntent_transmit h
    exact ⟨_, rfl, hv, uplinkDataDown_macCommands ..⟩
  | handlePushDataDown r confirmed fPort data =>
    obtain ⟨_, _, _, _, rfl, hv, rfl, _⟩ := pushDataDownIntent_transmit h
    exact ⟨_, rfl, hv, rfl⟩

/-! ### What a handler still owes -/

/-- Saves and deletes: writes that neither hand a frame to the gateway nor empty a queue. -/
def Write.quiet : Write → Bool
  | .save _ | .delete .. => true
  | .send _ | .flush _ => false

/-- The item the write deletes from `dev`'s queue. -/
def Write.deleted (dev : EUI64) : Write → Option QueueItem
  | .delete d qi => if d = dev then some qi else none
  | _ => none

/-- The items of `dev`'s queue the calls delete, in order. -/
def deletions (dev : EUI64) (calls : List Call) : List QueueItem :=
  calls.filterMap fun c => c.write.deleted dev

/-- What a handler will still delete from `dev`'s queue once its frame has gone out: the
deletes among its remaining calls, when no send is left among them. -/
def Phase.owed (dev : EUI64) : Phase → List QueueItem
  | .running calls _ => if calls.all (·.write.quiet) then deletions dev calls else []
  | .start | .loaded _ | .done _ => []

/-- The handler's remaining calls delete nothing from `dev`'s queue that no frame accounts for:
they are saves and deletes only, or the send of a frame built from the items the saves and
deletes after it delete. -/
def Phase.Accountable (ctx : Context) (dev : EUI64) : Phase → Prop
  | .running calls _ => calls.all (·.write.quiet) ∨
      ∃ c cs p, calls = c :: cs ∧ c.write = .send p ∧ cs.all (·.write.quiet) ∧
        (deletions dev cs = [] ∨ p.BuiltFrom ctx dev (deletions dev cs))
  | .start | .loaded _ | .done _ => True

/-- A move from `ph` on the store `w` to `ph'` on `w'` pays for what it removes from `dev`'s
queue: the packets the gateway accepted meanwhile include frames, each built from some items,
that cover what left the queue beyond what `ph` owed and `ph'` still owes. -/
def Phase.Pays (ctx : Context) (dev : EUI64) (ph : Phase) (w : World) (ph' : Phase) (w' : World) :
    Prop :=
  ∃ (newp : List TXPacket) (logged : List (TXPacket × List QueueItem)),
    w'.txPackets = w.txPackets ++ newp ∧ (logged.map Prod.fst).Sublist newp ∧
    (∀ x ∈ logged, x.1.BuiltFrom ctx dev x.2) ∧
    ∀ v, (ph'.owed dev).count v + (w.macQueues dev).count v ≤
      (ph.owed dev).count v + (w'.macQueues dev).count v + (logged.flatMap Prod.snd).count v

section Books

variable {ctx : Context} {dev : EUI64}

@[simp] lemma deletions_nil : deletions dev [] = [] := rfl

@[simp] lemma deletions_cons (c : Call) (cs : List Call) :
    deletions dev (c :: cs) = (c.write.deleted dev).toList ++ deletions dev cs := by
  cases h : c.write.deleted dev <;> simp [deletions, List.filterMap_cons, h]

lemma deletions_deleteCalls (rep : Reporting) (r : DownlinkReplies) (devEUI : EUI64) :
    ∀ i items,
      deletions dev (deleteCalls rep r devEUI i items) = if devEUI = dev then items else []
  | _, [] => by simp [deleteCalls]
  | i, _ :: items => by
    rw [deleteCalls, deletions_cons, deletions_deleteCalls rep r devEUI (i + 1) items]
    by_cases h : devEUI = dev <;> simp [Write.deleted, h]

lemma deleteCalls_quiet (rep : Reporting) (r : DownlinkReplies) (devEUI : EUI64) :
    ∀ i items, (deleteCalls rep r devEUI i items).all (·.write.quiet)
  | _, [] => rfl
  | i, _ :: items => by
    simpa [deleteCalls, Write.quiet] using deleteCalls_quiet rep r devEUI (i + 1) items

lemma Write.quiet_apply (dev : EUI64) {wr : Write} (hq : wr.quiet) (w : World) :
    (wr.apply w).txPackets = w.txPackets ∧ ∀ v, (w.macQueues dev).count v ≤
      ((wr.deleted dev).toList.count v + ((wr.apply w).macQueues dev).count v) := by
  cases wr with
  | save ns => simp [Write.apply]
  | delete d qi =>
    refine ⟨rfl, fun v => ?_⟩
    by_cases hd : d = dev
    · subst hd
      simp only [Write.apply, Write.deleted, if_true, World.deleteQueueItem_macQueues,
        Option.toList_some, List.count_singleton, List.count_erase]
      omega
    · simp [Write.apply, Write.deleted, hd, Ne.symm hd]
  | send _ | flush _ => cases hq

lemma Phase.pays_of_owed {ph ph' : Phase} {w : World}
    (h : ∀ v, (ph'.owed dev).count v ≤ (ph.owed dev).count v) : ph.Pays ctx dev w ph' w :=
  ⟨[], [], by simp, by simp, by simp, fun v => by have := h v; simp; omega⟩

lemma transmitCalls_cons (dev : EUI64) (rep : Reporting) (r : DownlinkReplies) (ns : NodeSession)
    (p : TXPacket) (confirmed : Bool) (items : List QueueItem) :
    ∃ c cs, transmitCalls rep r ns p confirmed items = c :: cs ∧ c.write = .send p ∧
      cs.all (·.write.quiet) ∧ deletions dev cs = if ns.devEUI = dev then items else [] :=
  ⟨_, _, rfl, rfl, by
    cases confirmed <;> simp only [List.all_append, deleteCalls_quiet] <;> rfl,
    by cases confirmed <;> simp [deletions_deleteCalls, Write.deleted]⟩

lemma DownlinkOp.plan_accountable (op : DownlinkOp) (ns : NodeSession) (q : List QueueItem) :
    ((op.intent ctx ns q).plan op.reporting op.replies ns).running.Accountable ctx dev ∧
      ((op.intent ctx ns q).plan op.reporting op.replies ns).running.owed dev = [] := by
  cases hi : op.intent ctx ns q with
  | finish res => exact ⟨.inl rfl, rfl⟩
  | transmit p c items =>
    obtain ⟨c₀, cs, hcalls, hsend, hq, hdel⟩ :=
      transmitCalls_cons dev op.reporting op.replies ns p c items
    simp only [Intent.plan, Plan.running, Phase.Accountable, Phase.owed, hcalls]
    refine ⟨.inr ⟨c₀, cs, p, rfl, hsend, hq, ?_⟩, by simp [hsend, Write.quiet]⟩
    rw [hdel]
    split_ifs with hd
    · obtain ⟨dd, hp, hv, hm⟩ := DownlinkOp.intent_frame hi
      exact .inr ⟨ns, dd, hd, hp, hv, hm⟩
    · exact .inl rfl

/-- **One move of a downlink handler pays for itself.** Its remaining calls stay accountable,
and what it removes from `dev`'s queue beyond what it owed is covered by the frame it hands to
the gateway, built from the items it will delete. -/
lemma Request.step_pays {req : Request} (hreq : req.isDownlink) {ph : Phase} (w : World)
    (hph : ph.Accountable ctx dev) :
    (req.step ctx ph w).1.Accountable ctx dev ∧
      ph.Pays ctx dev w (req.step ctx ph w).1 (w.applyWrite (req.step ctx ph w).2) := by
  match req, ph with
  | .downlink devEUI _, .start =>
    cases h : w.nodeSessions devEUI <;> simp only [Request.step, h] <;>
      exact ⟨trivial, Phase.pays_of_owed (by simp [Phase.owed])⟩
  | .downlink devEUI op, .loaded ns =>
    obtain ⟨hacc, howed⟩ := op.plan_accountable ns (w.macQueues devEUI)
    exact ⟨hacc, Phase.pays_of_owed (by simp [Request.step, howed])⟩
  | .join .., _ => cases hreq
  | _, .running [] _ => exact ⟨trivial, Phase.pays_of_owed (by simp [Request.step, Phase.owed])⟩
  | _, .running (c :: cs) final =>
    cases h : c.reply with
    | error err =>
      simp only [Request.step, h]
      exact ⟨trivial, Phase.pays_of_owed (by simp [Phase.owed])⟩
    | ok =>
      simp only [Request.step, h, World.applyWrite]
      rcases hph with hq | ⟨c', cs', p, hc, hp, hq, hb⟩
      · -- a save or a delete: what leaves the queue was owed
        simp only [List.all_cons, Bool.and_eq_true] at hq
        obtain ⟨htx, hcount⟩ := Write.quiet_apply dev hq.1 w
        refine ⟨.inl hq.2, [], [], by simp [htx], by simp, by simp, fun v => ?_⟩
        have := hcount v
        simp [Phase.owed, hq.1, hq.2]
        omega
      · -- the send: its frame pays for the deletes that follow
        obtain ⟨rfl, rfl⟩ := List.cons.inj hc
        refine ⟨.inl hq, [p], if deletions dev cs = [] then [] else [(p, deletions dev cs)],
          by simp [hp, Write.apply], by split_ifs <;> simp, fun x hx => ?_, fun v => ?_⟩
        · split_ifs at hx with hd
          · cases hx
          · rw [List.mem_singleton] at hx
            subst hx
            exact hb.resolve_left hd
        · have hsend : (c :: cs).all (·.write.quiet) = false := by simp [hp, Write.quiet]
          simp only [Phase.owed, hq, hsend, if_true, Bool.false_eq_true, if_false, List.count_nil,
            hp, Write.apply, World.sendTXPacket_macQueues]
          split_ifs with hd <;> simp [hd, Nat.add_comm]
  | _, .done _ => exact ⟨trivial, Phase.pays_of_owed (by simp [Request.step, Phase.owed])⟩

lemma sum_map_set {α : Type} (f : α → ℕ) :
    ∀ (l : List α) (i : ℕ) (x a : α), l[i]? = some x →
      ((l.set i a).map f).sum + f x = (l.map f).sum + f a
  | [], _, _, _, h => by simp at h
  | y :: l, 0, x, a, h => by
    simp only [List.getElem?_cons_zero, Option.some.injEq] at h
    subst h
    simp only [List.set_cons_zero, List.map_cons, List.sum_cons]
    omega
  | y :: l, i + 1, x, a, h => by
    have := sum_map_set f l i x a (by simpa using h)
    simp only [List.set_cons_succ, List.map_cons, List.sum_cons]
    omega

/-- The books of `dev`'s queue in the server `s`, kept since the store `w`: every handler's
remaining calls are accountable, and the frames the gateway accepted since `w`, each listed
with the items it was built from, cover every item that left the queue or that a handler still
owes. -/
def Net.Books (ctx : Context) (dev : EUI64) (w : World) (s : Net) : Prop :=
  (∀ ph ∈ s.phases, ph.Accountable ctx dev) ∧
  ∃ (new : List TXPacket) (sent : List (TXPacket × List QueueItem)),
    s.world.txPackets = w.txPackets ++ new ∧ (sent.map Prod.fst).Sublist new ∧
    (∀ x ∈ sent, x.1.BuiltFrom ctx dev x.2) ∧
    ∀ v, (w.macQueues dev).count v + (s.phases.map fun ph => (ph.owed dev).count v).sum ≤
      (s.world.macQueues dev).count v + (sent.flatMap Prod.snd).count v

/-- One step of the server keeps the books, by `Request.step_pays` for the handler that moves. -/
lemma Net.step_books {reqs : List Request} (hdown : ∀ req ∈ reqs, req.isDownlink) {w : World}
    {s : Net} (i : ℕ) (hs : s.Books ctx dev w) : (s.step ctx reqs i).Books ctx dev w := by
  unfold Net.step
  split
  · rename_i req ph hreq hph
    obtain ⟨hacc, new, sent, htx, hsub, hbuilt, hbal⟩ := hs
    obtain ⟨hacc', newp, logged, htx', hsub', hbuilt', hbal'⟩ :=
      Request.step_pays (hdown req (List.getElem?_mem hreq)) s.world
        (hacc ph (List.getElem?_mem hph))
    refine ⟨fun ph' hm => ?_, new ++ newp, sent ++ logged, by rw [htx', htx, List.append_assoc],
      by simpa using hsub.append hsub', fun x hx => ?_, fun v => ?_⟩
    · rcases List.mem_or_eq_of_mem_set hm with hm | rfl
      exacts [hacc _ hm, hacc']
    · rcases List.mem_append.mp hx with hx | hx
      exacts [hbuilt x hx, hbuilt' x hx]
    · have hset := sum_map_set (fun ph => (ph.owed dev).count v) s.phases i ph
        (req.step ctx ph s.world).1 hph
      dsimp only at hset
      have := hbal v
      have := hbal' v
      simp only [List.flatMap_append, List.count_append]
      omega
  · exact hs

lemma Net.run_books {reqs : List Request} (hdown : ∀ req ∈ reqs, req.isDownlink) {w : World} :
    ∀ (sched : List ℕ) (s : Net), s.Books ctx dev w →
      (Net.run ctx reqs sched s).Books ctx dev w
  | [], _, hs => hs
  | i :: sched, _, hs => Net.run_books hdown sched _ (Net.step_books hdown i hs)

lemma Net.init_books (ctx : Context) (dev : EUI64) (w : World) (n : ℕ) :
    (Net.init w n).Books ctx dev w :=
  ⟨fun ph hph => by rw [List.eq_of_mem_replicate hph]; trivial, [], [], by simp [Net.init],
    by simp, by simp, fun v => by simp [Net.init, Phase.owed]⟩

end Books

/-- **No MAC command leaves a queue without a frame.** However the server interleaves the
handlers of any downlink operations, on any devices, the packets the gateway accepted include
frames, each a valid data-down frame of a session of `dev` carrying the mac-commands of the
items it was built from, such that every item that left `dev`'s queue was among those items,
counted with multiplicity and each frame counted once. -/
theorem concurrent_queue_delivery (ctx : Context) (reqs : List Request) (w : World)
    (sched : List ℕ) (dev : EUI64) (hdown : ∀ req ∈ reqs, req.isDownlink) :
    let s : Net := Net.run ctx reqs sched (Net.init w reqs.length)
    ∃ (new : List TXPacket) (sent : List (TXPacket × List QueueItem)),
      s.world.txPackets = w.txPackets ++ new ∧ (sent.map Prod.fst).Sublist new ∧
      (∀ x ∈ sent, x.1.BuiltFrom ctx dev x.2) ∧
      ∀ v, (w.macQueues dev).count v ≤
        (s.world.macQueues dev).count v + (sent.flatMap Prod.snd).count v := by
  obtain ⟨-, new, sent, htx, hsub, hbuilt, hbal⟩ :=
    Net.run_books hdown sched _ (Net.init_books ctx dev w reqs.length)
  exact ⟨new, sent, htx, hsub, hbuilt, fun v => by have := hbal v; omega⟩

/-- The two overlapping pushes of `overlapping_pushes_share_fCnt`, as handlers of the server:
both send the queued `DevStatusReq`. -/
theorem concurrent_queue_delivery_overlap :
    let push := Request.downlink scenarioDevEUI
      (.handlePushDataDown (DownlinkReplies.succeeding (.ok none)) false 1 [1])
    let w := World.single (scenarioSession 5) [⟨[0x06], false, false⟩]
    let s : Net := Net.run eu868Context [push, push]
      ([0, 1, 0, 1] ++ List.replicate 4 0 ++ List.replicate 4 1) (Net.init w 2)
    (∀ req ∈ [push, push], req.isDownlink) ∧
    ∃ (new : List TXPacket) (sent : List (TXPacket × List QueueItem)),
      s.world.txPackets = w.txPackets ++ new ∧ (sent.map Prod.fst).Sublist new ∧
      (∀ x ∈ sent, x.1.BuiltFrom eu868Context scenarioDevEUI x.2) ∧
      ∀ v, (w.macQueues scenarioDevEUI).count v ≤
        (s.world.macQueues scenarioDevEUI).count v + (sent.flatMap Prod.snd).count v :=
  have h := by decide
  ⟨h, concurrent_queue_delivery eu868Context _ _ _ scenarioDevEUI h⟩

/-! ### Where every frame comes from -/

/-- The join-accept a join sends once its checks have passed: the `PHYPayload` the application
server returned, parsed; a downlink operation sends none. -/
def Request.joinAccept (ctx : Context) : Request → Option PHYPayload
  | .join r rxPacket =>
    match joinRequestChecks ctx r rxPacket with
    | .ok (_, _, _, phy) => some phy
    | .error _ => none
  | .downlink .. => none

/-- A packet the handlers of `reqs` may hand to the gateway: the join-accept of one of their
joins, or a valid data-down frame of a session with the property `P`. -/
def TXPacket.Sendable (ctx : Context) (reqs : List Request) (P : NodeSession → Prop)
    (p : TXPacket) : Prop :=
  (∃ req ∈ reqs, req.joinAccept ctx = some p.phyPayload) ∨
    ∃ ns dd, P ns ∧ p.phyPayload = dataDownFrame ns dd ∧ dd.validate = .ok ()

/-- Every packet the handler can still send has the property `Q`. -/
def Phase.SendsOnly (Q : TXPacket → Prop) : Phase → Prop
  | .running calls _ => ∀ c ∈ calls, ∀ p, c.write = .send p → Q p
  | .start | .loaded _ | .done _ => True

section Frames

variable {ctx : Context} {reqs : List Request} {P : NodeSession → Prop}

lemma deleteCalls_sendsOnly {Q : TXPacket → Prop} (rep : Reporting) (r : DownlinkReplies)
    (devEUI : EUI64) : ∀ i items, ∀ c ∈ deleteCalls rep r devEUI i items, ∀ p, c.write = .send p → Q p
  | _, [] => by simp [deleteCalls]
  | i, _ :: items => by
    simp only [deleteCalls, List.mem_cons, forall_eq_or_imp]
    exact ⟨fun _ h => Write.noConfusion h, deleteCalls_sendsOnly rep r devEUI (i + 1) items⟩

lemma DownlinkOp.plan_sendsOnly (op : DownlinkOp) {ns : NodeSession} (q : List QueueItem)
    (hP : P ns) : ((op.intent ctx ns q).plan op.reporting op.replies ns).running.SendsOnly
      (TXPacket.Sendable ctx reqs P) := by
  cases hi : op.intent ctx ns q with
  | finish => simp [Intent.plan, Plan.running, Phase.SendsOnly]
  | transmit p c items =>
    obtain ⟨dd, hp, hv, -⟩ := DownlinkOp.intent_frame hi
    simp only [Intent.plan, Plan.running, Phase.SendsOnly, transmitCalls, List.mem_cons,
      List.mem_append, forall_eq_or_imp]
    refine ⟨fun p' h => ?_, fun c' hc p' h => ?_⟩
    · cases h
      exact .inr ⟨ns, dd, hP, hp, hv⟩
    · rcases hc with hc | hc
      · split_ifs at hc <;> simp_all
      · exact deleteCalls_sendsOnly _ _ _ 0 items c' hc p' h

lemma joinPlan_sendsOnly {r : JoinReplies} {rxPacket : RXPacket} (hreq : .join r rxPacket ∈ reqs) :
    (joinPlan ctx r rxPacket).running.SendsOnly (TXPacket.Sendable ctx reqs P) := by
  unfold joinPlan
  rcases hc : joinRequestChecks ctx r rxPacket with _ | ⟨jrPL, devAddr, joinResp, phy⟩
  · simp [Plan.running, Phase.SendsOnly]
  · have hacc : (Request.join r rxPacket).joinAccept ctx = some phy := by
      simp [Request.joinAccept, hc]
    cases joinAcceptTXInfo ctx rxPacket with
    | error =>
      simp only [Plan.running, Phase.SendsOnly, List.mem_cons, List.not_mem_nil, or_false]
      rintro c (rfl | rfl) p hp <;> cases hp
    | ok txInfo =>
      simp only [Plan.running, Phase.SendsOnly, List.mem_cons, List.mem_append,
        List.not_mem_nil, or_false]
      rintro c ((rfl | rfl) | rfl) p hp <;> cases hp
      exact .inl ⟨_, hreq, hacc⟩

/-- **One step sends only what may be sent.** A handler of `reqs` holding a session with `P`
hands to the gateway only sendable packets, now and in every later step. -/
lemma Request.step_sendsOnly {req : Request} (hreq : req ∈ reqs) {ph : Phase} (w : World)
    (hsave : ph.SavesOnly P) (hph : ph.SendsOnly (TXPacket.Sendable ctx reqs P)) :
    (req.step ctx ph w).1.SendsOnly (TXPacket.Sendable ctx reqs P) ∧
      ∀ p, (req.step ctx ph w).2 = some (.send p) → TXPacket.Sendable ctx reqs P p := by
  match req, ph with
  | .downlink devEUI _, .start =>
    cases h : w.nodeSessions devEUI <;> simp [Request.step, h, Phase.SendsOnly]
  | .downlink devEUI op, .loaded ns =>
    exact ⟨op.plan_sendsOnly _ hsave, by simp [Request.step]⟩
  | .join r rxPacket, .start | .join r rxPacket, .loaded _ =>
    exact ⟨joinPlan_sendsOnly hreq, by simp [Request.step]⟩
  | _, .running [] _ => simp [Request.step, Phase.SendsOnly]
  | _, .running (c :: cs) _ =>
    simp only [Phase.SendsOnly, List.mem_cons, forall_eq_or_imp] at hph
    cases h : c.reply
    · simp [Request.step, h, Phase.SendsOnly]
    · simp only [Request.step, h, Option.some.injEq]
      exact ⟨hph.2, fun p hp => hph.1 p hp⟩
  | _, .done _ => simp [Request.step, Phase.SendsOnly]

/-- What the server has sent since the store `w` is sendable, every handler will send only
sendable packets, and every stored session, and every session a handler can still save, has
`P`. -/
def Net.SendsOnly (ctx : Context) (reqs : List Request) (P : NodeSession → Prop) (w : World)
    (s : Net) : Prop :=
  s.world.StoresOnly P ∧ (∀ ph ∈ s.phases, ph.SavesOnly P ∧
    ph.SendsOnly (TXPacket.Sendable ctx reqs P)) ∧
  ∃ new, s.world.txPackets = w.txPackets ++ new ∧ ∀ p ∈ new, TXPacket.Sendable ctx reqs P p

lemma Net.step_sendsOnly (hadv : ∀ ns, P ns → P ns.advance)
    (hinst : ∀ req ∈ reqs, ∀ ns, req.installs ctx = some ns → P ns) {w : World} {s : Net}
    (i : ℕ) (hs : s.SendsOnly ctx reqs P w) : (s.step ctx reqs i).SendsOnly ctx reqs P w := by
  obtain ⟨hw, hph, new, htx, hnew⟩ := hs
  unfold Net.step
  split
  · rename_i req ph hreq hph'
    have hmem := List.getElem?_mem hreq
    obtain ⟨hsave, hsend⟩ := hph ph (List.getElem?_mem hph')
    obtain ⟨hsave', hw'⟩ := Request.step_savesOnly hadv (hinst req hmem) hw hsave
    obtain ⟨hsend', hp⟩ := Request.step_sendsOnly hmem s.world hsave hsend
    refine ⟨hw', fun ph' hm => ?_, ?_⟩
    · rcases List.mem_or_eq_of_mem_set hm with hm | rfl
      exacts [hph _ hm, ⟨hsave', hsend'⟩]
    · cases hwr : (req.step ctx ph s.world).2 with
      | none => exact ⟨new, htx, hnew⟩
      | some wr =>
        cases wr with
        | send p =>
          refine ⟨new ++ [p], by simp [World.applyWrite, Write.apply, htx], fun p' hp' => ?_⟩
          rcases List.mem_append.mp hp' with hp' | hp'
          · exact hnew p' hp'
          · rw [List.mem_singleton.mp hp']
            exact hp p hwr
        | _ => exact ⟨new, by simp [World.applyWrite, Write.apply, htx], hnew⟩
  · exact ⟨hw, hph, new, htx, hnew⟩

lemma Net.run_sendsOnly (hadv : ∀ ns, P ns → P ns.advance)
    (hinst : ∀ req ∈ reqs, ∀ ns, req.installs ctx = some ns → P ns) {w : World} :
    ∀ (sched : List ℕ) (s : Net), s.SendsOnly ctx reqs P w →
      (Net.run ctx reqs sched s).SendsOnly ctx reqs P w
  | [], _, hs => hs
  | i :: sched, _, hs => Net.run_sendsOnly hadv hinst sched _ (Net.step_sendsOnly hadv hinst i hs)

lemma Net.init_sendsOnly (w : World) (n : ℕ) (hw : w.StoresOnly P) :
    (Net.init w n).SendsOnly ctx reqs P w :=
  ⟨hw, fun ph hph => by rw [List.eq_of_mem_replicate hph]; exact ⟨trivial, trivial⟩,
    [], by simp [Net.init], by simp⟩

end Frames

/-- **Where every frame comes from.** However the server interleaves the handlers of any
requests, every packet it hands to the gateway is the join-accept one of the joins received
from the application server, or a valid data-down frame of a session that equals, in
everything but `FCntDown`, a session stored at the start or the session one of the joins
installs: no frame goes out under a `DevAddr` and an `NwkSKey` that no session held together. -/
theorem concurrent_frames_origin (ctx : Context) (reqs : List Request) (w : World)
    (sched : List ℕ) :
    ∃ new, (Net.run ctx reqs sched (Net.init w reqs.length)).world.txPackets = w.txPackets ++ new ∧
      ∀ p ∈ new, (∃ req ∈ reqs, req.joinAccept ctx = some p.phyPayload) ∨
        ∃ ns dd, p.phyPayload = dataDownFrame ns dd ∧ dd.validate = .ok () ∧
          ∃ b, ((∃ d', w.nodeSessions d' = some b) ∨ ∃ req ∈ reqs, req.installs ctx = some b) ∧
            { b with fCntDown := ns.fCntDown } = ns := by
  obtain ⟨-, -, new, htx, hnew⟩ := Net.run_sendsOnly
    (P := fun ns => ∃ b, ((∃ d', w.nodeSessions d' = some b) ∨
      ∃ req ∈ reqs, req.installs ctx = some b) ∧ { b with fCntDown := ns.fCntDown } = ns)
    (fun ns ⟨b, hb, h⟩ => ⟨b, hb, by rw [← h]; rfl⟩)
    (fun req hreq ns h => ⟨ns, .inr ⟨req, hreq, h⟩, rfl⟩) sched _
    (Net.init_sendsOnly w reqs.length fun d ns h => ⟨ns, .inl ⟨d, h⟩, rfl⟩)
  refine ⟨new, htx, fun p hp => ?_⟩
  rcases hnew p hp with h | ⟨ns, dd, hP, hp', hv⟩
  exacts [.inl h, .inr ⟨ns, dd, hp', hv, hP⟩]

end LoraServer

import LoraServer.Interleave

/-!
# Any number of handlers

The network server runs a handler per request, all on one store. `Net` is that server: a list
of requests, the phase of each handler, and a schedule naming the handler that moves next.

* `Net.run_serial`: a schedule that runs the handlers one after another, each alone until it
  returns, leaves the store of the sequential model `runRequests`;
* `Net.handler_returns`: whatever the schedule, a handler returns within a budget of its own
  steps, since every own step uses up some of it and no other handler's write adds to it;
* `Request.step_savesOnly`: what one step of a handler can write, and what it can still
  write, keeps any property of sessions that advancing `FCntDown` keeps and that the sessions
  the joins install have;
* `concurrent_sessions_origin`: from it, by induction over the schedule, every session the
  store ever holds is, up to `FCntDown`, one stored at the start or one a join installs.
-/

namespace LoraServer

/-! ### The server -/

/-- The handlers of a list of requests and the shared state. -/
structure Net where
  world : World
  phases : List Phase

/-- `n` handlers about to start on the store `w`. -/
def Net.init (w : World) (n : ℕ) : Net := ⟨w, List.replicate n .start⟩

/-- One step of the `i`-th handler; an index without a handler changes nothing. -/
def Net.step (ctx : Context) (reqs : List Request) (s : Net) (i : ℕ) : Net :=
  match reqs[i]?, s.phases[i]? with
  | some req, some ph =>
    ⟨s.world.applyWrite (req.step ctx ph s.world).2, s.phases.set i (req.step ctx ph s.world).1⟩
  | _, _ => s

/-- Running a schedule of handler indices. -/
def Net.run (ctx : Context) (reqs : List Request) : List ℕ → Net → Net
  | [], s => s
  | i :: sched, s => Net.run ctx reqs sched (s.step ctx reqs i)

/-! ### Serial schedules -/

/-- The schedule that runs handlers one after another from the `j`-th: the `j`-th for `k₀`
steps, the next for `k₁`, and so on. -/
def Net.serial : List ℕ → ℕ → List ℕ
  | [], _ => []
  | k :: ks, j => List.replicate k j ++ Net.serial ks (j + 1)

/-- Run one after another from `w`, the handler of each request returns within its number of
steps. -/
def Request.SerialFits (ctx : Context) : List Request → List ℕ → World → Prop
  | [], [], _ => True
  | req :: reqs, k :: ks, w =>
    (req.solo ctx k .start w).1.result.isSome ∧ Request.SerialFits ctx reqs ks (req.run ctx w)
  | _, _, _ => False

section Serial

variable {ctx : Context} {reqs : List Request}

lemma Net.run_append (xs ys : List ℕ) (s : Net) :
    Net.run ctx reqs (xs ++ ys) s = Net.run ctx reqs ys (Net.run ctx reqs xs s) := by
  induction xs generalizing s with
  | nil => rfl
  | cons _ _ ih => exact ih _

lemma Net.run_replicate {i : ℕ} {req : Request} (hreq : reqs[i]? = some req) :
    ∀ (k : ℕ) (s : Net) (ph : Phase), s.phases[i]? = some ph →
      (Net.run ctx reqs (List.replicate k i) s).world = (req.solo ctx k ph s.world).2 ∧
      ∀ j ≠ i, (Net.run ctx reqs (List.replicate k i) s).phases[j]? = s.phases[j]?
  | 0, _, _, _ => ⟨rfl, fun _ _ => rfl⟩
  | k + 1, s, ph, hph => by
    have hstep : s.step ctx reqs i = ⟨s.world.applyWrite (req.step ctx ph s.world).2,
        s.phases.set i (req.step ctx ph s.world).1⟩ := by
      simp [Net.step, hreq, hph]
    obtain ⟨hw, hj⟩ := Net.run_replicate hreq k (s.step ctx reqs i) (req.step ctx ph s.world).1
      (by rw [hstep, List.getElem?_set_self', hph]; rfl)
    refine ⟨by rw [List.replicate_succ, Net.run, hw, hstep]; rfl, fun j hji => ?_⟩
    rw [List.replicate_succ, Net.run, hj j hji, hstep, List.getElem?_set_ne (Ne.symm hji)]

lemma Net.run_serial_from :
    ∀ (ks : List ℕ) (j : ℕ) (s : Net), Request.SerialFits ctx (reqs.drop j) ks s.world →
      (∀ i, j ≤ i → s.phases[i]? = reqs[i]?.map fun _ => .start) →
      (Net.run ctx reqs (Net.serial ks j) s).world = runRequests ctx (reqs.drop j) s.world
  | [], j, s, hfit, _ => by
    cases h : reqs.drop j with
    | nil => rfl
    | cons => simp [h, Request.SerialFits] at hfit
  | k :: ks, j, s, hfit, hstart => by
    cases h : reqs.drop j with
    | nil => simp [h, Request.SerialFits] at hfit
    | cons req rest =>
      rw [h] at hfit
      obtain ⟨hk, hrest⟩ := hfit
      obtain ⟨res, hres⟩ := Option.isSome_iff_exists.mp hk
      have hreq : reqs[j]? = some req := by simpa [List.getElem?_drop, h] using
        (List.getElem?_drop reqs j 0).symm
      obtain ⟨hw, hj⟩ := Net.run_replicate hreq k s .start (by rw [hstart j le_rfl, hreq]; rfl)
      -- the block leaves what the request leaves in the sequential model
      have hrun : (req.solo ctx k .start s.world).2 = req.run ctx s.world := by
        rw [Request.run_eq_exec, ← Request.solo_done hres]
      have hdrop : reqs.drop (j + 1) = rest := by
        rw [← List.drop_drop, h, List.drop_one, List.tail_cons]
      rw [Net.serial, Net.run_append, Net.run_serial_from ks (j + 1) _ (by rwa [hdrop, hw, hrun])
        (fun i hi => by rw [hj i (by omega), hstart i (by omega)]), hdrop, hw, hrun]
      rfl

/-- **A serial schedule of the server is the sequential model.** Running the handlers one after
another, each alone until it returns, leaves the store that handling the requests in order
(`runRequests`) leaves. -/
theorem Net.run_serial (ctx : Context) (reqs : List Request) (ks : List ℕ) (w : World)
    (h : Request.SerialFits ctx reqs ks w) :
    (Net.run ctx reqs (Net.serial ks 0) (Net.init w reqs.length)).world = runRequests ctx reqs w :=
  Net.run_serial_from ks 0 _ (by simpa using h)
    (fun i _ => by
      rcases Nat.lt_or_ge i reqs.length with hi | hi
      · simp [Net.init, List.getElem?_replicate, hi]
      · simp [Net.init, List.getElem?_replicate, List.getElem?_eq_none hi, Nat.not_lt.mpr hi])

/-- A push on the device's session, then its join, each run to its return. -/
theorem run_serial_pushThenJoin :
    let reqs := [Request.downlink scenarioDevEUI
      (.handlePushDataDown (DownlinkReplies.succeeding (.ok none)) false 1 [1]),
      .join (JoinReplies.succeeding ⟨[9, 9, 9, 9], rfl⟩ scenarioJoinResponse)
        scenarioJoinRequest]
    let w := World.single (scenarioSession 5) []
    Request.SerialFits eu868Context reqs [5, 5] w ∧
    (Net.run eu868Context reqs (Net.serial [5, 5] 0) (Net.init w reqs.length)).world =
      runRequests eu868Context reqs w :=
  have h : Request.SerialFits eu868Context [Request.downlink scenarioDevEUI
      (.handlePushDataDown (DownlinkReplies.succeeding (.ok none)) false 1 [1]),
      .join (JoinReplies.succeeding ⟨[9, 9, 9, 9], rfl⟩ scenarioJoinResponse)
        scenarioJoinRequest]
      [5, 5] (World.single (scenarioSession 5) []) :=
    ⟨by decide, by decide, trivial⟩
  ⟨h, Net.run_serial _ _ _ _ h⟩

end Serial

/-! ### Every handler returns -/

/-- A bound on the steps a handler still needs to return: a downlink operation loads, decides,
makes at most two calls and one delete per queue item, and returns; a join decides, makes at
most three calls, and returns. -/
def Request.budget : Request → Phase → World → ℕ
  | .downlink devEUI _, .start, w => 5 + (w.macQueues devEUI).length
  | .downlink devEUI _, .loaded _, w => 4 + (w.macQueues devEUI).length
  | .join .., .start, _ | .join .., .loaded _, _ => 5
  | _, .running calls _, _ => calls.length + 1
  | _, .done _, _ => 0

lemma Write.apply_macQueues_length_le (wr : Write) (w : World) (d : EUI64) :
    ((wr.apply w).macQueues d).length ≤ (w.macQueues d).length := by
  cases wr with
  | delete dev qi =>
    simp only [Write.apply, World.deleteQueueItem_macQueues]
    split_ifs with h
    · exact h ▸ List.length_erase_le qi _
    · exact le_rfl
  | flush dev =>
    simp only [Write.apply, World.flushQueue_macQueues]
    split_ifs <;> simp
  | _ => simp [Write.apply]

lemma deleteCalls_length (rep : Reporting) (r : DownlinkReplies) (devEUI : EUI64) :
    ∀ i items, (deleteCalls rep r devEUI i items).length = items.length
  | _, [] => rfl
  | i, _ :: items => congrArg (· + 1) (deleteCalls_length rep r devEUI (i + 1) items)

lemma DownlinkOp.plan_length (ctx : Context) (op : DownlinkOp) (ns : NodeSession)
    (q : List QueueItem) :
    ((op.intent ctx ns q).plan op.reporting op.replies ns).calls.length ≤ 2 + q.length := by
  have hwf := op.intent_wellFormed ctx ns q
  generalize op.intent ctx ns q = i at hwf ⊢
  cases i with
  | finish => simp [Intent.plan]
  | transmit p c items =>
    obtain ⟨-, -, -, hsub⟩ := hwf
    have := hsub.length_le
    simp only [Intent.plan, transmitCalls, List.length_cons, List.length_append,
      deleteCalls_length]
    split_ifs <;> simp <;> omega

lemma joinPlan_length (ctx : Context) (r : JoinReplies) (rxPacket : RXPacket) :
    (joinPlan ctx r rxPacket).calls.length ≤ 3 := by
  unfold joinPlan
  rcases joinRequestChecks ctx r rxPacket with _ | ⟨_, _, _, _⟩
  · simp
  · cases joinAcceptTXInfo ctx rxPacket <;> simp

lemma Request.budget_step_lt (ctx : Context) (req : Request) {ph : Phase} (w : World)
    (hph : ph.result = none) :
    req.budget (req.step ctx ph w).1 (w.applyWrite (req.step ctx ph w).2) < req.budget ph w := by
  match req, ph with
  | .downlink devEUI _, .start =>
    cases h : w.nodeSessions devEUI <;> simp [Request.step, Request.budget, World.applyWrite, h]
  | .downlink devEUI op, .loaded ns =>
    have := op.plan_length ctx ns (w.macQueues devEUI)
    simp only [Request.step, Request.budget, Plan.running, World.applyWrite]
    omega
  | .join r rxPacket, .start | .join r rxPacket, .loaded _ =>
    have := joinPlan_length ctx r rxPacket
    simp only [Request.step, Request.budget, Plan.running, World.applyWrite]
    omega
  | _, .running [] _ => simp [Request.step, Request.budget]
  | _, .running (c :: cs) _ =>
    cases h : c.reply <;> simp [Request.step, Request.budget, h]
  | _, .done _ => simp [Phase.result] at hph

lemma Request.budget_write_le (req : Request) (ph : Phase) (w : World) (wr : Option Write) :
    req.budget ph (w.applyWrite wr) ≤ req.budget ph w := by
  rcases wr with _ | wr
  · exact le_rfl
  · have := fun d => Write.apply_macQueues_length_le wr w d
    match req, ph with
    | .downlink devEUI _, .start | .downlink devEUI _, .loaded _ =>
      simpa [Request.budget, World.applyWrite] using this devEUI
    | .join .., .start | .join .., .loaded _ | _, .running .. | _, .done _ =>
      simp [Request.budget]

lemma Request.budget_eq_zero {req : Request} {ph : Phase} {w : World}
    (h : req.budget ph w = 0) : ∃ res, ph = .done res := by
  match req, ph with
  | _, .done res => exact ⟨res, rfl⟩
  | .downlink .., .start | .downlink .., .loaded _ | .join .., .start | .join .., .loaded _
    | _, .running .. => simp [Request.budget] at h

lemma Net.run_returns {ctx : Context} {reqs : List Request} {i : ℕ} {req : Request}
    (hreq : reqs[i]? = some req) :
    ∀ (sched : List ℕ) (s : Net) (ph : Phase), s.phases[i]? = some ph →
      req.budget ph s.world ≤ sched.count i →
      ∃ res, (Net.run ctx reqs sched s).phases[i]? = some (.done res)
  | [], s, ph, hph, hb => by
    obtain ⟨res, rfl⟩ := Request.budget_eq_zero (Nat.le_zero.mp hb)
    exact ⟨res, hph⟩
  | j :: sched, s, ph, hph, hb => by
    by_cases hji : j = i
    · -- the handler's own step
      subst hji
      have hstep : s.step ctx reqs j = ⟨s.world.applyWrite (req.step ctx ph s.world).2,
          s.phases.set j (req.step ctx ph s.world).1⟩ := by
        simp [Net.step, hreq, hph]
      rw [List.count_cons_self] at hb
      refine Net.run_returns hreq sched (s.step ctx reqs j) (req.step ctx ph s.world).1
        (by rw [hstep, List.getElem?_set_self', hph]; rfl) ?_
      rw [hstep]
      dsimp only
      cases hres : ph.result with
      | none => have := req.budget_step_lt ctx s.world hres; omega
      | some res =>
        obtain rfl := Phase.eq_done_of_result hres
        simp [Request.step, Request.budget]
    · -- another handler's step: a write at most
      rw [List.count_cons_of_ne (Ne.symm hji)] at hb
      have hph' : (s.step ctx reqs j).phases[i]? = some ph := by
        unfold Net.step
        split
        · rw [List.getElem?_set_ne hji, hph]
        · exact hph
      obtain ⟨wr, hw⟩ : ∃ wr, (s.step ctx reqs j).world = s.world.applyWrite wr := by
        unfold Net.step
        split
        exacts [⟨_, rfl⟩, ⟨none, rfl⟩]
      exact Net.run_returns hreq sched _ ph hph'
        (by rw [hw]; exact (req.budget_write_le ph s.world wr).trans hb)

/-- **Every handler returns.** However the server interleaves the handlers, the handler of a
request returns once it has moved `req.budget .start w` times: five, plus, for a downlink
operation, the length of its device's queue at the start. No handler waits for another. -/
theorem Net.handler_returns (ctx : Context) (reqs : List Request) (w : World) (sched : List ℕ)
    (i : ℕ) (req : Request) (hreq : reqs[i]? = some req)
    (hsteps : req.budget .start w ≤ sched.count i) :
    ∃ res, (Net.run ctx reqs sched (Net.init w reqs.length)).phases[i]? = some (.done res) :=
  Net.run_returns hreq sched _ .start
    (by simp [Net.init, List.getElem?_replicate, (List.getElem?_eq_some_iff.mp hreq).1]) hsteps

/-- A push with a `DevStatusReq` queued, taking turns with the device's join: it returns after
six of its own steps. -/
theorem handler_returns_pushWithJoin :
    let push := Request.downlink scenarioDevEUI
      (.handlePushDataDown (DownlinkReplies.succeeding (.ok none)) false 1 [1])
    let reqs := [push,
      .join (JoinReplies.succeeding ⟨[9, 9, 9, 9], rfl⟩ scenarioJoinResponse)
        scenarioJoinRequest]
    let w := World.single (scenarioSession 5) [⟨[0x06], false, false⟩]
    let sched := [1, 0, 1, 0, 1, 0, 1, 0, 1, 0, 0, 0]
    (reqs[0]? = some push ∧ push.budget .start w ≤ sched.count 0) ∧
    ∃ res, (Net.run eu868Context reqs sched (Net.init w reqs.length)).phases[0]? = some (.done res) :=
  have hreq := rfl
  have hsteps := by decide
  ⟨⟨hreq, hsteps⟩, Net.handler_returns eu868Context _ _ _ 0 _ hreq hsteps⟩

/-! ### Where a stored session comes from -/

/-- The session a join installs once its checks have passed; a downlink operation installs
none. -/
def Request.installs (ctx : Context) : Request → Option NodeSession
  | .join r rxPacket =>
    match joinRequestChecks ctx r rxPacket with
    | .ok (jrPL, devAddr, joinResp, _) =>
      some (joinNodeSession jrPL devAddr joinResp rxPacket.rxInfoSet)
    | .error _ => none
  | .downlink .. => none

/-- The write saves only sessions with the property `P`. -/
def Write.SavesOnly (P : NodeSession → Prop) : Write → Prop
  | .save ns => P ns
  | _ => True

/-- Every stored session has the property `P`. -/
def World.StoresOnly (P : NodeSession → Prop) (w : World) : Prop :=
  ∀ d ns, w.nodeSessions d = some ns → P ns

/-- What a handler can still save from this phase has the property `P`, provided the session
it loaded, advanced, has it. -/
def Phase.SavesOnly (P : NodeSession → Prop) : Phase → Prop
  | .loaded ns => P ns
  | .running calls _ => ∀ c ∈ calls, c.write.SavesOnly P
  | .start | .done _ => True

section SavesOnly

variable {P : NodeSession → Prop}

lemma Write.apply_storesOnly {w : World} {wr : Write} (hw : w.StoresOnly P)
    (h : wr.SavesOnly P) : (wr.apply w).StoresOnly P := by
  intro d ns hd
  cases wr with
  | save ns' =>
    simp only [Write.apply, World.saveNodeSession_nodeSessions] at hd
    split_ifs at hd
    · cases hd
      exact h
    · exact hw d ns hd
  | _ => exact hw d ns (by simpa [Write.apply] using hd)

lemma deleteCalls_savesOnly (rep : Reporting) (r : DownlinkReplies) (devEUI : EUI64) :
    ∀ i items, ∀ c ∈ deleteCalls rep r devEUI i items, c.write.SavesOnly P
  | _, [] => by simp [deleteCalls]
  | i, _ :: items => by
    simp only [deleteCalls, List.mem_cons, forall_eq_or_imp]
    exact ⟨trivial, deleteCalls_savesOnly rep r devEUI (i + 1) items⟩

lemma Intent.plan_savesOnly (rep : Reporting) (r : DownlinkReplies) {ns : NodeSession}
    (i : Intent) (h : P ns.advance) : ∀ c ∈ (i.plan rep r ns).calls, c.write.SavesOnly P := by
  cases i with
  | finish => simp [Intent.plan]
  | transmit p confirmed items =>
    simp only [Intent.plan, transmitCalls, List.mem_cons, List.mem_append, forall_eq_or_imp]
    refine ⟨trivial, fun c hc => ?_⟩
    rcases hc with hc | hc
    · split_ifs at hc <;> simp_all [Write.SavesOnly]
    · exact deleteCalls_savesOnly rep r _ 0 items c hc

lemma joinPlan_savesOnly (ctx : Context) (r : JoinReplies) (rxPacket : RXPacket)
    (h : ∀ ns, (Request.join r rxPacket).installs ctx = some ns → P ns) :
    ∀ c ∈ (joinPlan ctx r rxPacket).calls, c.write.SavesOnly P := by
  unfold joinPlan
  rcases hc : joinRequestChecks ctx r rxPacket with _ | ⟨jrPL, devAddr, joinResp, phy⟩
  · simp
  · have hP := h (joinNodeSession jrPL devAddr joinResp rxPacket.rxInfoSet)
      (by simp [Request.installs, hc])
    cases joinAcceptTXInfo ctx rxPacket <;> simp [Write.SavesOnly, hP]

/-- **One step keeps what can be stored.** When `P` holds after advancing `FCntDown` and of
every session the handler installs, a step keeps `P` of every stored session and of everything
the handler can still save. -/
lemma Request.step_savesOnly (hadv : ∀ ns, P ns → P ns.advance) {ctx : Context} {req : Request}
    (hinst : ∀ ns, req.installs ctx = some ns → P ns) {ph : Phase} {w : World}
    (hw : w.StoresOnly P) (hph : ph.SavesOnly P) :
    (req.step ctx ph w).1.SavesOnly P ∧ (w.applyWrite (req.step ctx ph w).2).StoresOnly P := by
  match req, ph with
  | .downlink devEUI _, .start =>
    cases h : w.nodeSessions devEUI with
    | none => simp [Request.step, h, Phase.SavesOnly, World.applyWrite, hw]
    | some ns => simpa [Request.step, h, Phase.SavesOnly, World.applyWrite, hw] using hw _ _ h
  | .downlink _ _, .loaded ns => exact ⟨Intent.plan_savesOnly _ _ _ (hadv ns hph), hw⟩
  | .join r rxPacket, .start | .join r rxPacket, .loaded _ =>
    exact ⟨joinPlan_savesOnly ctx r rxPacket hinst, hw⟩
  | _, .running [] _ => exact ⟨trivial, hw⟩
  | _, .running (c :: cs) _ =>
    simp only [Phase.SavesOnly, List.mem_cons, forall_eq_or_imp] at hph
    cases h : c.reply
    · simp [Request.step, h, Phase.SavesOnly, World.applyWrite, hw]
    · simpa [Request.step, h, Phase.SavesOnly, World.applyWrite] using
        ⟨hph.2, Write.apply_storesOnly hw hph.1⟩
  | _, .done _ => exact ⟨trivial, hw⟩

lemma Net.step_storesOnly (hadv : ∀ ns, P ns → P ns.advance) {ctx : Context}
    {reqs : List Request} (hinst : ∀ req ∈ reqs, ∀ ns, req.installs ctx = some ns → P ns)
    {s : Net} (i : ℕ) (hw : s.world.StoresOnly P) (hph : ∀ ph ∈ s.phases, ph.SavesOnly P) :
    (s.step ctx reqs i).world.StoresOnly P ∧ ∀ ph ∈ (s.step ctx reqs i).phases, ph.SavesOnly P := by
  unfold Net.step
  split
  · rename_i req ph hreq hph'
    have h := Request.step_savesOnly hadv (hinst req (List.getElem?_mem hreq)) hw
      (hph ph (List.getElem?_mem hph'))
    refine ⟨h.2, fun ph' hm => ?_⟩
    rcases List.mem_or_eq_of_mem_set hm with hm | rfl
    exacts [hph _ hm, h.1]
  · exact ⟨hw, hph⟩

/-- **A schedule keeps what can be stored.** -/
lemma Net.run_storesOnly (hadv : ∀ ns, P ns → P ns.advance) {ctx : Context}
    {reqs : List Request} (hinst : ∀ req ∈ reqs, ∀ ns, req.installs ctx = some ns → P ns) :
    ∀ (sched : List ℕ) (s : Net), s.world.StoresOnly P → (∀ ph ∈ s.phases, ph.SavesOnly P) →
      (Net.run ctx reqs sched s).world.StoresOnly P
  | [], _, hw, _ => hw
  | i :: sched, _, hw, hph =>
    have h := Net.step_storesOnly hadv hinst i hw hph
    Net.run_storesOnly hadv hinst sched _ h.1 h.2

end SavesOnly

/-- **Where every stored session comes from.** However the server interleaves the handlers of
any requests, each session stored for a device equals, in everything but `FCntDown`, a session
stored at the start or the session one of the joins installs: a downlink operation changes
nothing in a session but `FCntDown`, and a join's session can only be replaced by one stored
before it. -/
theorem concurrent_sessions_origin (ctx : Context) (reqs : List Request) (w : World)
    (sched : List ℕ) :
    ∀ d ns, (Net.run ctx reqs sched (Net.init w reqs.length)).world.nodeSessions d = some ns →
      ∃ b, ((∃ d', w.nodeSessions d' = some b) ∨ ∃ req ∈ reqs, req.installs ctx = some b) ∧
        { b with fCntDown := ns.fCntDown } = ns :=
  Net.run_storesOnly (fun ns ⟨b, hb, h⟩ => ⟨b, hb, by rw [← h]; rfl⟩)
    (fun req hreq ns h => ⟨ns, .inr ⟨req, hreq, h⟩, rfl⟩) sched _
    (fun d ns h => ⟨ns, .inl ⟨d, h⟩, rfl⟩)
    (fun ph hph => by rw [List.eq_of_mem_replicate hph]; trivial)

/-- The push and the join of `stale_session_after_join`, scheduled as there: the session stored
at the end is the pre-join one with `FCntDown` advanced. -/
theorem concurrent_sessions_origin_staleSave :
    let reqs := [Request.downlink scenarioDevEUI
      (.handlePushDataDown (DownlinkReplies.succeeding (.ok none)) false 1 [1]),
      .join (JoinReplies.succeeding ⟨[9, 9, 9, 9], rfl⟩ scenarioJoinResponse)
        scenarioJoinRequest]
    let w := World.single (scenarioSession 5) []
    let sched := 0 :: List.replicate 5 1 ++ List.replicate 5 0
    (Net.run eu868Context reqs sched (Net.init w reqs.length)).world.nodeSessions scenarioDevEUI =
      some (scenarioSession 5).advance ∧
    ∃ b, ((∃ d', w.nodeSessions d' = some b) ∨ ∃ req ∈ reqs, req.installs eu868Context = some b) ∧
      { b with fCntDown := (scenarioSession 5).advance.fCntDown } = (scenarioSession 5).advance :=
  have h := by decide
  ⟨h, concurrent_sessions_origin eu868Context _ _ _ _ _ h⟩

end LoraServer

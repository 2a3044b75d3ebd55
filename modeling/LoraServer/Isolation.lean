import LoraServer.Concurrent

/-!
# Requests on different devices do not interfere

The lost updates of `overlapping_pushes_share_fCnt` and `stale_session_after_join` need two
handlers on one device. A handler reads only its own device's session and queue
(`Request.step_local`) and writes only them (`Phase.Within`), so handlers on different devices
never see each other:

* `Request.devEUI?`: the device a request works on: a downlink operation's, or the DevEUI of
  the join-request a join carries; a join whose payload is no join-request writes nothing;
* `Net.run_isolated`: in every schedule, each handler is where it would be after as many steps
  alone, and its device holds the session and queue it would then hold;
* `concurrent_devices_isolated`: so when the requests are for pairwise different devices, a
  handler that has returned returned what it returns alone, and its device's session and
  queue are those it leaves alone, whatever the interleaving;
* `concurrent_serializable`: the same read against the sequential model `runRequests`: every
  interleaving of such requests returns what the requests return one after another in list
  order and, once all have returned, leaves every device as the sequential run does. The
  sequential side rests on the same two facts for whole requests (`Request.exec_local`,
  `Request.exec_within`) and on the cut of the list at one request (`runRequests_split`).
-/

namespace LoraServer

/-! ### Footprints -/

/-- The device a request works on: a downlink operation's, or the DevEUI of the join-request a
join carries. -/
def Request.devEUI? : Request → Option EUI64
  | .downlink devEUI _ => some devEUI
  | .join _ rxPacket => rxPacket.phyPayload.macPayload.joinRequestPayload?.map (·.devEUI)

/-- The two stores hold the same session and the same queue for `d`. -/
def World.Agree (d : EUI64) (w w' : World) : Prop :=
  w.nodeSessions d = w'.nodeSessions d ∧ w.macQueues d = w'.macQueues d

/-- The write touches no device's session or queue but `od`'s. -/
def Write.Within (od : Option EUI64) : Write → Prop
  | .send _ => True
  | .save ns => od = some ns.devEUI
  | .delete d _ | .flush d => od = some d

/-- What a handler can still write touches no device but `od`, provided the session it loaded
is `od`'s. -/
def Phase.Within (od : Option EUI64) : Phase → Prop
  | .loaded ns => od = some ns.devEUI
  | .running calls _ => ∀ c ∈ calls, c.write.Within od
  | .start | .done _ => True

section Footprint

variable {d : EUI64} {w w' : World}

lemma World.Agree.trans {w'' : World} (h : World.Agree d w w') (h' : World.Agree d w' w'') :
    World.Agree d w w'' :=
  ⟨h.1.trans h'.1, h.2.trans h'.2⟩

lemma World.Agree.symm (h : World.Agree d w w') : World.Agree d w' w :=
  ⟨h.1.symm, h.2.symm⟩

lemma Write.apply_agree (wr : Write) (h : World.Agree d w w') :
    World.Agree d (wr.apply w) (wr.apply w') := by
  cases wr with
  | send p => exact h
  | save ns => exact ⟨by simp [Write.apply, h.1], h.2⟩
  | delete d' qi =>
    refine ⟨h.1, ?_⟩
    by_cases hd : d = d'
    · subst hd; simp [Write.apply, h.2]
    · simp [Write.apply, hd, h.2]
  | flush d' => exact ⟨h.1, by simp [Write.apply, h.2]⟩

lemma World.applyWrite_agree (o : Option Write) (h : World.Agree d w w') :
    World.Agree d (w.applyWrite o) (w'.applyWrite o) := by
  cases o with
  | none => exact h
  | some wr => exact Write.apply_agree wr h

lemma Write.apply_agree_of_within {od : Option EUI64} {wr : Write} (hwr : wr.Within od)
    (hd : od ≠ some d) (w : World) : World.Agree d (wr.apply w) w := by
  cases wr with
  | send p => exact ⟨rfl, rfl⟩
  | save ns =>
    have : d ≠ ns.devEUI := fun h => hd (h ▸ hwr)
    exact ⟨by simp [Write.apply, this], rfl⟩
  | delete d' qi =>
    have : d ≠ d' := fun h => hd (h ▸ hwr)
    exact ⟨rfl, by simp [Write.apply, this]⟩
  | flush d' =>
    have : d ≠ d' := fun h => hd (h ▸ hwr)
    exact ⟨rfl, by simp [Write.apply, this]⟩

lemma Request.step_local (ctx : Context) (req : Request) (ph : Phase)
    (h : ∀ d, req.devEUI? = some d → World.Agree d w w') :
    req.step ctx ph w = req.step ctx ph w' := by
  match req, ph with
  | .downlink devEUI _, .start => simp only [Request.step, (h devEUI rfl).1]
  | .downlink devEUI _, .loaded _ => simp only [Request.step, (h devEUI rfl).2]
  | .join .., .start | .join .., .loaded _ | _, .running [] _ | _, .running (_ :: _) _
    | _, .done _ => rfl

lemma deleteCalls_within (rep : Reporting) (r : DownlinkReplies) (devEUI : EUI64) :
    ∀ i items, ∀ c ∈ deleteCalls rep r devEUI i items, c.write.Within (some devEUI)
  | _, [] => by simp [deleteCalls]
  | i, _ :: items => by
    simp only [deleteCalls, List.mem_cons, forall_eq_or_imp]
    exact ⟨rfl, deleteCalls_within rep r devEUI (i + 1) items⟩

lemma Intent.plan_within (rep : Reporting) (r : DownlinkReplies) (ns : NodeSession) (i : Intent) :
    ∀ c ∈ (i.plan rep r ns).calls, c.write.Within (some ns.devEUI) := by
  cases i with
  | finish => simp [Intent.plan]
  | transmit p confirmed items =>
    simp only [Intent.plan, transmitCalls, List.mem_cons, List.mem_append, forall_eq_or_imp]
    refine ⟨trivial, fun c hc => ?_⟩
    rcases hc with hc | hc
    · split_ifs at hc <;> simp_all [Write.Within]
    · exact deleteCalls_within rep r _ 0 items c hc

lemma joinPlan_within (ctx : Context) (r : JoinReplies) (rxPacket : RXPacket) :
    ∀ c ∈ (joinPlan ctx r rxPacket).calls,
      c.write.Within (Request.join r rxPacket).devEUI? := by
  unfold joinPlan
  rcases hc : joinRequestChecks ctx r rxPacket with _ | ⟨jrPL, devAddr, joinResp, phy⟩
  · simp
  · have hdev : (Request.join r rxPacket).devEUI? = some jrPL.devEUI := by
      simp [Request.devEUI?, (joinRequestChecks_ok hc).1]
    cases joinAcceptTXInfo ctx rxPacket <;> simp [Write.Within, hdev]

/-- **A handler writes only its own device**, now and in every later step. -/
lemma Request.step_within (ctx : Context) (req : Request) {ph : Phase} (w : World)
    (hph : ph.Within req.devEUI?) :
    (req.step ctx ph w).1.Within req.devEUI? ∧
      ∀ wr ∈ (req.step ctx ph w).2, wr.Within req.devEUI? := by
  match req, ph with
  | .downlink devEUI _, .start =>
    cases h : w.nodeSessions devEUI with
    | none => simp [Request.step, h, Phase.Within]
    | some ns =>
      simpa [Request.step, h, Phase.Within, Request.devEUI?] using
        (w.nodeSessions_devEUI _ _ h).symm
  | .downlink devEUI op, .loaded ns =>
    obtain rfl : devEUI = ns.devEUI := by simpa [Phase.Within, Request.devEUI?] using hph
    simpa [Request.step, Plan.running, Phase.Within, Request.devEUI?] using
      Intent.plan_within op.reporting op.replies ns _
  | .join r rxPacket, .start | .join r rxPacket, .loaded _ =>
    simpa [Request.step, Plan.running, Phase.Within] using joinPlan_within ctx r rxPacket
  | _, .running [] _ => simp [Request.step, Phase.Within]
  | _, .running (c :: cs) _ =>
    simp only [Phase.Within, List.mem_cons, forall_eq_or_imp] at hph
    cases h : c.reply
    · simp [Request.step, h, Phase.Within]
    · simp only [Request.step, h]
      exact ⟨hph.2, by simpa using hph.1⟩
  | _, .done _ => simp [Request.step, Phase.Within]

end Footprint

/-! ### Handlers alone -/

lemma Request.solo_succ (ctx : Context) (req : Request) :
    ∀ n ph w, req.solo ctx (n + 1) ph w =
      ((req.step ctx (req.solo ctx n ph w).1 (req.solo ctx n ph w).2).1,
        (req.solo ctx n ph w).2.applyWrite
          (req.step ctx (req.solo ctx n ph w).1 (req.solo ctx n ph w).2).2)
  | 0, _, _ => rfl
  | n + 1, _, _ => Request.solo_succ ctx req n _ _

lemma Request.solo_within (ctx : Context) (req : Request) :
    ∀ n ph w, ph.Within req.devEUI? → (req.solo ctx n ph w).1.Within req.devEUI?
  | 0, _, _, h => h
  | n + 1, _, w, h => Request.solo_within ctx req n _ _ (req.step_within ctx w h).1

lemma eq_of_nodup_filterMap {α β : Type} {f : α → Option β} :
    ∀ {l : List α}, (l.filterMap f).Nodup → ∀ {i j : ℕ} {a b : α} {x : β},
      l[i]? = some a → l[j]? = some b →
      f a = some x → f b = some x → i = j
  | [], _, _, _, _, _, _, ha, _, _, _ => by simp at ha
  | y :: l, hl, i, j, a, b, x, ha, hb, hfa, hfb => by
    have hnot : ∀ {k c}, l[k]? = some c → f y = some x → f c = some x → False :=
      fun hc hy hfc => by
        rw [List.filterMap_cons_some hy] at hl
        exact (List.nodup_cons.mp hl).1 (List.mem_filterMap.mpr ⟨_, List.getElem?_mem hc, hfc⟩)
    match i, j with
    | 0, 0 => rfl
    | 0, _ + 1 =>
      rw [List.getElem?_cons_zero, Option.some.injEq] at ha
      rw [List.getElem?_cons_succ] at hb
      exact (hnot hb (ha ▸ hfa) hfb).elim
    | _ + 1, 0 =>
      rw [List.getElem?_cons_zero, Option.some.injEq] at hb
      rw [List.getElem?_cons_succ] at ha
      exact (hnot ha (hb ▸ hfb) hfa).elim
    | _ + 1, _ + 1 =>
      rw [List.getElem?_cons_succ] at ha hb
      exact congrArg (· + 1) (eq_of_nodup_filterMap
        (hl.sublist ((List.sublist_cons_self y l).filterMap f)) ha hb hfa hfb)

/-! ### The sequential model, device by device -/

section Sequential

variable (ctx : Context) {d : EUI64} {w w' : World}

lemma runCalls_fst : ∀ (cs : List Call) (final : Except GoError Unit) (w w' : World),
    (runCalls cs final w).1 = (runCalls cs final w').1
  | [], _, _, _ => rfl
  | c :: cs, final, w, w' => by
    cases h : c.reply <;> simp only [runCalls, h]
    exact runCalls_fst cs final _ _

lemma runCalls_agree : ∀ (cs : List Call) (final : Except GoError Unit) {w w' : World},
    World.Agree d w w' → World.Agree d (runCalls cs final w).2 (runCalls cs final w').2
  | [], _, _, _, h => h
  | c :: cs, final, _, _, h => by
    cases hc : c.reply <;> simp only [runCalls, hc]
    exacts [h, runCalls_agree cs final (Write.apply_agree c.write h)]

lemma runCalls_within {od : Option EUI64} (hd : od ≠ some d) :
    ∀ (cs : List Call) (final : Except GoError Unit) (w : World),
      (∀ c ∈ cs, c.write.Within od) → World.Agree d (runCalls cs final w).2 w
  | [], _, _, _ => ⟨rfl, rfl⟩
  | c :: cs, final, w, hcs => by
    cases hc : c.reply <;> simp only [runCalls, hc]
    · exact ⟨rfl, rfl⟩
    · exact (runCalls_within hd cs final _ fun c' h' => hcs c' (.tail _ h')).trans
        (Write.apply_agree_of_within (hcs c (.head _)) hd w)

/-- **A request reads only its own device**: run on two stores that agree on it, it returns the
same and leaves stores that agree on it. -/
lemma Request.exec_local (req : Request) (h : ∀ d, req.devEUI? = some d → World.Agree d w w') :
    (req.exec ctx w).1 = (req.exec ctx w').1 ∧
      ∀ d, req.devEUI? = some d → World.Agree d (req.exec ctx w).2 (req.exec ctx w').2 := by
  cases req with
  | join r rxPacket =>
    rw [Request.exec, Request.exec, handleCollectedJoinRequestPackets_eq,
      handleCollectedJoinRequestPackets_eq]
    exact ⟨runCalls_fst _ _ w w', fun d hd => runCalls_agree _ _ (h d hd)⟩
  | downlink devEUI op =>
    obtain ⟨hns, hq⟩ := h devEUI rfl
    cases hw : w.nodeSessions devEUI with
    | none =>
      simp only [Request.exec, DownlinkOp.run, hw, ← hns]
      exact ⟨trivial, h⟩
    | some ns =>
      rw [Request.exec, Request.exec, op.run_eq ctx hw, op.run_eq ctx (hns ▸ hw), hq,
        Intent.exec_eq_plan, Intent.exec_eq_plan]
      exact ⟨runCalls_fst _ _ w w', fun d hd => runCalls_agree _ _ (h d hd)⟩

lemma Request.exec_within (req : Request) (w : World) (hd : req.devEUI? ≠ some d) :
    World.Agree d (req.exec ctx w).2 w := by
  cases req with
  | join r rxPacket =>
    rw [Request.exec, handleCollectedJoinRequestPackets_eq]
    exact runCalls_within hd _ _ w (joinPlan_within ctx r rxPacket)
  | downlink devEUI op =>
    cases hw : w.nodeSessions devEUI with
    | none => simp only [Request.exec, DownlinkOp.run, hw]; exact ⟨rfl, rfl⟩
    | some ns =>
      rw [Request.exec, op.run_eq ctx hw, Intent.exec_eq_plan]
      refine runCalls_within ?_ _ _ w (Intent.plan_within _ _ ns _)
      rwa [w.nodeSessions_devEUI _ _ hw]

lemma runRequests_append (pre post : List Request) (w : World) :
    runRequests ctx (pre ++ post) w = runRequests ctx post (runRequests ctx pre w) := by
  induction pre generalizing w with
  | nil => rfl
  | cons req pre ih => exact ih _

lemma runRequests_agree_of_none : ∀ (reqs : List Request) (w : World),
    (∀ req ∈ reqs, req.devEUI? ≠ some d) → World.Agree d (runRequests ctx reqs w) w
  | [], _, _ => ⟨rfl, rfl⟩
  | req :: reqs, w, h =>
    (runRequests_agree_of_none reqs _ fun r hr => h r (.tail _ hr)).trans
      (by rw [Request.run_eq_exec]; exact req.exec_within ctx w (h req (.head _)))

/-- In a sequence where only `req` works on `d`, `req` returns what it returns alone on the
initial store, and `d` ends as `req` leaves it alone. -/
lemma runRequests_split {pre post : List Request} {req : Request} (hd : req.devEUI? = some d)
    (hpre : ∀ r ∈ pre, r.devEUI? ≠ some d) (hpost : ∀ r ∈ post, r.devEUI? ≠ some d)
    (w : World) :
    (req.exec ctx (runRequests ctx pre w)).1 = (req.exec ctx w).1 ∧
      World.Agree d (runRequests ctx (pre ++ req :: post) w) (req.exec ctx w).2 := by
  have hagree : ∀ d', req.devEUI? = some d' → World.Agree d' (runRequests ctx pre w) w :=
    fun d' hd' => by
      obtain rfl := Option.some.inj (hd'.symm.trans hd)
      exact runRequests_agree_of_none ctx pre w hpre
  have hloc := req.exec_local ctx hagree
  rw [runRequests_append ctx]
  exact ⟨hloc.1, (runRequests_agree_of_none ctx post _ hpost).trans
    (by rw [Request.run_eq_exec]; exact hloc.2 d hd)⟩

lemma devEUI_ne_of_nodup {reqs : List Request} {i : ℕ} {req : Request}
    (h : (reqs.filterMap Request.devEUI?).Nodup) (hi : reqs[i]? = some req)
    (hd : req.devEUI? = some d) :
    reqs = reqs.take i ++ req :: reqs.drop (i + 1) ∧
      (∀ r ∈ reqs.take i, r.devEUI? ≠ some d) ∧ ∀ r ∈ reqs.drop (i + 1), r.devEUI? ≠ some d := by
  obtain ⟨hlt, rfl⟩ := List.getElem?_eq_some_iff.mp hi
  have hcut : reqs = reqs.take i ++ reqs[i] :: reqs.drop (i + 1) := by
    rw [← List.drop_eq_getElem_cons hlt, List.take_append_drop]
  rw [hcut, List.filterMap_append, List.filterMap_cons_some hd] at h
  obtain ⟨_, hpost, hdisj⟩ := List.nodup_append.mp h
  exact ⟨hcut, fun r hr hrd => hdisj (List.mem_filterMap.mpr ⟨r, hr, hrd⟩) (List.mem_cons_self _ _),
    fun r hr hrd => (List.nodup_cons.mp hpost).1 (List.mem_filterMap.mpr ⟨r, hr, hrd⟩)⟩

end Sequential

/-! ### Every schedule -/

/-- Every handler of `s` is where it would be after `k i` steps alone from the store `w`, and
its device holds in `s` the session and queue it would then hold; a device no request works
on holds what it held in `w`. -/
structure Net.Isolated (ctx : Context) (reqs : List Request) (w : World) (k : ℕ → ℕ) (s : Net) :
    Prop where
  handler : ∀ i (req : Request), reqs[i]? = some req →
    s.phases[i]? = some (req.solo ctx (k i) .start w).1 ∧
      ∀ d, req.devEUI? = some d → World.Agree d s.world (req.solo ctx (k i) .start w).2
  untouched : ∀ d, (∀ req ∈ reqs, req.devEUI? ≠ some d) → World.Agree d s.world w

section Isolated

variable {ctx : Context} {reqs : List Request} {w : World}

/-- One step of the server moves its handler one step further alone, and touches no other
handler's device. -/
lemma Net.step_isolated (hdistinct : (reqs.filterMap Request.devEUI?).Nodup) {k : ℕ → ℕ}
    {s : Net} (j : ℕ) (hs : s.Isolated ctx reqs w k) :
    (s.step ctx reqs j).Isolated ctx reqs w (Function.update k j (k j + 1)) := by
  unfold Net.step
  split
  · rename_i reqj ph hreqj hph
    obtain ⟨hphj, hagj⟩ := hs.handler j reqj hreqj
    rw [hph, Option.some.injEq] at hphj
    subst hphj
    -- the moving handler steps as it would alone, and writes only its own device
    have hloc := Request.step_local ctx reqj (reqj.solo ctx (k j) .start w).1 hagj
    have hout : ∀ d, reqj.devEUI? ≠ some d → World.Agree d
        (s.world.applyWrite (reqj.step ctx (reqj.solo ctx (k j) .start w).1 s.world).2)
        s.world := by
      have hwithin := (reqj.step_within ctx s.world
        (reqj.solo_within ctx (k j) .start w trivial)).2
      intro d hd
      cases hwr : (reqj.step ctx _ s.world).2 with
      | none => exact ⟨rfl, rfl⟩
      | some wr => exact Write.apply_agree_of_within (hwithin wr hwr) hd s.world
    refine ⟨fun i req hreq => ?_, fun d hd =>
      (hout d (hd reqj (List.getElem?_mem hreqj))).trans (hs.untouched d hd)⟩
    by_cases hij : i = j
    · subst hij
      obtain rfl : req = reqj := Option.some.inj (hreq.symm.trans hreqj)
      rw [Function.update_same, Request.solo_succ, ← hloc, List.getElem?_set_self', hph]
      exact ⟨rfl, fun d hd => World.applyWrite_agree _ (hagj d hd)⟩
    · -- another handler: its phase is untouched, and the write is outside its device
      rw [Function.update_noteq hij, List.getElem?_set_ne (Ne.symm hij)]
      obtain ⟨hphi, hagi⟩ := hs.handler i req hreq
      exact ⟨hphi, fun d hd => (hout d fun hdj =>
        hij (eq_of_nodup_filterMap hdistinct hreq hreqj hd hdj)).trans (hagi d hd)⟩
  · rename_i hnone
    refine ⟨fun i req hreq => ?_, hs.untouched⟩
    obtain ⟨hphi, hagi⟩ := hs.handler i req hreq
    by_cases hij : i = j
    · subst hij
      exact absurd hphi (fun h => hnone req _ hreq h)
    · rw [Function.update_noteq hij]
      exact ⟨hphi, hagi⟩

lemma Net.run_isolated (hdistinct : (reqs.filterMap Request.devEUI?).Nodup) :
    ∀ (sched : List ℕ) (k : ℕ → ℕ) (s : Net), s.Isolated ctx reqs w k →
      (Net.run ctx reqs sched s).Isolated ctx reqs w (fun i => k i + sched.count i)
  | [], _, _, hs => hs
  | j :: sched, k, s, hs => by
    have h := Net.run_isolated hdistinct sched _ _ (Net.step_isolated hdistinct j hs)
    have hk : (fun i => Function.update k j (k j + 1) i + sched.count i) =
        fun i => k i + (j :: sched).count i := by
      funext i
      by_cases hij : i = j
      · subst hij; simp [List.count_cons]; omega
      · simp [Function.update_noteq hij, List.count_cons, Ne.symm hij]
    rw [hk] at h
    exact h

lemma Net.init_isolated (w : World) :
    (Net.init w reqs.length).Isolated ctx reqs w (fun _ => 0) := by
  refine ⟨fun i req hreq => ⟨?_, fun _ _ => ⟨rfl, rfl⟩⟩, fun _ _ => ⟨rfl, rfl⟩⟩
  simp [Net.init, Request.solo, List.getElem?_replicate, (List.getElem?_eq_some_iff.mp hreq).1]

lemma Net.Isolated.exec_of_done {k : ℕ → ℕ} {s : Net} (hs : s.Isolated ctx reqs w k) {i : ℕ}
    {req : Request} {res : Except GoError Unit} (hreq : reqs[i]? = some req)
    (hdone : s.phases[i]? = some (.done res)) :
    res = (req.exec ctx w).1 ∧ ∀ d, req.devEUI? = some d →
      World.Agree d s.world (req.exec ctx w).2 := by
  obtain ⟨hph, hag⟩ := hs.handler i req hreq
  rw [hdone, Option.some.injEq] at hph
  have hsolo := Request.solo_done (show (req.solo ctx (k i) .start w).1.result = some res by
    rw [← hph]; rfl)
  rw [← hsolo]
  exact ⟨rfl, hag⟩

end Isolated

/-- **Requests on different devices do not interfere.** When no two requests are for the same
device, then however the server interleaves their handlers, a handler that has returned
returned what its request returns alone on the initial store, and its device's session and
queue are those the request leaves alone. -/
theorem concurrent_devices_isolated (ctx : Context) (reqs : List Request) (w : World)
    (sched : List ℕ) (hdistinct : (reqs.filterMap Request.devEUI?).Nodup) (i : ℕ)
    (req : Request)
    (res : Except GoError Unit) (hreq : reqs[i]? = some req)
    (hdone : (Net.run ctx reqs sched (Net.init w reqs.length)).phases[i]? = some (.done res)) :
    let s : Net := Net.run ctx reqs sched (Net.init w reqs.length)
    res = (req.exec ctx w).1 ∧ ∀ d, req.devEUI? = some d →
      s.world.nodeSessions d = (req.exec ctx w).2.nodeSessions d ∧
        s.world.macQueues d = (req.exec ctx w).2.macQueues d :=
  (Net.run_isolated hdistinct sched _ _ (Net.init_isolated w)).exec_of_done hreq hdone

/-- A push on the device and a join of another device, taking turns: the push returns nil and
leaves the device's session and queue as it does alone. -/
theorem concurrent_devices_isolated_pushAndJoin :
    let push := Request.downlink scenarioDevEUI
      (.handlePushDataDown (DownlinkReplies.succeeding (.ok none)) false 1 [1])
    let other : RXPacket := ⟨[scenarioRXInfo], List.cons_ne_nil _ _, ⟨.joinRequest,
      .joinRequestPayload ⟨⟨[1, 2, 3, 4, 5, 6, 7, 8], rfl⟩,
        ⟨[9, 9, 9, 9, 9, 9, 9, 9], rfl⟩, ⟨[0x10, 0x20], rfl⟩⟩⟩⟩
    let reqs := [push, .join (JoinReplies.succeeding ⟨[9, 9, 9, 9], rfl⟩ scenarioJoinResponse)
      other]
    let w := World.single (scenarioSession 5) [⟨[0x06], false, false⟩]
    let s : Net := Net.run eu868Context reqs [1, 0, 1, 0, 1, 0, 1, 0, 1, 0, 0, 0]
      (Net.init w reqs.length)
    ((reqs.filterMap Request.devEUI?).Nodup ∧ reqs[0]? = some push ∧
      s.phases[0]? = some (.done (.ok ()))) ∧
    (.ok () = (push.exec eu868Context w).1 ∧ ∀ d, push.devEUI? = some d →
      s.world.nodeSessions d = (push.exec eu868Context w).2.nodeSessions d ∧
        s.world.macQueues d = (push.exec eu868Context w).2.macQueues d) :=
  have hdistinct := by decide
  have hreq := rfl
  have hdone := by rfl
  ⟨⟨hdistinct, hreq, hdone⟩,
    concurrent_devices_isolated eu868Context _ _ _ hdistinct 0 _ _ hreq hdone⟩

/-- **Interleavings on different devices are serializable.** When no two requests are for the
same device, every interleaving of their handlers is equivalent to running the requests one
after another in list order: each handler that has returned returned what its request returns
after the requests before it, and once every handler has returned each device holds the
session and queue the sequential run leaves. -/
theorem concurrent_serializable (ctx : Context) (reqs : List Request) (w : World)
    (sched : List ℕ) (hdistinct : (reqs.filterMap Request.devEUI?).Nodup)
    (hdone : ∀ i < reqs.length, ∃ res,
      (Net.run ctx reqs sched (Net.init w reqs.length)).phases[i]? = some (.done res)) :
    let s : Net := Net.run ctx reqs sched (Net.init w reqs.length)
    (∀ i (req : Request) (res : Except GoError Unit), reqs[i]? = some req →
      s.phases[i]? = some (.done res) →
      res = (req.exec ctx (runRequests ctx (reqs.take i) w)).1) ∧
    ∀ d, s.world.nodeSessions d = (runRequests ctx reqs w).nodeSessions d ∧
      s.world.macQueues d = (runRequests ctx reqs w).macQueues d := by
  intro s
  have hs : s.Isolated ctx reqs w (fun i => 0 + sched.count i) :=
    Net.run_isolated hdistinct sched _ _ (Net.init_isolated w)
  refine ⟨fun i req res hi hres => ?_, fun d => ?_⟩
  · obtain ⟨rfl, _⟩ := hs.exec_of_done hi hres
    exact (req.exec_local ctx fun d hd =>
      (runRequests_agree_of_none ctx _ w (devEUI_ne_of_nodup hdistinct hi hd).2.1).symm).1
  · by_cases hd : ∃ (i : ℕ) (req : Request), reqs[i]? = some req ∧ req.devEUI? = some d
    · -- the one request on `d` leaves it alike in both runs
      obtain ⟨i, req, hi, hd⟩ := hd
      obtain ⟨res, hres⟩ := hdone i (List.getElem?_eq_some_iff.mp hi).1
      obtain ⟨hcut, hpre, hpost⟩ := devEUI_ne_of_nodup hdistinct hi hd
      have hseq := (runRequests_split ctx hd hpre hpost w).2
      rw [← hcut] at hseq
      exact ((hs.exec_of_done hi hres).2 d hd).trans hseq.symm
    · -- no request works on `d`
      push_neg at hd
      have hnone : ∀ r ∈ reqs, r.devEUI? ≠ some d := fun r hr =>
        let ⟨i, hi⟩ := List.mem_iff_getElem?.mp hr
        hd i r hi
      exact (hs.untouched d hnone).trans (runRequests_agree_of_none ctx reqs w hnone).symm

/-- The push and the join of another device, taking turns until both return: each returns what
it returns in the sequential run, and every device ends as the sequential run leaves it. -/
theorem concurrent_serializable_pushAndJoin :
    let push := Request.downlink scenarioDevEUI
      (.handlePushDataDown (DownlinkReplies.succeeding (.ok none)) false 1 [1])
    let other : RXPacket := ⟨[scenarioRXInfo], List.cons_ne_nil _ _, ⟨.joinRequest,
      .joinRequestPayload ⟨⟨[1, 2, 3, 4, 5, 6, 7, 8], rfl⟩,
        ⟨[9, 9, 9, 9, 9, 9, 9, 9], rfl⟩, ⟨[0x10, 0x20], rfl⟩⟩⟩⟩
    let reqs := [push, .join (JoinReplies.succeeding ⟨[9, 9, 9, 9], rfl⟩ scenarioJoinResponse)
      other]
    let w := World.single (scenarioSession 5) [⟨[0x06], false, false⟩]
    let s : Net := Net.run eu868Context reqs [1, 0, 1, 0, 1, 0, 1, 0, 1, 0, 0, 0]
      (Net.init w reqs.length)
    ((reqs.filterMap Request.devEUI?).Nodup ∧ ∀ i < reqs.length, ∃ res,
      s.phases[i]? = some (.done res)) ∧
    ((∀ i (req : Request) (res : Except GoError Unit), reqs[i]? = some req →
      s.phases[i]? = some (.done res) →
        res = (req.exec eu868Context (runRequests eu868Context (reqs.take i) w)).1) ∧
    ∀ d, s.world.nodeSessions d = (runRequests eu868Context reqs w).nodeSessions d ∧
      s.world.macQueues d = (runRequests eu868Context reqs w).macQueues d) :=
  have hdistinct := by decide
  have hdone := by
    intro i hi
    match i, hi with
    | 0, _ => exact ⟨.ok (), by rfl⟩
    | 1, _ => exact ⟨.ok (), by rfl⟩
  ⟨⟨hdistinct, hdone⟩, concurrent_serializable eu868Context _ _ _ hdistinct hdone⟩

end LoraServer

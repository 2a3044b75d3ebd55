import LoraServer.Concurrent

/-!
# A join and a downlink operation on one device

A join replaces the device's session in one `SaveNodeSession`. A downlink operation loads the
session when it starts and, once its unconfirmed frame is out, saves what it loaded with
`FCntDown` advanced. So the join's session is lost in one kind of interleaving only: the
downlink operation loads before the join's save and saves after it
(`stale_session_after_join`). In every other one it survives:

* `Sys.saves`: for each step of a schedule, the handler that moved and whether it saved a
  node-session. The lost interleavings are those in which a step of the downlink operation
  (its first is the load), the join's save and a save of the downlink operation come in this
  order;
* `Sys.join_first_call`: a join that returned nil made its save, which cuts the schedule;
* `Phase.Saveless` and `Phase.Fresh`: after its save the join writes no session, and a
  downlink operation that loads after it holds the join's session and can only save it
  advanced;
* `join_session_survives`: so whenever the join has returned nil in an interleaving that is
  not lost, the device's session is the join's, with `FCntDown` advanced at most once.
-/

namespace LoraServer

/-! ### What a schedule saves -/

/-- Whether a write saves a node-session. -/
def Write.isSave : Write → Bool
  | .save _ => true
  | _ => false

/-- For each step of a schedule, the handler that moved (`true` the first) and whether its step
saved a node-session. -/
def Sys.saves (ctx : Context) (p q : Request) : List Bool → Sys → List (Bool × Bool)
  | [], _ => []
  | true :: sched, s => (true, (p.step ctx s.first s.world).2.any Write.isSave) ::
      Sys.saves ctx p q sched (s.step ctx p q true)
  | false :: sched, s => (false, (q.step ctx s.second s.world).2.any Write.isSave) ::
      Sys.saves ctx p q sched (s.step ctx p q false)

section Schedules

variable {ctx : Context} {p q : Request}

lemma Sys.saves_append (xs ys : List Bool) (s : Sys) :
    Sys.saves ctx p q (xs ++ ys) s =
      Sys.saves ctx p q xs s ++ Sys.saves ctx p q ys (Sys.run ctx p q xs s) := by
  induction xs generalizing s with
  | nil => rfl
  | cons who _ ih => cases who <;> exact congrArg (_ :: ·) (ih _)

lemma Sys.saves_first : ∀ (xs : List Bool) (s : Sys),
    (Sys.run ctx p q xs s).first ≠ s.first → ∃ b, (true, b) ∈ Sys.saves ctx p q xs s
  | [], _, h => absurd rfl h
  | true :: _, _, _ => ⟨_, List.mem_cons_self _ _⟩
  | false :: xs, _, h =>
    let ⟨b, hb⟩ := Sys.saves_first xs _ h
    ⟨b, List.mem_cons_of_mem _ hb⟩

lemma Sys.run_cut_second : ∀ (sched : List Bool) (s : Sys),
    (Sys.run ctx p q sched s).second ≠ s.second →
      ∃ xs ys, sched = xs ++ false :: ys ∧ (Sys.run ctx p q xs s).second = s.second
  | [], _, h => absurd rfl h
  | false :: ys, _, _ => ⟨[], ys, rfl, rfl⟩
  | true :: sched, s, h =>
    let ⟨xs, ys, hs, hxs⟩ := Sys.run_cut_second sched (s.step ctx p q true) h
    ⟨true :: xs, ys, congrArg (true :: ·) hs, hxs⟩

lemma Sys.run_second_done (res : Except GoError Unit) : ∀ (ys : List Bool) (s : Sys),
    s.second = .done res → (Sys.run ctx p q ys s).second = .done res
  | [], _, h => h
  | true :: ys, _, h => Sys.run_second_done res ys _ h
  | false :: ys, s, h => Sys.run_second_done res ys _ (by simp only [Sys.step, h]; rfl)

end Schedules

/-! ### The join's save -/

section JoinSave

variable {ctx : Context} {r : JoinReplies} {rxPacket : RXPacket}

lemma joinPlan_calls {jrPL : JoinRequestPayload} {devAddr : DevAddr}
    {joinResp : JoinRequestResponse} {phy : PHYPayload}
    (hc : joinRequestChecks ctx r rxPacket = .ok (jrPL, devAddr, joinResp, phy)) :
    ∃ c rest, (joinPlan ctx r rxPacket).calls = c :: rest ∧
      c.write = .save (joinNodeSession jrPL devAddr joinResp rxPacket.rxInfoSet) ∧
      ∀ c' ∈ rest, c'.write.isSave = false := by
  simp only [joinPlan, hc]
  cases joinAcceptTXInfo ctx rxPacket <;> exact ⟨_, _, rfl, rfl, by simp [Write.isSave]⟩

lemma joinPlan_final_of_nil (h : (joinPlan ctx r rxPacket).calls = []) :
    (joinPlan ctx r rxPacket).final ≠ .ok () := by
  rcases hc : joinRequestChecks ctx r rxPacket with _ | ⟨jrPL, devAddr, joinResp, phy⟩
  · simp [joinPlan, hc]
  · obtain ⟨c, rest, hcalls, -⟩ := joinPlan_calls hc
    simp [hcalls] at h

lemma Sys.join_first_call {p : Request} {w : World} {sched : List Bool}
    (hjoin : (Sys.run ctx p (.join r rxPacket) sched (Sys.init w)).second.result = some (.ok ())) :
    ∃ pre ys c rest, sched = pre ++ false :: ys ∧ (joinPlan ctx r rxPacket).calls = c :: rest ∧
      c.reply = .ok () ∧ (Sys.run ctx p (.join r rxPacket) pre (Sys.init w)).second =
        .running (c :: rest) (joinPlan ctx r rxPacket).final := by
  have hend := Phase.eq_done_of_result hjoin
  -- the join's first step puts it before its calls
  obtain ⟨xs, ys₁, rfl, hxs⟩ := Sys.run_cut_second sched (Sys.init w)
    (by rw [hend]; exact fun h => by cases h)
  set s₁ := (Sys.run ctx p (.join r rxPacket) xs (Sys.init w)).step ctx p (.join r rxPacket) false
  have h₁ : s₁.second = (joinPlan ctx r rxPacket).running := by
    have hstart : (Sys.run ctx p (.join r rxPacket) xs (Sys.init w)).second = .start := hxs
    simp only [s₁, Sys.step, hstart]
    rfl
  rw [Sys.run_append] at hend
  -- its next step makes the first call
  obtain ⟨xs₂, ys, rfl, hxs₂⟩ := Sys.run_cut_second ys₁ s₁
    (by rw [show (Sys.run ctx p (.join r rxPacket) ys₁ s₁).second = _ from hend, h₁]
        exact fun h => by cases h)
  rw [h₁] at hxs₂
  set s₂ := (Sys.run ctx p (.join r rxPacket) xs₂ s₁).step ctx p (.join r rxPacket) false
  rw [show Sys.run ctx p (.join r rxPacket) (false :: (xs₂ ++ false :: ys))
      (Sys.run ctx p (.join r rxPacket) xs (Sys.init w)) = Sys.run ctx p (.join r rxPacket) ys s₂
    from Sys.run_append xs₂ (false :: ys) s₁] at hend
  -- a failed first call would have ended the join with an error
  have hfail : ∀ res, res ≠ .ok () → s₂.second ≠ .done res := fun res hres hdone =>
    hres (Phase.done.inj ((Sys.run_second_done res ys _ hdone).symm.trans hend))
  cases hcalls : (joinPlan ctx r rxPacket).calls with
  | nil =>
    refine (hfail _ (joinPlan_final_of_nil hcalls) ?_).elim
    simp only [s₂, Sys.step, hxs₂, Plan.running, hcalls]
    rfl
  | cons c rest =>
    cases hr : c.reply with
    | error err =>
      refine (hfail (.error (c.report err)) (fun h => Except.noConfusion h) ?_).elim
      simp only [s₂, Sys.step, hxs₂, Plan.running, hcalls, Request.step, hr]
    | ok u =>
      refine ⟨xs ++ false :: xs₂, ys, c, rest, by simp, rfl, by rw [hr], ?_⟩
      rw [Sys.run_append]
      exact hxs₂.trans (by rw [Plan.running, hcalls])

end JoinSave

/-! ### After the join's save -/

/-- A handler that can no longer save a node-session: it is making calls none of which saves,
or it has returned. -/
def Phase.Saveless : Phase → Prop
  | .running calls _ => ∀ c ∈ calls, c.write.isSave = false
  | .done _ => True
  | .start | .loaded _ => False

/-- The downlink operation on `dev` in a store whose session for `dev` was last saved by the
join (`ns`) or by the operation itself: it has not loaded yet, or it loaded `ns` and can save
only `ns` with `FCntDown` advanced. -/
def Phase.Fresh (dev : EUI64) (ns : NodeSession) (w : World) : Phase → Prop
  | .start => w.nodeSessions dev = some ns
  | .loaded ns' => ns' = ns ∧ w.nodeSessions dev = some ns
  | .running calls _ => (∀ c ∈ calls, c.write.SavesOnly (· = ns.advance)) ∧
      (w.nodeSessions dev = some ns ∨ w.nodeSessions dev = some ns.advance)
  | .done _ => w.nodeSessions dev = some ns ∨ w.nodeSessions dev = some ns.advance

section Fresh

variable {ctx : Context} {dev : EUI64} {ns : NodeSession}

lemma World.applyWrite_nodeSessions {o : Option Write} (h : o.any Write.isSave = false)
    (w : World) : (w.applyWrite o).nodeSessions = w.nodeSessions := by
  cases o with
  | none => rfl
  | some wr => cases wr <;> simp_all [World.applyWrite, Write.apply, Write.isSave]

lemma Request.step_saveless (ctx : Context) (req : Request) {ph : Phase} (hph : ph.Saveless)
    (w : World) :
    (req.step ctx ph w).1.Saveless ∧ (req.step ctx ph w).2.any Write.isSave = false := by
  match ph, hph with
  | .running [] _, _ => exact ⟨trivial, rfl⟩
  | .running (c :: cs) _, hph =>
    simp only [Phase.Saveless, List.mem_cons, forall_eq_or_imp] at hph
    cases h : c.reply
    · simp [Request.step, h, Phase.Saveless]
    · simp only [Request.step, h]
      exact ⟨hph.2, by simpa using hph.1⟩
  | .done _, _ => exact ⟨trivial, rfl⟩

lemma Phase.Fresh.stored {ph : Phase} {w : World} (h : ph.Fresh dev ns w) :
    w.nodeSessions dev = some ns ∨ w.nodeSessions dev = some ns.advance := by
  cases ph with
  | start => exact .inl h
  | loaded => exact .inl h.2
  | running => exact h.2
  | done => exact h

lemma Phase.Fresh.congr {ph : Phase} {w w' : World} (hw : w'.nodeSessions = w.nodeSessions)
    (h : ph.Fresh dev ns w) : ph.Fresh dev ns w' := by
  cases ph <;> simpa only [Phase.Fresh, hw] using h

/-- A step of a fresh downlink operation keeps it fresh: it loads the join's session, and its
only save is of that session advanced. -/
lemma Request.step_fresh (op : DownlinkOp) (hdev : ns.devEUI = dev) {ph : Phase} {w : World}
    (h : ph.Fresh dev ns w) :
    ((Request.downlink dev op).step ctx ph w).1.Fresh dev ns
      (w.applyWrite ((Request.downlink dev op).step ctx ph w).2) := by
  match ph, h with
  | .start, h =>
    have h' : w.nodeSessions dev = some ns := h
    simp [Request.step, h', Phase.Fresh, World.applyWrite]
  | .loaded _, ⟨rfl, h⟩ => exact ⟨Intent.plan_savesOnly (P := (· = ns.advance)) _ _ _ rfl, .inl h⟩
  | .running [] _, h => exact h.2
  | .running (c :: cs) _, ⟨hc, hw⟩ =>
    simp only [List.mem_cons, forall_eq_or_imp] at hc
    cases hr : c.reply
    · simpa [Request.step, hr, Phase.Fresh, World.applyWrite] using hw
    · simp only [Request.step, hr, World.applyWrite, Phase.Fresh]
      refine ⟨hc.2, ?_⟩
      have hsave := hc.1
      cases hwr : c.write with
      | save ns' =>
        rw [hwr, Write.SavesOnly] at hsave
        subst hsave
        exact .inr (by simp [Write.apply, hdev])
      | _ => simpa [Write.apply] using hw
  | .done _, h => exact h

/-- **After the join's save**, a downlink operation that had not loaded yet stays fresh,
whatever the schedule. -/
lemma Sys.run_fresh (op : DownlinkOp) (q : Request) (hdev : ns.devEUI = dev) :
    ∀ (ys : List Bool) (s : Sys), s.first.Fresh dev ns s.world → s.second.Saveless →
      (Sys.run ctx (.downlink dev op) q ys s).first.Fresh dev ns
        (Sys.run ctx (.downlink dev op) q ys s).world
  | [], _, h, _ => h
  | true :: ys, _, h, hq => Sys.run_fresh op q hdev ys _ (Request.step_fresh op hdev h) hq
  | false :: ys, s, h, hq =>
    have hs := q.step_saveless ctx hq s.world
    Sys.run_fresh op q hdev ys _ (h.congr (World.applyWrite_nodeSessions hs.2 _)) hs.1

lemma Sys.run_nodeSessions {p q : Request} : ∀ (ys : List Bool) (s : Sys), s.second.Saveless →
    (true, true) ∉ Sys.saves ctx p q ys s →
      (Sys.run ctx p q ys s).world.nodeSessions = s.world.nodeSessions
  | [], _, _, _ => rfl
  | true :: ys, s, hq, hno => by
    simp only [Sys.saves, List.mem_cons, not_or, Prod.mk.injEq, true_and] at hno
    exact (Sys.run_nodeSessions ys (s.step ctx p q true) hq hno.2).trans
      (World.applyWrite_nodeSessions (Bool.eq_false_iff.mpr (Ne.symm hno.1)) _)
  | false :: ys, s, hq, hno => by
    have hs := q.step_saveless ctx hq s.world
    simp only [Sys.saves, List.mem_cons, not_or] at hno
    exact (Sys.run_nodeSessions ys (s.step ctx p q false) hs.1 hno.2).trans
      (World.applyWrite_nodeSessions hs.2 _)

end Fresh

/-- **The join's session survives every interleaving but one.** Let a join and a downlink
operation on the device of its join-request take turns as any schedule says, except that a
step of the downlink operation, then the join's save, then a save of the downlink operation
do not come in this order. Whenever the join has returned nil, the stored session is the one
it installed, with `FCntDown` advanced at most once. -/
theorem join_session_survives (ctx : Context) (op : DownlinkOp) (r : JoinReplies)
    (rxPacket : RXPacket) (jrPL : JoinRequestPayload) (w : World) (sched : List Bool)
    (hjr : rxPacket.phyPayload.macPayload.joinRequestPayload? = some jrPL)
    (hjoin : (Sys.run ctx (.downlink jrPL.devEUI op) (.join r rxPacket) sched
      (Sys.init w)).second.result = some (.ok ()))
    (hfresh : ∀ b, ¬ [(true, b), (false, true), (true, true)].Sublist
      (Sys.saves ctx (.downlink jrPL.devEUI op) (.join r rxPacket) sched (Sys.init w))) :
    ∃ devAddr joinResp phy, joinRequestChecks ctx r rxPacket = .ok (jrPL, devAddr, joinResp, phy) ∧
      let ns : NodeSession := joinNodeSession jrPL devAddr joinResp rxPacket.rxInfoSet
      ((Sys.run ctx (.downlink jrPL.devEUI op) (.join r rxPacket) sched
          (Sys.init w)).world.nodeSessions jrPL.devEUI = some ns ∨
        (Sys.run ctx (.downlink jrPL.devEUI op) (.join r rxPacket) sched
          (Sys.init w)).world.nodeSessions jrPL.devEUI = some ns.advance) := by
  obtain ⟨pre, ys, c, rest, rfl, hcalls, hreply, hpre⟩ := Sys.join_first_call hjoin
  -- the join passed its checks, so its first call saves the session it installs
  rcases hc : joinRequestChecks ctx r rxPacket with _ | ⟨jrPL', devAddr, joinResp, phy⟩
  · simp [joinPlan, hc] at hcalls
  obtain rfl : jrPL = jrPL' := Option.some.inj (hjr.symm.trans (joinRequestChecks_ok hc).1)
  obtain ⟨c', rest', hcalls', hsave, hrest⟩ := joinPlan_calls hc
  obtain ⟨rfl, rfl⟩ := List.cons.inj (hcalls.symm.trans hcalls')
  refine ⟨devAddr, joinResp, phy, rfl, ?_⟩
  set ns := joinNodeSession jrPL devAddr joinResp rxPacket.rxInfoSet
  set s := Sys.run ctx (.downlink jrPL.devEUI op) (.join r rxPacket) pre (Sys.init w)
  have hjstep : (Request.join r rxPacket).step ctx s.second s.world =
      (.running rest (joinPlan ctx r rxPacket).final, some (.save ns)) := by
    rw [hpre]
    simp [Request.step, hreply, hsave]
  -- the state right after the join's save
  have hstored : (s.step ctx (.downlink jrPL.devEUI op) (.join r rxPacket) false).world.nodeSessions
      jrPL.devEUI = some ns := by
    simp [Sys.step, hjstep, World.applyWrite, Write.apply, ns]
  have hsaveless : (s.step ctx (.downlink jrPL.devEUI op) (.join r rxPacket) false).second.Saveless := by
    simpa [Sys.step, hjstep] using hrest
  rw [Sys.run_append]
  by_cases hd : s.first = .start
  · -- the downlink operation loads after the join's save
    refine (Sys.run_fresh op _ (show ns.devEUI = jrPL.devEUI from rfl) ys _ ?_ hsaveless).stored
    show s.first.Fresh _ _ _
    rw [hd]
    exact hstored
  · -- it loaded before, so by `hfresh` it never saves after
    obtain ⟨b, hb⟩ := Sys.saves_first pre (Sys.init w) hd
    have hno : (true, true) ∉ Sys.saves ctx (.downlink jrPL.devEUI op) (.join r rxPacket) ys
        (s.step ctx (.downlink jrPL.devEUI op) (.join r rxPacket) false) := fun hin => by
      refine hfresh b ?_
      rw [Sys.saves_append]
      have hcons : Sys.saves ctx (.downlink jrPL.devEUI op) (.join r rxPacket) (false :: ys) s =
          (false, true) :: Sys.saves ctx (.downlink jrPL.devEUI op) (.join r rxPacket) ys
            (s.step ctx (.downlink jrPL.devEUI op) (.join r rxPacket) false) := by
        simp [Sys.saves, hjstep, Write.isSave]
      rw [hcons]
      exact (List.singleton_sublist.mpr hb).append
        ((List.singleton_sublist.mpr hin).cons_cons _)
    exact .inl ((congrFun (Sys.run_nodeSessions ys _ hsaveless hno) _).trans hstored)

/-- A push that loads, sends and saves between the join's first step and its save: the join's
session is stored at the end. -/
theorem join_session_survives_pushBetween :
    let jrPL : JoinRequestPayload :=
      { appEUI := ⟨[1, 2, 3, 4, 5, 6, 7, 8], rfl⟩, devEUI := scenarioDevEUI,
        devNonce := ⟨[0x10, 0x20], rfl⟩ }
    let op := DownlinkOp.handlePushDataDown (DownlinkReplies.succeeding (.ok none)) false 1 [1]
    let r := JoinReplies.succeeding ⟨[9, 9, 9, 9], rfl⟩ scenarioJoinResponse
    let w := World.single (scenarioSession 5) []
    let sched := false :: List.replicate 4 true ++ List.replicate 4 false ++ [true]
    (scenarioJoinRequest.phyPayload.macPayload.joinRequestPayload? = some jrPL ∧
      (Sys.run eu868Context (.downlink jrPL.devEUI op) (.join r scenarioJoinRequest) sched
        (Sys.init w)).second.result = some (.ok ()) ∧
      ∀ b, ¬ [(true, b), (false, true), (true, true)].Sublist
        (Sys.saves eu868Context (.downlink jrPL.devEUI op) (.join r scenarioJoinRequest) sched
          (Sys.init w))) ∧
    ∃ devAddr joinResp phy,
      joinRequestChecks eu868Context r scenarioJoinRequest = .ok (jrPL, devAddr, joinResp, phy) ∧
      let ns : NodeSession := joinNodeSession jrPL devAddr joinResp scenarioJoinRequest.rxInfoSet
      ((Sys.run eu868Context (.downlink jrPL.devEUI op) (.join r scenarioJoinRequest) sched
          (Sys.init w)).world.nodeSessions jrPL.devEUI = some ns ∨
        (Sys.run eu868Context (.downlink jrPL.devEUI op) (.join r scenarioJoinRequest) sched
          (Sys.init w)).world.nodeSessions jrPL.devEUI = some ns.advance) :=
  have hjr := by decide
  have hjoin := by decide
  have hfresh := by decide
  ⟨⟨hjr, hjoin, hfresh⟩, join_session_survives eu868Context _ _ _ _ _ _ hjr hjoin hfresh⟩

/-- A push that loads the session before a join and saves it after the join returned nil: both
return nil, and the store holds the pre-join `DevAddr` and `NwkSKey` with `FCntUp = 10` and
`FCntDown = 6`, over the join's session. -/
theorem stale_session_after_join :
    let push := Request.downlink scenarioDevEUI
      (.handlePushDataDown (DownlinkReplies.succeeding (.ok none)) false 1 [1])
    let join := Request.join (JoinReplies.succeeding ⟨[9, 9, 9, 9], rfl⟩ scenarioJoinResponse)
      scenarioJoinRequest
    let s : Sys := Sys.run eu868Context push join
      (true :: List.replicate 5 false ++ List.replicate 5 true)
      (Sys.init (World.single (scenarioSession 5) []))
    s.first.result = some (.ok ()) ∧ s.second.result = some (.ok ()) ∧
      (s.world.nodeSessions scenarioDevEUI).map
          (fun ns => (ns.devAddr, ns.nwkSKey, ns.fCntUp, ns.fCntDown)) =
        some ((scenarioSession 5).devAddr, (scenarioSession 5).nwkSKey, 10, 6) := by
  decide

end LoraServer

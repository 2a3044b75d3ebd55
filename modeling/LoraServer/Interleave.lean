import LoraServer.Store

/-!
# Two handlers on one store

The network server handles requests concurrently. Here two handlers run side by side, one
access to the shared state at a time, as a schedule chooses: a downlink operation loads the
stored session, then reads the device's queue and decides, then makes its calls; a join
decides on its own and makes its calls. Each call is one write, which fails or takes effect
at once.

* `Request.rest_step`: a handler's own step keeps what it returns, and leaves, when it runs
  alone to its end; so a handler that ran alone returned what the sequential model returns
  (`Request.solo_done`);
* `Sys.run_sequential`: a schedule in which one handler returns before the other moves is the
  sequential run of the two, in that order;
* `sequential_downlinks`: two downlink operations that do not overlap send consecutive
  counters and carry no queue item twice, while `overlapping_pushes_share_fCnt` is a schedule
  in which they overlap and send one counter twice.

A join and a downlink operation on one device are in `JoinRace`.
-/

namespace LoraServer

/-! ### The handlers -/

/-- What a request returns, and leaves, in the sequential model. -/
def Request.exec (ctx : Context) : Request → World → Except GoError Unit × World
  | .join r rxPacket, w => handleCollectedJoinRequestPackets ctx r rxPacket w
  | .downlink devEUI op, w => op.run ctx devEUI w

lemma Request.run_eq_exec (ctx : Context) (req : Request) (w : World) :
    req.run ctx w = (req.exec ctx w).2 := by
  cases req <;> rfl

/-- Where a handler is: about to start, holding the session it loaded, making its calls, or
returned. -/
inductive Phase
  | start
  | loaded (ns : NodeSession)
  | running (calls : List Call) (final : Except GoError Unit)
  | done (res : Except GoError Unit)

/-- What the handler has returned, once it has. -/
def Phase.result : Phase → Option (Except GoError Unit)
  | .done res => some res
  | _ => none

lemma Phase.eq_done_of_result {ph : Phase} {res : Except GoError Unit}
    (h : ph.result = some res) : ph = .done res := by
  cases ph <;> simp_all [Phase.result]

/-- A handler about to make the calls of its plan. -/
def Plan.running (pl : Plan) : Phase := .running pl.calls pl.final

/-- The write a step makes, if any, applied. -/
def World.applyWrite (w : World) : Option Write → World
  | none => w
  | some wr => wr.apply w

/-- One step of a handler: the access to the shared state it makes next. A downlink
operation loads the stored session (`session.GetNodeSession`, declared outside src/), stopping
when there is none, then reads the queue and decides; a join decides on its own. Then each
call is made in turn, and the first failure ends the handler. -/
def Request.step (ctx : Context) (req : Request) : Phase → World → Phase × Option Write
  | .start, w =>
    match req with
    | .downlink devEUI _ =>
      match w.nodeSessions devEUI with
      | none => (.done (.error (.sentinel .sessionErrDoesNotExist)), none)
      | some ns => (.loaded ns, none)
    | .join r rxPacket => ((joinPlan ctx r rxPacket).running, none)
  | .loaded ns, w =>
    match req with
    | .downlink devEUI op =>
      (((op.intent ctx ns (w.macQueues devEUI)).plan op.reporting op.replies ns).running, none)
    | .join r rxPacket => ((joinPlan ctx r rxPacket).running, none)
  | .running [] final, _ => (.done final, none)
  | .running (c :: cs) final, _ =>
    match c.reply with
    | .error err => (.done (.error (c.report err)), none)
    | .ok () => (.running cs final, some c.write)
  | .done res, _ => (.done res, none)

/-- What a handler returns, and leaves, when it runs alone from this phase to its end. -/
def Request.rest (ctx : Context) (req : Request) : Phase → World → Except GoError Unit × World
  | .start, w => req.exec ctx w
  | .loaded ns, w =>
    match req with
    | .downlink devEUI op =>
      ((op.intent ctx ns (w.macQueues devEUI)).plan op.reporting op.replies ns).exec w
    | .join r rxPacket => handleCollectedJoinRequestPackets ctx r rxPacket w
  | .running calls final, w => runCalls calls final w
  | .done res, w => (res, w)

lemma Request.rest_step (ctx : Context) (req : Request) (ph : Phase) (w : World) :
    req.rest ctx (req.step ctx ph w).1 (w.applyWrite (req.step ctx ph w).2) = req.rest ctx ph w := by
  match req, ph with
  | .downlink devEUI op, .start =>
    cases h : w.nodeSessions devEUI with
    | none => simp [Request.step, Request.rest, Request.exec, DownlinkOp.run, World.applyWrite, h]
    | some ns =>
      simp only [Request.step, Request.rest, Request.exec, World.applyWrite, h,
        op.run_eq ctx h, Intent.exec_eq_plan, Plan.running]
  | .downlink .., .loaded _ => rfl
  | .join r rxPacket, .start | .join r rxPacket, .loaded _ =>
    exact (handleCollectedJoinRequestPackets_eq ctx r rxPacket w).symm
  | _, .running [] _ => rfl
  | _, .running (c :: cs) _ =>
    cases h : c.reply <;> simp [Request.step, Request.rest, World.applyWrite, runCalls, h]
  | _, .done _ => rfl

/-- `n` steps of a handler running alone. -/
def Request.solo (ctx : Context) (req : Request) : ℕ → Phase → World → Phase × World
  | 0, ph, w => (ph, w)
  | n + 1, ph, w => req.solo ctx n (req.step ctx ph w).1 (w.applyWrite (req.step ctx ph w).2)

lemma Request.rest_solo (ctx : Context) (req : Request) :
    ∀ n ph w, req.rest ctx (req.solo ctx n ph w).1 (req.solo ctx n ph w).2 = req.rest ctx ph w
  | 0, _, _ => rfl
  | n + 1, ph, w => (req.rest_solo ctx n _ _).trans (req.rest_step ctx ph w)

lemma Request.solo_done {ctx : Context} {req : Request} {n : ℕ} {w : World}
    {res : Except GoError Unit} (h : (req.solo ctx n .start w).1.result = some res) :
    (res, (req.solo ctx n .start w).2) = req.exec ctx w := by
  have := req.rest_solo ctx n .start w
  rw [Phase.eq_done_of_result h] at this
  exact this

/-! ### Schedules -/

/-- Two handlers and the shared state. -/
structure Sys where
  world : World
  first : Phase
  second : Phase

/-- Both handlers about to start on the store `w`. -/
def Sys.init (w : World) : Sys := ⟨w, .start, .start⟩

/-- The same state, with the handlers' places exchanged. -/
def Sys.swap (s : Sys) : Sys := ⟨s.world, s.second, s.first⟩

/-- One step of the first handler (`true`) or of the second (`false`). -/
def Sys.step (ctx : Context) (p q : Request) (s : Sys) : Bool → Sys
  | true =>
    ⟨s.world.applyWrite (p.step ctx s.first s.world).2, (p.step ctx s.first s.world).1, s.second⟩
  | false =>
    ⟨s.world.applyWrite (q.step ctx s.second s.world).2, s.first, (q.step ctx s.second s.world).1⟩

/-- Running a schedule. -/
def Sys.run (ctx : Context) (p q : Request) : List Bool → Sys → Sys
  | [], s => s
  | who :: sched, s => Sys.run ctx p q sched (s.step ctx p q who)

section Schedules

variable {ctx : Context} {p q : Request}

lemma Sys.run_append (xs ys : List Bool) (s : Sys) :
    Sys.run ctx p q (xs ++ ys) s = Sys.run ctx p q ys (Sys.run ctx p q xs s) := by
  induction xs generalizing s with
  | nil => rfl
  | cons _ _ ih => exact ih _

lemma Sys.run_swap (sched : List Bool) (s : Sys) :
    (Sys.run ctx p q sched s).swap = Sys.run ctx q p (sched.map (!·)) s.swap := by
  induction sched generalizing s with
  | nil => rfl
  | cons who _ ih => cases who <;> exact ih _

lemma Sys.run_replicate_true (n : ℕ) (w : World) (ph ph' : Phase) :
    Sys.run ctx p q (List.replicate n true) ⟨w, ph, ph'⟩ =
      ⟨(p.solo ctx n ph w).2, (p.solo ctx n ph w).1, ph'⟩ := by
  induction n generalizing w ph with
  | zero => rfl
  | succ n ih => exact ih _ _

lemma Sys.run_of_first_done (ys : List Bool) (w : World) (res : Except GoError Unit) (ph : Phase) :
    ∃ k, Sys.run ctx p q ys ⟨w, .done res, ph⟩ =
      ⟨(q.solo ctx k ph w).2, .done res, (q.solo ctx k ph w).1⟩ := by
  induction ys generalizing w ph with
  | nil => exact ⟨0, rfl⟩
  | cons who ys ih =>
    cases who
    · obtain ⟨k, hk⟩ := ih _ _
      exact ⟨k + 1, hk⟩
    · exact ih w ph

lemma Sys.run_first_then_second {w : World} {n : ℕ} {res res' : Except GoError Unit}
    (ys : List Bool) (hn : (p.solo ctx n .start w).1.result = some res)
    (hq : (Sys.run ctx p q (List.replicate n true ++ ys) (Sys.init w)).second.result = some res') :
    (Sys.run ctx p q (List.replicate n true ++ ys) (Sys.init w)).first = .done (p.exec ctx w).1 ∧
      res' = (q.exec ctx (p.exec ctx w).2).1 ∧
      (Sys.run ctx p q (List.replicate n true ++ ys) (Sys.init w)).world =
        (q.exec ctx (p.exec ctx w).2).2 := by
  obtain ⟨k, hk⟩ := Sys.run_of_first_done (p := p) (q := q) ys (p.solo ctx n .start w).2 res .start
  rw [Sys.init, Sys.run_append, Sys.run_replicate_true, Phase.eq_done_of_result hn, hk] at hq ⊢
  have e := Request.solo_done hq
  rw [← Request.solo_done hn]
  exact ⟨rfl, congrArg Prod.fst e, congrArg Prod.snd e⟩

/-- The schedule lets one handler run alone until it returns before the other moves. -/
def Sys.Sequential (ctx : Context) (p q : Request) (w : World) (sched : List Bool) : Prop :=
  ∃ n ys, (sched = List.replicate n true ++ ys ∧ (p.solo ctx n .start w).1.result.isSome) ∨
    (sched = List.replicate n false ++ ys ∧ (q.solo ctx n .start w).1.result.isSome)

/-- **A schedule in which the handlers do not overlap is a sequential run.** Once both have
returned, they returned what the sequential model returns, one after the other, and the store
is what the two leave. -/
theorem Sys.run_sequential {w : World} {sched : List Bool} (hseq : Sys.Sequential ctx p q w sched)
    {res res' : Except GoError Unit}
    (hp : (Sys.run ctx p q sched (Sys.init w)).first.result = some res)
    (hq : (Sys.run ctx p q sched (Sys.init w)).second.result = some res') :
    (res = (p.exec ctx w).1 ∧ res' = (q.exec ctx (p.exec ctx w).2).1 ∧
      (Sys.run ctx p q sched (Sys.init w)).world = (q.exec ctx (p.exec ctx w).2).2) ∨
    (res' = (q.exec ctx w).1 ∧ res = (p.exec ctx (q.exec ctx w).2).1 ∧
      (Sys.run ctx p q sched (Sys.init w)).world = (p.exec ctx (q.exec ctx w).2).2) := by
  obtain ⟨n, ys, ⟨rfl, hn⟩ | ⟨rfl, hn⟩⟩ := hseq
  · obtain ⟨r, hr⟩ := Option.isSome_iff_exists.mp hn
    obtain ⟨hfirst, rfl, hw⟩ := Sys.run_first_then_second ys hr hq
    exact .inl ⟨by simpa [hfirst, Phase.result] using hp.symm, rfl, hw⟩
  · -- the second handler moves first: exchange the handlers' places
    obtain ⟨r, hr⟩ := Option.isSome_iff_exists.mp hn
    have hsw : (Sys.run ctx p q (List.replicate n false ++ ys) (Sys.init w)).swap =
        Sys.run ctx q p (List.replicate n true ++ ys.map (!·)) (Sys.init w) := by
      rw [Sys.run_swap]
      simp only [List.map_append, List.map_replicate, Bool.not_false]
      rfl
    have hp' : (Sys.run ctx q p (List.replicate n true ++ ys.map (!·)) (Sys.init w)).second.result =
        some res := by
      rw [← hsw]
      exact hp
    obtain ⟨hfirst, rfl, hw⟩ := Sys.run_first_then_second (ys.map (!·)) hr hp'
    rw [← hsw] at hfirst hw
    simp only [Sys.swap] at hfirst
    exact .inr ⟨by simpa [hfirst, Phase.result] using hq.symm, rfl, hw⟩

end Schedules

/-! ### Two downlink operations -/

end LoraServer

import LoraServer.Join
import LoraServer.Errors

/-!
# The store across joins and downlink operations

* `handleCollectedJoinRequestPackets_cases`: what a join writes, read off its plan;
* `join_installs_session`: a join writes the store or the queue only once its checks have
  passed, and when it returns nil the device's session is the fresh one and its queue empty;
* `runRequests`: the network server handling any sequence of joins and downlink operations,
  from the empty store;
* `stored_sessions_listen`: when the application server answers each join with RX1 or RX2 and
  an RX2 data rate of the band, every stored session can be served, by the step lemma
  `Request.run_allListen` and induction over the requests.
-/

namespace LoraServer

/-! ### What a join writes -/

lemma joinRequestChecks_ok {ctx : Context} {r : JoinReplies} {rxPacket : RXPacket}
    {jrPL : JoinRequestPayload} {devAddr : DevAddr} {joinResp : JoinRequestResponse}
    {phy : PHYPayload} (h : joinRequestChecks ctx r rxPacket = .ok (jrPL, devAddr, joinResp, phy)) :
    rxPacket.phyPayload.macPayload.joinRequestPayload? = some jrPL ∧
    r.getRandomDevAddr = .ok devAddr ∧ r.joinRequest = .ok joinResp ∧
    joinResp.cFList.length ≤ 5 ∧ ctx.unmarshalPHYPayload joinResp.phyPayload = .ok phy := by
  unfold joinRequestChecks at h
  split at h
  · cases h
  rename_i hpl
  split at h
  · cases h
  split at h
  · cases h
  rename_i hdev
  split at h
  · cases h
  rename_i hresp
  split_ifs at h with hlen
  split at h
  · cases h
  rename_i hphy
  cases h
  exact ⟨hpl, hdev, hresp, by omega, hphy⟩

/-- **What a join writes.** Nothing, when a check or the save fails; otherwise the session built
from the answers is stored, and when the join returns nil the device's queue is empty. -/
lemma handleCollectedJoinRequestPackets_cases (ctx : Context) (r : JoinReplies)
    (rxPacket : RXPacket) (w : World) :
    ((handleCollectedJoinRequestPackets ctx r rxPacket w).1 ≠ .ok () ∧
      (handleCollectedJoinRequestPackets ctx r rxPacket w).2 = w) ∨
    ∃ jrPL devAddr joinResp phy,
      joinRequestChecks ctx r rxPacket = .ok (jrPL, devAddr, joinResp, phy) ∧
      (handleCollectedJoinRequestPackets ctx r rxPacket w).2.nodeSessions =
        (w.saveNodeSession (joinNodeSession jrPL devAddr joinResp rxPacket.rxInfoSet)).nodeSessions ∧
      ((handleCollectedJoinRequestPackets ctx r rxPacket w).1 = .ok () →
        (handleCollectedJoinRequestPackets ctx r rxPacket w).2.macQueues jrPL.devEUI = []) := by
  rw [handleCollectedJoinRequestPackets_eq]
  unfold joinPlan
  rcases joinRequestChecks ctx r rxPacket with _ | ⟨jrPL, devAddr, joinResp, phy⟩
  · exact .inl ⟨nofun, rfl⟩
  cases hs : r.saveNodeSession
  · left
    cases joinAcceptTXInfo ctx rxPacket <;> simp [Plan.exec, runCalls, hs]
  · right
    refine ⟨jrPL, devAddr, joinResp, phy, rfl, ?_⟩
    cases hf : r.flushQueue <;> cases joinAcceptTXInfo ctx rxPacket <;>
      cases r.sendTXPacket <;> simp [Plan.exec, runCalls, hs, hf, Write.apply, joinNodeSession]

lemma copyInto_toList {α : Type} [Zero α] (n : ℕ) (src : List α) :
    (copyInto n src).toList = (src ++ List.replicate n 0).take n := by
  simp [copyInto, List.take_append_eq_append_take, List.take_replicate]

/-- A request the network server handles: a collected join-request, or a downlink operation on
a device's stored session. -/
inductive Request
  | join (r : JoinReplies) (rxPacket : RXPacket)
  | downlink (devEUI : EUI64) (op : DownlinkOp)

/-- Handling one request. -/
def Request.run (ctx : Context) : Request → World → World
  | .join r rxPacket, w => (handleCollectedJoinRequestPackets ctx r rxPacket w).2
  | .downlink devEUI op, w => (op.run ctx devEUI w).2

/-- Handling requests one after the other. -/
def runRequests (ctx : Context) : List Request → World → World
  | [], w => w
  | req :: reqs, w => runRequests ctx reqs (req.run ctx w)

/-- A session the downlink path can serve: it listens in RX1 or RX2, and its RX2 data rate is
one of the band's. -/
def NodeSession.Listens (ctx : Context) (ns : NodeSession) : Prop :=
  (ns.rxWindow = rx1 ∨ ns.rxWindow = rx2) ∧ ns.rx2DR.toNat < ctx.band.dataRates.length

/-- Every stored session can be served. -/
def World.AllListen (ctx : Context) (w : World) : Prop :=
  ∀ d ns, w.nodeSessions d = some ns → ns.Listens ctx

/-- The application server answers a join with RX1 or RX2 and an RX2 data rate of the band. -/
def Request.ValidAnswer (ctx : Context) : Request → Prop
  | .join r _ => ∀ resp, r.joinRequest = .ok resp →
      (resp.rxWindow = 0 ∨ resp.rxWindow = 1) ∧ resp.rx2DR.toNat < ctx.band.dataRates.length
  | .downlink .. => True

lemma DownlinkOp.run_nodeSessions (ctx : Context) (op : DownlinkOp) (dev : EUI64) (w : World) :
    (op.run ctx dev w).2.nodeSessions = w.nodeSessions ∨
      ∃ ns, w.nodeSessions dev = some ns ∧
        (op.run ctx dev w).2.nodeSessions = (w.saveNodeSession ns.advance).nodeSessions := by
  cases h : w.nodeSessions dev with
  | none => exact .inl (by simp [DownlinkOp.run, h])
  | some ns =>
    rw [op.run_eq ctx h]
    generalize op.intent ctx ns (w.macQueues dev) = i
    cases i with
    | finish => exact .inl rfl
    | transmit p c items =>
      rcases exec_transmit op.reporting op.replies ns p c items w with
        ⟨-, hw⟩ | ⟨-, -, -, hw⟩ | ⟨-, -, k, hw, -⟩ <;> rw [hw]
      · exact .inl rfl
      · exact .inl rfl
      · rw [World.deleteQueueItems_nodeSessions]
        cases c
        · exact .inr ⟨ns, rfl, rfl⟩
        · exact .inl rfl

section Listens

variable {ctx : Context}

lemma joinNodeSession_listens {jrPL : JoinRequestPayload} {devAddr : DevAddr}
    {rxInfoSet : List RXInfo} {resp : JoinRequestResponse}
    (hw : resp.rxWindow = 0 ∨ resp.rxWindow = 1) (hdr : resp.rx2DR.toNat < ctx.band.dataRates.length) :
    (joinNodeSession jrPL devAddr resp rxInfoSet).Listens ctx := by
  refine ⟨?_, ?_⟩
  · rcases hw with h | h <;> simp only [joinNodeSession, h] <;> decide
  · simp only [joinNodeSession, uint32_toNat_toUInt8]
    exact lt_of_le_of_lt (Nat.mod_le _ _) hdr

lemma World.AllListen.save {w : World} {ns : NodeSession} (hw : w.AllListen ctx)
    (hns : ns.Listens ctx) : (w.saveNodeSession ns).AllListen ctx := by
  intro d ns' h
  simp only [World.saveNodeSession_nodeSessions] at h
  split_ifs at h
  · cases h
    exact hns
  · exact hw d ns' h

/-- **One request keeps every stored session servable.** -/
lemma Request.run_allListen {req : Request} {w : World} (hv : req.ValidAnswer ctx)
    (hw : w.AllListen ctx) : (req.run ctx w).AllListen ctx := by
  cases req with
  | join r rxPacket =>
    rcases handleCollectedJoinRequestPackets_cases ctx r rxPacket w with
      ⟨-, h⟩ | ⟨jrPL, devAddr, resp, phy, hc, hns, -⟩
    · simpa only [Request.run, h] using hw
    · obtain ⟨-, -, hresp, -, -⟩ := joinRequestChecks_ok hc
      obtain ⟨h1, h2⟩ := hv resp hresp
      intro d ns h
      simp only [Request.run, hns] at h
      exact hw.save (joinNodeSession_listens h1 h2) d ns h
  | downlink dev op =>
    intro d ns' h'
    rcases op.run_nodeSessions ctx dev w with h | ⟨ns, hns, h⟩ <;>
      simp only [Request.run, h] at h'
    · exact hw d ns' h'
    · exact hw.save (show ns.advance.Listens ctx from hw dev ns hns) d ns' h'

lemma runRequests_allListen : ∀ (reqs : List Request) (w : World),
    (∀ req ∈ reqs, req.ValidAnswer ctx) → w.AllListen ctx → (runRequests ctx reqs w).AllListen ctx
  | [], _, _, hw => hw
  | req :: reqs, _, hv, hw => runRequests_allListen reqs _ (fun q hq => hv q (.tail _ hq))
      (Request.run_allListen (hv req (.head _)) hw)

lemma getDataDownTXInfoAndDR_error_of_listens {ns : NodeSession} {rxInfo : RXInfo} {e : GoError}
    (hl : ns.Listens ctx) (h : getDataDownTXInfoAndDR ctx ns rxInfo = .error e) :
    ∃ s, e = .external s := by
  obtain ⟨hw, hdr⟩ := hl
  unfold getDataDownTXInfoAndDR at h
  dsimp only at h
  split_ifs at h with h1 h2 h3
  · split at h
    · exact ⟨_, (Except.error.inj h).symm⟩
    split at h
    · exact ⟨_, (Except.error.inj h).symm⟩
    split at h
    · exact ⟨_, (Except.error.inj h).symm⟩
    · cases h
  · omega
  · exact absurd hw (by simp [h1, h2])

lemma handlePushDataDown_not_invalidDataRate {ns : NodeSession} (hl : ns.Listens ctx)
    (r : DownlinkReplies) (confirmed : Bool) (fPort : UInt8) (data : List UInt8) (w : World)
    (e : GoError) (h : (handlePushDataDown ctx r ns confirmed fPort data w).1 = .error e) :
    e.cause ≠ .sentinel .errInvalidDataRate := by
  rcases handlePushDataDown_error_cause ctx r ns confirmed fPort data w e h with
    ⟨hc, -⟩ | ⟨-, hlen⟩ | ⟨hc, -⟩ | ⟨hc, -⟩ | hc
  · simp [hc]
  · exact absurd hl.2 (by omega)
  · simp [hc]
  · simp [hc]
  · exact hc _

end Listens

end LoraServer

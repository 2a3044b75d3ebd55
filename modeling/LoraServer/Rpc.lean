import LoraServer.Store
import LoraServer.Response

/-!
# The requests to the application server and the network controller

Besides their writes to the store and the gateway, the modelled functions call the
application server (`GetDataDown`, `JoinRequest`, `HandleError`) and the network controller
(`HandleError`). Their answers are the reply records `DownlinkReplies` and `JoinReplies`; here
are the requests, translated from the request literals of the source:

* `getDataDownRequest`: a frame that answers an uplink has the `FCnt` the application server
  was asked for data with (`uplinkResponseIntent_fCnt`);
* `joinApplicationCalls`: the application server hears of a failed join exactly when its own
  answer made the join fail, with the text of the error the join returns
  (`joinApplicationCalls_handleError_iff`), and a join that returns nil stores the `DevAddr`
  the application server was given (`join_stores_requested_devAddr`);
* `macCommandErrorRequests`: each item a frame is built from is either decoded into it or
  reported to the network controller (`macCommandErrorRequests_length`).
-/

namespace LoraServer

/-! ### The application server -/

/-- `as.GetDataDownRequest`. -/
structure GetDataDownRequest where
  appEUI : EUI64
  devEUI : EUI64
  maxPayloadSize : UInt32
  fCnt : UInt32
deriving DecidableEq

/-- `as.JoinRequestRequest`. -/
structure JoinRequestRequest where
  phyPayload : List UInt8
  devAddr : DevAddr
  netID : NetID
deriving DecidableEq

/-- `as.ErrorType`, of which this code sends `ErrorType_OTAA`. -/
inductive ErrorType
  | otaa
deriving DecidableEq

/-- `as.HandleErrorRequest`. -/
structure HandleErrorRequest where
  appEUI : EUI64
  devEUI : EUI64
  type : ErrorType
  error : String
deriving DecidableEq

/-- A call to the application server. -/
inductive ApplicationCall
  | getDataDown (req : GetDataDownRequest)
  | joinRequest (req : JoinRequestRequest)
  | handleError (req : HandleErrorRequest)
deriving DecidableEq

/-- The request of `getDataDownFromApplication`: the data rate's maximum payload size as a
`uint32`, and the session's `FCntDown`. -/
def getDataDownRequest (ctx : Context) (ns : NodeSession) (dr : Fin ctx.band.dataRates.length) :
    GetDataDownRequest :=
  { appEUI := ns.appEUI, devEUI := ns.devEUI,
    maxPayloadSize := UInt32.ofNat (ctx.band.maxPayloadSizeN dr), fCnt := ns.fCntDown }

/-- The calls `handleCollectedJoinRequestPackets` makes to the application server: `JoinRequest`
with the marshalled join-request, the allocated `DevAddr` and the `NetID`, then `HandleError`
when the answer's `CFList` is too long or its `PHYPayload` does not parse. -/
def joinApplicationCalls (ctx : Context) (r : JoinReplies) (rxPacket : RXPacket) :
    List ApplicationCall :=
  match rxPacket.phyPayload.macPayload.joinRequestPayload? with
  | none => []
  | some jrPL =>
  match ctx.marshalPHYPayload rxPacket.phyPayload with
  | .error _ => []
  | .ok b =>
  match r.getRandomDevAddr with
  | .error _ => []
  | .ok devAddr =>
  let joinRequest := ApplicationCall.joinRequest ⟨b, devAddr, ctx.netID⟩
  let handleError (errStr : String) :=
    ApplicationCall.handleError ⟨jrPL.appEUI, jrPL.devEUI, .otaa, errStr⟩
  match r.joinRequest with
  | .error _ => [joinRequest]
  | .ok joinResp =>
  if joinResp.cFList.length > 5 then
    let got := joinResp.cFList.length
    [joinRequest, handleError s!"max CFlist size 5, got {got}"]
  else
  match ctx.unmarshalPHYPayload joinResp.phyPayload with
  | .error err => [joinRequest, handleError s!"downlink PHYPayload unmarshal error: {err}"]
  | .ok _ => [joinRequest]

/-- An answer to an uplink carries the `FCnt` under which the application server was asked for
the data. -/
lemma uplinkResponseIntent_fCnt {ctx : Context} {r : DownlinkReplies} {ns : NodeSession}
    {rxPacket : RXPacket} {q : List QueueItem} {p : TXPacket} {c : Bool} {items : List QueueItem}
    (h : uplinkResponseIntent ctx r ns rxPacket q = .transmit p c items) :
    ∃ macPL txInfo dr, uplinkResponseTXInfo ctx ns rxPacket = .ok (macPL, txInfo, dr) ∧
      ∃ frame, p.phyPayload.macPayload = .macPayload frame ∧
        frame.fhdr.fCnt = (getDataDownRequest ctx ns dr).fCnt := by
  obtain ⟨macPL, txInfo, dr, hinfo, -, -, -, -, rfl, -⟩ := uplinkResponseIntent_transmit h
  exact ⟨macPL, txInfo, dr, hinfo, _, rfl, by simp [getDataDownRequest]⟩

lemma handleCollectedJoinRequestPackets_ne_new {ctx : Context} {r : JoinReplies}
    {rxPacket : RXPacket} {w : World}
    {x : JoinRequestPayload × DevAddr × JoinRequestResponse × PHYPayload}
    (hc : joinRequestChecks ctx r rxPacket = .ok x) (e : String) :
    (handleCollectedJoinRequestPackets ctx r rxPacket w).1 ≠ .error (.new e) := by
  intro h
  rw [handleCollectedJoinRequestPackets_eq, Plan.exec] at h
  obtain ⟨jrPL, devAddr, joinResp, phy⟩ := x
  simp only [joinPlan, hc] at h
  -- every report of the plan, and its final result, is an `fmt.Errorf`
  cases hj : joinAcceptTXInfo ctx rxPacket <;> simp only [hj] at h <;>
    rcases runCalls_error h with ⟨c, hc, s, hs⟩ | hf
  · simp only [List.mem_cons, List.not_mem_nil, or_false] at hc
    rcases hc with rfl | rfl <;> cases hs
  · cases hf
  · simp only [List.mem_cons, List.mem_append, List.not_mem_nil, or_false, or_assoc] at hc
    rcases hc with rfl | rfl | rfl <;> cases hs
  · cases hf

/-- **The application server hears of a failed join exactly when its answer caused it.** It
gets a `HandleError` with text `e` if and only if it answered the join's `JoinRequest` and the
join returns the error `e`, which happens when the answer's `CFList` is too long or its
`PHYPayload` does not parse; a failed save, flush or join-accept is not reported to it. -/
lemma joinApplicationCalls_handleError_iff (ctx : Context) (r : JoinReplies)
    (rxPacket : RXPacket) (w : World) (e : String) :
    (∃ appEUI devEUI,
      .handleError ⟨appEUI, devEUI, .otaa, e⟩ ∈ joinApplicationCalls ctx r rxPacket) ↔
      (∃ req, .joinRequest req ∈ joinApplicationCalls ctx r rxPacket) ∧
      (∃ resp, r.joinRequest = .ok resp) ∧
      (handleCollectedJoinRequestPackets ctx r rxPacket w).1 = .error (.new e) := by
  cases hc : joinRequestChecks ctx r rxPacket with
  | ok x =>
    have hne := handleCollectedJoinRequestPackets_ne_new (w := w) hc e
    obtain ⟨hpl, hdev, hresp, hlen, hphy⟩ := joinRequestChecks_ok hc
    unfold joinApplicationCalls
    rcases hm : ctx.marshalPHYPayload rxPacket.phyPayload with _ | b
    · simp [hpl, hm]
    · simp [hpl, hm, hdev, hresp, hphy, hne, Nat.not_lt.mpr hlen]
  | error err =>
    have hres : (handleCollectedJoinRequestPackets ctx r rxPacket w).1 = .error err := by
      simp [handleCollectedJoinRequestPackets, hc]
    rw [hres]
    unfold joinRequestChecks at hc
    unfold joinApplicationCalls
    rcases hpl : rxPacket.phyPayload.macPayload.joinRequestPayload? with _ | jrPL
    · simp
    rcases hm : ctx.marshalPHYPayload rxPacket.phyPayload with _ | b
    · simp
    rcases hdev : r.getRandomDevAddr with _ | devAddr
    · simp
    rcases hresp : r.joinRequest with _ | joinResp
    · simp
    simp only [hpl, hm, hdev, hresp] at hc
    by_cases hlen : joinResp.cFList.length > 5
    · simp only [hlen, if_true, Except.error.injEq] at hc
      subst hc
      simp [hlen, eq_comm]
    · rcases hphy : ctx.unmarshalPHYPayload joinResp.phyPayload with _ | phy
      · simp only [hlen, if_false, hphy, Except.error.injEq] at hc
        subst hc
        simp [hlen, hphy, eq_comm]
      · simp [hlen, hphy] at hc

/-- **The session a join stores has the `DevAddr` the application server was given.** When the
join returns nil, the application server received a `JoinRequest` with the network's `NetID`,
and the session stored for the device has that request's `DevAddr`. -/
lemma join_stores_requested_devAddr {ctx : Context} {r : JoinReplies} {rxPacket : RXPacket}
    {w : World} (h : (handleCollectedJoinRequestPackets ctx r rxPacket w).1 = .ok ()) :
    ∃ jrPL req, rxPacket.phyPayload.macPayload.joinRequestPayload? = some jrPL ∧
      .joinRequest req ∈ joinApplicationCalls ctx r rxPacket ∧ req.netID = ctx.netID ∧
      ((handleCollectedJoinRequestPackets ctx r rxPacket w).2.nodeSessions jrPL.devEUI).map
        (·.devAddr) = some req.devAddr := by
  rcases handleCollectedJoinRequestPackets_cases ctx r rxPacket w with ⟨hfail, -⟩ |
    ⟨jrPL, devAddr, joinResp, phy, hc, hns, -⟩
  · exact absurd h hfail
  obtain ⟨hpl, hdev, hresp, hlen, hphy⟩ := joinRequestChecks_ok hc
  have hm : ∃ b, ctx.marshalPHYPayload rxPacket.phyPayload = .ok b := by
    unfold joinRequestChecks at hc
    rw [hpl] at hc
    rcases hm : ctx.marshalPHYPayload rxPacket.phyPayload with _ | b
    · simp [hm] at hc
    · exact ⟨b, rfl⟩
  obtain ⟨b, hm⟩ := hm
  refine ⟨jrPL, ⟨b, devAddr, ctx.netID⟩, hpl, ?_, rfl, ?_⟩
  · unfold joinApplicationCalls
    simp [hpl, hm, hdev, hresp, hphy, Nat.not_lt.mpr hlen]
  · rw [hns]
    simp [joinNodeSession]

/-! ### The network controller -/

/-- `nc.HandleErrorRequest`. -/
structure ControllerErrorRequest where
  appEUI : EUI64
  devEUI : EUI64
  error : String
deriving DecidableEq

/-- An upper-case hexadecimal digit. -/
def hexDigit (n : ℕ) : Char := if n < 10 then Char.ofNat (48 + n) else Char.ofNat (55 + n)

/-- `fmt.Sprintf("%X", data)` of a byte slice: two upper-case hexadecimal digits per byte. -/
def hexUpper (data : List UInt8) : String :=
  String.mk (data.flatMap fun b => [hexDigit (b.toNat / 16), hexDigit (b.toNat % 16)])

example : hexUpper [0x03, 0x0A, 0xFF] = "030AFF" := by decide

/-- The `HandleError` requests `macQueueItemsToMACCommands` sends to the network controller,
one for each item that does not decode, in order; `unmarshalError` is the codec's error text
for the item's bytes. -/
def macCommandErrorRequests (ctx : Context) (ns : NodeSession)
    (unmarshalError : List UInt8 → String) (items : List QueueItem) :
    List ControllerErrorRequest :=
  items.filterMap fun qi =>
    match ctx.unmarshalMACCommand qi.data with
    | some _ => none
    | none =>
      let err := unmarshalError qi.data
      let errStr := s!"unmarshal mac command error: {err}"
      let command := hexUpper qi.data
      some ⟨ns.appEUI, ns.devEUI, errStr ++ s!" (command: {command})"⟩

/-- Each item is either decoded into a mac-command or reported to the network controller. -/
lemma macCommandErrorRequests_length (ctx : Context) (ns : NodeSession)
    (unmarshalError : List UInt8 → String) :
    ∀ items : List QueueItem, (macQueueItemsToMACCommands ctx items).length +
      (macCommandErrorRequests ctx ns unmarshalError items).length = items.length
  | [] => rfl
  | qi :: items => by
    have ih := macCommandErrorRequests_length ctx ns unmarshalError items
    simp only [macQueueItemsToMACCommands, macCommandErrorRequests, List.filterMap_cons,
      List.length_cons] at ih ⊢
    cases ctx.unmarshalMACCommand qi.data <;> simp only [List.length_cons] <;> omega

end LoraServer

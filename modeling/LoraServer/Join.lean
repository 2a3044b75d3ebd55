import LoraServer.Intent

/-!
The `uplink` package's `handleCollectedJoinRequestPackets`: the over-the-air activation of a
device once its join-request has been collected. The application server checks the request and
derives the keys; the network server installs a fresh node-session, flushes the device's
MAC-command queue and sends the join-accept. Its requests to the application server,
`JoinRequest` and the `HandleError` notifications, change nothing in the `World`; `Rpc` models
them apart (`joinApplicationCalls`).

Like a downlink operation, a join decides before its first write and then makes its calls to
the shared state: `handleCollectedJoinRequestPackets_eq` runs it as `joinPlan`.
-/

namespace LoraServer

/-- What the collaborators answer during one join: the random `DevAddr`, the application
server's `JoinRequest`, the cache, and the gateway for the join-accept. -/
structure JoinReplies where
  getRandomDevAddr : Except String DevAddr
  joinRequest : Except String JoinRequestResponse
  saveNodeSession : Except String Unit
  flushQueue : Except String Unit
  sendTXPacket : Except String Unit

/-- Every call succeeds, with this `DevAddr` and this answer of the application server. -/
def JoinReplies.succeeding (devAddr : DevAddr) (joinResp : JoinRequestResponse) : JoinReplies :=
  ⟨.ok devAddr, .ok joinResp, .ok (), .ok (), .ok ()⟩

/-- Modelled from the spec: the TX parameters of `downlink.SendJoinAcceptResponse` (not under
src/), the first receive window: the gateway that heard the request, the RX1 frequency and
data rate, `JoinAcceptDelay1` after the request. -/
def joinAcceptTXInfo (ctx : Context) (rxPacket : RXPacket) : Except String TXInfo :=
  let rxInfo := rxPacket.rxInfo
  match ctx.band.getDataRate rxInfo.dataRate with
  | .error err => .error err
  | .ok uplinkDR =>
  match ctx.band.getRX1DataRate uplinkDR 0 with
  | .error err => .error err
  | .ok dr =>
  match ctx.band.getRX1Frequency rxInfo.frequency with
  | .error err => .error err
  | .ok frequency =>
    .ok { mac := rxInfo.mac, frequency, power := ctx.band.defaultTXPower,
          timestamp := rxInfo.timestamp + UInt32.ofNat (ctx.band.joinAcceptDelay1 / 1000),
          dataRate := ctx.band.dataRate dr, codeRate := rxInfo.codeRate }

/-- Modelled from the spec: `downlink.SendJoinAcceptResponse` (not under src/) hands the
join-accept to the gateway. -/
def sendJoinAcceptResponse (ctx : Context) (r : JoinReplies) (rxPacket : RXPacket)
    (phy : PHYPayload) (w : World) : Except GoError Unit × World :=
  match joinAcceptTXInfo ctx rxPacket with
  | .error err => (.error (.external err), w)
  | .ok txInfo =>
  match r.sendTXPacket with
  | .error err => (.error (.external err), w)
  | .ok () => (.ok (), w.sendTXPacket ⟨txInfo, phy⟩)

/-- The node-session a join installs: `FCntUp = FCntDown = 0`, the application server's
radio parameters converted to the session's types, the `CFList` filled from the answer
(`for i, cf := range joinResp.CFList { cFList[i] = cf }`), the `NwkSKey` copied into a
`[16]byte`. -/
def joinNodeSession (jrPL : JoinRequestPayload) (devAddr : DevAddr)
    (joinResp : JoinRequestResponse) (rxInfoSet : List RXInfo) : NodeSession :=
  { devAddr
    appEUI := jrPL.appEUI
    devEUI := jrPL.devEUI
    nwkSKey := copyInto 16 joinResp.nwkSKey
    fCntUp := 0
    fCntDown := 0
    relaxFCnt := joinResp.relaxFCnt
    rxWindow := Int8.ofInt joinResp.rxWindow
    rxDelay := joinResp.rxDelay.toUInt8
    rx1DROffset := joinResp.rx1DROffset.toUInt8
    rx2DR := joinResp.rx2DR.toUInt8
    cFList := some (copyInto 5 joinResp.cFList)
    adrInterval := joinResp.adrInterval
    lastRXInfoSet := rxInfoSet }

@[simp] lemma joinNodeSession_devEUI (jrPL : JoinRequestPayload) (devAddr : DevAddr)
    (joinResp : JoinRequestResponse) (rxInfoSet : List RXInfo) :
    (joinNodeSession jrPL devAddr joinResp rxInfoSet).devEUI = jrPL.devEUI := rfl

/-- What `handleCollectedJoinRequestPackets` settles before its first write: the
join-request, a random `DevAddr`, the application server's answer with a `CFList` of at most
five entries, and the join-accept it returned, parsed. -/
def joinRequestChecks (ctx : Context) (r : JoinReplies) (rxPacket : RXPacket) :
    Except GoError (JoinRequestPayload × DevAddr × JoinRequestResponse × PHYPayload) :=
  match rxPacket.phyPayload.macPayload.joinRequestPayload? with
  | none =>
    let goType := rxPacket.phyPayload.macPayload.goType
    .error (.new s!"expected *lorawan.JoinRequestPayload, got: {goType}")
  | some jrPL =>
  match ctx.marshalPHYPayload rxPacket.phyPayload with
  | .error err => .error (.errorf "phypayload marshal binary error" (.external err))
  | .ok _ =>
  match r.getRandomDevAddr with
  | .error err => .error (.errorf "get random DevAddr error" (.external err))
  | .ok devAddr =>
  match r.joinRequest with
  | .error err => .error (.errorf "application server join-request error" (.external err))
  | .ok joinResp =>
  if joinResp.cFList.length > 5 then
    let got := joinResp.cFList.length
    .error (.new s!"max CFlist size 5, got {got}")
  else
  match ctx.unmarshalPHYPayload joinResp.phyPayload with
  | .error err => .error (.new s!"downlink PHYPayload unmarshal error: {err}")
  | .ok downlinkPHY => .ok (jrPL, devAddr, joinResp, downlinkPHY)

/-- `handleCollectedJoinRequestPackets`. -/
def handleCollectedJoinRequestPackets (ctx : Context) (r : JoinReplies) (rxPacket : RXPacket)
    (w : World) : Except GoError Unit × World :=
  match joinRequestChecks ctx r rxPacket with
  | .error err => (.error err, w)
  | .ok (jrPL, devAddr, joinResp, downlinkPHY) =>
  let ns := joinNodeSession jrPL devAddr joinResp rxPacket.rxInfoSet
  match r.saveNodeSession with
  | .error err => (.error (.errorf "save node-session error" (.external err)), w)
  | .ok () =>
  let w := w.saveNodeSession ns
  match r.flushQueue with
  | .error err => (.error (.errorf "flush mac-command queue error" (.external err)), w)
  | .ok () =>
  match sendJoinAcceptResponse ctx r rxPacket downlinkPHY (w.flushQueue ns.devEUI) with
  | (.error err, w) => (.error (.errorf "send join-accept response error" err), w)
  | (.ok (), w) => (.ok (), w)

/-! ### The join as a decision followed by calls -/

/-- The calls of a join that passed its checks: `SaveNodeSession`, `FlushQueue`, and the
join-accept once its TX parameters are known. -/
def joinPlan (ctx : Context) (r : JoinReplies) (rxPacket : RXPacket) : Plan :=
  match joinRequestChecks ctx r rxPacket with
  | .error err => ⟨[], .error err⟩
  | .ok (jrPL, devAddr, joinResp, downlinkPHY) =>
  let ns := joinNodeSession jrPL devAddr joinResp rxPacket.rxInfoSet
  let install : List Call :=
    [⟨.save ns, r.saveNodeSession, fun err => .errorf "save node-session error" (.external err)⟩,
     ⟨.flush ns.devEUI, r.flushQueue,
       fun err => .errorf "flush mac-command queue error" (.external err)⟩]
  match joinAcceptTXInfo ctx rxPacket with
  | .error err => ⟨install, .error (.errorf "send join-accept response error" (.external err))⟩
  | .ok txInfo => ⟨install ++ [⟨.send ⟨txInfo, downlinkPHY⟩, r.sendTXPacket,
      fun err => .errorf "send join-accept response error" (.external err)⟩], .ok ()⟩

/-- **`handleCollectedJoinRequestPackets` is its plan carried out.** -/
theorem handleCollectedJoinRequestPackets_eq (ctx : Context) (r : JoinReplies)
    (rxPacket : RXPacket) (w : World) :
    handleCollectedJoinRequestPackets ctx r rxPacket w = (joinPlan ctx r rxPacket).exec w := by
  unfold handleCollectedJoinRequestPackets joinPlan sendJoinAcceptResponse
  rcases joinRequestChecks ctx r rxPacket with _ | ⟨jrPL, devAddr, joinResp, phy⟩
  · rfl
  cases r.saveNodeSession <;> cases r.flushQueue <;> cases joinAcceptTXInfo ctx rxPacket <;>
    cases r.sendTXPacket <;> rfl

end LoraServer

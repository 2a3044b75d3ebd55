import LoraServer.Types

/-!
The `downlink` package: `DataDownFrameContext.Validate`, `SendDataDown`, `HandlePushDataDown`,
`SendUplinkResponse` and their helpers, as functions of the shared `World` and of what the
collaborators answer. Each function returns its `error` and the `World` it leaves; a call that
fails changes nothing. Logging is left out; the requests to the application server and the
network controller change nothing in the `World` and are modelled apart, in `Rpc`.
-/

namespace LoraServer

/-- What the collaborators answer during one downlink operation: the application server's
`GetDataDown`, the cache, the gateway, and the codec's encryption and MIC. -/
structure DownlinkReplies where
  getDataDown : Except String (Option GetDataDownResponse)
  readQueue : Except String Unit
  encryptFRMPayload : Except String Unit
  setMIC : Except String Unit
  sendTXPacket : Except String Unit
  saveNodeSession : Except String Unit
  /-- the answer to the `i`-th `DeleteQueueItem` of the delete loop -/
  deleteQueueItem : ℕ → Except String Unit

/-- Every call succeeds, the application server answering `getDataDown`. -/
def DownlinkReplies.succeeding (getDataDown : Except String (Option GetDataDownResponse)) :
    DownlinkReplies :=
  ⟨getDataDown, .ok (), .ok (), .ok (), .ok (), .ok (), fun _ => .ok ()⟩

/-- `DataDownFrameContext`, with Go's zero values as defaults. -/
structure DataDownFrameContext where
  ack : Bool := false
  fPort : UInt8 := 0
  macCommands : List MACCommand := []
  encryptMACCommands : Bool := false
  confirmed : Bool := false
  moreData : Bool := false
  data : List UInt8 := []
deriving DecidableEq

/-- `DataDownFrameContext.Validate`. -/
def DataDownFrameContext.validate (dd : DataDownFrameContext) : Except GoError Unit :=
  if dd.fPort = 0 ∧ dd.data ≠ [] then .error (.sentinel .errFPortMustNotBeZero)
  else if 0 < dd.fPort ∧ dd.encryptMACCommands then .error (.sentinel .errFPortMustBeZero)
  else .ok ()

/-- The `MACPayload` `SendDataDown` assembles: the MAC commands in `FOpts`, or encrypted with
the `NwkSKey` in `FRMPayload`, then the data on `FPort`. -/
def dataDownMACPayload (ns : NodeSession) (dd : DataDownFrameContext) : MACPayload :=
  let fhdr : FHDR :=
    { devAddr := ns.devAddr
      fCtrl := { adr := ns.adrInterval != 0, ack := dd.ack, fPending := dd.moreData }
      fCnt := ns.fCntDown }
  let macPL : MACPayload :=
    if dd.macCommands = [] then { fhdr }
    else if dd.encryptMACCommands then
      { fhdr, fPort := some dd.fPort,
        frmPayload := encryptFRMPayload ns.nwkSKey (dd.macCommands.map .macCommand) }
    else { fhdr := { fhdr with fOpts := dd.macCommands } }
  if 0 < dd.fPort then { macPL with fPort := some dd.fPort, frmPayload := [.data dd.data] }
  else macPL

/-- The frame `SendDataDown` assembles. -/
def dataDownFrame (ns : NodeSession) (dd : DataDownFrameContext) : PHYPayload :=
  { mType := if dd.confirmed then .confirmedDataDown else .unconfirmedDataDown
    macPayload := .macPayload (dataDownMACPayload ns dd) }

/-- `SendDataDown` up to the gateway: `Validate`, then the frame once `EncryptFRMPayload`
(when the MAC commands go encrypted) and `SetMIC` have succeeded. -/
def dataDownTXPacket (r : DownlinkReplies) (ns : NodeSession) (txInfo : TXInfo)
    (dd : DataDownFrameContext) : Except GoError TXPacket :=
  match dd.validate with
  | .error err => .error (.wrap err "validation error")
  | .ok () =>
  match (if dd.macCommands ≠ [] ∧ dd.encryptMACCommands then r.encryptFRMPayload else .ok ()) with
  | .error err => .error (.wrap (.external err) "encrypt FRMPayload error")
  | .ok () =>
  match r.setMIC with
  | .error err => .error (.wrap (.external err) "set MIC error")
  | .ok () => .ok ⟨txInfo, dataDownFrame ns dd⟩

/-- The end of `SendDataDown`: `SendTXPacket`, then for an unconfirmed frame the `FCntDown`
increment and `SaveNodeSession`. Besides its error it returns what `*ns` holds afterwards. -/
def sendAndSave (r : DownlinkReplies) (ns : NodeSession) (p : TXPacket) (confirmed : Bool)
    (w : World) : (Except GoError Unit × NodeSession) × World :=
  match r.sendTXPacket with
  | .error err => ((.error (.wrap (.external err) "send tx packet to gateway error"), ns), w)
  | .ok () =>
    let w := w.sendTXPacket p
    -- increment the FCntDown when Confirmed = false
    if confirmed then ((.ok (), ns), w)
    else
      let ns := { ns with fCntDown := ns.fCntDown + 1 }
      match r.saveNodeSession with
      | .error err => ((.error (.wrap (.external err) "save node-session error"), ns), w)
      | .ok () => ((.ok (), ns), w.saveNodeSession ns)

/-- `SendDataDown`. Besides its error it returns what `*ns` holds afterwards. -/
def sendDataDown (r : DownlinkReplies) (ns : NodeSession) (txInfo : TXInfo)
    (dd : DataDownFrameContext) (w : World) : (Except GoError Unit × NodeSession) × World :=
  match dataDownTXPacket r ns txInfo dd with
  | .error err => ((.error err, ns), w)
  | .ok p => sendAndSave r ns p dd.confirmed w

/-- The loop `for _, qi := range items { DeleteQueueItem(..) }`, from its `i`-th call on. -/
def deleteQueueItems (r : DownlinkReplies) (devEUI : EUI64) :
    ℕ → List QueueItem → World → Except String Unit × World
  | _, [], w => (.ok (), w)
  | i, qi :: items, w =>
    match r.deleteQueueItem i with
    | .error err => (.error err, w)
    | .ok () => deleteQueueItems r devEUI (i + 1) items (w.deleteQueueItem devEUI qi)

/-- The part of `getAndFilterMACQueueItems` after `ReadQueue`: the items to send, whether they
go encrypted in `FRMPayload`, and whether items are left over. -/
def filterMACQueueItems (ctx : Context) (queueItems : List QueueItem) (allowEncrypted : Bool)
    (remainingPayloadSize : ℤ) : List QueueItem × Bool × Bool :=
  match queueItems with
  | [] => ([], false, false)
  | head :: _ =>
    if allowEncrypted && head.frmPayload then
      let items := ctx.filterItems queueItems true remainingPayloadSize
      (items, true, items.length != queueItems.length)
    else
      -- the LoRaWAN specs define 15 to be the max FOpts size
      let maxFOptsLen := if remainingPayloadSize > 15 then 15 else remainingPayloadSize
      let items := ctx.filterItems queueItems false maxFOptsLen
      (items, false, items.length != queueItems.length)

/-- `getAndFilterMACQueueItems`. -/
def getAndFilterMACQueueItems (ctx : Context) (r : DownlinkReplies) (w : World)
    (ns : NodeSession) (allowEncrypted : Bool) (remainingPayloadSize : ℤ) :
    Except GoError (List QueueItem × Bool × Bool) :=
  match r.readQueue with
  | .error err => .error (.errorf "read mac-payload tx queue error" (.external err))
  | .ok () => .ok (filterMACQueueItems ctx (w.macQueues ns.devEUI) allowEncrypted
      remainingPayloadSize)

/-- `macQueueItemsToMACCommands`: the items that decode, in order. -/
def macQueueItemsToMACCommands (ctx : Context) (items : List QueueItem) : List MACCommand :=
  items.filterMap fun qi => ctx.unmarshalMACCommand qi.data

/-- `getDataDownFromApplication`: the application's payload when it is one to send. -/
def getDataDownFromApplication (ctx : Context) (r : DownlinkReplies)
    (dr : Fin ctx.band.dataRates.length) : Option GetDataDownResponse :=
  match r.getDataDown with
  | .error _ => none
  | .ok none => none
  | .ok (some resp) =>
    if resp.fPort = 0 then none
    else if resp.data.length > ctx.band.maxPayloadSizeN dr then none
    else some resp

/-- The timestamp of the first receive window: `RXDelay` seconds after the uplink, or
`ReceiveDelay1` when `RXDelay` is zero. -/
def rx1Timestamp (ctx : Context) (ns : NodeSession) (rxInfo : RXInfo) : UInt32 :=
  if 0 < ns.rxDelay then rxInfo.timestamp + UInt32.ofNat (ns.rxDelay.toNat * 1000000)
  else rxInfo.timestamp + UInt32.ofNat (ctx.band.receiveDelay1 / 1000)

/-- `getDataDownTXInfoAndDR`. -/
def getDataDownTXInfoAndDR (ctx : Context) (ns : NodeSession) (rxInfo : RXInfo) :
    Except GoError (TXInfo × Fin ctx.band.dataRates.length) :=
  let txInfo : TXInfo :=
    { mac := rxInfo.mac, codeRate := rxInfo.codeRate, power := ctx.band.defaultTXPower }
  if ns.rxWindow = rx1 then
    match ctx.band.getDataRate rxInfo.dataRate with
    | .error err => .error (.external err)
    | .ok uplinkDR =>
    match ctx.band.getRX1DataRate uplinkDR ns.rx1DROffset.toNat with
    | .error err => .error (.external err)
    | .ok dr =>
    match ctx.band.getRX1Frequency rxInfo.frequency with
    | .error err => .error (.external err)
    | .ok frequency =>
      .ok ({ txInfo with dataRate := ctx.band.dataRate dr, frequency,
                         timestamp := rx1Timestamp ctx ns rxInfo }, dr)
  else if ns.rxWindow = rx2 then
    let dr := ns.rx2DR.toNat
    let maxDR : ℤ := ctx.band.dataRates.length - 1
    if h : dr > maxDR then .error (.new s!"invalid rx2 dr: {dr} (max dr: {maxDR})")
    else
      let dr : Fin ctx.band.dataRates.length := ⟨dr, by omega⟩
      .ok ({ txInfo with dataRate := ctx.band.dataRate dr, frequency := ctx.band.rx2Frequency,
                         timestamp := rx1Timestamp ctx ns rxInfo + 1000000 }, dr)
  else
    let rxWindow := ns.rxWindow.toInt
    .error (.new s!"unknown RXWindow option {rxWindow}")

/-- What `HandlePushDataDown` checks before it reads the MAC queue: a gateway to answer
through, a valid RX2 data rate and data that fits it. It yields the TX parameters and the
data rate. -/
def pushDataDownTXInfo (ctx : Context) (ns : NodeSession) (data : List UInt8) :
    Except GoError (TXInfo × Fin ctx.band.dataRates.length) :=
  if hrx : ns.lastRXInfoSet = [] then .error (.sentinel .errNoLastRXInfoSet) else
  let dr := ns.rx2DR.toNat
  let maxDR : ℤ := ctx.band.dataRates.length - 1
  if h : dr > maxDR then
    .error (.wrap (.sentinel .errInvalidDataRate) s!"dr: {dr} (max dr: {maxDR})") else
  let dr : Fin ctx.band.dataRates.length := ⟨dr, by omega⟩
  let remainingPayloadSize : ℤ := ctx.band.maxPayloadSizeN dr
  if data.length > remainingPayloadSize then
    .error (.wrap (.sentinel .errMaxPayloadSizeExceeded) s!"(max: {remainingPayloadSize})") else
  .ok ({ mac := (ns.lastRXInfoSet.head hrx).mac, immediately := true,
         frequency := ctx.band.rx2Frequency, power := ctx.band.defaultTXPower,
         dataRate := ctx.band.dataRate dr, codeRate := "4/5" }, dr)

/-- `HandlePushDataDown`. -/
def handlePushDataDown (ctx : Context) (r : DownlinkReplies) (ns : NodeSession)
    (confirmed : Bool) (fPort : UInt8) (data : List UInt8) (w : World) :
    Except GoError Unit × World :=
  match pushDataDownTXInfo ctx ns data with
  | .error err => (.error err, w)
  | .ok (txInfo, dr) =>
  let remainingPayloadSize : ℤ := ctx.band.maxPayloadSizeN dr - data.length
  match getAndFilterMACQueueItems ctx r w ns false remainingPayloadSize with
  | .error err => (.error (.wrap err "get mac-commands error"), w)
  | .ok (macQueueItems, _, _) =>
  let ddCTX : DataDownFrameContext :=
    { fPort, data, confirmed, macCommands := macQueueItemsToMACCommands ctx macQueueItems }
  match sendDataDown r ns txInfo ddCTX w with
  | ((.error err, _), w) => (.error (.wrap err "send data down error"), w)
  | ((.ok (), ns), w) =>
    -- remove the transmitted mac commands from the queue
    match deleteQueueItems r ns.devEUI 0 macQueueItems w with
    | (.error err, w) => (.error (.wrap (.external err) "delete mac-command queue item error"), w)
    | (.ok (), w) => (.ok (), w)

/-- What `SendUplinkResponse` settles first: the uplink's `MACPayload`, and the TX parameters
and data rate of the answer. -/
def uplinkResponseTXInfo (ctx : Context) (ns : NodeSession) (rxPacket : RXPacket) :
    Except GoError (MACPayload × TXInfo × Fin ctx.band.dataRates.length) :=
  match rxPacket.phyPayload.macPayload.macPayload? with
  | none =>
    let goType := rxPacket.phyPayload.macPayload.goType
    .error (.new s!"expected *lorawan.MACPayload, got: {goType}")
  | some macPL =>
  match getDataDownTXInfoAndDR ctx ns rxPacket.rxInfo with
  | .error err => .error (.errorf "get data down txinfo error" err)
  | .ok (txInfo, dr) => .ok (macPL, txInfo, dr)

/-- The bytes `SendUplinkResponse` leaves for mac-commands: the data rate's maximum, less the
application's data. -/
def uplinkRemainingPayloadSize (ctx : Context) (dr : Fin ctx.band.dataRates.length)
    (txPayload : Option GetDataDownResponse) : ℤ :=
  match txPayload with
  | some p => ctx.band.maxPayloadSizeN dr - p.data.length
  | none => ctx.band.maxPayloadSizeN dr

/-- The `DataDownFrameContext` `SendUplinkResponse` assembles. -/
def uplinkDataDown (rxPacket : RXPacket) (txPayload : Option GetDataDownResponse)
    (macCommands : List MACCommand) (allowEncryptedMACCommands encryptMACCommands
      pendingMACCommands : Bool) : DataDownFrameContext :=
  let ddCTX : DataDownFrameContext :=
    { ack := decide (rxPacket.phyPayload.mType = .confirmedDataUp), macCommands }
  let ddCTX := match txPayload with
    | some p => { ddCTX with confirmed := p.confirmed, moreData := p.moreData,
                             fPort := p.fPort.toUInt8, data := p.data }
    | none => ddCTX
  let ddCTX := if pendingMACCommands then { ddCTX with moreData := true } else ddCTX
  if allowEncryptedMACCommands && encryptMACCommands then
    { ddCTX with encryptMACCommands := true } else ddCTX

/-- `SendUplinkResponse` returns without a downlink: the uplink was unconfirmed, there is no
data and no mac-command; an `ADRACKReq` still needs an answer. -/
def noUplinkResponse (macPL : MACPayload) (txPayload : Option GetDataDownResponse)
    (ddCTX : DataDownFrameContext) : Bool :=
  txPayload.isNone && !ddCTX.ack && ddCTX.macCommands.isEmpty && !macPL.fhdr.fCtrl.adrACKReq

/-- `SendUplinkResponse`. -/
def sendUplinkResponse (ctx : Context) (r : DownlinkReplies) (ns : NodeSession)
    (rxPacket : RXPacket) (w : World) : Except GoError Unit × World :=
  match uplinkResponseTXInfo ctx ns rxPacket with
  | .error err => (.error err, w)
  | .ok (macPL, txInfo, dr) =>
  let txPayload := getDataDownFromApplication ctx r dr
  -- with data from the application, mac-commands only go in FOpts
  let allowEncryptedMACCommands := txPayload.isNone
  match getAndFilterMACQueueItems ctx r w ns allowEncryptedMACCommands
    (uplinkRemainingPayloadSize ctx dr txPayload) with
  | .error err => (.error (.errorf "get mac-commands error" err), w)
  | .ok (macQueueItems, encryptMACCommands, pendingMACCommands) =>
  let ddCTX := uplinkDataDown rxPacket txPayload (macQueueItemsToMACCommands ctx macQueueItems)
    allowEncryptedMACCommands encryptMACCommands pendingMACCommands
  if noUplinkResponse macPL txPayload ddCTX then (.ok (), w) else
  match sendDataDown r ns txInfo ddCTX w with
  | ((.error err, _), w) => (.error (.errorf "send data down error" err), w)
  | ((.ok (), ns), w) =>
    match deleteQueueItems r ns.devEUI 0 macQueueItems w with
    | (.error err, w) =>
      (.error (.errorf "delete mac-command queue item from queue error" (.external err)), w)
    | (.ok (), w) => (.ok (), w)

end LoraServer

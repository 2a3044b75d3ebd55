import LoraServer.Downlink

/-!
# Downlink operations as a decision followed by writes

Before its first write a downlink operation only reads: the node-session it is handed, the
MAC-command queue, and the answers of the application server and the codec. Everything up to
the gateway call is therefore a pure `Intent`, a function of the session and of the queue, and
the rest is a list of `Call`s to the shared state, each of which may fail:

* `handlePushDataDown_eq` and `sendUplinkResponse_eq`: each operation is its intent carried out;
* `Intent.calls`: a transmission hands its packet to the gateway, saves the session with
  `FCntDown` advanced when the frame is unconfirmed, and deletes the items it was built from.

The interleavings of `Interleave` run the same calls one at a time.
-/

namespace LoraServer

/-! ### Calls to the shared state -/

/-- A write to the shared state. -/
inductive Write
  | send (p : TXPacket)
  | save (ns : NodeSession)
  | delete (devEUI : EUI64) (qi : QueueItem)
  | flush (devEUI : EUI64)

/-- What a write does to the `World`. -/
def Write.apply : Write → World → World
  | .send p, w => w.sendTXPacket p
  | .save ns, w => w.saveNodeSession ns
  | .delete devEUI qi, w => w.deleteQueueItem devEUI qi
  | .flush devEUI, w => w.flushQueue devEUI

/-- One call of an operation: its write, the collaborator's answer, and the error the
operation returns when the call fails. -/
structure Call where
  write : Write
  reply : Except String Unit
  report : String → GoError

/-- Making the calls in order; the first failure ends the operation with its error, and
`final` is the result once all have succeeded. -/
def runCalls : List Call → Except GoError Unit → World → Except GoError Unit × World
  | [], final, w => (final, w)
  | c :: cs, final, w =>
    match c.reply with
    | .error err => (.error (c.report err), w)
    | .ok () => runCalls cs final (c.write.apply w)

/-! ### The decision of a downlink operation -/

/-- What a downlink operation decides once it holds the node-session and its MAC queue:
return without transmitting, or transmit a packet (confirmed or not) built from some queue
items. -/
inductive Intent
  | finish (res : Except GoError Unit)
  | transmit (p : TXPacket) (confirmed : Bool) (items : List QueueItem)

/-- How an operation reports the errors of `SendDataDown` and of its delete loop. -/
structure Reporting where
  sendDataDown : GoError → GoError
  deleteQueueItem : GoError → GoError

/-- `HandlePushDataDown` wraps with `errors.Wrap`. -/
def pushReporting : Reporting :=
  ⟨fun err => .wrap err "send data down error",
   fun err => .wrap err "delete mac-command queue item error"⟩

/-- `SendUplinkResponse` formats with `fmt.Errorf`. -/
def uplinkReporting : Reporting :=
  ⟨.errorf "send data down error", .errorf "delete mac-command queue item from queue error"⟩

/-- The delete loop as calls, the `i`-th with the `i`-th answer. -/
def deleteCalls (rep : Reporting) (r : DownlinkReplies) (devEUI : EUI64) :
    ℕ → List QueueItem → List Call
  | _, [] => []
  | i, qi :: items => ⟨.delete devEUI qi, r.deleteQueueItem i, fun err =>
      rep.deleteQueueItem (.external err)⟩ :: deleteCalls rep r devEUI (i + 1) items

/-- The session `SendDataDown` saves after an unconfirmed frame. -/
def NodeSession.advance (ns : NodeSession) : NodeSession := { ns with fCntDown := ns.fCntDown + 1 }

@[simp] lemma NodeSession.advance_devEUI (ns : NodeSession) : ns.advance.devEUI = ns.devEUI := rfl

/-- The calls of a transmission: `SendTXPacket`, `SaveNodeSession` for an unconfirmed frame,
then the delete loop. -/
def transmitCalls (rep : Reporting) (r : DownlinkReplies) (ns : NodeSession) (p : TXPacket)
    (confirmed : Bool) (items : List QueueItem) : List Call :=
  ⟨.send p, r.sendTXPacket, fun err =>
      rep.sendDataDown (.wrap (.external err) "send tx packet to gateway error")⟩ ::
  ((if confirmed then [] else [⟨.save ns.advance, r.saveNodeSession, fun err =>
      rep.sendDataDown (.wrap (.external err) "save node-session error")⟩]) ++
    deleteCalls rep r ns.devEUI 0 items)

/-- Carrying out an intent. -/
def Intent.exec (rep : Reporting) (r : DownlinkReplies) (ns : NodeSession) :
    Intent → World → Except GoError Unit × World
  | .finish res, w => (res, w)
  | .transmit p confirmed items, w => runCalls (transmitCalls rep r ns p confirmed items) (.ok ()) w

/-- What an operation does once it has decided: its calls, and what it returns once all of
them have succeeded. -/
structure Plan where
  calls : List Call
  final : Except GoError Unit

/-- Carrying out a plan. -/
def Plan.exec (pl : Plan) (w : World) : Except GoError Unit × World :=
  runCalls pl.calls pl.final w

/-- The plan of a decision. -/
def Intent.plan (rep : Reporting) (r : DownlinkReplies) (ns : NodeSession) : Intent → Plan
  | .finish res => ⟨[], res⟩
  | .transmit p confirmed items => ⟨transmitCalls rep r ns p confirmed items, .ok ()⟩

lemma Intent.exec_eq_plan (rep : Reporting) (r : DownlinkReplies) (ns : NodeSession) (i : Intent)
    (w : World) : i.exec rep r ns w = (i.plan rep r ns).exec w := by
  cases i <;> rfl

/-- `HandlePushDataDown`'s decision on the queue `queue`. -/
def pushDataDownIntent (ctx : Context) (r : DownlinkReplies) (ns : NodeSession)
    (confirmed : Bool) (fPort : UInt8) (data : List UInt8) (queue : List QueueItem) : Intent :=
  match pushDataDownTXInfo ctx ns data with
  | .error err => .finish (.error err)
  | .ok (txInfo, dr) =>
  match r.readQueue with
  | .error err => .finish (.error (.wrap (.errorf "read mac-payload tx queue error"
      (.external err)) "get mac-commands error"))
  | .ok () =>
  let macQueueItems :=
    (filterMACQueueItems ctx queue false (ctx.band.maxPayloadSizeN dr - data.length)).1
  match dataDownTXPacket r ns txInfo
      { fPort, data, confirmed, macCommands := macQueueItemsToMACCommands ctx macQueueItems } with
  | .error err => .finish (.error (.wrap err "send data down error"))
  | .ok p => .transmit p confirmed macQueueItems

/-- `SendUplinkResponse`'s decision on the queue `queue`. -/
def uplinkResponseIntent (ctx : Context) (r : DownlinkReplies) (ns : NodeSession)
    (rxPacket : RXPacket) (queue : List QueueItem) : Intent :=
  match uplinkResponseTXInfo ctx ns rxPacket with
  | .error err => .finish (.error err)
  | .ok (macPL, txInfo, dr) =>
  let txPayload := getDataDownFromApplication ctx r dr
  match r.readQueue with
  | .error err => .finish (.error (.errorf "get mac-commands error"
      (.errorf "read mac-payload tx queue error" (.external err))))
  | .ok () =>
  let (macQueueItems, encryptMACCommands, pendingMACCommands) :=
    filterMACQueueItems ctx queue txPayload.isNone (uplinkRemainingPayloadSize ctx dr txPayload)
  let ddCTX := uplinkDataDown rxPacket txPayload (macQueueItemsToMACCommands ctx macQueueItems)
    txPayload.isNone encryptMACCommands pendingMACCommands
  if noUplinkResponse macPL txPayload ddCTX then .finish (.ok ()) else
  match dataDownTXPacket r ns txInfo ddCTX with
  | .error err => .finish (.error (.errorf "send data down error" err))
  | .ok p => .transmit p ddCTX.confirmed macQueueItems

/-! ### The operations are their decisions carried out -/

section Exec

variable (rep : Reporting) (r : DownlinkReplies)

lemma runCalls_append (cs ds : List Call) (final : Except GoError Unit) (w : World) :
    runCalls (cs ++ ds) final w =
      match runCalls cs (.ok ()) w with
      | (.ok (), w) => runCalls ds final w
      | (.error err, w) => (.error err, w) := by
  induction cs generalizing w with
  | nil => rfl
  | cons c cs ih => cases h : c.reply <;> simp [runCalls, h, ih]

lemma deleteQueueItems_eq (devEUI : EUI64) (i : ℕ) (items : List QueueItem) (w : World) :
    (match deleteQueueItems r devEUI i items w with
      | (.error err, w) => (.error (rep.deleteQueueItem (.external err)), w)
      | (.ok (), w) => (.ok (), w)) =
    runCalls (deleteCalls rep r devEUI i items) (.ok ()) w := by
  induction items generalizing i w with
  | nil => rfl
  | cons qi items ih =>
    cases h : r.deleteQueueItem i <;>
      simp [deleteQueueItems, deleteCalls, runCalls, h, Write.apply, ← ih]

theorem sendAndSave_deleteQueueItems (ns : NodeSession) (p : TXPacket) (confirmed : Bool)
    (items : List QueueItem) (w : World) :
    (match sendAndSave r ns p confirmed w with
      | ((.error err, _), w) => (.error (rep.sendDataDown err), w)
      | ((.ok (), ns), w) =>
        match deleteQueueItems r ns.devEUI 0 items w with
        | (.error err, w) => (.error (rep.deleteQueueItem (.external err)), w)
        | (.ok (), w) => (.ok (), w)) =
    (Intent.transmit p confirmed items).exec rep r ns w := by
  simp only [Intent.exec, transmitCalls, sendAndSave]
  cases hs : r.sendTXPacket
  · rfl
  · cases confirmed
    · cases hv : r.saveNodeSession <;>
        simp [runCalls, runCalls_append, hs, hv, Write.apply, NodeSession.advance,
          deleteQueueItems_eq]
    · simp [runCalls, hs, Write.apply, deleteQueueItems_eq]

theorem sendDataDown_deleteQueueItems (ns : NodeSession) (txInfo : TXInfo)
    (dd : DataDownFrameContext) (items : List QueueItem) (w : World) :
    (match sendDataDown r ns txInfo dd w with
      | ((.error err, _), w) => (.error (rep.sendDataDown err), w)
      | ((.ok (), ns), w) =>
        match deleteQueueItems r ns.devEUI 0 items w with
        | (.error err, w) => (.error (rep.deleteQueueItem (.external err)), w)
        | (.ok (), w) => (.ok (), w)) =
    (match dataDownTXPacket r ns txInfo dd with
      | .error err => Intent.finish (.error (rep.sendDataDown err))
      | .ok p => .transmit p dd.confirmed items).exec rep r ns w := by
  unfold sendDataDown
  cases dataDownTXPacket r ns txInfo dd
  · rfl
  · exact sendAndSave_deleteQueueItems rep r ns _ _ items w

end Exec

/-- **`HandlePushDataDown` is its decision carried out.** -/
theorem handlePushDataDown_eq (ctx : Context) (r : DownlinkReplies) (ns : NodeSession)
    (confirmed : Bool) (fPort : UInt8) (data : List UInt8) (w : World) :
    handlePushDataDown ctx r ns confirmed fPort data w =
      (pushDataDownIntent ctx r ns confirmed fPort data (w.macQueues ns.devEUI)).exec
        pushReporting r ns w := by
  unfold handlePushDataDown pushDataDownIntent getAndFilterMACQueueItems
  rcases pushDataDownTXInfo ctx ns data with _ | ⟨txInfo, dr⟩
  · rfl
  cases r.readQueue
  · rfl
  exact sendDataDown_deleteQueueItems pushReporting r ns txInfo _ _ w

/-- **`SendUplinkResponse` is its decision carried out.** -/
theorem sendUplinkResponse_eq (ctx : Context) (r : DownlinkReplies) (ns : NodeSession)
    (rxPacket : RXPacket) (w : World) :
    sendUplinkResponse ctx r ns rxPacket w =
      (uplinkResponseIntent ctx r ns rxPacket (w.macQueues ns.devEUI)).exec
        uplinkReporting r ns w := by
  unfold sendUplinkResponse uplinkResponseIntent getAndFilterMACQueueItems
  rcases uplinkResponseTXInfo ctx ns rxPacket with _ | ⟨macPL, txInfo, dr⟩
  · rfl
  cases r.readQueue
  · rfl
  dsimp only
  split
  · rfl
  · exact sendDataDown_deleteQueueItems uplinkReporting r ns txInfo _ _ w

/-! ### Either operation -/

/-- A downlink operation on a device's node-session, with what its collaborators answer:
the response to an uplink, or a push from the API. -/
inductive DownlinkOp
  | sendUplinkResponse (r : DownlinkReplies) (rxPacket : RXPacket)
  | handlePushDataDown (r : DownlinkReplies) (confirmed : Bool) (fPort : UInt8) (data : List UInt8)

namespace DownlinkOp

/-- What the collaborators answer. -/
def replies : DownlinkOp → DownlinkReplies
  | .sendUplinkResponse r _ => r
  | .handlePushDataDown r .. => r

/-- How the operation reports its errors. -/
def reporting : DownlinkOp → Reporting
  | .sendUplinkResponse .. => uplinkReporting
  | .handlePushDataDown .. => pushReporting

/-- The operation's decision. -/
def intent (ctx : Context) : DownlinkOp → NodeSession → List QueueItem → Intent
  | .sendUplinkResponse r rxPacket, ns, queue => uplinkResponseIntent ctx r ns rxPacket queue
  | .handlePushDataDown r confirmed fPort data, ns, queue =>
    pushDataDownIntent ctx r ns confirmed fPort data queue

/-- The operation, handed the node-session `ns`. -/
def call (ctx : Context) : DownlinkOp → NodeSession → World → Except GoError Unit × World
  | .sendUplinkResponse r rxPacket, ns, w => LoraServer.sendUplinkResponse ctx r ns rxPacket w
  | .handlePushDataDown r confirmed fPort data, ns, w =>
    LoraServer.handlePushDataDown ctx r ns confirmed fPort data w

theorem call_eq (ctx : Context) (op : DownlinkOp) (ns : NodeSession) (w : World) :
    op.call ctx ns w = (op.intent ctx ns (w.macQueues ns.devEUI)).exec op.reporting op.replies ns w := by
  cases op
  · exact sendUplinkResponse_eq ..
  · exact handlePushDataDown_eq ..

end DownlinkOp

end LoraServer

import LoraServer.Intent

/-!
# What a transmitted frame carries

`dataDownMACPayload` places the MAC commands in `FOpts` or, encrypted, in `FRMPayload`, and the
data on `FPort`; the lemmas below read each field off once, so that later proofs never unfold
it. `dataDownTXPacket_ok` says a packet is only built for a valid frame context, and
`DownlinkOp.intent_wellFormed` what every transmission decision satisfies: a data-down frame
whose `FCnt` is the session's `FCntDown` and whose `MType` says whether it is confirmed,
built from items taken from the queue in order.
-/

namespace LoraServer

/-! ### The fields of the frame -/

section Fields

variable (ns : NodeSession) (dd : DataDownFrameContext)

@[simp] lemma dataDownMACPayload_fhdr_devAddr : (dataDownMACPayload ns dd).fhdr.devAddr = ns.devAddr := by
  unfold dataDownMACPayload; split_ifs <;> rfl

@[simp] lemma dataDownMACPayload_fhdr_fCnt : (dataDownMACPayload ns dd).fhdr.fCnt = ns.fCntDown := by
  unfold dataDownMACPayload; split_ifs <;> rfl

@[simp] lemma dataDownMACPayload_fhdr_fCtrl :
    (dataDownMACPayload ns dd).fhdr.fCtrl =
      { adr := ns.adrInterval != 0, ack := dd.ack, fPending := dd.moreData } := by
  unfold dataDownMACPayload; split_ifs <;> rfl

lemma dataDownMACPayload_fhdr_fOpts :
    (dataDownMACPayload ns dd).fhdr.fOpts =
      if dd.macCommands ≠ [] ∧ dd.encryptMACCommands = false then dd.macCommands else [] := by
  unfold dataDownMACPayload; split_ifs <;> simp_all

lemma dataDownMACPayload_fPort :
    (dataDownMACPayload ns dd).fPort =
      if 0 < dd.fPort ∨ (dd.macCommands ≠ [] ∧ dd.encryptMACCommands) then some dd.fPort
      else none := by
  by_cases h : 0 < dd.fPort
  · simp [dataDownMACPayload, h]
  · simp only [dataDownMACPayload, h, if_false, false_or]
    split_ifs <;> simp_all

lemma dataDownMACPayload_frmPayload :
    (dataDownMACPayload ns dd).frmPayload =
      if 0 < dd.fPort then [.data dd.data]
      else if dd.macCommands ≠ [] ∧ dd.encryptMACCommands then
        encryptFRMPayload ns.nwkSKey (dd.macCommands.map .macCommand)
      else [] := by
  unfold dataDownMACPayload; split_ifs <;> simp_all

@[simp] lemma dataDownFrame_mType :
    (dataDownFrame ns dd).mType =
      if dd.confirmed then .confirmedDataDown else .unconfirmedDataDown := rfl

@[simp] lemma dataDownFrame_macPayload :
    (dataDownFrame ns dd).macPayload = .macPayload (dataDownMACPayload ns dd) := rfl

end Fields

/-! ### Building the packet -/

section Packet

variable {r : DownlinkReplies} {ns : NodeSession} {txInfo : TXInfo} {dd : DataDownFrameContext}

lemma dataDownTXPacket_ok {p : TXPacket} (h : dataDownTXPacket r ns txInfo dd = .ok p) :
    dd.validate = .ok () ∧ p = ⟨txInfo, dataDownFrame ns dd⟩ := by
  unfold dataDownTXPacket at h
  split at h
  · cases h
  rename_i hv
  split at h
  · cases h
  split at h
  · cases h
  cases h
  exact ⟨hv, rfl⟩

lemma dataDownTXPacket_eq_ok (hv : dd.validate = .ok ()) (he : r.encryptFRMPayload = .ok ())
    (hm : r.setMIC = .ok ()) :
    dataDownTXPacket r ns txInfo dd = .ok ⟨txInfo, dataDownFrame ns dd⟩ := by
  unfold dataDownTXPacket
  rw [hv]
  split_ifs <;> simp [he, hm]

lemma validate_eq_ok : dd.validate = .ok () ↔
    (dd.fPort = 0 → dd.data = []) ∧ (0 < dd.fPort → dd.encryptMACCommands = false) := by
  unfold DataDownFrameContext.validate
  by_cases h0 : dd.fPort = 0 <;> by_cases hd : dd.data = [] <;>
    cases he : dd.encryptMACCommands <;> simp_all [uint8_pos_iff]

end Packet

/-! ### What every transmission satisfies -/

lemma filterMACQueueItems_sublist (ctx : Context) (q : List QueueItem) (allowEncrypted : Bool)
    (n : ℤ) : (filterMACQueueItems ctx q allowEncrypted n).1.Sublist q := by
  unfold filterMACQueueItems
  split
  · exact List.nil_sublist _
  · split <;> exact ctx.filterItems_sublist ..

/-- A transmission decided on the session `ns` and the queue `q`: a data-down frame that
`SendDataDown` assembles from `ns`, confirmed as decided, built from items of `q` in order. -/
def Intent.WellFormed (ns : NodeSession) (q : List QueueItem) : Intent → Prop
  | .finish _ => True
  | .transmit p confirmed items =>
    ∃ dd : DataDownFrameContext, dd.confirmed = confirmed ∧
      p.phyPayload = dataDownFrame ns dd ∧ items.Sublist q

/-- **What `HandlePushDataDown` transmits.** Its TX parameters, the items it selects from the
queue for `FOpts`, and the valid frame context it builds from them and the data. -/
lemma pushDataDownIntent_transmit {ctx : Context} {r : DownlinkReplies} {ns : NodeSession}
    {confirmed : Bool} {fPort : UInt8} {data : List UInt8} {q : List QueueItem} {p : TXPacket}
    {c : Bool} {items : List QueueItem}
    (h : pushDataDownIntent ctx r ns confirmed fPort data q = .transmit p c items) :
    ∃ txInfo dr, pushDataDownTXInfo ctx ns data = .ok (txInfo, dr) ∧ r.readQueue = .ok () ∧
      items = (filterMACQueueItems ctx q false (ctx.band.maxPayloadSizeN dr - data.length)).1 ∧
      let dd : DataDownFrameContext :=
        { fPort, data, confirmed, macCommands := macQueueItemsToMACCommands ctx items }
      dd.validate = .ok () ∧ p = ⟨txInfo, dataDownFrame ns dd⟩ ∧ c = confirmed := by
  unfold pushDataDownIntent at h
  split at h
  · cases h
  rename_i txInfo dr hinfo
  split at h
  · cases h
  rename_i hq
  dsimp only at h
  split at h
  · cases h
  rename_i hp
  cases h
  obtain ⟨hv, rfl⟩ := dataDownTXPacket_ok hp
  exact ⟨txInfo, dr, hinfo, hq, rfl, hv, rfl, rfl⟩

/-- **What `SendUplinkResponse` transmits.** Its TX parameters, the application's payload, the
items it selects from the queue, and the valid frame context it builds from them when an
answer is due. -/
lemma uplinkResponseIntent_transmit {ctx : Context} {r : DownlinkReplies} {ns : NodeSession}
    {rxPacket : RXPacket} {q : List QueueItem} {p : TXPacket} {c : Bool} {items : List QueueItem}
    (h : uplinkResponseIntent ctx r ns rxPacket q = .transmit p c items) :
    ∃ macPL txInfo dr, uplinkResponseTXInfo ctx ns rxPacket = .ok (macPL, txInfo, dr) ∧
      r.readQueue = .ok () ∧
      let txPayload := getDataDownFromApplication ctx r dr
      let sel := filterMACQueueItems ctx q txPayload.isNone
        (uplinkRemainingPayloadSize ctx dr txPayload)
      let dd := uplinkDataDown rxPacket txPayload (macQueueItemsToMACCommands ctx sel.1)
        txPayload.isNone sel.2.1 sel.2.2
      items = sel.1 ∧ noUplinkResponse macPL txPayload dd = false ∧ dd.validate = .ok () ∧
        p = ⟨txInfo, dataDownFrame ns dd⟩ ∧ c = dd.confirmed := by
  unfold uplinkResponseIntent at h
  split at h
  · cases h
  rename_i macPL txInfo dr hinfo
  split at h
  · cases h
  rename_i hq
  dsimp only at h
  split at h
  · cases h
  rename_i hno
  split at h
  · cases h
  rename_i hp
  cases h
  obtain ⟨hv, rfl⟩ := dataDownTXPacket_ok hp
  exact ⟨macPL, txInfo, dr, hinfo, hq, rfl, by simpa using hno, hv, rfl, rfl⟩

theorem DownlinkOp.intent_wellFormed (ctx : Context) (op : DownlinkOp) (ns : NodeSession)
    (q : List QueueItem) : (op.intent ctx ns q).WellFormed ns q := by
  cases hi : op.intent ctx ns q with
  | finish => trivial
  | transmit p c items =>
    cases op with
    | sendUplinkResponse =>
      obtain ⟨-, -, -, -, -, rfl, -, -, rfl, rfl⟩ := uplinkResponseIntent_transmit hi
      exact ⟨_, rfl, rfl, filterMACQueueItems_sublist ..⟩
    | handlePushDataDown =>
      obtain ⟨-, -, -, -, rfl, -, rfl, rfl⟩ := pushDataDownIntent_transmit hi
      exact ⟨_, rfl, rfl, filterMACQueueItems_sublist ..⟩

end LoraServer

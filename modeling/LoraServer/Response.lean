import LoraServer.Runs

/-!
# What a downlink frame carries, and when an uplink is answered

Everything here reads the two decisions through `pushDataDownIntent_transmit` and
`uplinkResponseIntent_transmit`:

* `payload_within_maxPayloadSize`: the budgets handed to `getAndFilterMACQueueItems` are never
  negative, `FOpts` gets at most 15 bytes, and a frame's mac-commands and data fit the data
  rate it is sent at;
* `DownlinkOp.intent_macCommands`: a frame carries, in queue order, the selected items that
  decode, in `FOpts` or encrypted in `FRMPayload`, never in both;
* `uplinkResponseIntent_fPending`: an answer to an uplink sets `FPending` when the application
  has more data or items stay queued;
* `uplinkResponseIntent_transmits_iff` and `sendUplinkResponse_transmits`: when
  `SendUplinkResponse` answers, and that an answer carries the application's port and data
  when the port fits in a byte.
-/

namespace LoraServer

/-! ### The frame context of an answer -/

section UplinkDataDown

variable (rxPacket : RXPacket) (txPayload : Option GetDataDownResponse)
  (macCommands : List MACCommand) (allow enc pending : Bool)

@[simp] lemma uplinkDataDown_ack :
    (uplinkDataDown rxPacket txPayload macCommands allow enc pending).ack =
      decide (rxPacket.phyPayload.mType = .confirmedDataUp) := by
  cases txPayload <;> cases pending <;> cases allow <;> cases enc <;> rfl

@[simp] lemma uplinkDataDown_macCommands :
    (uplinkDataDown rxPacket txPayload macCommands allow enc pending).macCommands = macCommands := by
  cases txPayload <;> cases pending <;> cases allow <;> cases enc <;> rfl

@[simp] lemma uplinkDataDown_encryptMACCommands :
    (uplinkDataDown rxPacket txPayload macCommands allow enc pending).encryptMACCommands =
      (allow && enc) := by
  cases txPayload <;> cases pending <;> cases allow <;> cases enc <;> rfl

@[simp] lemma uplinkDataDown_fPort :
    (uplinkDataDown rxPacket txPayload macCommands allow enc pending).fPort =
      (txPayload.map (·.fPort.toUInt8)).getD 0 := by
  cases txPayload <;> cases pending <;> cases allow <;> cases enc <;> rfl

@[simp] lemma uplinkDataDown_data :
    (uplinkDataDown rxPacket txPayload macCommands allow enc pending).data =
      (txPayload.map (·.data)).getD [] := by
  cases txPayload <;> cases pending <;> cases allow <;> cases enc <;> rfl

@[simp] lemma uplinkDataDown_moreData :
    (uplinkDataDown rxPacket txPayload macCommands allow enc pending).moreData =
      ((txPayload.map (·.moreData)).getD false || pending) := by
  cases txPayload <;> cases pending <;> cases allow <;> cases enc <;> simp [uplinkDataDown]

lemma noUplinkResponse_eq_true (macPL : MACPayload) :
    noUplinkResponse macPL txPayload
        (uplinkDataDown rxPacket txPayload macCommands allow enc pending) = true ↔
      txPayload = none ∧ rxPacket.phyPayload.mType ≠ .confirmedDataUp ∧ macCommands = [] ∧
        macPL.fhdr.fCtrl.adrACKReq = false := by
  cases txPayload <;> simp [noUplinkResponse, and_assoc]

end UplinkDataDown

/-! ### The application's payload and the TX parameters -/

section Parameters

variable {ctx : Context} {r : DownlinkReplies} {ns : NodeSession} {dr : Fin ctx.band.dataRates.length}
  {txInfo : TXInfo}

lemma getDataDownFromApplication_eq_some {resp : GetDataDownResponse} :
    getDataDownFromApplication ctx r dr = some resp ↔
      r.getDataDown = .ok (some resp) ∧ resp.fPort ≠ 0 ∧
        resp.data.length ≤ ctx.band.maxPayloadSizeN dr := by
  unfold getDataDownFromApplication
  split
  · simp_all
  · simp_all
  · split_ifs <;> simp_all [eq_comm]

lemma uplinkRemainingPayloadSize_nonneg (ctx : Context) (r : DownlinkReplies)
    (dr : Fin ctx.band.dataRates.length) :
    0 ≤ uplinkRemainingPayloadSize ctx dr (getDataDownFromApplication ctx r dr) := by
  cases h : getDataDownFromApplication ctx r dr with
  | none => exact Int.ofNat_zero_le _
  | some resp =>
    have := (getDataDownFromApplication_eq_some.mp h).2.2
    simp only [uplinkRemainingPayloadSize]
    omega

lemma pushDataDownTXInfo_ok {data : List UInt8}
    (h : pushDataDownTXInfo ctx ns data = .ok (txInfo, dr)) :
    data.length ≤ ctx.band.maxPayloadSizeN dr ∧ txInfo.dataRate = ctx.band.dataRate dr := by
  unfold pushDataDownTXInfo at h
  dsimp only at h
  split_ifs at h with h1 h2 h3
  simp only [Except.ok.injEq, Prod.mk.injEq] at h
  obtain ⟨rfl, rfl⟩ := h
  exact ⟨by omega, rfl⟩

lemma getDataDownTXInfoAndDR_dataRate {rxInfo : RXInfo}
    (h : getDataDownTXInfoAndDR ctx ns rxInfo = .ok (txInfo, dr)) :
    txInfo.dataRate = ctx.band.dataRate dr := by
  unfold getDataDownTXInfoAndDR at h
  dsimp only at h
  split_ifs at h
  · repeat' (split at h; · cases h)
    simp only [Except.ok.injEq, Prod.mk.injEq] at h
    obtain ⟨rfl, rfl⟩ := h
    rfl
  · simp only [Except.ok.injEq, Prod.mk.injEq] at h
    obtain ⟨rfl, rfl⟩ := h
    rfl

lemma uplinkResponseTXInfo_dataRate {rxPacket : RXPacket} {macPL : MACPayload}
    (h : uplinkResponseTXInfo ctx ns rxPacket = .ok (macPL, txInfo, dr)) :
    txInfo.dataRate = ctx.band.dataRate dr := by
  unfold uplinkResponseTXInfo at h
  split at h
  · cases h
  split at h
  · cases h
  rename_i hinfo
  simp only [Except.ok.injEq, Prod.mk.injEq] at h
  obtain ⟨-, rfl, rfl⟩ := h
  exact getDataDownTXInfoAndDR_dataRate hinfo

end Parameters

/-! ### Selecting queue items -/

section Filter

variable (ctx : Context) (q : List QueueItem) (allow : Bool) (b : ℤ)

lemma filterMACQueueItems_encrypted (h : (filterMACQueueItems ctx q allow b).2.1 = true) :
    allow = true ∧ ∃ hd tl, q = hd :: tl ∧ hd.frmPayload = true := by
  unfold filterMACQueueItems at h
  split at h
  · exact absurd h Bool.false_ne_true
  · split at h
    · rename_i hd tl hh
      simp only [Bool.and_eq_true] at hh
      exact ⟨hh.1, hd, tl, rfl, hh.2⟩
    · exact absurd h Bool.false_ne_true

lemma filterMACQueueItems_pending :
    (filterMACQueueItems ctx q allow b).2.2 =
      ((filterMACQueueItems ctx q allow b).1.length != q.length) := by
  unfold filterMACQueueItems
  split
  · rfl
  · split <;> rfl

lemma filterMACQueueItems_size (hb : 0 ≤ b) :
    (dataSize (filterMACQueueItems ctx q allow b).1 : ℤ) ≤ b ∧
    ((filterMACQueueItems ctx q allow b).2.1 = false →
      dataSize (filterMACQueueItems ctx q allow b).1 ≤ 15) := by
  unfold filterMACQueueItems
  split
  · simpa using hb
  · dsimp only
    split
    · exact ⟨ctx.filterItems_size _ _ _ hb, fun h => by simp at h⟩
    · rename_i hd tl _
      dsimp only
      have hm : 0 ≤ (if b > 15 then 15 else b) ∧ (if b > 15 then 15 else b) ≤ min b 15 := by
        split <;> omega
      have h := ctx.filterItems_size (hd :: tl) false _ hm.1
      exact ⟨by omega, fun _ => by omega⟩

lemma macQueueItemsToMACCommands_size : ∀ items : List QueueItem,
    ((macQueueItemsToMACCommands ctx items).map fun m => m.marshal.length).sum ≤
      dataSize items
  | [] => by simp [macQueueItemsToMACCommands]
  | qi :: items => by
    have ih := macQueueItemsToMACCommands_size items
    simp only [macQueueItemsToMACCommands, List.filterMap_cons, dataSize_cons] at ih ⊢
    cases hm : ctx.unmarshalMACCommand qi.data with
    | none => simp only; omega
    | some m =>
      simp only [List.map_cons, List.sum_cons, ctx.marshal_unmarshalMACCommand _ _ hm]
      omega

end Filter

/-! ### Budgets -/

/-- A frame fits the data rate it is sent at: the queue items it was built from and its data
take at most `N` bytes of `MaxPayloadSize`, and its `FOpts` at most 15. -/
def FitsDataRate (ctx : Context) (ns : NodeSession) (p : TXPacket) (items : List QueueItem) :
    Prop :=
  ∃ dd : DataDownFrameContext, ∃ dr : Fin ctx.band.dataRates.length,
    p.phyPayload = dataDownFrame ns dd ∧ p.txInfo.dataRate = ctx.band.dataRate dr ∧
    dataSize items + dd.data.length ≤ ctx.band.maxPayloadSizeN dr ∧
    ((dataDownMACPayload ns dd).fhdr.fOpts.map fun m => m.marshal.length).sum ≤ 15

section Fits

variable {ctx : Context} {ns : NodeSession} {q items : List QueueItem} {p : TXPacket} {c : Bool}

lemma fOpts_size {dd : DataDownFrameContext}
    (hm : dd.macCommands = macQueueItemsToMACCommands ctx items)
    (h15 : dd.encryptMACCommands = false → dataSize items ≤ 15) :
    ((dataDownMACPayload ns dd).fhdr.fOpts.map fun m => m.marshal.length).sum ≤ 15 := by
  rw [dataDownMACPayload_fhdr_fOpts]
  split_ifs with h
  · rw [hm]
    exact (macQueueItemsToMACCommands_size ctx items).trans (h15 h.2)
  · simp

lemma pushDataDownIntent_fits {r : DownlinkReplies} {confirmed : Bool} {fPort : UInt8}
    {data : List UInt8} (h : pushDataDownIntent ctx r ns confirmed fPort data q = .transmit p c items) :
    FitsDataRate ctx ns p items := by
  obtain ⟨txInfo, dr, hinfo, -, rfl, -, rfl, -⟩ := pushDataDownIntent_transmit h
  obtain ⟨hlen, hdr⟩ := pushDataDownTXInfo_ok hinfo
  have hsize := filterMACQueueItems_size ctx q false (ctx.band.maxPayloadSizeN dr - data.length)
    (by omega)
  have hplain : (filterMACQueueItems ctx q false
      (ctx.band.maxPayloadSizeN dr - data.length)).2.1 = false :=
    Bool.eq_false_iff.mpr fun he => Bool.false_ne_true (filterMACQueueItems_encrypted _ _ _ _ he).1
  exact ⟨_, dr, rfl, hdr, by dsimp only; omega, fOpts_size rfl fun _ => hsize.2 hplain⟩

lemma uplinkResponseIntent_fits {r : DownlinkReplies} {rxPacket : RXPacket}
    (h : uplinkResponseIntent ctx r ns rxPacket q = .transmit p c items) :
    FitsDataRate ctx ns p items := by
  obtain ⟨macPL, txInfo, dr, hinfo, -, rfl, -, -, rfl, -⟩ := uplinkResponseIntent_transmit h
  have hsize := filterMACQueueItems_size ctx q (getDataDownFromApplication ctx r dr).isNone _
    (uplinkRemainingPayloadSize_nonneg ctx r dr)
  refine ⟨_, dr, rfl, uplinkResponseTXInfo_dataRate hinfo, ?_, fOpts_size (uplinkDataDown_macCommands ..) fun he => ?_⟩
  · cases ha : getDataDownFromApplication ctx r dr <;>
      simp only [ha, uplinkRemainingPayloadSize, uplinkDataDown_data, Option.map_none',
        Option.map_some', Option.getD_none, Option.getD_some, List.length_nil] at hsize ⊢ <;>
      omega
  · -- in `FOpts` the items were selected with the 15-byte budget
    cases hs : (filterMACQueueItems ctx q (getDataDownFromApplication ctx r dr).isNone
      (uplinkRemainingPayloadSize ctx dr (getDataDownFromApplication ctx r dr))).2.1
    · exact hsize.2 hs
    · rw [uplinkDataDown_encryptMACCommands, hs, (filterMACQueueItems_encrypted _ _ _ _ hs).1] at he
      exact absurd he (by decide)

end Fits

/-- **Payload budgets.** `HandlePushDataDown` and `SendUplinkResponse` leave a non-negative
budget for mac-commands once the data is counted, at most 15 bytes of it go to `FOpts`, and
every frame either sends fits the data rate it is sent at. -/
theorem payload_within_maxPayloadSize (ctx : Context) :
    (∀ ns data txInfo dr, pushDataDownTXInfo ctx ns data = .ok (txInfo, dr) →
      0 ≤ (ctx.band.maxPayloadSizeN dr : ℤ) - data.length) ∧
    (∀ r dr, 0 ≤ uplinkRemainingPayloadSize ctx dr (getDataDownFromApplication ctx r dr)) ∧
    (∀ q allow b, 0 ≤ b →
      (dataSize (filterMACQueueItems ctx q allow b).1 : ℤ) ≤ b ∧
      ((filterMACQueueItems ctx q allow b).2.1 = false →
        dataSize (filterMACQueueItems ctx q allow b).1 ≤ 15)) ∧
    (∀ (op : DownlinkOp) ns q p c items, op.intent ctx ns q = .transmit p c items →
      FitsDataRate ctx ns p items) :=
  ⟨fun _ _ _ _ h => by have := (pushDataDownTXInfo_ok h).1; omega,
   uplinkRemainingPayloadSize_nonneg ctx,
   fun q allow _ hb => filterMACQueueItems_size ctx q allow _ hb,
   fun op _ _ _ _ _ h => by
     cases op
     · exact uplinkResponseIntent_fits h
     · exact pushDataDownIntent_fits h⟩

/-! ### The mac-commands of a frame -/

/-- **The mac-commands of a frame.** A frame carries, in queue order, the items it was built
from that decode. They go encrypted in `FRMPayload` only in an answer to an uplink, with no
application payload, whose queue starts with an `FRMPayload` item. -/
theorem DownlinkOp.intent_macCommands {ctx : Context} {op : DownlinkOp} {ns : NodeSession}
    {q : List QueueItem} {p : TXPacket} {c : Bool} {items : List QueueItem}
    (h : op.intent ctx ns q = .transmit p c items) :
    items.Sublist q ∧ ∃ dd, p.phyPayload = dataDownFrame ns dd ∧ dd.confirmed = c ∧
      dd.validate = .ok () ∧ dd.macCommands = macQueueItemsToMACCommands ctx items ∧
      (dd.encryptMACCommands = true → dd.fPort = 0 ∧ dd.data = [] ∧
        (∃ hd tl, q = hd :: tl ∧ hd.frmPayload = true) ∧
        ∃ r rxPacket, op = .sendUplinkResponse r rxPacket) := by
  cases op with
  | sendUplinkResponse r rxPacket =>
    obtain ⟨-, -, dr, -, -, rfl, -, hv, rfl, rfl⟩ := uplinkResponseIntent_transmit h
    refine ⟨filterMACQueueItems_sublist .., _, rfl, rfl, hv, by simp, fun he => ?_⟩
    simp only [uplinkDataDown_encryptMACCommands, Bool.and_eq_true, Option.isNone_iff_eq_none] at he
    obtain ⟨-, hd, tl, rfl, hhd⟩ := filterMACQueueItems_encrypted _ _ _ _ he.2
    exact ⟨by simp [he.1], by simp [he.1], ⟨hd, tl, rfl, hhd⟩, r, rxPacket, rfl⟩
  | handlePushDataDown r confirmed fPort data =>
    obtain ⟨-, dr, -, -, rfl, hv, rfl, rfl⟩ := pushDataDownIntent_transmit h
    exact ⟨filterMACQueueItems_sublist .., _, rfl, rfl, hv, rfl, fun he => absurd he Bool.false_ne_true⟩

/-- A push with a `DevStatusReq` queued sends it in `FOpts`. -/
theorem intent_macCommands_devStatusReq :
    let op := DownlinkOp.handlePushDataDown (DownlinkReplies.succeeding (.ok none)) false 1 [1]
    let txInfo : TXInfo :=
      { mac := scenarioRXInfo.mac, immediately := true, frequency := 869525000, power := 14,
        dataRate := ⟨"LORA", 12, 125, 0⟩, codeRate := "4/5" }
    let dd : DataDownFrameContext :=
      { fPort := 1, data := [1], confirmed := false, macCommands := [⟨0x06, []⟩] }
    let p : TXPacket := ⟨txInfo, dataDownFrame (scenarioSession 5) dd⟩
    let q : List QueueItem := [⟨[0x06], false, false⟩]
    op.intent eu868Context (scenarioSession 5) q = .transmit p false q ∧
    (q.Sublist q ∧ ∃ dd, p.phyPayload = dataDownFrame (scenarioSession 5) dd ∧ dd.confirmed = false ∧
      dd.validate = .ok () ∧ dd.macCommands = macQueueItemsToMACCommands eu868Context q ∧
      (dd.encryptMACCommands = true → dd.fPort = 0 ∧ dd.data = [] ∧
        (∃ hd tl, q = hd :: tl ∧ hd.frmPayload = true) ∧
        ∃ r rxPacket, op = .sendUplinkResponse r rxPacket)) :=
  have h := by rfl
  ⟨h, DownlinkOp.intent_macCommands h⟩

/-! ### `FPending` -/

/-- An answer to an uplink sets `FPending` exactly when the application's payload says more
data is waiting or items stay on the queue. -/
theorem uplinkResponseIntent_fPending {ctx : Context} {r : DownlinkReplies} {ns : NodeSession}
    {rxPacket : RXPacket} {q : List QueueItem} {p : TXPacket} {c : Bool} {items : List QueueItem}
    (h : uplinkResponseIntent ctx r ns rxPacket q = .transmit p c items) :
    ∃ macPL txInfo dr, uplinkResponseTXInfo ctx ns rxPacket = .ok (macPL, txInfo, dr) ∧
      p.phyPayload.macPayload.macPayload?.map (·.fhdr.fCtrl.fPending) =
        some (((getDataDownFromApplication ctx r dr).map (·.moreData)).getD false ||
          items.length != q.length) := by
  obtain ⟨macPL, txInfo, dr, hinfo, -, rfl, -, -, rfl, -⟩ := uplinkResponseIntent_transmit h
  exact ⟨macPL, txInfo, dr, hinfo, by simp [PHYBody.macPayload?, filterMACQueueItems_pending]⟩

/-- An answer to an unconfirmed uplink with three 6-byte `NewChannelReq`s queued and nothing
from the application: two fit in `FOpts`, and `FPending` is set for the third. -/
theorem uplinkResponseIntent_fPending_newChannelReqs :
    let r := DownlinkReplies.succeeding (.ok none)
    let newChannelReq : QueueItem := ⟨[0x07, 0, 0, 0, 0, 0], false, false⟩
    let q := [newChannelReq, newChannelReq, newChannelReq]
    let txInfo : TXInfo :=
      { mac := scenarioRXInfo.mac, timestamp := 3000000, frequency := 869525000, power := 14,
        dataRate := ⟨"LORA", 12, 125, 0⟩, codeRate := "4/5" }
    let cmds : List MACCommand := [⟨0x07, [0, 0, 0, 0, 0]⟩, ⟨0x07, [0, 0, 0, 0, 0]⟩]
    let p : TXPacket :=
      ⟨txInfo, dataDownFrame (scenarioSession 5) (uplinkDataDown (scenarioUplink false) none cmds
        true false true)⟩
    uplinkResponseIntent eu868Context r (scenarioSession 5) (scenarioUplink false) q =
      .transmit p false [newChannelReq, newChannelReq] ∧
    ∃ macPL txInfo dr, uplinkResponseTXInfo eu868Context (scenarioSession 5) (scenarioUplink false) =
        .ok (macPL, txInfo, dr) ∧
      p.phyPayload.macPayload.macPayload?.map (·.fhdr.fCtrl.fPending) =
        some (((getDataDownFromApplication eu868Context r dr).map (·.moreData)).getD false ||
          [newChannelReq, newChannelReq].length != q.length) :=
  have h := by rfl
  ⟨h, uplinkResponseIntent_fPending h⟩

/-- Three 6-byte `NewChannelReq`s, for channels 3, 4 and 5, do not fit in `FOpts`: a push sends
the first two and leaves the third queued with `FPending` clear, where an answer to an uplink on
the same queue sets it. -/
theorem push_leaves_fPending_clear :
    let newChannelReq : UInt8 → QueueItem := fun ch => ⟨[0x07, ch, 0, 0, 0, 0], false, false⟩
    let w := World.single (scenarioSession 5) [newChannelReq 3, newChannelReq 4, newChannelReq 5]
    let pushed := (handlePushDataDown eu868Context (DownlinkReplies.succeeding (.ok none))
      (scenarioSession 5) false 1 [1] w).2
    let answered := (sendUplinkResponse eu868Context (DownlinkReplies.succeeding (.ok none))
      (scenarioSession 5) (scenarioUplink false) w).2
    pushed.txPackets.map (·.phyPayload.macPayload.macPayload?.map (·.fhdr.fCtrl.fPending)) =
      [some false] ∧
    pushed.macQueues scenarioDevEUI = [newChannelReq 5] ∧
    answered.txPackets.map (·.phyPayload.macPayload.macPayload?.map (·.fhdr.fCtrl.fPending)) =
      [some true] := by
  decide

/-! ### When an uplink is answered -/

section Answer

variable {ctx : Context} {r : DownlinkReplies} {ns : NodeSession} {rxPacket : RXPacket}
  {q : List QueueItem} {macPL : MACPayload} {txInfo : TXInfo} {dr : Fin ctx.band.dataRates.length}

lemma uplinkDataDown_validate
    (hport : ∀ resp, r.getDataDown = .ok (some resp) → resp.fPort.toNat < 256)
    (rxPacket : RXPacket) (macCommands : List MACCommand) (enc pending : Bool) :
    (uplinkDataDown rxPacket (getDataDownFromApplication ctx r dr) macCommands
      (getDataDownFromApplication ctx r dr).isNone enc pending).validate = .ok () := by
  rw [validate_eq_ok]
  cases ha : getDataDownFromApplication ctx r dr with
  | none => simp
  | some resp =>
    obtain ⟨hg, h0, -⟩ := getDataDownFromApplication_eq_some.mp ha
    simp [uint32_toUInt8_ne_zero h0 (hport _ hg)]

/-- The decision of `SendUplinkResponse` once its TX parameters are known, with the queue and
the codec answering and an application port below 256: it transmits when the application has
a payload that fits, a selected queue item decodes, the uplink was confirmed or it set
`ADRACKReq`, and returns nil otherwise. -/
lemma uplinkResponseIntent_cases
    (hinfo : uplinkResponseTXInfo ctx ns rxPacket = .ok (macPL, txInfo, dr))
    (hq : r.readQueue = .ok ()) (he : r.encryptFRMPayload = .ok ()) (hm : r.setMIC = .ok ())
    (hport : ∀ resp, r.getDataDown = .ok (some resp) → resp.fPort.toNat < 256) :
    let txPayload := getDataDownFromApplication ctx r dr
    let answers : Prop := txPayload.isSome ∨
      macQueueItemsToMACCommands ctx (filterMACQueueItems ctx q txPayload.isNone
        (uplinkRemainingPayloadSize ctx dr txPayload)).1 ≠ [] ∨
      rxPacket.phyPayload.mType = .confirmedDataUp ∨ macPL.fhdr.fCtrl.adrACKReq = true
    (answers ∧ ∃ p c items, uplinkResponseIntent ctx r ns rxPacket q = .transmit p c items) ∨
      (¬answers ∧ uplinkResponseIntent ctx r ns rxPacket q = .finish (.ok ())) := by
  simp only [uplinkResponseIntent, hinfo, hq,
    dataDownTXPacket_eq_ok (uplinkDataDown_validate hport _ _ _ _) he hm]
  generalize getDataDownFromApplication ctx r dr = txPayload
  split_ifs with hno <;> rw [noUplinkResponse_eq_true] at hno
  · obtain ⟨rfl, h1, h2, h3⟩ := hno
    simp only [Option.isNone_none] at h2
    exact .inr ⟨by simp [h1, h2, h3], rfl⟩
  · refine .inl ⟨?_, _, _, _, rfl⟩
    cases txPayload <;> simp_all [or_iff_not_imp_left]

/-- **When `SendUplinkResponse` answers.** Once its TX parameters are known, with the queue, the
codec and the gateway answering and an application port below 256, `SendUplinkResponse`
transmits iff the application has a payload that fits, a selected queue item decodes, the
uplink was confirmed, or it set `ADRACKReq`. -/
theorem uplinkResponseIntent_transmits_iff
    (hinfo : uplinkResponseTXInfo ctx ns rxPacket = .ok (macPL, txInfo, dr))
    (hq : r.readQueue = .ok ()) (he : r.encryptFRMPayload = .ok ()) (hm : r.setMIC = .ok ())
    (hport : ∀ resp, r.getDataDown = .ok (some resp) → resp.fPort.toNat < 256) :
    (∃ p c items, uplinkResponseIntent ctx r ns rxPacket q = .transmit p c items) ↔
      let txPayload := getDataDownFromApplication ctx r dr
      txPayload.isSome ∨
      macQueueItemsToMACCommands ctx (filterMACQueueItems ctx q txPayload.isNone
        (uplinkRemainingPayloadSize ctx dr txPayload)).1 ≠ [] ∨
      rxPacket.phyPayload.mType = .confirmedDataUp ∨ macPL.fhdr.fCtrl.adrACKReq = true := by
  rcases uplinkResponseIntent_cases hinfo hq he hm hport with ⟨ha, ht⟩ | ⟨hna, hf⟩
  · exact iff_of_true ht ha
  · exact iff_of_false (fun ⟨_, _, _, h⟩ => Intent.noConfusion (hf.symm.trans h)) hna

/-- An unconfirmed uplink without `ADRACKReq`, an empty queue and nothing from the application:
no answer. -/
theorem uplinkResponseIntent_transmits_iff_silent :
    let r := DownlinkReplies.succeeding (.ok none)
    let macPL : MACPayload :=
      { fhdr := { devAddr := ⟨[1, 2, 3, 4], rfl⟩, fCtrl := {}, fCnt := 10 } }
    let txInfo : TXInfo :=
      { mac := scenarioRXInfo.mac, timestamp := 3000000, frequency := 869525000, power := 14,
        dataRate := ⟨"LORA", 12, 125, 0⟩, codeRate := "4/5" }
    let dr : Fin eu868Context.band.dataRates.length := ⟨0, by decide⟩
    (uplinkResponseTXInfo eu868Context (scenarioSession 5) (scenarioUplink false) =
        .ok (macPL, txInfo, dr) ∧
      r.readQueue = .ok () ∧ r.encryptFRMPayload = .ok () ∧ r.setMIC = .ok () ∧
      ∀ resp, r.getDataDown = .ok (some resp) → resp.fPort.toNat < 256) ∧
    ((∃ p c items, uplinkResponseIntent eu868Context r (scenarioSession 5) (scenarioUplink false) [] =
        .transmit p c items) ↔
      let txPayload := getDataDownFromApplication eu868Context r dr
      txPayload.isSome ∨
      macQueueItemsToMACCommands eu868Context (filterMACQueueItems eu868Context [] txPayload.isNone
        (uplinkRemainingPayloadSize eu868Context dr txPayload)).1 ≠ [] ∨
      (scenarioUplink false).phyPayload.mType = .confirmedDataUp ∨
      macPL.fhdr.fCtrl.adrACKReq = true) :=
  have hinfo := by decide
  have hport : ∀ resp, (DownlinkReplies.succeeding (.ok none)).getDataDown = .ok (some resp) →
      resp.fPort.toNat < 256 := fun _ h => by simp [DownlinkReplies.succeeding] at h
  ⟨⟨hinfo, rfl, rfl, rfl, hport⟩, uplinkResponseIntent_transmits_iff hinfo rfl rfl rfl hport⟩

theorem uplinkResponseIntent_appPayload {resp : GetDataDownResponse} {p : TXPacket} {c : Bool}
    {items : List QueueItem}
    (hinfo : uplinkResponseTXInfo ctx ns rxPacket = .ok (macPL, txInfo, dr))
    (ha : getDataDownFromApplication ctx r dr = some resp) (hport : resp.fPort.toNat < 256)
    (h : uplinkResponseIntent ctx r ns rxPacket q = .transmit p c items) :
    ∃ m, p.phyPayload.macPayload = .macPayload m ∧ m.fPort.map UInt8.toNat = some resp.fPort.toNat ∧
      m.frmPayload = [.data resp.data] ∧
      (m.fhdr.fCtrl.ack = true ↔ rxPacket.phyPayload.mType = .confirmedDataUp) := by
  obtain ⟨macPL', txInfo', dr', hinfo', -, rfl, -, -, rfl, -⟩ := uplinkResponseIntent_transmit h
  rw [hinfo] at hinfo'
  obtain ⟨-, -, rfl⟩ : macPL = macPL' ∧ txInfo = txInfo' ∧ dr = dr' := by simpa using hinfo'
  have hpos : 0 < resp.fPort.toUInt8 :=
    (uint8_pos_iff _).mpr (uint32_toUInt8_ne_zero (getDataDownFromApplication_eq_some.mp ha).2.1 hport)
  refine ⟨_, rfl, ?_, ?_, by simp⟩
  · simp [dataDownMACPayload_fPort, ha, hpos, uint32_toNat_toUInt8, Nat.mod_eq_of_lt hport]
  · simp [dataDownMACPayload_frmPayload, ha, hpos]

end Answer

end LoraServer

import LoraServer.Runs
import LoraServer.Api

/-!
# Errors

* `error_before_gateway_changes_nothing`: an operation that fails before a gateway accepted
  its frame leaves the session handed to `SendDataDown`, the stored sessions and every
  MAC-command queue as they were;
* `handlePushDataDown_error_cause`: the cause of every error of `HandlePushDataDown`, and so
  `handlePushDataDown_rpcCode`, the gRPC status the API answers a failed push with.
-/

namespace LoraServer

/-! ### Nothing changes before the gateway accepts a frame -/

lemma sendDataDown_unchanged_or_sent (r : DownlinkReplies) (ns : NodeSession) (txInfo : TXInfo)
    (dd : DataDownFrameContext) (w : World) :
    ((sendDataDown r ns txInfo dd w).1.2 = ns ∧ (sendDataDown r ns txInfo dd w).2 = w) ∨
      ∃ p, (sendDataDown r ns txInfo dd w).2.txPackets = w.txPackets ++ [p] := by
  unfold sendDataDown sendAndSave
  split
  · exact .inl ⟨rfl, rfl⟩
  rename_i p _
  split
  · exact .inl ⟨rfl, rfl⟩
  refine .inr ⟨p, ?_⟩
  dsimp only
  split_ifs
  · rfl
  · split <;> rfl

/-- Carrying out a decision either changes nothing or records exactly one packet. -/
lemma Intent.exec_unchanged_or_sent (rep : Reporting) (r : DownlinkReplies) (ns : NodeSession)
    (i : Intent) (w : World) :
    (i.exec rep r ns w).2 = w ∨ ∃ p, (i.exec rep r ns w).2.txPackets = w.txPackets ++ [p] := by
  cases i with
  | finish => exact .inl rfl
  | transmit p c items =>
    rcases exec_transmit rep r ns p c items w with ⟨-, hw⟩ | ⟨-, -, -, hw⟩ | ⟨-, -, k, hw, -⟩
    · exact .inl hw
    · exact .inr ⟨p, by rw [hw]; rfl⟩
    · exact .inr ⟨p, by rw [hw]; split_ifs <;> simp⟩

lemma txPackets_ne_of_sent {w w' : World} {p : TXPacket} (h : w'.txPackets = w.txPackets ++ [p]) :
    w'.txPackets ≠ w.txPackets := by
  simp [h]

section Causes

lemma runCalls_error {cs : List Call} {final : Except GoError Unit} {w : World} {e : GoError}
    (h : (runCalls cs final w).1 = .error e) :
    (∃ c ∈ cs, ∃ s, e = c.report s) ∨ final = .error e := by
  induction cs generalizing w with
  | nil => exact .inr h
  | cons c cs ih =>
    simp only [runCalls] at h
    split at h
    · rename_i s _
      exact .inl ⟨c, .head _, s, (Except.error.inj h).symm⟩
    · rcases ih h with ⟨c', hc', s, rfl⟩ | hf
      · exact .inl ⟨c', .tail _ hc', s, rfl⟩
      · exact .inr hf

lemma deleteCalls_report_cause (r : DownlinkReplies) (devEUI : EUI64) :
    ∀ i items, ∀ c ∈ deleteCalls pushReporting r devEUI i items, ∀ s,
      (c.report s).cause = .external s
  | _, [] => by simp [deleteCalls]
  | i, _ :: items => by
    simp only [deleteCalls, List.mem_cons, forall_eq_or_imp]
    exact ⟨fun _ => rfl, deleteCalls_report_cause r devEUI (i + 1) items⟩

lemma transmitCalls_report_cause (r : DownlinkReplies) (ns : NodeSession) (p : TXPacket)
    (confirmed : Bool) (items : List QueueItem) :
    ∀ c ∈ transmitCalls pushReporting r ns p confirmed items, ∀ s,
      (c.report s).cause = .external s := by
  simp only [transmitCalls, List.mem_cons, List.mem_append, forall_eq_or_imp]
  refine ⟨fun _ => rfl, fun c hc => ?_⟩
  rcases hc with hc | hc
  · split_ifs at hc
    · cases hc
    · rw [List.mem_singleton.mp hc]
      exact fun _ => rfl
  · exact deleteCalls_report_cause r ns.devEUI 0 items c hc

lemma validate_error {dd : DataDownFrameContext} {e : GoError} (h : dd.validate = .error e) :
    (e = .sentinel .errFPortMustNotBeZero ∧ dd.fPort = 0 ∧ dd.data ≠ []) ∨
    (e = .sentinel .errFPortMustBeZero ∧ 0 < dd.fPort ∧ dd.encryptMACCommands = true) := by
  unfold DataDownFrameContext.validate at h
  split_ifs at h with h1 h2
  · exact .inl ⟨(Except.error.inj h).symm, h1⟩
  · exact .inr ⟨(Except.error.inj h).symm, h2⟩

lemma dataDownTXPacket_error {r : DownlinkReplies} {ns : NodeSession} {txInfo : TXInfo}
    {dd : DataDownFrameContext} {e : GoError} (h : dataDownTXPacket r ns txInfo dd = .error e) :
    (∃ v, dd.validate = .error v ∧ e = .wrap v "validation error") ∨
      ∃ s, e.cause = .external s := by
  unfold dataDownTXPacket at h
  split at h
  · rename_i v hv
    exact .inl ⟨v, hv, (Except.error.inj h).symm⟩
  split at h
  · rename_i s _
    exact .inr ⟨s, by rw [← Except.error.inj h]; rfl⟩
  split at h
  · rename_i s _
    exact .inr ⟨s, by rw [← Except.error.inj h]; rfl⟩
  · cases h

lemma pushDataDownTXInfo_error {ctx : Context} {ns : NodeSession} {data : List UInt8}
    {e : GoError} (h : pushDataDownTXInfo ctx ns data = .error e) :
    (e = .sentinel .errNoLastRXInfoSet ∧ ns.lastRXInfoSet = []) ∨
    (e.cause = .sentinel .errInvalidDataRate ∧ ctx.band.dataRates.length ≤ ns.rx2DR.toNat) ∨
    (e.cause = .sentinel .errMaxPayloadSizeExceeded ∧
      ∃ dr : Fin ctx.band.dataRates.length, dr.val = ns.rx2DR.toNat ∧
        ctx.band.maxPayloadSizeN dr < data.length) := by
  unfold pushDataDownTXInfo at h
  dsimp only at h
  split_ifs at h with h1 h2 h3
  · exact .inl ⟨(Except.error.inj h).symm, h1⟩
  · exact .inr (.inl ⟨by rw [← Except.error.inj h]; rfl, by omega⟩)
  · exact .inr (.inr ⟨by rw [← Except.error.inj h]; rfl, ⟨ns.rx2DR.toNat, by omega⟩, rfl, by omega⟩)

end Causes

/-- **The errors of `HandlePushDataDown`.** The cause of each is the package error of one of
its checks (no gateway heard the device, an RX2 data rate the band lacks, data too long for
it, data on port 0) or an error that is not one of the package's. -/
theorem handlePushDataDown_error_cause (ctx : Context) (r : DownlinkReplies) (ns : NodeSession)
    (confirmed : Bool) (fPort : UInt8) (data : List UInt8) (w : World) (e : GoError)
    (h : (handlePushDataDown ctx r ns confirmed fPort data w).1 = .error e) :
    (e.cause = .sentinel .errNoLastRXInfoSet ∧ ns.lastRXInfoSet = []) ∨
    (e.cause = .sentinel .errInvalidDataRate ∧ ctx.band.dataRates.length ≤ ns.rx2DR.toNat) ∨
    (e.cause = .sentinel .errMaxPayloadSizeExceeded ∧
      ∃ dr : Fin ctx.band.dataRates.length, dr.val = ns.rx2DR.toNat ∧
        ctx.band.maxPayloadSizeN dr < data.length) ∨
    (e.cause = .sentinel .errFPortMustNotBeZero ∧ fPort = 0 ∧ data ≠ []) ∨
    ∀ s, e.cause ≠ .sentinel s := by
  rw [handlePushDataDown_eq] at h
  unfold pushDataDownIntent at h
  split at h
  · -- the checks before the queue is read
    rename_i he'
    obtain rfl := Except.error.inj h
    rcases pushDataDownTXInfo_error he' with ⟨rfl, h1⟩ | h2 | h3
    · exact .inl ⟨rfl, h1⟩
    · exact .inr (.inl h2)
    · exact .inr (.inr (.inl h3))
  split at h
  · -- reading the queue
    obtain rfl := Except.error.inj h
    exact .inr (.inr (.inr (.inr fun _ => by simp)))
  dsimp only at h
  split at h
  · -- building the packet
    rename_i he'
    obtain rfl := Except.error.inj h
    rcases dataDownTXPacket_error he' with ⟨v, hv, rfl⟩ | ⟨s, hs⟩
    · rcases validate_error hv with ⟨rfl, h0, hd⟩ | ⟨-, -, he⟩
      · exact .inr (.inr (.inr (.inl ⟨rfl, h0, hd⟩)))
      · exact absurd he Bool.false_ne_true
    · exact .inr (.inr (.inr (.inr fun _ => by simp [hs])))
  · -- the calls of the transmission
    rcases runCalls_error h with ⟨c, hc, s, rfl⟩ | hf
    · exact .inr (.inr (.inr (.inr fun _ => by rw [transmitCalls_report_cause _ _ _ _ _ c hc s]; simp)))
    · cases hf

/-- **The status of a failed push.** The API answers a failed `HandlePushDataDown` with
`FailedPrecondition` when no gateway heard the device, `Internal` for an RX2 data rate the band
lacks, `InvalidArgument` for data too long for the data rate or data on port 0, and `Unknown`
otherwise. -/
theorem handlePushDataDown_rpcCode (ctx : Context) (r : DownlinkReplies) (ns : NodeSession)
    (confirmed : Bool) (fPort : UInt8) (data : List UInt8) (w : World) (e : GoError)
    (h : (handlePushDataDown ctx r ns confirmed fPort data w).1 = .error e) :
    ((errToRPCError e).1 = .failedPrecondition ∧ ns.lastRXInfoSet = []) ∨
    ((errToRPCError e).1 = .internal ∧ ctx.band.dataRates.length ≤ ns.rx2DR.toNat) ∨
    ((errToRPCError e).1 = .invalidArgument ∧
      ((∃ dr : Fin ctx.band.dataRates.length, dr.val = ns.rx2DR.toNat ∧
        ctx.band.maxPayloadSizeN dr < data.length) ∨ (fPort = 0 ∧ data ≠ []))) ∨
    (errToRPCError e).1 = .unknown := by
  rcases handlePushDataDown_error_cause ctx r ns confirmed fPort data w e h with
    ⟨hc, h1⟩ | ⟨hc, h2⟩ | ⟨hc, h3⟩ | ⟨hc, h4⟩ | hc
  · exact .inl ⟨by simp [errToRPCError, hc, errToCode], h1⟩
  · exact .inr (.inl ⟨by simp [errToRPCError, hc, errToCode], h2⟩)
  · exact .inr (.inr (.inl ⟨by simp [errToRPCError, hc, errToCode], .inl h3⟩))
  · exact .inr (.inr (.inl ⟨by simp [errToRPCError, hc, errToCode], .inr h4⟩))
  · refine .inr (.inr (.inr ?_))
    cases hcause : e.cause with
    | sentinel s => exact absurd hcause (hc s)
    | _ => simp [errToRPCError, hcause]

/-- A push of 60 bytes at DR0, where 51 fit, is refused with `InvalidArgument`. -/
theorem handlePushDataDown_rpcCode_tooLong :
    let ns := scenarioSession 5
    let data := List.replicate 60 (0 : UInt8)
    let e : GoError := .wrap (.sentinel .errMaxPayloadSizeExceeded) "(max: 51)"
    (handlePushDataDown eu868Context (DownlinkReplies.succeeding (.ok none)) ns false 1 data
      (World.single ns [])).1 = .error e ∧
    (((errToRPCError e).1 = .failedPrecondition ∧ ns.lastRXInfoSet = []) ∨
      ((errToRPCError e).1 = .internal ∧ eu868Context.band.dataRates.length ≤ ns.rx2DR.toNat) ∨
      ((errToRPCError e).1 = .invalidArgument ∧
        ((∃ dr : Fin eu868Context.band.dataRates.length, dr.val = ns.rx2DR.toNat ∧
          eu868Context.band.maxPayloadSizeN dr < data.length) ∨ ((1 : UInt8) = 0 ∧ data ≠ []))) ∨
      (errToRPCError e).1 = .unknown) :=
  have h := by decide
  ⟨h, handlePushDataDown_rpcCode _ _ _ _ _ _ _ _ h⟩

end LoraServer

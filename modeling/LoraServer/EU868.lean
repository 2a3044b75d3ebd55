import LoraServer.Types

/-!
A `Context` the model runs on: the EU868 band of the `lorawan/band` package, the `lorawan`
codec's downlink MAC commands, `maccommand.FilterItems` as the spec describes it (with the
contract `Context` asks of it), and the network of the repository's docker-compose setup
(`NET_ID=010203`). The device of the spec's end-to-end scenarios is stored on it.
-/

namespace LoraServer

/-! ### `maccommand.FilterItems` -/

/-- Modelled from the spec: `maccommand.FilterItems` (not under src/) keeps, in queue order, the
items with the given `FRMPayload` flag, "the longest prefix whose concatenated command length
≤ budget". -/
def filterItems : List QueueItem → Bool → ℤ → List QueueItem
  | [], _, _ => []
  | qi :: items, frmPayload, maxBytes =>
    if qi.frmPayload = frmPayload then
      if (qi.data.length : ℤ) ≤ maxBytes then
        qi :: filterItems items frmPayload (maxBytes - qi.data.length)
      else []
    else filterItems items frmPayload maxBytes

lemma filterItems_sublist : ∀ items f n, (filterItems items f n).Sublist items
  | [], _, _ => List.Sublist.slnil
  | qi :: items, f, n => by
    unfold filterItems
    split_ifs
    · exact (filterItems_sublist items f _).cons₂ qi
    · exact List.nil_sublist _
    · exact (filterItems_sublist items f n).cons qi

lemma filterItems_frmPayload : ∀ items f n, ∀ qi ∈ filterItems items f n, qi.frmPayload = f
  | [], _, _ => by simp [filterItems]
  | qi :: items, f, n => by
    unfold filterItems
    split_ifs with h
    · simpa [h] using filterItems_frmPayload items f _
    · simp
    · exact filterItems_frmPayload items f n

lemma filterItems_size : ∀ items f n, 0 ≤ n → (dataSize (filterItems items f n) : ℤ) ≤ n
  | [], _, _, h => by simpa [filterItems] using h
  | qi :: items, f, n, h => by
    unfold filterItems
    split_ifs with h1 h2
    · have := filterItems_size items f (n - qi.data.length) (by omega)
      push_cast [dataSize_cons]
      omega
    · simpa using h
    · exact filterItems_size items f n h

/-! ### EU868 -/

/-- The EU868 data rates, DR0 to DR7. -/
def eu868DataRates : List DataRate :=
  [⟨"LORA", 12, 125, 0⟩, ⟨"LORA", 11, 125, 0⟩, ⟨"LORA", 10, 125, 0⟩, ⟨"LORA", 9, 125, 0⟩,
   ⟨"LORA", 8, 125, 0⟩, ⟨"LORA", 7, 125, 0⟩, ⟨"LORA", 7, 250, 0⟩, ⟨"FSK", 0, 0, 50000⟩]

/-- The EU868 band: `N` of `MaxPayloadSize` per data rate, RX2 at 869.525 MHz, 14 dBm, the
receive delays of one and five seconds, and the RX1 data rate `max (uplink - offset) 0` for
offsets up to 5. -/
def eu868 : Band where
  dataRates := eu868DataRates
  maxPayloadSize := [51, 51, 51, 115, 222, 222, 222, 222]
  maxPayloadSize_length := rfl
  rx2Frequency := 869525000
  defaultTXPower := 14
  receiveDelay1 := 1000000000
  joinAcceptDelay1 := 5000000000
  getDataRate dr := match eu868DataRates.indexOf? dr with
    | some i => .ok i
    | none => .error "lorawan/band: data-rate not found"
  getRX1DataRate uplinkDR offset :=
    if h : uplinkDR < 8 ∧ offset ≤ 5 then .ok ⟨uplinkDR - offset, by simp [eu868DataRates]; omega⟩
    else .error "lorawan/band: invalid RX1 data-rate offset"
  getRX1Frequency frequency := .ok frequency

/-! ### The codec -/

/-- The payload size of each downlink MAC command of LoRaWAN 1.0, by CID. -/
def downlinkPayloadSize : UInt8 → Option ℕ
  | 0x02 => some 2 | 0x03 => some 4 | 0x04 => some 1 | 0x05 => some 4
  | 0x06 => some 0 | 0x07 => some 5 | 0x08 => some 1 | _ => none

/-- `MACCommand.UnmarshalBinary(false, data)`: a known CID followed by a payload of its size. -/
def unmarshalDownlinkMACCommand : List UInt8 → Option MACCommand
  | [] => none
  | cid :: payload =>
    match downlinkPayloadSize cid with
    | some n => if payload.length = n then some ⟨cid, payload⟩ else none
    | none => none

lemma marshal_unmarshalDownlinkMACCommand (d : List UInt8) (m : MACCommand)
    (h : unmarshalDownlinkMACCommand d = some m) : m.marshal = d := by
  match d, h with
  | cid :: payload, h =>
    simp only [unmarshalDownlinkMACCommand] at h
    split at h
    · split_ifs at h
      cases h
      rfl
    · cases h

/-- The join-request frame on the wire: its MHDR, `AppEUI`, `DevEUI` and `DevNonce`. -/
def marshalJoinRequest : PHYPayload → Except String (List UInt8)
  | ⟨_, .joinRequestPayload jr⟩ => .ok (0x00 :: jr.appEUI.toList ++ jr.devEUI.toList ++ jr.devNonce.toList)
  | _ => .error "lorawan: not a join-request"

/-- `PHYPayload.UnmarshalBinary` on a join-accept (the `lorawan` codec, not under src/): at
least 5 bytes, the MHDR, the still encrypted payload and the 4-byte MIC. The stand-in accepts
only the join-accept MHDR (`0x20`) and drops the MIC, which the model does not check. -/
def unmarshalJoinAccept (b : List UInt8) : Except String PHYPayload :=
  if b.length < 5 then .error "lorawan: at least 5 bytes needed to decode PHYPayload" else
  match b with
  | 0x20 :: rest => .ok ⟨.joinAccept, .dataPayload (rest.take (rest.length - 4))⟩
  | _ => .error "lorawan: invalid join-accept"

/-- The network of the docker-compose setup, `NET_ID=010203`, on the EU868 band. -/
def eu868Context : Context where
  band := eu868
  netID := ⟨[1, 2, 3], rfl⟩
  filterItems := filterItems
  filterItems_sublist := filterItems_sublist
  filterItems_frmPayload := filterItems_frmPayload
  filterItems_size := filterItems_size
  unmarshalMACCommand := unmarshalDownlinkMACCommand
  marshal_unmarshalMACCommand := marshal_unmarshalDownlinkMACCommand
  unmarshalPHYPayload := unmarshalJoinAccept
  marshalPHYPayload := marshalJoinRequest

/-! ### The device of the end-to-end scenarios -/

/-- `DevEUI=0203040506070809`. -/
def scenarioDevEUI : EUI64 := ⟨[2, 3, 4, 5, 6, 7, 8, 9], rfl⟩

/-- The gateway that hears the device, on 868.1 MHz at DR5. -/
def scenarioRXInfo : RXInfo :=
  { mac := ⟨[1, 1, 1, 1, 1, 1, 1, 1], rfl⟩, timestamp := 1000000, frequency := 868100000,
    dataRate := ⟨"LORA", 7, 125, 0⟩, codeRate := "4/5" }

/-- The device's session: `AppEUI=0102030405060708`,
`NwkSKey=00112233445566778899AABBCCDDEEFF`, listening in RX2 at DR0, with `FCntDown = fCnt`. -/
def scenarioSession (fCnt : UInt32) : NodeSession :=
  { devAddr := ⟨[1, 2, 3, 4], rfl⟩
    appEUI := ⟨[1, 2, 3, 4, 5, 6, 7, 8], rfl⟩
    devEUI := scenarioDevEUI
    nwkSKey := ⟨[0x00, 0x11, 0x22, 0x33, 0x44, 0x55, 0x66, 0x77, 0x88, 0x99, 0xAA, 0xBB, 0xCC,
      0xDD, 0xEE, 0xFF], rfl⟩
    fCntUp := 10, fCntDown := fCnt, relaxFCnt := false, rxWindow := rx2, rxDelay := 0
    rx1DROffset := 0, rx2DR := 0, cFList := none, adrInterval := 0
    lastRXInfoSet := [scenarioRXInfo] }

/-- An uplink of the device through the gateway, confirmed or not, with `ADRACKReq` clear. -/
def scenarioUplink (confirmed : Bool) : RXPacket where
  rxInfoSet := [scenarioRXInfo]
  rxInfoSet_ne_nil := List.cons_ne_nil _ _
  phyPayload :=
    { mType := if confirmed then .confirmedDataUp else .unconfirmedDataUp
      macPayload := .macPayload { fhdr := { devAddr := ⟨[1, 2, 3, 4], rfl⟩, fCtrl := {}, fCnt := 10 } } }

/-- The device's join-request through the gateway, with `DevNonce=1020`. -/
def scenarioJoinRequest : RXPacket where
  rxInfoSet := [scenarioRXInfo]
  rxInfoSet_ne_nil := List.cons_ne_nil _ _
  phyPayload :=
    { mType := .joinRequest
      macPayload := .joinRequestPayload
        { appEUI := ⟨[1, 2, 3, 4, 5, 6, 7, 8], rfl⟩, devEUI := scenarioDevEUI,
          devNonce := ⟨[0x10, 0x20], rfl⟩ } }

/-- The application server's answer to the device's join-request: a 17-byte join-accept
(MHDR, `AppNonce`, `NetID=010203`, `DevAddr=01020304`, `DLSettings`, `RxDelay`, MIC), a 16-byte
`NwkSKey`, and RX2 at DR0 with a one-second `RxDelay`. -/
def scenarioJoinResponse : JoinRequestResponse :=
  { phyPayload := [0x20, 0x01, 0x02, 0x03, 0x03, 0x02, 0x01, 0x04, 0x03, 0x02, 0x01, 0x00, 0x01,
      0xA1, 0xA2, 0xA3, 0xA4]
    nwkSKey := List.replicate 16 0xAB, rxDelay := 1, rx1DROffset := 0, rxWindow := 1, rx2DR := 0,
    relaxFCnt := false, cFList := [], adrInterval := 0 }

/-- The store holding only `ns`, and `queue` as its device's MAC-command queue. -/
def World.single (ns : NodeSession) (queue : List QueueItem) : World where
  nodeSessions d := if d = ns.devEUI then some ns else none
  nodeSessions_devEUI d ns' h := by
    dsimp only at h
    split_ifs at h with hd
    cases h
    exact hd.symm
  macQueues d := if d = ns.devEUI then queue else []
  txPackets := []

end LoraServer

import Mathlib

/-!
The data the network server's frame pipeline works on: the LoRaWAN frame as the `lorawan`
package builds it, the gateway packets, the node-session and the MAC-command queue items kept
in the cache, the answers of the application server, the band table, and Go's errors. Fields
no modelled function reads are left out (`MODEL_MAP.json` lists them).
-/

namespace LoraServer

/-! ### Identifiers and keys -/

/-- `lorawan.EUI64`, an `[8]byte`. -/
abbrev EUI64 := Mathlib.Vector UInt8 8

/-- `lorawan.DevAddr`, a `[4]byte`. -/
abbrev DevAddr := Mathlib.Vector UInt8 4

/-- `lorawan.NetID`, a `[3]byte`. -/
abbrev NetID := Mathlib.Vector UInt8 3

/-- `lorawan.AES128Key`, a `[16]byte`. -/
abbrev AES128Key := Mathlib.Vector UInt8 16

/-- `lorawan.CFList`, a `[5]uint32` of extra channel frequencies. -/
abbrev CFList := Mathlib.Vector UInt32 5

/-- Go's `copy(dst[:], src)` into a zeroed `[n]T`: the first `min n (len src)` elements of
`src`, then zeros. -/
def copyInto {α : Type} [Zero α] (n : ℕ) (src : List α) : Mathlib.Vector α n :=
  ⟨src.take n ++ List.replicate (n - src.length) 0, by simp; omega⟩

/-! ### Go's fixed-width integers -/

lemma uint8_lt_iff (a b : UInt8) : a < b ↔ a.toNat < b.toNat := Iff.rfl

lemma uint8_pos_iff (a : UInt8) : 0 < a ↔ a ≠ 0 := by
  rw [uint8_lt_iff]
  constructor
  · rintro h rfl
    exact Nat.lt_irrefl 0 h
  · exact fun h => Nat.pos_of_ne_zero fun h0 => h (UInt8.toNat.inj (b := 0) h0)

lemma uint32_toNat_add_one (a : UInt32) : (a + 1).toNat = (a.toNat + 1) % 4294967296 := rfl

lemma uint32_toNat_toUInt8 (a : UInt32) : a.toUInt8.toNat = a.toNat % 256 := rfl

lemma uint32_toUInt8_ne_zero {a : UInt32} (h0 : a ≠ 0) (h : a.toNat < 256) : a.toUInt8 ≠ 0 :=
  fun hz => h0 (UInt32.toNat.inj (by rw [← Nat.mod_eq_of_lt h, ← uint32_toNat_toUInt8, hz]; rfl))

/-! ### The band -/

/-- `band.DataRate`. -/
structure DataRate where
  modulation : String := ""
  spreadFactor : ℕ := 0
  bandwidth : ℕ := 0
  bitRate : ℕ := 0
deriving DecidableEq, Repr

/-- `common.Band`, the region's immutable table. Its lookups come from the `lorawan/band`
package; the RX1 data-rate table only holds data rates of the band. -/
structure Band where
  dataRates : List DataRate
  /-- The `N` column of `MaxPayloadSize`, one entry per data rate. -/
  maxPayloadSize : List ℕ
  maxPayloadSize_length : maxPayloadSize.length = dataRates.length
  rx2Frequency : ℕ
  defaultTXPower : ℤ
  /-- `ReceiveDelay1` and `JoinAcceptDelay1`, in nanoseconds (`time.Duration`). -/
  receiveDelay1 : ℕ
  joinAcceptDelay1 : ℕ
  getDataRate : DataRate → Except String ℕ
  getRX1DataRate : ℕ → ℕ → Except String (Fin dataRates.length)
  getRX1Frequency : ℕ → Except String ℕ

/-- `Band.MaxPayloadSize[dr].N`. -/
def Band.maxPayloadSizeN (b : Band) (dr : Fin b.dataRates.length) : ℕ :=
  b.maxPayloadSize.get (dr.cast b.maxPayloadSize_length.symm)

/-- `Band.DataRates[dr]`. -/
def Band.dataRate (b : Band) (dr : Fin b.dataRates.length) : DataRate :=
  b.dataRates.get dr

/-! ### Gateway packets -/

/-- `gw.RXInfo`, the reception of an uplink by one gateway. -/
structure RXInfo where
  mac : EUI64
  timestamp : UInt32
  frequency : ℕ
  dataRate : DataRate
  codeRate : String
deriving DecidableEq

/-- `gw.TXInfo`, how a gateway must transmit a downlink. -/
structure TXInfo where
  mac : EUI64
  immediately : Bool := false
  timestamp : UInt32 := 0
  frequency : ℕ := 0
  power : ℤ := 0
  dataRate : DataRate := {}
  codeRate : String := ""
deriving DecidableEq

/-! ### LoRaWAN frames -/

/-- `lorawan.MType`. -/
inductive MType
  | joinRequest | joinAccept | unconfirmedDataUp | unconfirmedDataDown
  | confirmedDataUp | confirmedDataDown | rfu | proprietary
deriving DecidableEq, Repr

/-- `lorawan.MACCommand`: a CID and its payload. -/
structure MACCommand where
  cid : UInt8
  payload : List UInt8
deriving DecidableEq, Repr

/-- The bytes of a MAC command on the wire (`MACCommand.MarshalBinary`). -/
def MACCommand.marshal (m : MACCommand) : List UInt8 := m.cid :: m.payload

/-- An element of `FRMPayload`: a plaintext MAC command, a `DataPayload`, or what
`EncryptFRMPayload` leaves there, kept as the key and the plaintext it encrypts. -/
inductive Payload
  | macCommand (m : MACCommand)
  | data (bytes : List UInt8)
  | encrypted (key : AES128Key) (plaintext : List UInt8)
deriving DecidableEq

/-- The plaintext bytes of a payload. -/
def Payload.marshal : Payload → List UInt8
  | .macCommand m => m.marshal
  | .data bytes => bytes
  | .encrypted _ plaintext => plaintext

/-- `PHYPayload.EncryptFRMPayload(key)`: the marshalled `FRMPayload`, encrypted. -/
def encryptFRMPayload (key : AES128Key) (frm : List Payload) : List Payload :=
  [.encrypted key (frm.flatMap Payload.marshal)]

/-- `lorawan.FCtrl`. -/
structure FCtrl where
  adr : Bool := false
  adrACKReq : Bool := false
  ack : Bool := false
  fPending : Bool := false
deriving DecidableEq

/-- `lorawan.FHDR`. -/
structure FHDR where
  devAddr : DevAddr
  fCtrl : FCtrl
  fCnt : UInt32
  fOpts : List MACCommand := []
deriving DecidableEq

/-- `lorawan.MACPayload`; `fPort` is the `*uint8` pointer. -/
structure MACPayload where
  fhdr : FHDR
  fPort : Option UInt8 := none
  frmPayload : List Payload := []
deriving DecidableEq

/-- `lorawan.JoinRequestPayload`. -/
structure JoinRequestPayload where
  appEUI : EUI64
  devEUI : EUI64
  devNonce : Mathlib.Vector UInt8 2
deriving DecidableEq

/-- The `MACPayload` field of a `PHYPayload`, an interface: the payload types this code
distinguishes. -/
inductive PHYBody
  | macPayload (p : MACPayload)
  | joinRequestPayload (p : JoinRequestPayload)
  | dataPayload (bytes : List UInt8)
deriving DecidableEq

/-- What `%T` prints for the payload. -/
def PHYBody.goType : PHYBody → String
  | .macPayload _ => "*lorawan.MACPayload"
  | .joinRequestPayload _ => "*lorawan.JoinRequestPayload"
  | .dataPayload _ => "*lorawan.DataPayload"

/-- The type assertion `payload.(*lorawan.MACPayload)`. -/
def PHYBody.macPayload? : PHYBody → Option MACPayload
  | .macPayload p => some p
  | _ => none

/-- The type assertion `payload.(*lorawan.JoinRequestPayload)`. -/
def PHYBody.joinRequestPayload? : PHYBody → Option JoinRequestPayload
  | .joinRequestPayload p => some p
  | _ => none

/-- `lorawan.PHYPayload`. The MIC is computed by the codec and left out. -/
structure PHYPayload where
  mType : MType
  macPayload : PHYBody
deriving DecidableEq

/-- `gw.TXPacket`. -/
structure TXPacket where
  txInfo : TXInfo
  phyPayload : PHYPayload
deriving DecidableEq

/-- `models.RXPacket`, as the deduplication hands it over: every gateway that heard the
frame, at least the one that delivered it. -/
structure RXPacket where
  rxInfoSet : List RXInfo
  rxInfoSet_ne_nil : rxInfoSet ≠ []
  phyPayload : PHYPayload

/-- `rxPacket.RXInfoSet[0]`. -/
def RXPacket.rxInfo (p : RXPacket) : RXInfo := p.rxInfoSet.head p.rxInfoSet_ne_nil

/-! ### Session and MAC-command queue -/

/-- `session.RXWindow` (declared outside src/): an `int8` enumeration, `RX1 = 0`,
`RX2 = 1`. -/
abbrev RXWindow := Int8

/-- `session.RX1`. -/
def rx1 : RXWindow := 0

/-- `session.RX2`. -/
def rx2 : RXWindow := 1

/-- `session.NodeSession`. -/
structure NodeSession where
  devAddr : DevAddr
  appEUI : EUI64
  devEUI : EUI64
  nwkSKey : AES128Key
  fCntUp : UInt32
  fCntDown : UInt32
  relaxFCnt : Bool
  rxWindow : RXWindow
  rxDelay : UInt8
  rx1DROffset : UInt8
  rx2DR : UInt8
  cFList : Option CFList
  adrInterval : UInt32
  lastRXInfoSet : List RXInfo
deriving DecidableEq

/-- `maccommand.QueueItem`. -/
structure QueueItem where
  data : List UInt8
  frmPayload : Bool
  external : Bool
deriving DecidableEq, Repr

/-- The bytes the items' mac-commands take. -/
def dataSize (items : List QueueItem) : ℕ := (items.map fun qi => qi.data.length).sum

@[simp] lemma dataSize_nil : dataSize [] = 0 := rfl

@[simp] lemma dataSize_cons (qi : QueueItem) (items : List QueueItem) :
    dataSize (qi :: items) = qi.data.length + dataSize items := rfl

/-! ### Application server -/

/-- `as.GetDataDownResponse`. -/
structure GetDataDownResponse where
  data : List UInt8
  confirmed : Bool
  moreData : Bool
  fPort : UInt32
deriving DecidableEq

/-- `as.JoinRequestResponse`; `rxWindow` is the `as.RXWindow` enumeration's value. -/
structure JoinRequestResponse where
  phyPayload : List UInt8
  nwkSKey : List UInt8
  rxDelay : UInt32
  rx1DROffset : UInt32
  rxWindow : ℤ
  rx2DR : UInt32
  relaxFCnt : Bool
  cFList : List UInt32
  adrInterval : UInt32

/-! ### Errors -/

/-- The package-level error values. -/
inductive Sentinel
  | errFPortMustNotBeZero | errFPortMustBeZero | errNoLastRXInfoSet | errInvalidDataRate
  | errMaxPayloadSizeExceeded
  | gatewayErrDoesNotExist | gatewayErrAlreadyExists | gatewayErrInvalidAggregationInterval
  | gatewayErrInvalidName
  | sessionErrDoesNotExistOrFCntOrMICInvalid | sessionErrDoesNotExist
deriving DecidableEq, Repr

/-- A Go `error`, by how it was made. -/
inductive GoError
  /-- a package-level error value -/
  | sentinel (e : Sentinel)
  /-- `errors.New(text)`, or `fmt.Errorf` formatting no error -/
  | new (text : String)
  /-- `fmt.Errorf(msg + ": %s", err)`: a fresh error; `err` survives as text only -/
  | errorf (msg : String) (err : GoError)
  /-- `errors.Wrap(err, msg)` and `errors.Wrapf`: `err` stays the cause -/
  | wrap (err : GoError) (msg : String)
  /-- an error returned by the cache, a gateway, an RPC or the codec -/
  | external (text : String)
deriving DecidableEq

/-- Results and answers are compared by value. -/
instance instDecidableEqExcept {ε α : Type} [DecidableEq ε] [DecidableEq α] :
    DecidableEq (Except ε α)
  | .error e, .error e' => decidable_of_iff (e = e') ⟨congrArg _, Except.error.inj⟩
  | .ok a, .ok a' => decidable_of_iff (a = a') ⟨congrArg _, Except.ok.inj⟩
  | .error _, .ok _ => isFalse nofun
  | .ok _, .error _ => isFalse nofun

/-- `errors.Cause`. -/
def GoError.cause : GoError → GoError
  | .wrap err _ => err.cause
  | err => err

@[simp] lemma GoError.cause_wrap (err : GoError) (msg : String) : (err.wrap msg).cause = err.cause :=
  rfl

@[simp] lemma GoError.cause_sentinel (e : Sentinel) : (GoError.sentinel e).cause = .sentinel e := rfl

@[simp] lemma GoError.cause_new (text : String) : (GoError.new text).cause = .new text := rfl

@[simp] lemma GoError.cause_errorf (msg : String) (err : GoError) :
    (GoError.errorf msg err).cause = .errorf msg err := rfl

@[simp] lemma GoError.cause_external (text : String) :
    (GoError.external text).cause = .external text := rfl

/-! ### The process's fixed context -/

/-- The fixed part of `common.Context` and the libraries the code calls: the band,
the network's `NetID`, `maccommand.FilterItems` (declared outside src/) with the contract
the code relies on, and the codec's decoders. -/
structure Context where
  band : Band
  netID : NetID
  /-- `maccommand.FilterItems(items, frmPayload, maxBytes)`. -/
  filterItems : List QueueItem → Bool → ℤ → List QueueItem
  filterItems_sublist : ∀ items f n, (filterItems items f n).Sublist items
  filterItems_frmPayload : ∀ items f n, ∀ qi ∈ filterItems items f n, qi.frmPayload = f
  filterItems_size : ∀ items f n, 0 ≤ n → (dataSize (filterItems items f n) : ℤ) ≤ n
  /-- `MACCommand.UnmarshalBinary(false, data)`; a command it decodes marshals back to the
  bytes it came from. -/
  unmarshalMACCommand : List UInt8 → Option MACCommand
  marshal_unmarshalMACCommand : ∀ d m, unmarshalMACCommand d = some m → m.marshal = d
  unmarshalPHYPayload : List UInt8 → Except String PHYPayload
  marshalPHYPayload : PHYPayload → Except String (List UInt8)

/-! ### The shared state -/

/-- What the operations share: the cache's node-sessions and MAC-command queues by DevEUI,
and every packet a gateway accepted, oldest first. The cache keeps a session under its own
DevEUI. -/
structure World where
  nodeSessions : EUI64 → Option NodeSession
  nodeSessions_devEUI : ∀ d ns, nodeSessions d = some ns → ns.devEUI = d
  macQueues : EUI64 → List QueueItem
  txPackets : List TXPacket

namespace World

/-- The store before any device has joined. -/
def empty : World := ⟨fun _ => none, fun _ _ h => Option.noConfusion h, fun _ => [], []⟩

/-- `session.SaveNodeSession`. -/
def saveNodeSession (w : World) (ns : NodeSession) : World :=
  { w with
    nodeSessions := Function.update w.nodeSessions ns.devEUI (some ns)
    nodeSessions_devEUI := fun d ns' h => by
      by_cases hd : d = ns.devEUI
      · subst hd; simp at h; exact h ▸ rfl
      · simp [hd] at h; exact w.nodeSessions_devEUI d ns' h }

/-- Modelled from the spec: `maccommand.DeleteQueueItem` (not under src/), "delete item", takes
the item off the device's queue. -/
def deleteQueueItem (w : World) (devEUI : EUI64) (qi : QueueItem) : World :=
  { w with macQueues := Function.update w.macQueues devEUI ((w.macQueues devEUI).erase qi) }

/-- Modelled from the spec: `maccommand.FlushQueue` (not under src/) empties the device's
queue. -/
def flushQueue (w : World) (devEUI : EUI64) : World :=
  { w with macQueues := Function.update w.macQueues devEUI [] }

/-- A gateway accepts a packet. -/
def sendTXPacket (w : World) (p : TXPacket) : World :=
  { w with txPackets := w.txPackets ++ [p] }

variable (w : World) (ns : NodeSession) (dev : EUI64) (qi : QueueItem) (p : TXPacket)

@[simp] lemma saveNodeSession_macQueues : (w.saveNodeSession ns).macQueues = w.macQueues := rfl
@[simp] lemma saveNodeSession_txPackets : (w.saveNodeSession ns).txPackets = w.txPackets := rfl
@[simp] lemma deleteQueueItem_nodeSessions :
    (w.deleteQueueItem dev qi).nodeSessions = w.nodeSessions := rfl
@[simp] lemma deleteQueueItem_txPackets : (w.deleteQueueItem dev qi).txPackets = w.txPackets :=
  rfl
@[simp] lemma flushQueue_nodeSessions : (w.flushQueue dev).nodeSessions = w.nodeSessions := rfl
@[simp] lemma flushQueue_txPackets : (w.flushQueue dev).txPackets = w.txPackets := rfl
@[simp] lemma sendTXPacket_nodeSessions : (w.sendTXPacket p).nodeSessions = w.nodeSessions :=
  rfl
@[simp] lemma sendTXPacket_macQueues : (w.sendTXPacket p).macQueues = w.macQueues := rfl
@[simp] lemma sendTXPacket_txPackets : (w.sendTXPacket p).txPackets = w.txPackets ++ [p] := rfl

@[simp] lemma saveNodeSession_nodeSessions (d : EUI64) :
    (w.saveNodeSession ns).nodeSessions d = if d = ns.devEUI then some ns else w.nodeSessions d :=
  Function.update_apply ..

@[simp] lemma deleteQueueItem_macQueues (d : EUI64) :
    (w.deleteQueueItem dev qi).macQueues d =
      if d = dev then (w.macQueues dev).erase qi else w.macQueues d :=
  Function.update_apply ..

@[simp] lemma flushQueue_macQueues (d : EUI64) :
    (w.flushQueue dev).macQueues d = if d = dev then [] else w.macQueues d :=
  Function.update_apply ..

end World

end LoraServer

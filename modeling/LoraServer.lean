import LoraServer.Types
import LoraServer.EU868
import LoraServer.Downlink
import LoraServer.Intent
import LoraServer.Join
import LoraServer.Frame
import LoraServer.Runs
import LoraServer.Api
import LoraServer.Errors
import LoraServer.Response
import LoraServer.Store
import LoraServer.Interleave
import LoraServer.Concurrent
import LoraServer.Delivery
import LoraServer.Isolation
import LoraServer.Rpc
import LoraServer.JoinRace

import Mathlib.Data.List.TakeWhile
import BleMeshTracking.Library.CString
import BleMeshTracking.Library.TextSearch
import BleMeshTracking.Ota.GatewayLock
import BleMeshTracking.Protocol.Payload

/-!
# The gateway: remote calls

`MQTT_EVENT_DATA` in `mqtt_event_handler` and `on_tb_rpc`: a request from the server starts an
update by a word in the first 127 bytes of its text.
-/

namespace BleMeshTracking.Gateway

open CString (strncmp)
open Ota (OtaCall)
open Protocol (Bytes)
open TextSearch

end BleMeshTracking.Gateway

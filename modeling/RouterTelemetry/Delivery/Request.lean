import RouterTelemetry.Text.Utf8

/-!
# Requests to the collector

The form of a request that carries a batch: where it goes, who sends it, and what it holds.
-/

namespace RouterTelemetry.Delivery

open Text (Bytes)

/-- The version of the agent. -/
def agentVersion : String := "0.1.0"

/-- The path under which the collector takes batches. -/
def batchPath : String := "/api/v1/netmon/events/batch"

/-- The address that batches are sent to: a slash at the end of the collector's address is not needed. -/
def endpoint (base : String) : String :=
  String.ofList (base.toList.reverse.dropWhile (· == '/')).reverse ++ batchPath

/-- A request that carries a batch. -/
structure Request where
  address : String
  authorization : String
  contentType : String := "application/json"
  userAgent : String := "netmon-agent/" ++ agentVersion
  body : Bytes
deriving DecidableEq, Repr

/-- Whether a character may stand in the value of a header: all but controls other than the tab. -/
def isHeaderChar (c : Char) : Bool :=
  c == '\t' || (0x20 ≤ c.toNat && c.toNat != 0x7F)

/-- The request that carries a payload to a collector, if the token can stand in a header. -/
def Request.ofPayload? (base token : String) (payload : Bytes) : Option Request :=
  if token.toList.all isHeaderChar then
    some { address := endpoint base, authorization := "Bearer " ++ token, body := payload }
  else none

end RouterTelemetry.Delivery

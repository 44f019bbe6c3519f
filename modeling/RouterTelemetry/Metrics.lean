import RouterTelemetry.Stats

/-!
# Metrics

The page on which the agent shows its counters and gauges to whoever asks for it.
-/

namespace RouterTelemetry.Metrics

/-- The path of the page. -/
def path : String := "/metrics"

/-- An answer to a request. -/
structure Answer where
  status : Nat
  contentType : String
  body : String
deriving DecidableEq, Repr

/-- The path in the target of a request, which may be a whole address, and may have a query. -/
def pathOf (target : String) : String :=
  let cs := target.toList
  let rest := if cs.take 7 = "http://".toList then (cs.drop 7).dropWhile (· != '/')
    else if cs.take 8 = "https://".toList then (cs.drop 8).dropWhile (· != '/')
    else cs
  let p := rest.takeWhile fun c => c != '?' && c != '#'
  String.ofList (if p.isEmpty then ['/'] else p)

/-- The answer to a request. A request for the head of the answer gets no body. -/
def answer (stats : Stats) (method target : String) : Answer :=
  let a : Answer :=
    if method = "GET" ∧ pathOf target = path then
      ⟨200, "application/json", stats.snapshot.text⟩
    else ⟨404, "text/plain", "not found\n"⟩
  if method = "HEAD" then { a with body := "" } else a

end RouterTelemetry.Metrics

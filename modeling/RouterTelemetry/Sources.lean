import RouterTelemetry.Event.Basic
import RouterTelemetry.Mailbox
/-!
# Sources

The entry for what the firewall and the connection tracking report. Dropped packets are always passed on;
of connections, their ends always, their beginnings if that is asked for, and their updates never.
-/

namespace RouterTelemetry

open Time (Instant)

namespace Sources

/-- The group under which the firewall logs forwarded packets. -/
def forwardGroup : Nat := 11

/-- The hook of the firewall that logs under a group. -/
def hook (group : Nat) : String :=
  if group = forwardGroup then "FORWARD" else "INPUT"

/-- What happened to a connection. -/
inductive Change where
  | new
  | destroy
  | update
deriving DecidableEq, Repr

/-- How the sources are set up: whether the beginnings of connections are wanted, and what is known of an
address. -/
structure Settings where
  emitNew : Bool
  lookup : Option (String → Option DnsContext)

/-- A mailbox and the counters that belong to it. -/
structure Outlet where
  mailbox : Mailbox Event
  stats : Stats

/-- Sends an event under a stream. -/
def Outlet.send (o : Outlet) (stream : Stream) (e : Event) : Bool × Outlet :=
  let (ok, m, s) := o.mailbox.send stream o.stats e
  (ok, ⟨m, s⟩)

/-- Passes on a dropped packet. -/
def firewallDrop (o : Outlet) (now : Instant) (d : FirewallDrop) : Bool × Outlet :=
  { o with stats := o.stats.incr .nflogEvents }.send .firewallDrop ⟨now, .firewallDrop d⟩

/-- The flow with what is known of its source, if anything can be known. -/
def Settings.enrich (s : Settings) (f : Flow) : Flow :=
  match s.lookup with
  | some lookup => f.enrich lookup
  | none => f

/-- Passes on what happened to a connection. -/
def flow (settings : Settings) (o : Outlet) (now : Instant) (change : Change) (f : Flow) :
    Bool × Outlet :=
  let send (o : Outlet) := o.send .flow ⟨now, .flow (settings.enrich f)⟩
  match change with
  | .destroy => send { o with stats := o.stats.incr .conntrackDestroy }
  | .new => if settings.emitNew then send o else (false, o)
  | .update => (false, o)

/-- Counts a report of the firewall that could not be read. -/
def nflogParseError (o : Outlet) : Outlet :=
  { o with stats := o.stats.incr .nflogParseErrors }

/-- Counts a report of the connection tracking that could not be read. -/
def conntrackParseError (o : Outlet) : Outlet :=
  { o with stats := o.stats.incr .conntrackParseErrors }

end Sources

end RouterTelemetry

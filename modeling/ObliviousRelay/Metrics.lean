import ObliviousRelay.Failure
import ObliviousRelay.Gateway.Event

/-!
# Metrics

What a relay counts: exchanges by outcome, connections now open and attempts to connect by gateway.
A series exists once it was first touched.

- `Metrics.countExchange` counts a finished exchange, `Metrics.observe` what a gateway's station
  brings about.
- `Metrics.lines` writes all series, in order.
-/

namespace ObliviousRelay

/-- The counters and gauges of a relay. -/
structure Metrics where
  exchanges : List (String × Nat) := []
  connectionsOpen : List (String × Int) := []
  connects : List ((String × Gateway.AttemptResult) × Nat) := []
  deriving DecidableEq, Repr

namespace Metrics

/-- Changes the value of a key, which starts at zero. -/
def adjust [BEq κ] (key : κ) (change : ν → ν) (zero : ν) : List (κ × ν) → List (κ × ν)
  | [] => [(key, change zero)]
  | (k, v) :: rest => if k == key then (k, change v) :: rest else (k, v) :: adjust key change zero rest

/-- The label of an exchange that ended so. -/
def outcomeOf : Except Failure α → String
  | .ok _ => "ok"
  | .error f => f.outcome

/-- Counts a finished exchange. -/
def countExchange (m : Metrics) (outcome : String) : Metrics :=
  { m with exchanges := adjust outcome (· + 1) 0 m.exchanges }

/-- Counts what happens at a gateway's station. -/
def observe (m : Metrics) (gateway : String) : Gateway.Effect → Metrics
  | .opened _ => { m with connectionsOpen := adjust gateway (· + 1) 0 m.connectionsOpen }
  | .closed _ => { m with connectionsOpen := adjust gateway (· - 1) 0 m.connectionsOpen }
  | .attempted r => { m with connects := adjust (gateway, r) (· + 1) 0 m.connects }
  | _ => m

/-- The text of a label's value between quotes. -/
def escape (s : String) : String :=
  String.ofList (s.toList.flatMap fun c =>
    if c = '\\' then ['\\', '\\'] else if c = '"' then ['\\', '"']
    else if c = '\n' then ['\\', 'n'] else [c])

/-- A series as it is written. -/
def line (name : String) (labels : List (String × String)) (value : String) : String :=
  name ++ "\x7b" ++
    ",".intercalate (labels.map fun (k, v) => k ++ "=\"" ++ escape v ++ "\"") ++ "\x7d " ++ value

/-- All series, sorted. The duration of exchanges is counted with the exchanges. -/
def lines (m : Metrics) : List String :=
  let exchanges := m.exchanges.flatMap fun (outcome, n) =>
    ["relay_exchanges_total", "relay_exchange_duration_seconds_count"].map fun name =>
      line name [("outcome", outcome)] (toString n)
  let opened := m.connectionsOpen.map fun (gateway, n) =>
    line "relay_gateway_connections_open" [("gateway", gateway)] (toString n)
  let connects := m.connects.map fun ((gateway, r), n) =>
    line "relay_gateway_connects_total" [("gateway", gateway), ("result", r.text)] (toString n)
  (exchanges ++ opened ++ connects).mergeSort fun a b => !(b < a)

end Metrics

end ObliviousRelay

import SchemaConcord.Datum.Basic

/-!
# Counting in a pool

A connection pool is watched through what it tells about its connections and through the statements that are run.
Counts never fall below zero. Latencies are kept for the last statements only.
-/

namespace SchemaConcord

/-- What a pool tells: a connection was opened, taken by a call, returned by it, or closed. -/
inductive PoolNotice where
  | opened | taken | returned | closed
  deriving DecidableEq, Repr

def latencyWindow : Nat := 1000

structure PoolCount where
  /-- Calls that asked for a connection and were not answered yet. -/
  waiting : Nat := 0
  active : Nat := 0
  total : Nat := 0
  statements : Nat := 0
  failures : Nat := 0
  /-- Latencies in milliseconds, the newest first. -/
  latencies : List Binary64 := []
  deriving DecidableEq, Repr

namespace PoolCount

def asked (c : PoolCount) : PoolCount := { c with waiting := c.waiting + 1 }

def answered (c : PoolCount) : PoolCount := { c with waiting := c.waiting - 1 }

def notice (c : PoolCount) : PoolNotice → PoolCount
  | .opened => { c with total := c.total + 1 }
  | .taken => { c with active := c.active + 1 }
  | .returned => { c with active := c.active - 1 }
  | .closed => { c with total := c.total - 1 }

def executed (c : PoolCount) (latency : Binary64) (failed : Bool) : PoolCount :=
  { c with
    statements := c.statements + 1
    failures := if failed then c.failures + 1 else c.failures
    latencies := (latency :: c.latencies).take latencyWindow }

def idle (c : PoolCount) : Nat := c.total - c.active

/-- The mean of the latencies kept, summed up from the oldest on, to three decimal places. -/
def meanLatency (c : PoolCount) : Binary64 :=
  if c.latencies.isEmpty then .zero false
  else
    let sum := c.latencies.reverse.foldl Binary64.add (.zero false)
    (Binary64.div sum (.ofInt c.latencies.length)).roundPlaces 3

def failureRate (c : PoolCount) : Binary64 := .ofRatio false c.failures (max c.statements 1)

def figures (c : PoolCount) : List (String × Datum) :=
  [("active", .ofNat c.active), ("idle", .ofNat c.idle), ("waiting", .ofNat c.waiting), ("total", .ofNat c.total),
    ("avg_query_time_ms", .real c.meanLatency), ("error_rate", .real c.failureRate),
    ("total_queries", .ofNat c.statements), ("error_count", .ofNat c.failures)]

end PoolCount

end SchemaConcord

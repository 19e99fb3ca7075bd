import CeramicAnchor.Concurrency.Program
import CeramicAnchor.Numerics.Double

/-
This file translates the start of the worker processes of the server.
-/

namespace CeramicAnchor.Multiprocess
open Concurrency Numerics

/-- A number of the language whose arithmetic is exact. -/
inductive Exact where
  | nan
  | infinite (negative : Bool)
  | finite (value : ℚ)
  deriving DecidableEq

namespace Exact

def truthy : Exact → Bool
  | .nan => false
  | .infinite _ => true
  | .finite value => decide (value ≠ 0)

def positive : Exact → Bool
  | .nan => false
  | .infinite negative => !negative
  | .finite value => decide (0 < value)

/-- A division by zero is infinite, and no number if it divides zero. -/
def div : Exact → Exact → Exact
  | .finite value, .finite divisor =>
      if divisor ≠ 0 then .finite (value / divisor)
      else if value = 0 then .nan else .infinite (decide (value < 0))
  | .infinite negative, .finite divisor => .infinite (negative != decide (divisor < 0))
  | .finite _, .infinite _ => .finite 0
  | _, _ => .nan

def pred : Exact → Exact
  | .finite value => .finite (value - 1)
  | other => other

end Exact

/-- The integer at the start of a text. -/
def parseInt (text : String) : Exact :=
  let text := text.toList.dropWhile isBlank
  let (negative, text) : Bool × List Char :=
    match text with
    | '-' :: rest => (true, rest)
    | '+' :: rest => (false, rest)
    | rest => (false, rest)
  match digits (text.takeWhile Char.isDigit) with
  | none => .nan
  | some value => .finite (if negative then -value else value)

def QUOTA : String := "/sys/fs/cgroup/cpu/cpu.cfs_quota_us"

def PERIOD : String := "/sys/fs/cgroup/cpu/cpu.cfs_period_us"

/-- A file that can be read gives the number of its text. -/
structure Host where
  readNumber : String → Option Exact
  cpus : ℕ
  MULTIPROCESS_SIZE : Option String
  isWorker : Bool

structure MultiprocessOptions where
  autostart : Bool
  workers : Option Exact

def readCPULimits (host : Host) : Exact :=
  match host.readNumber QUOTA with
  | none => .finite (-1)
  | some quota => match host.readNumber PERIOD with
    | none => .finite (-1)
    | some period => quota.div period

def cpuSize (host : Host) : Exact :=
  if (readCPULimits host).positive then readCPULimits host else .finite host.cpus

def workersFromEnv (host : Host) : Option Exact :=
  (host.MULTIPROCESS_SIZE.filter fun size => size ≠ "").map parseInt

/-- A number that is missing, zero or none gives way to the next. -/
def processes (host : Host) (options : MultiprocessOptions) : Exact :=
  ((options.workers.filter Exact.truthy).or ((workersFromEnv host).filter Exact.truthy)).getD (cpuSize host)

inductive ClusterOp where
  | setupPrimary
  | work
  | onSignals
  | onOnline
  | onExit
  | fork
  deriving DecidableEq, Repr

abbrev ClusterOp.Reply : ClusterOp → Type := fun _ => Unit

abbrev ClusterCode := Prog ClusterOp ClusterOp.Reply String Unit

/-- The loop stops when the number of processes left is zero. -/
def forkWorkers : ℕ → Exact → ClusterCode
  | 0, _ => .halted
  | fuel + 1, processes =>
      if processes.truthy then do
        Prog.call ClusterOp.fork
        forkWorkers fuel processes.pred
      else pure ()

def start (fuel : ℕ) (host : Host) (options : MultiprocessOptions) : ClusterCode :=
  if options.workers = some (.finite 0) then Prog.call ClusterOp.work
  else do
    Prog.call ClusterOp.onSignals
    Prog.call ClusterOp.onOnline
    Prog.call ClusterOp.onExit
    forkWorkers fuel (processes host options)

/-- A worker does the work, and the primary process starts the workers. -/
def create (fuel : ℕ) (host : Host) (options : MultiprocessOptions) : ClusterCode :=
  if host.isWorker then if options.autostart then Prog.call ClusterOp.work else pure ()
  else do
    Prog.call ClusterOp.setupPrimary
    if options.autostart then start fuel host options else pure ()

/-- The cluster does what it is asked, and this is what it has done. -/
def record (op : ClusterOp) (done : List ClusterOp) : Except String op.Reply × List ClusterOp :=
  (.ok (), done ++ [op])

end CeramicAnchor.Multiprocess

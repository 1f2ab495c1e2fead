import ThermalPrint.Network.Range
import ThermalPrint.Network.Reach

/-! The probing of many hosts, of which only so many are probed at the same time. The probes may end in
any order. -/

namespace ThermalPrint.Network

/-- The hosts of a scan that are still to be probed, those whose probes are under way, and those that
were found to answer. -/
structure Probes where
  waiting : List Ipv4
  running : List Ipv4 := []
  found : List Ipv4 := []

namespace Probes

/-- Starts as many probes as may be under way besides those that are. -/
def start (width : Nat) (p : Probes) : Probes :=
  let n := width - p.running.length
  { p with waiting := p.waiting.drop n, running := p.running ++ p.waiting.take n }

/-- Lets the probe at a place among those under way end. -/
def finish (responds : Ipv4 → Bool) (place : Nat) (p : Probes) : Probes :=
  match p.running[place]? with
  | none => p
  | some host =>
    { p with
      running := p.running.eraseIdx place
      found := if responds host then p.found ++ [host] else p.found }

/-- Lets `n` probes end one after another, each in the order that `next` gives, and starts others in
their places. -/
def run (responds : Ipv4 → Bool) (width : Nat) (next : Nat → Nat) : Nat → Probes → Probes
  | 0, p => p
  | n + 1, p =>
    let p := p.start width
    run responds width next n (p.finish responds (next n % p.running.length))

end Probes

/-- The hosts of a list that answer, ascending. At least one is probed at a time. -/
def probeHosts (responds : Ipv4 → Bool) (concurrency : Nat) (next : Nat → Nat) (hosts : List Ipv4) :
    List Ipv4 :=
  (Probes.run responds (max 1 concurrency) next hosts.length { waiting := hosts }).found.mergeSort

/-- The hosts of a range that answer on the printers' port. -/
def Surroundings.scan (s : Surroundings) (n : Settings.Network) (scan : Settings.Scan)
    (range : String) : Except Failure (List Ipv4) :=
  (Range.ofText range).map fun r =>
    probeHosts (s.responds n.port) scan.concurrency.toNat s.nextProbe r.hosts

end ThermalPrint.Network

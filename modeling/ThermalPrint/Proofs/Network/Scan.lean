import Mathlib.Data.List.Nodup
import Mathlib.Data.List.Perm.Basic
import ThermalPrint.Network.Scan

/-! Probes in whatever order they end. Every host of a list is probed as often as it is listed, and those
that answer are found, in ascending order. -/

namespace ThermalPrint

namespace Ipv4

/-- The last octet of a number and the octets before it. -/
theorem eq_of_append_octet {m n : Nat} {a b : UInt8} (h : m * 256 + a.toNat = n * 256 + b.toNat) :
    m = n ∧ a = b := by
  have ha := a.toNat_lt
  have hb := b.toNat_lt
  exact ⟨by omega, UInt8.toNat_inj.1 (by omega)⟩

theorem toNat_inj {x y : Ipv4} (h : x.toNat = y.toNat) : x = y := by
  obtain ⟨h, hd⟩ := eq_of_append_octet h
  obtain ⟨h, hc⟩ := eq_of_append_octet h
  obtain ⟨h, hb⟩ := eq_of_append_octet h
  have ha := UInt8.toNat_inj.1 h
  cases x
  cases y
  simp only [mk.injEq]
  exact ⟨ha, hb, hc, hd⟩

theorem pairwise_mergeSort (ips : List Ipv4) : ips.mergeSort.Pairwise (· ≤ ·) := by
  refine (List.pairwise_mergeSort (fun a b c hab hbc => ?_) (fun a b => ?_) ips).imp
    fun h => of_decide_eq_true h
  · exact decide_eq_true (Nat.le_trans (of_decide_eq_true hab) (of_decide_eq_true hbc))
  · rw [Bool.or_eq_true, decide_eq_true_iff, decide_eq_true_iff]
    exact Nat.le_total a.toNat b.toNat

end Ipv4

namespace Network

variable {responds : Ipv4 → Bool} {width : Nat} {next : Nat → Nat} {place n : Nat} {p : Probes} {host : Ipv4}

namespace Probes

/-- The hosts whose probes have not ended. -/
def pending (p : Probes) : List Ipv4 := p.running ++ p.waiting

/-- The hosts whose probes end when `n` of them do, in the order in which they end. -/
def ended (responds : Ipv4 → Bool) (width : Nat) (next : Nat → Nat) : Nat → Probes → List Ipv4
  | 0, _ => []
  | n + 1, p =>
    let p := p.start width
    let place := next n % p.running.length
    p.running[place]?.toList ++ ended responds width next n (p.finish responds place)

/-! ## One probe -/

theorem pending_start (width : Nat) (p : Probes) : (p.start width).pending = p.pending := by
  simp only [pending, start, List.append_assoc, List.take_append_drop]

/-- There is always a probe under way as long as one is pending. -/
theorem running_start_ne_nil (hwidth : 0 < width) (hpending : p.pending ≠ []) :
    (p.start width).running ≠ [] := by
  intro hnone
  obtain ⟨hrunning, htaken⟩ := List.append_eq_nil_iff.1 hnone
  rw [hrunning, List.length_nil, Nat.sub_zero, List.take_eq_nil_iff] at htaken
  rw [pending, hrunning, List.nil_append] at hpending
  exact htaken.elim (Nat.ne_of_gt hwidth) hpending

theorem found_finish (responds : Ipv4 → Bool) (place : Nat) (p : Probes) :
    (p.finish responds place).found = p.found ++ p.running[place]?.toList.filter responds := by
  unfold finish
  cases p.running[place]? with
  | none => simp
  | some host => cases hresponds : responds host <;> simp [hresponds]

theorem pending_finish (responds : Ipv4 → Bool) (hplace : p.running[place]? = some host) :
    (host :: (p.finish responds place).pending).Perm p.pending := by
  obtain ⟨hlt, rfl⟩ := List.getElem?_eq_some_iff.1 hplace
  simp only [pending, finish, hplace]
  exact (List.getElem_cons_eraseIdx_perm hlt).append_right p.waiting

/-! ## All probes -/

/-- Every pending host is probed once. -/
theorem ended_perm (hwidth : 0 < width) (hn : p.pending.length = n) :
    (ended responds width next n p).Perm p.pending := by
  induction n generalizing p with
  | zero => rw [List.length_eq_zero_iff.1 hn]; exact .nil
  | succ n ih =>
    have hpending : p.pending ≠ [] := List.ne_nil_of_length_eq_add_one hn
    have hrunning := running_start_ne_nil hwidth hpending
    rw [← pending_start width] at hn ⊢
    simp only [ended]
    generalize p.start width = q at hn hrunning ⊢
    have hlt : next n % q.running.length < q.running.length :=
      Nat.mod_lt _ (List.length_pos_of_ne_nil hrunning)
    have hplace := List.getElem?_eq_getElem hlt
    have hfinish := pending_finish responds hplace
    have hlength := hfinish.length_eq
    rw [hn, List.length_cons, Nat.add_right_cancel_iff] at hlength
    rw [hplace, Option.toList_some, List.singleton_append]
    exact ((ih hlength).cons _).trans hfinish

/-- Of the hosts that are probed those are found that answer. -/
theorem found_run (responds : Ipv4 → Bool) (width : Nat) (next : Nat → Nat) (n : Nat) (p : Probes) :
    (run responds width next n p).found =
      p.found ++ (ended responds width next n p).filter responds := by
  induction n generalizing p with
  | zero => simp [run, ended]
  | succ n ih =>
    rw [run, ended, ih, found_finish, List.filter_append, List.append_assoc]
    rfl

end Probes

/-- The hosts that are probed for a list, in the order in which their probes end. -/
def probedHosts (responds : Ipv4 → Bool) (concurrency : Nat) (next : Nat → Nat) (hosts : List Ipv4) :
    List Ipv4 :=
  Probes.ended responds (max 1 concurrency) next hosts.length { waiting := hosts }

variable {concurrency : Nat} {hosts : List Ipv4}

theorem probedHosts_perm : (probedHosts responds concurrency next hosts).Perm hosts :=
  Probes.ended_perm (Nat.lt_of_lt_of_le Nat.zero_lt_one (Nat.le_max_left 1 concurrency)) rfl

theorem probeHosts_eq : probeHosts responds concurrency next hosts =
    ((probedHosts responds concurrency next hosts).filter responds).mergeSort := by
  rw [probeHosts, Probes.found_run]
  rfl

/-- The hosts that answer are found, each as often as it is listed. -/
theorem probeHosts_perm : (probeHosts responds concurrency next hosts).Perm (hosts.filter responds) := by
  rw [probeHosts_eq]
  exact (List.mergeSort_perm _ _).trans (probedHosts_perm.filter responds)

theorem probeHosts_pairwise : (probeHosts responds concurrency next hosts).Pairwise (· ≤ ·) :=
  Ipv4.pairwise_mergeSort _

/-- The order in which probes end is not seen in what is found on ascending hosts. -/
theorem probeHosts_eq_filter (h : hosts.Pairwise (· ≤ ·)) :
    probeHosts responds concurrency next hosts = hosts.filter responds :=
  probeHosts_perm.eq_of_pairwise (fun _ _ _ _ hle hge => Ipv4.toNat_inj (Nat.le_antisymm hle hge))
    probeHosts_pairwise (h.filter responds)

/-! ## Scans of ranges -/

namespace Range

variable {r : Range} {ip : Ipv4}

theorem toNat_lastOctet {i : Nat} (hi : i < 254) : (UInt8.ofNat (i + 1)).toNat = i + 1 :=
  UInt8.toNat_ofNat_of_lt' (Nat.lt_trans (Nat.succ_lt_succ hi) (by decide))

theorem mem_hosts : ip ∈ r.hosts ↔ ∃ d : UInt8, 1 ≤ d ∧ d ≤ 254 ∧ ip = r.address d := by
  simp only [hosts, List.mem_map, List.mem_range]
  constructor
  · rintro ⟨i, hi, rfl⟩
    refine ⟨_, ?_, ?_, rfl⟩
    · rw [UInt8.le_iff_toNat_le, toNat_lastOctet hi]
      exact Nat.le_add_left 1 i
    · rw [UInt8.le_iff_toNat_le, toNat_lastOctet hi]
      exact hi
  · rintro ⟨d, hfirst, hlast, rfl⟩
    replace hfirst : 1 ≤ d.toNat := UInt8.le_iff_toNat_le.1 hfirst
    replace hlast : d.toNat ≤ 254 := UInt8.le_iff_toNat_le.1 hlast
    refine ⟨d.toNat - 1, Nat.sub_lt_right_of_lt_add hfirst (Nat.lt_succ_of_le hlast), ?_⟩
    rw [Nat.sub_add_cancel hfirst, UInt8.ofNat_toNat]

theorem hosts_pairwise_lt : r.hosts.Pairwise fun x y => x.toNat < y.toNat := by
  refine List.pairwise_map.2 (List.pairwise_lt_range.imp_of_mem fun {i j} hi hj hij => ?_)
  rw [List.mem_range] at hi hj
  simp only [address, Ipv4.toNat, toNat_lastOctet hi, toNat_lastOctet hj]
  omega

theorem hosts_pairwise : r.hosts.Pairwise (· ≤ ·) := hosts_pairwise_lt.imp Nat.le_of_lt

theorem nodup_hosts : r.hosts.Nodup :=
  hosts_pairwise_lt.imp fun hlt heq => Nat.ne_of_lt hlt (congrArg Ipv4.toNat heq)

end Range

namespace Surroundings

variable {s : Surroundings} {n : Settings.Network} {scan : Settings.Scan} {range : String} {r : Range}

/-- The hosts that a scan of a range probes, in the order in which their probes end. -/
def probed (s : Surroundings) (n : Settings.Network) (scan : Settings.Scan) (range : String) : List Ipv4 :=
  (Range.ofText range).toOption.elim [] fun r =>
    probedHosts (s.responds n.port) scan.concurrency.toNat s.nextProbe r.hosts

/-- Every host of a range is probed once. -/
theorem probed_perm (h : Range.ofText range = .ok r) : (s.probed n scan range).Perm r.hosts := by
  rw [probed, h]
  exact probedHosts_perm

theorem scan_eq (h : Range.ofText range = .ok r) :
    s.scan n scan range = .ok (r.hosts.filter (s.responds n.port)) := by
  rw [Surroundings.scan, h, Except.map, probeHosts_eq_filter Range.hosts_pairwise]

end Surroundings

end Network

end ThermalPrint

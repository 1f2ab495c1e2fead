import Mathlib.Data.List.Forall2
import ThermalPrint.Discovery.Search
import ThermalPrint.Proofs.Network.Address
import ThermalPrint.Proofs.Network.Scan
import ThermalPrint.Transport.Kind

/-! Printers that a search finds on a range of addresses: one for every address that answers, under an
identifier that leads back to the address. -/

namespace ThermalPrint.Discovery

open Network

/-- The candidate that stands for an address. -/
structure Candidate.IsHost (c : Candidate) (ip : Ipv4) : Prop where
  text : c.identifier.text = ip.text
  address : c.identifier.ipv4? = some ip
  route : Transport.Kind.ofIdentifier c.identifier = .network
  name : c.name = s!"Network Printer ({ip.text})"
  state : c.state = .ready
  medium : c.medium = .wifi

/-- The addresses of a range at which something answers, ascending and none of them twice. The first and
the last address of the range are never among them. -/
structure Responders (responds : Ipv4 → Bool) (r : Range) (ips : List Ipv4) : Prop where
  ascending : ips.Pairwise (· ≤ ·)
  nodup : ips.Nodup
  mem_iff : ∀ ip, ip ∈ ips ↔ responds ip = true ∧ ∃ d : UInt8, 1 ≤ d ∧ d ≤ 254 ∧ ip = r.address d

theorem responders_filter (responds : Ipv4 → Bool) (r : Range) :
    Responders responds r (r.hosts.filter responds) where
  ascending := Range.hosts_pairwise.filter responds
  nodup := Range.nodup_hosts.filter responds
  mem_iff ip := by rw [List.mem_filter, Range.mem_hosts, and_comm]

/-- There is only one such list. -/
theorem Responders.eq_filter {responds : Ipv4 → Bool} {r : Range} {ips : List Ipv4}
    (h : Responders responds r ips) : ips = r.hosts.filter responds := by
  have hfilter := responders_filter responds r
  have hperm : ips.Perm (r.hosts.filter responds) :=
    (List.perm_ext_iff_of_nodup h.nodup hfilter.nodup).2 fun ip => by rw [h.mem_iff, hfilter.mem_iff]
  exact hperm.eq_of_pairwise (fun _ _ _ _ hle hge => Ipv4.toNat_inj (Nat.le_antisymm hle hge))
    h.ascending hfilter.ascending

/-! ## Candidates of addresses -/

def hostCandidate (ip : Ipv4) : Candidate :=
  ⟨ip.identifier, s!"Network Printer ({ip.text})", .ready, .wifi⟩

/-- The text of an address is never refused as an identifier. -/
theorem hostCandidate?_eq (ip : Ipv4) : hostCandidate? ip = some (hostCandidate ip) := by
  rw [hostCandidate?, ip.ofText_text]
  rfl

theorem isHost_hostCandidate (ip : Ipv4) : (hostCandidate ip).IsHost ip where
  text := rfl
  address := ip.ipv4?_identifier
  route := by
    rw [Transport.Kind.ofIdentifier, Identifier.isNetworkAddress]
    exact if_pos (Option.isSome_iff_exists.2 ⟨ip, ip.ipv4?_identifier⟩)
  name := rfl
  state := rfl
  medium := rfl

theorem filterMap_hostCandidate? (ips : List Ipv4) :
    ips.filterMap hostCandidate? = ips.map hostCandidate := by
  rw [show hostCandidate? = some ∘ hostCandidate from funext hostCandidate?_eq, List.filterMap_eq_map]

/-- No address is left out. -/
theorem forall₂_isHost (ips : List Ipv4) :
    List.Forall₂ Candidate.IsHost (ips.filterMap hostCandidate?) ips := by
  rw [filterMap_hostCandidate?, List.forall₂_map_left_iff, List.forall₂_same]
  exact fun ip _ => isHost_hostCandidate ip

/-- What candidates have in common with what they stand for. -/
theorem map_eq_map_of_forall₂ {α β γ : Type} {R : α → β → Prop} {f : α → γ} {g : β → γ} {as : List α}
    {bs : List β} (h : List.Forall₂ R as bs) (hR : ∀ a b, R a b → f a = g b) : as.map f = bs.map g := by
  rw [← List.forall₂_eq_eq_eq, List.forall₂_map_left_iff, List.forall₂_map_right_iff]
  exact h.imp hR

/-! ## Searches of a range -/

namespace Sources

variable (s : Surroundings) (n : Settings.Network) (scan : Settings.Scan)
  (bonded : Except Failure (List Device)) (range : String)

/-- Hosts that are probed are found if they answer, whatever the order in which their probes end. So a
search of a range lists the addresses of the range that answer and no others; for a text that is no
range nothing is probed. -/
theorem network_lists_responders :
    (∀ (responds : Ipv4 → Bool) (concurrency : Nat) (next : Nat → Nat) (hosts : List Ipv4),
      (probeHosts responds concurrency next hosts).Perm (hosts.filter responds) ∧
      (probeHosts responds concurrency next hosts).Pairwise (· ≤ ·)) ∧
    (∀ f, Range.ofText range = .error f →
      f.kind = "invalid_config" ∧ s.probed n scan range = [] ∧
      (⟨bonded, some (s.scan n scan)⟩ : Sources).network (some range) = .error f) ∧
    ∀ r, Range.ofText range = .ok r →
      (s.probed n scan range).Perm r.hosts ∧
      ∃ ips cs, ips.Perm ((s.probed n scan range).filter (s.responds n.port)) ∧
        Responders (s.responds n.port) r ips ∧
        (⟨bonded, some (s.scan n scan)⟩ : Sources).network (some range) = .ok cs ∧
        List.Forall₂ Candidate.IsHost cs ips := by
  refine ⟨fun _ _ _ _ => ⟨probeHosts_perm, probeHosts_pairwise⟩, fun f hf => ⟨?_, ?_, ?_⟩,
    fun r hr => ⟨Surroundings.probed_perm hr, ?_⟩⟩
  · unfold Range.ofText at hf
    split at hf
    · cases hf
    · cases hf
      rfl
  · rw [Surroundings.probed, hf]
    rfl
  · simp only [network, Surroundings.scan, hf]
    rfl
  · refine ⟨_, _, ((Surroundings.probed_perm hr).filter _).symm, responders_filter _ r, ?_,
      forall₂_isHost _⟩
    simp only [network, Surroundings.scan_eq hr]
    rfl

/-- Three hosts of a range answer. With a concurrency of zero one host is still probed at a time. -/
theorem network_lists_responders_sparse :
    let s : Surroundings :=
      { answer := fun ip _ => if ip.d % 100 = 7 then .accepted else .refused, nextProbe := id }
    let sources : Sources := ⟨noAdapter, some (s.scan {} { concurrency := 0 })⟩
    sources.network (some "10.0.1.1") = .error (.badConfiguration "Invalid network range \"10.0.1.1\"") ∧
      ∃ cs, sources.network (some "10.0.1.0/24") = .ok cs ∧
        cs.map (·.identifier.text) = ["10.0.1.7", "10.0.1.107", "10.0.1.207"] := by
  intro s sources
  obtain ⟨-, hrefused, -⟩ := network_lists_responders s {} { concurrency := 0 } noAdapter "10.0.1.1"
  obtain ⟨-, -, hlisted⟩ := network_lists_responders s {} { concurrency := 0 } noAdapter "10.0.1.0/24"
  refine ⟨(hrefused _ rfl).2.2, ?_⟩
  obtain ⟨-, ips, cs, -, hips, hcs, hhosts⟩ := hlisted ⟨10, 0, 1⟩ rfl
  refine ⟨cs, hcs, ?_⟩
  rw [map_eq_map_of_forall₂ (g := Ipv4.text) hhosts fun _ _ hhost => hhost.text, hips.eq_filter]
  decide +kernel

end Sources

end ThermalPrint.Discovery

import ThermalPrint.Proofs.Registry.Ownership
import ThermalPrint.Proofs.Text.Quad

/-! The addresses to which there are connections. The registry goes by the texts of identifiers, which are
kept as they were given: an address that is spelled in two ways is that of two identifiers. Without
leading zeros it has one spelling, and then no two connections. -/

namespace ThermalPrint

open Transport

theorem Identifier.eq_of_ipv4?_eq {id id' : Identifier} {ip : Ipv4} (h : id.ipv4? = some ip)
    (h' : id'.ipv4? = some ip) (hplain : Ipv4.isPadded id.text = false)
    (hplain' : Ipv4.isPadded id'.text = false) : id = id' :=
  Identifier.ext ((Ipv4.text_of_ofText? h hplain).symm.trans (Ipv4.text_of_ofText? h' hplain'))

namespace Registry

variable {r : Registry}

/-- Whether a channel is an open connection through the network. -/
def isLive (l : Line) : Bool := l.isOpen && l.channel.kind = .network

/-- The addresses to which there are connections, by the identifiers for which these were opened;
those identifiers count that satisfy `p`. -/
def liveAddresses (r : Registry) (p : Identifier → Bool) : List Ipv4 :=
  ((r.connectors.flatMap (·.lines)).filter fun l => isLive l && p l.owner).filterMap (·.owner.ipv4?)

/-- Two spellings of an address are connected at the same time. -/
theorem not_nodup_liveAddresses :
    let r : Registry := { connectors := [⟨.network, .network, fun _ => none, none, 0, []⟩] }
    let cs : List Call := [.connect "10.0.0.1", .connect "10.0.0.01"]
    r.IsNew ∧ (r.after cs).liveAddresses (fun _ => true) = [⟨10, 0, 0, 1⟩, ⟨10, 0, 0, 1⟩] ∧
      ¬ ((r.after cs).liveAddresses fun _ => true).Nodup := by
  intro r cs
  have haddresses : (r.after cs).liveAddresses (fun _ => true) = [⟨10, 0, 0, 1⟩, ⟨10, 0, 0, 1⟩] := by
    decide +kernel
  refine ⟨⟨rfl, by simp [r]⟩, haddresses, ?_⟩
  rw [haddresses]
  decide

theorem Tidy.nodup_liveAddresses (hr : r.Tidy) :
    (r.liveAddresses fun id => !Ipv4.isPadded id.text).Nodup := by
  unfold liveAddresses
  rw [List.Nodup, List.pairwise_filterMap, List.pairwise_filter]
  refine hr.owners_pairwise.imp ?_
  intro l l' howner hl hl' ip hip ip' hip' heq
  subst heq
  simp only [isLive, Bool.and_eq_true, Bool.not_eq_true'] at hl hl'
  exact howner hl.1.1 hl'.1.1 (Identifier.eq_of_ipv4?_eq hip hip' hl.2 hl'.2)

/-- After any calls there are no two connections to an address among the identifiers without leading
zeros, and every connection is the one held for the identifier that it was opened for. -/
theorem addresses_after (hr : r.IsNew) (cs : List Call) :
    ((r.after cs).liveAddresses fun id => !Ipv4.isPadded id.text).Nodup ∧
      ∀ h l, (r.after cs).line? h = some l → l.isOpen = true → (r.after cs).held l.owner = some h := by
  have ht := hr.tidy.after cs
  exact ⟨ht.nodup_liveAddresses, fun h l hl hopen => ht.held_iff.2 ⟨l, hl, rfl, hopen⟩⟩

/-- Of three connections to two addresses the one that is spelled with a zero does not count. -/
theorem addresses_after_spelling_twice :
    let r : Registry := { connectors := [⟨.network, .network, fun _ => none, none, 0, []⟩] }
    let cs : List Call := [.connect "10.0.0.1", .connect "10.0.0.01", .connect "10.0.0.2"]
    let addresses := (r.after cs).liveAddresses fun id => !Ipv4.isPadded id.text
    r.IsNew ∧ addresses.Nodup ∧ addresses = [⟨10, 0, 0, 1⟩, ⟨10, 0, 0, 2⟩] ∧
      ∃ l, (r.after cs).line? ⟨0, 2⟩ = some l ∧ (r.after cs).held l.owner = some ⟨0, 2⟩ := by
  intro r cs addresses
  have hr : r.IsNew := ⟨rfl, by simp [r]⟩
  obtain ⟨hnodup, hheld⟩ := addresses_after hr cs
  have hsome : ((r.after cs).line? ⟨0, 2⟩).any (·.isOpen) = true := by decide +kernel
  obtain ⟨l, hl, hopen⟩ := (Option.any_eq_true _ _).1 hsome
  exact ⟨hr, hnodup, by decide +kernel, l, hl, hheld ⟨0, 2⟩ l hl hopen⟩

end Registry

end ThermalPrint

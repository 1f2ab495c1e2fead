import ThermalPrint.Proofs.Discovery.Network
import ThermalPrint.Proofs.Registry.Failures

/-! Searches of every kind. The printers among the wireless devices and those on a range are listed in the
order in which they are known, each once; what becomes of one search is not seen in the other. -/

namespace ThermalPrint.Discovery

/-- A device with the name of a printer and an address that is an identifier. -/
def Device.isPrinter (d : Device) : Bool :=
  d.name.any isPrinterName && (Identifier.ofText d.address).isOk

/-- The candidate that stands for a device. -/
structure Candidate.IsDevice (c : Candidate) (d : Device) : Prop where
  text : c.identifier.text = d.address
  name : d.name = some c.name
  state : c.state = if d.bond = .bonded then .ready else .offline
  medium : c.medium = .bluetooth

/-- What a search adds to the candidates: all that it lists, or nothing if it fails. -/
inductive Adds : Except Failure (List Candidate) → List Candidate → Prop
  | listed (cs : List Candidate) : Adds (.ok cs) cs
  | failed (f : Failure) : Adds (.error f) []

/-- What a search for printers owes to the devices and hosts that its sources know. -/
structure Sources.Faithful (s : Sources) (range : Option String) : Prop where
  devices : ∀ ds, s.bonded = .ok ds →
    ∃ cs, s.wireless = .ok cs ∧ List.Forall₂ Candidate.IsDevice cs (ds.filter Device.isPrinter)
  noAdapter : ∀ f, s.bonded = .error f → f.kind = "adapter_unavailable" → s.wireless = .ok []
  devicesFailed : ∀ f, s.bonded = .error f → f.kind ≠ "adapter_unavailable" → s.wireless = .error f
  noScan : range = none ∨ s.scanner = none → s.network range = .ok []
  hosts : ∀ text scan ips, range = some text → s.scanner = some scan → scan text = .ok ips →
    ∃ cs, s.network range = .ok cs ∧ List.Forall₂ Candidate.IsHost cs ips
  hostsFailed : ∀ text scan f, range = some text → s.scanner = some scan → scan text = .error f →
    s.network range = .error f
  /-- Both searches together list what the two add, and neither changes what the other adds. -/
  together : ∃ ws ns, Adds s.wireless ws ∧ Adds (s.network range) ns ∧ s.all range = ws ++ ns ∧
    (∀ scanner range', ∃ ns', Adds ((⟨s.bonded, scanner⟩ : Sources).network range') ns' ∧
      (⟨s.bonded, scanner⟩ : Sources).all range' = ws ++ ns') ∧
    ∀ bonded, ∃ ws', Adds (⟨bonded, s.scanner⟩ : Sources).wireless ws' ∧
      (⟨bonded, s.scanner⟩ : Sources).all range = ws' ++ ns
  /-- Every candidate can be connected, printed to and disconnected by the text of its identifier. -/
  taken : ∀ c ∈ s.all range, Registry.Takes c.identifier.text

/-! ## Wireless devices -/

theorem Bond.reachability_eq (b : Bond) : b.reachability = if b = .bonded then .ready else .offline := by
  cases b <;> rfl

namespace Device

variable {d : Device} {c : Candidate}

theorem isSome_candidate? (d : Device) : d.candidate?.isSome = d.isPrinter := by
  unfold candidate? isPrinter
  cases d.name with
  | none => rfl
  | some name =>
    rw [Option.any_some, Option.bind_eq_bind, Option.bind_some]
    cases isPrinterName name <;> cases Identifier.ofText d.address <;> rfl

theorem isDevice_of_candidate? (h : d.candidate? = some c) : c.IsDevice d := by
  obtain ⟨name, hname, h⟩ := Option.bind_eq_some_iff.1 h
  obtain ⟨-, -, h⟩ := Option.bind_eq_some_iff.1 h
  obtain ⟨id, hid, ⟨⟩⟩ := Option.bind_eq_some_iff.1 h
  cases haddress : Identifier.ofText d.address with
  | error f =>
    rw [haddress] at hid
    cases hid
  | ok id' =>
    rw [haddress] at hid
    cases hid
    exact ⟨Identifier.ofText_eq_ok_iff.1 haddress, hname, d.bond.reachability_eq, rfl⟩

/-- No printer among devices is left out, and nothing else is listed. -/
theorem forall₂_isDevice (ds : List Device) :
    List.Forall₂ Candidate.IsDevice (ds.filterMap candidate?) (ds.filter isPrinter) := by
  induction ds with
  | nil => exact .nil
  | cons d ds ih =>
    have hprinter := d.isSome_candidate?
    cases hcandidate : d.candidate? with
    | none =>
      rw [hcandidate, Option.isSome_none] at hprinter
      rwa [List.filterMap_cons_none hcandidate, List.filter_cons_of_neg (by simp [← hprinter])]
    | some c =>
      rw [hcandidate, Option.isSome_some] at hprinter
      rw [List.filterMap_cons_some hcandidate, List.filter_cons_of_pos hprinter.symm]
      exact .cons (isDevice_of_candidate? hcandidate) ih

end Device

/-! ## Both searches -/

theorem adds_toOption (x : Except Failure (List Candidate)) : Adds x (x.toOption.getD []) := by
  cases x with
  | ok cs => exact .listed cs
  | error f => exact .failed f

namespace Sources

theorem wireless_of_error {s : Sources} {f : Failure} (h : s.bonded = .error f) :
    s.wireless = if f.kind = "adapter_unavailable" then .ok [] else .error f := by
  rw [wireless, h]
  cases f <;> rfl

/-- A search is faithful to its sources, whatever these answer. -/
theorem all_faithful (s : Sources) (range : Option String) : s.Faithful range where
  devices ds h := ⟨_, by rw [wireless, h], Device.forall₂_isDevice ds⟩
  noAdapter f h hkind := by rw [wireless_of_error h, if_pos hkind]
  devicesFailed f h hkind := by rw [wireless_of_error h, if_neg hkind]
  noScan h := by
    rcases h with rfl | h
    · rfl
    · cases range <;> simp only [network, h]
  hosts text scan ips := by
    rintro rfl hscan hips
    refine ⟨_, ?_, forall₂_isHost ips⟩
    simp only [network, hscan, hips]
    rfl
  hostsFailed text scan f := by
    rintro rfl hscan hf
    simp only [network, hscan, hf]
    rfl
  together := ⟨_, _, adds_toOption s.wireless, adds_toOption (s.network range), rfl,
    fun _ _ => ⟨_, adds_toOption _, rfl⟩, fun _ => ⟨_, adds_toOption _, rfl⟩⟩
  taken c _ := Registry.takes_text c.identifier

/-- A device without a name, one with another name and one with a blank in its address are left out, and
so is all that a failed scan would have found. -/
theorem all_faithful_failed_scan :
    let s : Sources :=
      ⟨.ok [⟨"00:11:22:33:44:55", some "ZyPrint-58", .bonded⟩, ⟨"00:11:22:33:44:66", none, .bonded⟩,
        ⟨"00:11:22:33:44:77", some "Speaker", .bonded⟩, ⟨"00 11", some "Printer", .bonded⟩,
        ⟨"00:11:22:33:44:88", some "KITCHEN PRINTER", .bonding⟩],
        some fun _ => .error .notConnected⟩
    s.network (some "10.0.0") = .error .notConnected ∧
      (s.all (some "10.0.0")).map (fun c => (c.identifier.text, c.state)) =
        [("00:11:22:33:44:55", .ready), ("00:11:22:33:44:88", .offline)] ∧
      ∀ c ∈ s.all (some "10.0.0"), Registry.Takes c.identifier.text := by
  intro s
  have h : s.Faithful (some "10.0.0") := all_faithful s _
  obtain ⟨cs, hwireless, hcs⟩ := h.devices _ rfl
  have hnetwork : s.network (some "10.0.0") = .error .notConnected := h.hostsFailed _ _ _ rfl rfl rfl
  have hall : s.all (some "10.0.0") = cs := by
    rw [all, hwireless, hnetwork]
    exact List.append_nil cs
  refine ⟨hnetwork, ?_, h.taken⟩
  rw [hall, map_eq_map_of_forall₂ (g := fun d => (d.address, if d.bond = .bonded then .ready else .offline))
    hcs fun c d hc => by rw [hc.text, hc.state]]
  decide +kernel

end Sources

end ThermalPrint.Discovery

import ThermalPrint.Proofs.Json.Given
import ThermalPrint.Proofs.Settings.Usable
import ThermalPrint.Settings.Json

/-! Settings that are read. What is written of settings is read as the same again, and of settings that are
given in part exactly what is given is put over what is built in. -/

namespace ThermalPrint.Settings

open Json
open RecordForm (takeMembers takeMembers_field)

variable {literal : String → StringLiteral} {origin : Origin} {v : Source}

/-! ## What is given -/

/-- The value is an integer, the channel of a printer, or null. -/
def ChannelStated : Source → Option UInt8 → Prop := Decoder.Nulled fun v c => v.WritesInteger c.toNat

/-- The value is a number of milliseconds. -/
def MillisecondsStated (v : Source) (n : UInt64) : Prop := v.WritesInteger n.toNat

/-- An object that gives some of the settings of connections in the network. -/
inductive Network.Stated : Source → Network.Draft → Prop
  | object {ms : Members} {d : Draft} (close : List Blank)
    (port : Gives (fun v n => v.WritesInteger n.toNat) "port" ms d.port)
    (connectTimeout : Gives MillisecondsStated "connect_timeout_ms" ms d.connectTimeout)
    (writeTimeout : Gives MillisecondsStated "write_timeout_ms" ms d.writeTimeout) :
    Stated (.object ms close) d

/-- An object that gives some of the settings of wireless connections. -/
inductive Bluetooth.Stated : Source → Bluetooth.Draft → Prop
  | object {ms : Members} {d : Draft} (close : List Blank)
    (channel : Gives ChannelStated "channel" ms d.channel)
    (connectTimeout : Gives MillisecondsStated "connect_timeout_ms" ms d.connectTimeout)
    (writeTimeout : Gives MillisecondsStated "write_timeout_ms" ms d.writeTimeout) :
    Stated (.object ms close) d

/-- An object that gives some of the settings of searches. -/
inductive Scan.Stated : Source → Scan.Draft → Prop
  | object {ms : Members} {d : Draft} (close : List Blank)
    (probeTimeout : Gives MillisecondsStated "probe_timeout_ms" ms d.probeTimeout)
    (concurrency : Gives (fun v n => v.WritesInteger n.toNat) "concurrency" ms d.concurrency) :
    Stated (.object ms close) d

/-- Some of the sections of settings, each with some of its fields. -/
structure Partial where
  network : Option Network.Draft := none
  bluetooth : Option Bluetooth.Draft := none
  scan : Option Scan.Draft := none

/-- An object that gives some of the sections. -/
inductive Partial.Stated : Source → Partial → Prop
  | object {ms : Members} {p : Partial} (close : List Blank)
    (network : Gives Network.Stated "network" ms p.network)
    (bluetooth : Gives Bluetooth.Stated "bluetooth" ms p.bluetooth)
    (scan : Gives Scan.Stated "scan" ms p.scan) : Stated (.object ms close) p

/-! ## What is built in -/

def Network.Draft.effective (d : Network.Draft) : Network where
  port := d.port.getD 9100
  connectTimeout := d.connectTimeout.getD 5000
  writeTimeout := d.writeTimeout.getD 5000

def Bluetooth.Draft.effective (d : Bluetooth.Draft) : Bluetooth where
  channel := d.channel.getD none
  connectTimeout := d.connectTimeout.getD 5000
  writeTimeout := d.writeTimeout.getD 5000

def Scan.Draft.effective (d : Scan.Draft) : Scan where
  probeTimeout := d.probeTimeout.getD 300
  concurrency := d.concurrency.getD 64

/-- The settings with what is given, and with what is built in for everything else. A section that is not given
gives nothing. -/
def Partial.effective (p : Partial) : Settings where
  network := (p.network.getD {}).effective
  bluetooth := (p.bluetooth.getD {}).effective
  scan := (p.scan.getD {}).effective

/-! ## Forms -/

theorem Network.orderly_form : form.Orderly where
  apart := by
    simp only [form, List.pairwise_cons, List.forall_mem_cons, List.not_mem_nil, false_imp_iff,
      implies_true, List.Pairwise.nil, and_true]
    and_intros <;> exact Field.apart_of (by decide) (fun _ _ => rfl) (fun _ _ => rfl) fun _ _ _ => rfl
  new := by
    simp only [form, List.forall_mem_cons]
    exact ⟨rfl, rfl, rfl, List.forall_mem_nil _⟩

theorem Bluetooth.orderly_form : form.Orderly where
  apart := by
    simp only [form, List.pairwise_cons, List.forall_mem_cons, List.not_mem_nil, false_imp_iff,
      implies_true, List.Pairwise.nil, and_true]
    and_intros <;> exact Field.apart_of (by decide) (fun _ _ => rfl) (fun _ _ => rfl) fun _ _ _ => rfl
  new := by
    simp only [form, List.forall_mem_cons]
    exact ⟨rfl, rfl, rfl, List.forall_mem_nil _⟩

theorem Scan.orderly_form : form.Orderly where
  apart := by
    simp only [form, List.pairwise_cons, List.forall_mem_cons, List.not_mem_nil, false_imp_iff,
      implies_true, List.Pairwise.nil, and_true]
    exact Field.apart_of (by decide) (fun _ _ => rfl) (fun _ _ => rfl) fun _ _ _ => rfl
  new := by
    simp only [form, List.forall_mem_cons]
    exact ⟨rfl, rfl, List.forall_mem_nil _⟩

theorem orderly_form : form.Orderly where
  apart := by
    simp only [form, List.pairwise_cons, List.forall_mem_cons, List.not_mem_nil, false_imp_iff,
      implies_true, List.Pairwise.nil, and_true]
    and_intros <;> exact Field.apart_of (by decide) (fun _ _ => rfl) (fun _ _ => rfl) fun _ _ _ => rfl
  new := by
    simp only [form, List.forall_mem_cons]
    exact ⟨rfl, rfl, rfl, List.forall_mem_nil _⟩

/-! ## Reading what is given -/

theorem takes_port : Decoder.Takes Network.form.port 0 fun v n => v.WritesInteger n.toNat :=
  Decoder.takes_natural "u16" UInt16.toNat_lt (fun _ => UInt16.ofNat_toNat) 0

theorem takes_channel : (Decoder.option Bluetooth.form.channel).Takes 0 ChannelStated :=
  (Decoder.takes_natural "u8" UInt8.toNat_lt (fun _ => UInt8.ofNat_toNat) 0).option

theorem takes_milliseconds : milliseconds.Takes 0 MillisecondsStated :=
  Decoder.takes_natural "u64" UInt64.toNat_lt (fun _ => UInt64.ofNat_toNat) 0

theorem takes_concurrency : Decoder.Takes Scan.form.concurrency 0 fun v n => v.WritesInteger n.toNat :=
  Decoder.takes_natural "usize" UInt64.toNat_lt (fun _ => UInt64.ofNat_toNat) 0

theorem Network.takes_decoder :
    decoder.Takes 1 fun v network => ∃ d, Stated v d ∧ Draft.effective d = network := by
  rintro n _ _ hn ⟨d, ⟨close, hport, hconnect, hwrite⟩, rfl⟩
  obtain ⟨n, rfl⟩ := Nat.exists_eq_add_of_le' hn
  have hn := Nat.zero_le n
  refine RecordForm.decoder_of_collects orderly_form hport.exists_name (s := d) ?_ rfl close
  refine .of (fun port => { port }) rfl (fun _ => rfl) takes_port hn hport ?_
  refine .of (fun connectTimeout => { port := d.port, connectTimeout }) rfl (fun _ => rfl) takes_milliseconds hn
    hconnect ?_
  exact .of (fun writeTimeout => { d with writeTimeout }) rfl (fun _ => rfl) takes_milliseconds hn hwrite rfl

theorem Bluetooth.takes_decoder :
    decoder.Takes 1 fun v bluetooth => ∃ d, Stated v d ∧ Draft.effective d = bluetooth := by
  rintro n _ _ hn ⟨d, ⟨close, hchannel, hconnect, hwrite⟩, rfl⟩
  obtain ⟨n, rfl⟩ := Nat.exists_eq_add_of_le' hn
  have hn := Nat.zero_le n
  refine RecordForm.decoder_of_collects orderly_form hchannel.exists_name (s := d) ?_ rfl close
  refine .of (fun channel => { channel }) rfl (fun _ => rfl) takes_channel hn hchannel ?_
  refine .of (fun connectTimeout => { channel := d.channel, connectTimeout }) rfl (fun _ => rfl)
    takes_milliseconds hn hconnect ?_
  exact .of (fun writeTimeout => { d with writeTimeout }) rfl (fun _ => rfl) takes_milliseconds hn hwrite rfl

theorem Scan.takes_decoder :
    decoder.Takes 1 fun v scan => ∃ d, Stated v d ∧ Draft.effective d = scan := by
  rintro n _ _ hn ⟨d, ⟨close, hprobe, hconcurrency⟩, rfl⟩
  obtain ⟨n, rfl⟩ := Nat.exists_eq_add_of_le' hn
  have hn := Nat.zero_le n
  refine RecordForm.decoder_of_collects orderly_form hprobe.exists_name (s := d) ?_ rfl close
  refine .of (fun probeTimeout => { probeTimeout }) rfl (fun _ => rfl) takes_milliseconds hn hprobe ?_
  exact .of (fun concurrency => { d with concurrency }) rfl (fun _ => rfl) takes_concurrency hn hconcurrency rfl

theorem takes_decoder : decoder.Takes 2 fun v s => ∃ p : Partial, p.Stated v ∧ p.effective = s := by
  rintro n _ _ hn ⟨p, ⟨close, hnetwork, hbluetooth, hscan⟩, rfl⟩
  obtain ⟨n, rfl⟩ := Nat.exists_eq_add_of_le' hn
  have hn : 1 ≤ n + 1 := Nat.le_add_left 1 n
  have hnetwork := hnetwork.image Network.Draft.effective
  have hbluetooth := hbluetooth.image Bluetooth.Draft.effective
  have hscan := hscan.image Scan.Draft.effective
  let d : Draft := ⟨p.network.map (·.effective), p.bluetooth.map (·.effective), p.scan.map (·.effective)⟩
  refine RecordForm.decoder_of_collects orderly_form hnetwork.exists_name (s := d) ?_ ?_ close
  · refine .of (fun network => { network }) rfl (fun _ => rfl) Network.takes_decoder hn hnetwork ?_
    refine .of (fun bluetooth => { network := d.network, bluetooth }) rfl (fun _ => rfl) Bluetooth.takes_decoder hn
      hbluetooth ?_
    exact .of (fun scan => { d with scan }) rfl (fun _ => rfl) Scan.takes_decoder hn hscan rfl
  · have hsections : form.complete d = .ok p.effective := by
      obtain ⟨_ | network, _ | bluetooth, _ | scan⟩ := p <;> rfl
    exact hsections

theorem decodeText_stated {p : Partial} {d : Spaced Source} (h : p.Stated d.item) :
    decodeText decoder d.text = .ok p.effective := by
  have hlevels : 2 ≤ depthLimit := by decide
  rw [Spaced.decodeText_text]
  exact takes_decoder hlevels ⟨p, h, rfl⟩

/-! ## Reading what is written -/

theorem natural_toJson {α : Type} (name : String) {ofNat : Nat → α} {a : α} {limit n : Nat}
    {exact : n < 0x10000000000000000} (h : n < limit) (hof : ofNat n = a) :
    (Decoder.natural name limit origin ((naturalJson n exact).tree literal)).map ofNat = .ok a :=
  map_eq_ok_iff.2 ⟨n, Decoder.natural_integer h origin, hof⟩

theorem naturalJson_ne_null (n : Nat) {exact : n < 0x10000000000000000} :
    (naturalJson n exact).tree literal ≠ .atom .null := by
  rw [naturalJson, Value.tree]
  simp only [ne_eq, Node.atom.injEq, reduceCtorEq, not_false_iff]

theorem milliseconds_toJson (n : UInt64) : milliseconds origin ((word64Json n).tree literal) = .ok n :=
  natural_toJson "u64" n.toNat_lt UInt64.ofNat_toNat

theorem port_toJson (n : UInt16) {exact : n.toNat < 0x10000000000000000} :
    Network.form.port origin ((naturalJson n.toNat exact).tree literal) = .ok n :=
  natural_toJson "u16" n.toNat_lt UInt16.ofNat_toNat

theorem channel_toJson (n : UInt8) {exact : n.toNat < 0x10000000000000000} :
    Bluetooth.form.channel origin ((naturalJson n.toNat exact).tree literal) = .ok n :=
  natural_toJson "u8" n.toNat_lt UInt8.ofNat_toNat

theorem concurrency_toJson (n : UInt64) :
    Scan.form.concurrency origin ((word64Json n).tree literal) = .ok n :=
  natural_toJson "usize" n.toNat_lt UInt64.ofNat_toNat

theorem Network.decoder_toJson (s : Network) (h : Faithful literal) (hdepth : origin.Admits s.toJson.depth) :
    decoder origin (s.toJson.tree literal) = .ok s := by
  obtain ⟨inner, henter, -⟩ := Origin.Admits.enter hdepth
  -- the fields that have been given after `n` members
  let d (n : Nat) : Draft := {
    port := if n < 1 then none else some s.port
    connectTimeout := if n < 2 then none else some s.connectTimeout
    writeTimeout := if n < 3 then none else some s.writeTimeout }
  refine RecordForm.decoder_object (s := d 3) henter ?_ rfl
  calc takeMembers form.fields inner (Value.treeMembers literal _) (d 0)
    _ = takeMembers _ _ _ (d 1) := takeMembers_field h rfl rfl (port_toJson s.port) rfl
    _ = takeMembers _ _ _ (d 2) := takeMembers_field h rfl rfl (milliseconds_toJson _) rfl
    _ = takeMembers _ _ _ (d 3) := takeMembers_field h rfl rfl (milliseconds_toJson _) rfl

theorem option_channel_toJson (channel : Option UInt8) {exact : ∀ c : UInt8, c.toNat < 0x10000000000000000} :
    Decoder.option Bluetooth.form.channel origin
      ((channel.elim .null fun c => naturalJson c.toNat (exact c)).tree literal) = .ok channel := by
  cases channel with
  | none => rfl
  | some c =>
    rw [Option.elim_some, Decoder.option_of_ne_null (naturalJson_ne_null c.toNat), channel_toJson]
    rfl

theorem Bluetooth.decoder_toJson (s : Bluetooth) (h : Faithful literal)
    (hdepth : origin.Admits s.toJson.depth) : decoder origin (s.toJson.tree literal) = .ok s := by
  obtain ⟨inner, henter, -⟩ := Origin.Admits.enter hdepth
  -- the fields that have been given after `n` members
  let d (n : Nat) : Draft := {
    channel := if n < 1 then none else some s.channel
    connectTimeout := if n < 2 then none else some s.connectTimeout
    writeTimeout := if n < 3 then none else some s.writeTimeout }
  refine RecordForm.decoder_object (s := d 3) henter ?_ rfl
  calc takeMembers form.fields inner (Value.treeMembers literal _) (d 0)
    _ = takeMembers _ _ _ (d 1) := takeMembers_field h rfl rfl (option_channel_toJson s.channel) rfl
    _ = takeMembers _ _ _ (d 2) := takeMembers_field h rfl rfl (milliseconds_toJson _) rfl
    _ = takeMembers _ _ _ (d 3) := takeMembers_field h rfl rfl (milliseconds_toJson _) rfl

theorem Scan.decoder_toJson (s : Scan) (h : Faithful literal) (hdepth : origin.Admits s.toJson.depth) :
    decoder origin (s.toJson.tree literal) = .ok s := by
  obtain ⟨inner, henter, -⟩ := Origin.Admits.enter hdepth
  refine RecordForm.decoder_object (s := ⟨some s.probeTimeout, some s.concurrency⟩) henter ?_ rfl
  calc takeMembers form.fields inner (Value.treeMembers literal _) {}
    _ = takeMembers _ _ _ { probeTimeout := some s.probeTimeout } :=
      takeMembers_field h rfl rfl (milliseconds_toJson _) rfl
    _ = takeMembers _ _ _ ⟨some s.probeTimeout, some s.concurrency⟩ :=
      takeMembers_field h rfl rfl (concurrency_toJson _) rfl

variable {s : Settings}

theorem decoder_toJson (h : Faithful literal) (hdepth : origin.Admits s.toJson.depth) :
    decoder origin (s.toJson.tree literal) = .ok s := by
  obtain ⟨inner, henter, hinner⟩ := Origin.Admits.enter hdepth
  have hmembers := hinner.members
  simp only [List.forall_mem_cons] at hmembers
  obtain ⟨hnetwork, hbluetooth, hscan, -⟩ := hmembers
  -- the sections that have been given after `n` members
  let d (n : Nat) : Draft := {
    network := if n < 1 then none else some s.network
    bluetooth := if n < 2 then none else some s.bluetooth
    scan := if n < 3 then none else some s.scan }
  refine RecordForm.decoder_object (s := d 3) henter ?_ rfl
  calc takeMembers form.fields inner (Value.treeMembers literal _) (d 0)
    _ = takeMembers _ _ _ (d 1) := takeMembers_field h rfl rfl (s.network.decoder_toJson h hnetwork) rfl
    _ = takeMembers _ _ _ (d 2) := takeMembers_field h rfl rfl (s.bluetooth.decoder_toJson h hbluetooth) rfl
    _ = takeMembers _ _ _ (d 3) := takeMembers_field h rfl rfl (s.scan.decoder_toJson h hscan) rfl

theorem floatFree_toJson (s : Settings) : s.toJson.floatFree = true := by
  obtain ⟨network, ⟨_ | channel, connect, write⟩, scan⟩ := s <;> rfl

theorem depth_toJson (s : Settings) : s.toJson.depth = 2 := by
  obtain ⟨network, ⟨_ | channel, connect, write⟩, scan⟩ := s <;> rfl

theorem decodeText_toJson (s : Settings) : decodeText decoder s.toJson.compact = .ok s := by
  have hdepth : (Origin.text depthLimit).Admits s.toJson.depth := by
    change s.toJson.depth ≤ depthLimit
    rw [depth_toJson]
    decide
  rw [decodeText_compact decoder (floatFree_toJson s)]
  exact decoder_toJson faithful_written hdepth

/-- Settings are read back from what is written of them. Of a text that gives some of the sections, and some of
the fields of each, in any order and with any other members between them, every field that is given is read as it
is given and every other field keeps its built-in value. What is read is accepted exactly if it is usable, and
refused as a bad configuration otherwise. -/
theorem overrides_given :
    (∀ s : Settings, decodeText decoder s.toJson.compact = .ok s) ∧
    (∀ (p : Partial) (d : Spaced Source), p.Stated d.item → decodeText decoder d.text = .ok p.effective) ∧
    ∀ s : Settings, (s.validate = .ok () ↔ s.Usable) ∧
      (¬ s.Usable → ∃ f, s.validate = .error f ∧ f.kind = "invalid_config") :=
  ⟨decodeText_toJson, fun _ _ => decodeText_stated, fun _ => ⟨validate_eq_ok_iff, exists_of_not_usable⟩⟩

theorem overrides_given_of_scan_first :
    let member (name : String) (v : Source) : Spaced StringText × Spaced Source :=
      (⟨[], .ofString name, []⟩, ⟨[.space], v, []⟩)
    let port : NumberText :=
      ⟨false, ⟨9, [1, 0, 1]⟩, fun h => absurd (congrArg Fin.val h) (by decide), none, none⟩
    let hosts : NumberText := ⟨false, ⟨8, []⟩, fun _ => rfl, none, none⟩
    -- beyond the range of floating-point numbers
    let huge : NumberText := ⟨false, ⟨1, []⟩, fun _ => rfl, none, some ⟨false, .none, ⟨9, [9, 9]⟩⟩⟩
    let scan := [member "port" (.number huge), member "concurrency" (.number hosts)]
    let network := [member "port" (.number port)]
    let d : Spaced Source := ⟨[.newline], .object [member "scan" (.object scan []),
      member "printer" (.array [] []), member "network" (.object network [])] [], []⟩
    let p : Partial := { network := some { port := some 9101 }, scan := some { concurrency := some 8 } }
    let s : Settings := { network := { port := 9101 }, scan := { concurrency := 8 } }
    let beyond : Settings := { bluetooth := { channel := some 31 } }
    p.Stated d.item ∧ decodeText decoder d.text = .ok s ∧ s.validate = .ok () ∧
      decodeText decoder s.toJson.compact = .ok s ∧
      ∃ f, beyond.validate = .error f ∧ f.kind = "invalid_config" := by
  intro member port hosts huge scan network d p s beyond
  obtain ⟨hwritten, hgiven, hvalid⟩ := overrides_given
  have hname (name : String) : StringText.Writes (.ofString name) name := StringText.writes_ofString name
  have hport : port.WritesInteger 9101 := ⟨rfl, rfl, by decide, fun h => absurd h Bool.false_ne_true, by decide⟩
  have hhosts : hosts.WritesInteger 8 := ⟨rfl, rfl, by decide, fun h => absurd h Bool.false_ne_true, by decide⟩
  have hscan : Scan.Stated (.object scan []) { concurrency := some 8 } := by
    refine .object [] ?_ (.other (hname _) (by decide) (.given (hname _) (.number hhosts) .nil))
    exact .other (hname _) (by decide) (.other (hname _) (by decide) .nil)
  have hnetwork : Network.Stated (.object network []) { port := some 9101 } := by
    refine .object [] (.given (hname _) (.number hport) .nil) ?_ ?_
    all_goals exact .other (hname _) (by decide) .nil
  have hstated : p.Stated d.item := by
    refine .object [] ?_ ?_ ?_
    · exact .other (hname _) (by decide) (.other (hname _) (by decide) (.given (hname _) hnetwork .nil))
    · exact .other (hname _) (by decide) (.other (hname _) (by decide) (.other (hname _) (by decide) .nil))
    · exact .given (hname _) hscan (.other (hname _) (by decide) (.other (hname _) (by decide) .nil))
  have husable : s.Usable := by
    refine ⟨?_, fun c hc => absurd hc (Option.not_mem_none c), ?_, ?_, ?_, ?_, ?_, ?_⟩
    all_goals decide
  have hchannel : ¬ beyond.Usable := fun h => absurd (h.channel 31 rfl).2 (by decide)
  exact ⟨hstated, hgiven p d hstated, (hvalid s).1.2 husable, hwritten s, (hvalid beyond).2 hchannel⟩

end ThermalPrint.Settings

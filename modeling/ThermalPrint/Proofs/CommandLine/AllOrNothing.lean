import ThermalPrint.Proofs.CommandLine.Visit
import ThermalPrint.Proofs.Json.Nesting
import ThermalPrint.Proofs.Settings.Usable

/-! A run does all that it is to do or nothing: whatever goes wrong on the way, a printer takes the
whole of a job or nothing of it, and in the end no channel is open. -/

namespace ThermalPrint.CommandLine

open Transport Registry

/-- The text that names the printer of a command. -/
def Command.printer? : Command → Option String
  | .discover _ | .scan _ => none
  | .printText id _ | .printReceipt id _ | .status id => some id

/-- Whether a command prints something. -/
def Command.isPrint : Command → Bool
  | .printText _ _ | .printReceipt _ _ => true
  | .discover _ | .scan _ | .status _ => false

/-- A template gives a receipt if its text, or that of its file, describes the receipt. -/
inductive Template.Gives (files : Files) : Option Template → Receipt → Prop
  | inline {json : String} {receipt : Receipt} (described : Receipt.ofText json = .ok receipt) :
    Gives files (some (.inline json)) receipt
  | file {path json : String} {receipt : Receipt} (found : files.read path = .ok json)
    (described : Receipt.ofText json = .ok receipt) : Gives files (some (.file path)) receipt

/-- Why no receipt is given: there is no template, its file cannot be read, or its text is rejected. -/
inductive Template.Fails (files : Files) : Option Template → Trouble → Prop
  | missing : Fails files none .noTemplate
  | unreadable {path : String} {why : Files.Unreadable} (unread : files.read path = .error why) :
    Fails files (some (.file path)) (.unreadableTemplate path why)
  | inline {json : String} {f : Failure} (rejected : Receipt.ofText json = .error f) :
    Fails files (some (.inline json)) (.failure f)
  | file {path json : String} {f : Failure} (found : files.read path = .ok json)
    (rejected : Receipt.ofText json = .error f) : Fails files (some (.file path)) (.failure f)

/-- The bytes that a command is to send. -/
inductive Command.Sends (files : Files) : Command → Bytes → Prop
  | discover {range : Option String} : Sends files (.discover range) []
  | scan {range : String} : Sends files (.scan range) []
  | text {id text : String} : Sends files (.printText id text) (Escpos.encode (.plainText text))
  | receipt {id : String} {template : Option Template} {receipt : Receipt}
    (gives : Template.Gives files template receipt) :
    Sends files (.printReceipt id template) (Escpos.encode (.receipt receipt))
  | status {id : String} : Sends files (.status id) [0x10, 0x04, 0x01]

/-- The settings that a request is carried out over: a port and a channel that it gives, and for the
rest what was loaded. -/
def Request.settings (q : Request) (loaded : Settings) : Settings :=
  let port := match q.options.port with
    | some port => port
    | none => loaded.network.port
  let channel := match q.options.channel with
    | some channel => some channel
    | none => loaded.bluetooth.channel
  { loaded with
    network := { loaded.network with port }
    bluetooth := { loaded.bluetooth with channel } }

/-- A printer that is named by its address takes connections there. -/
def Accepts (network : Network.Surroundings) (port : UInt16) (id : Identifier) : Prop :=
  ∃ ip, id.ipv4? = some ip ∧ network.answer ip port = .accepted

/-- The request is fit to send bytes to a printer: its settings can be used, the printer is named by its
identifier, and the bytes are what is to be sent. -/
structure Request.Fit (q : Request) (files : Files) (loaded : Settings) (id : Identifier)
    (bytes : Bytes) : Prop where
  usable : (q.settings loaded).Usable
  printer : q.command.printer? = some id.text
  sends : q.command.Sends files bytes

/-- What is told of a job that was printed. -/
def printedNotice : Json.Value :=
  .object [("printed", .bool true), ("transport", .string "network")]

/-- What a run comes to, whose registry is `r` in the end. -/
structure AllOrNothing (files : Files) (network : Network.Surroundings) (loaded : Settings)
    (q : Request) (result : Except Trouble Json.Value) (r : Registry) : Prop where
  /-- Nothing is attempted for a request that is not fit. -/
  idle : (∀ id bytes, ¬ q.Fit files loaded id bytes) → r.attempts = 0
  /-- Nothing is attempted without a receipt, and the reason is told. -/
  rejected : ∀ text template trouble, q.command = .printReceipt text template →
    Template.Fails files template trouble →
      r.attempts = 0 ∧ ((q.settings loaded).Usable → result = .error trouble)
  sent : r.sent = [] ∨ q.command.Sends files r.sent
  /-- Success is told exactly if the printer was reached and took what was written. -/
  printed : result = .ok printedNotice ↔ q.command.isPrint = true ∧
    ∃ id bytes, q.Fit files loaded id bytes ∧
      Accepts network (q.settings loaded).network.port id ∧ network.writeFailure = none
  delivered : result = .ok printedNotice → q.command.Sends files r.sent
  status : ∀ text, q.command = .status text → (q.settings loaded).Usable →
    ∃ s : Status, result = .ok s.toJson
  closed : ∀ line ∈ r.lines, line.channel.phase = .closed ∧ line.channel.log.closed = true

variable {files : Files} {network : Network.Surroundings} {loaded : Settings} {q : Request}
  {result : Except Trouble Json.Value} {r : Registry} {text : String} {id : Identifier} {job : Job}
  {bytes : Bytes}

theorem Template.receipt_eq_ok_iff {template : Option Template} {receipt : Receipt} :
    Template.receipt files template = .ok receipt ↔ Template.Gives files template receipt := by
  constructor
  · intro h
    rcases template with _ | json | path
    · cases h
    · exact .inline (Json.mapError_eq_ok_iff.1 h)
    · rw [Template.receipt] at h
      split at h
      · next json hfound => exact .file hfound (Json.mapError_eq_ok_iff.1 h)
      · cases h
  · intro h
    cases h with
    | inline described => exact Json.mapError_eq_ok_iff.2 described
    | file found described =>
      rw [Template.receipt, found]
      exact Json.mapError_eq_ok_iff.2 described

theorem Template.receipt_eq_error_iff {template : Option Template} {trouble : Trouble} :
    Template.receipt files template = .error trouble ↔ Template.Fails files template trouble := by
  constructor
  · intro h
    rcases template with _ | json | path
    · cases h
      exact .missing
    · obtain ⟨f, hf, rfl⟩ := Json.mapError_eq_error_iff.1 h
      exact .inline hf
    · rw [Template.receipt] at h
      split at h
      · next json hfound =>
        obtain ⟨f, hf, rfl⟩ := Json.mapError_eq_error_iff.1 h
        exact .file hfound hf
      · next why hunread =>
        cases h
        exact .unreadable hunread
  · intro h
    cases h with
    | missing => rfl
    | unreadable unread => rw [Template.receipt, unread]
    | inline rejected => exact Json.mapError_eq_error_iff.2 ⟨_, rejected, rfl⟩
    | file found rejected =>
      rw [Template.receipt, found]
      exact Json.mapError_eq_error_iff.2 ⟨_, rejected, rfl⟩

theorem Template.Fails.not_gives {template : Option Template} {trouble : Trouble} {receipt : Receipt}
    (h : Template.Fails files template trouble) : ¬ Template.Gives files template receipt := by
  intro hgives
  cases (receipt_eq_error_iff.2 h).symm.trans (receipt_eq_ok_iff.2 hgives)

theorem Options.applyTo_eq_settings (q : Request) (loaded : Settings) :
    q.options.applyTo loaded = q.settings loaded := by
  unfold applyTo Request.settings
  cases q.options.port <;> cases q.options.channel <;> rfl

theorem openFailure_eq_none_iff_accepts {port : UInt16} :
    network.openFailure port id = none ↔ Accepts network port id := by
  rw [Network.Surroundings.openFailure_eq_none_iff]
  simp only [Network.Surroundings.responds, decide_eq_true_eq, Accepts]

/-- Nothing can be sent without a receipt. -/
theorem Template.Fails.not_sends {template : Option Template} {trouble : Trouble}
    (h : Template.Fails files template trouble) :
    ¬ (Command.printReceipt text template).Sends files bytes := by
  intro hsends
  cases hsends with
  | receipt gives => exact h.not_gives gives

namespace Request.Fit

theorem ofText_eq (h : q.Fit files loaded id bytes) (hprinter : q.command.printer? = some text) :
    Identifier.ofText text = .ok id :=
  Identifier.ofText_eq_ok_iff.2 (Option.some.inj (h.printer.symm.trans hprinter))

theorem not_of_fails {template : Option Template} {trouble : Trouble}
    (hcommand : q.command = .printReceipt text template)
    (hfails : Template.Fails files template trouble) : ¬ q.Fit files loaded id bytes :=
  fun h => hfails.not_sends (hcommand ▸ h.sends)

end Request.Fit

namespace AllOrNothing

/-- A run that opened no channel. -/
theorem of_no_lines (hlines : r.lines = [])
    (hidle : (∀ id bytes, ¬ q.Fit files loaded id bytes) → r.attempts = 0)
    (hresult : result ≠ .ok printedNotice)
    (hopen : q.command.isPrint = true → ∀ id bytes, q.Fit files loaded id bytes →
      ¬ Accepts network (q.settings loaded).network.port id)
    (hrejected : ∀ text template trouble, q.command = .printReceipt text template →
      Template.Fails files template trouble → (q.settings loaded).Usable → result = .error trouble)
    (hstatus : ∀ text, q.command = .status text → (q.settings loaded).Usable →
      ∃ s : Status, result = .ok s.toJson) :
    AllOrNothing files network loaded q result r where
  idle := hidle
  rejected text template trouble hcommand hfails :=
    ⟨hidle fun _ _ => Request.Fit.not_of_fails hcommand hfails,
      hrejected text template trouble hcommand hfails⟩
  sent := .inl (by rw [Registry.sent, hlines]; rfl)
  printed := by
    refine ⟨fun h => absurd h hresult, ?_⟩
    rintro ⟨hprint, id, bytes, hfit, haccepts, -⟩
    exact absurd haccepts (hopen hprint id bytes hfit)
  delivered h := absurd h hresult
  status := hstatus
  closed := by
    rw [hlines]
    exact List.forall_mem_nil _

/-- A run that is about no printer. -/
theorem of_no_printer (hprinter : q.command.printer? = none) (hlines : r.lines = [])
    (hattempts : r.attempts = 0) (hresult : result ≠ .ok printedNotice) :
    AllOrNothing files network loaded q result r := by
  refine .of_no_lines hlines (fun _ => hattempts) hresult (fun _ id _ hfit => ?_)
    (fun text template _ h => ?_) fun text h => ?_
  · cases hprinter.symm.trans hfit.printer
  · rw [h] at hprinter
    cases hprinter
  · rw [h] at hprinter
    cases hprinter

/-- A run that opened a channel, which took everything or nothing. -/
theorem of_line {ch : Channel} (hfit : q.Fit files loaded id bytes)
    (haccepts : Accepts network (q.settings loaded).network.port id)
    (hlines : r.lines = [⟨id, ch.close.2⟩]) (hsent : ch.log.sent = [] ∨ ch.log.sent = bytes)
    (hprinted : result = .ok printedNotice ↔
      q.command.isPrint = true ∧ network.writeFailure = none)
    (htaken : network.writeFailure = none → ch.log.sent = bytes)
    (hstatus : ∀ text, q.command = .status text → ∃ s : Status, result = .ok s.toJson) :
    AllOrNothing files network loaded q result r := by
  have hr : r.sent = ch.log.sent := by
    rw [Registry.sent, hlines]
    exact List.append_nil _
  constructor
  case idle => exact fun h => absurd hfit (h id bytes)
  case rejected =>
    exact fun _ _ _ hcommand hfails => absurd hfit (Request.Fit.not_of_fails hcommand hfails)
  case sent =>
    rw [hr]
    rcases hsent with hnothing | hall
    · exact .inl hnothing
    · exact .inr (hall.symm ▸ hfit.sends)
  case printed =>
    rw [hprinted]
    refine and_congr_right fun _ => ⟨fun h => ⟨id, bytes, hfit, haccepts, h⟩, ?_⟩
    rintro ⟨_, _, _, _, h⟩
    exact h
  case delivered =>
    intro h
    rw [hr, htaken (hprinted.1 h).2]
    exact hfit.sends
  case status => exact fun text h _ => hstatus text h
  case closed =>
    rw [hlines, List.forall_mem_singleton]
    exact ⟨rfl, rfl⟩

end AllOrNothing

/-! ## Printing -/

section printing

variable {n : Settings.Network} {f : Failure}

theorem printJob_invalid (hid : Identifier.ofText text = .error f) :
    printJob r text job = (.error f, r) := by
  simp only [printJob, withIdentifier, hid]

theorem printJob_tried (hid : Identifier.ofText text = .ok id)
    (hopen : network.openFailure n.port id = some f) (job : Job) :
    ∃ g attempts, printJob (fresh network n) text job = (.error g, tried network n attempts) := by
  obtain ⟨g, attempts, hconnect⟩ := connect_tried hopen
  exact ⟨g, attempts, by simp only [printJob, withIdentifier, hid, hconnect]⟩

theorem printJob_refused (hid : Identifier.ofText text = .ok id)
    (hopen : network.openFailure n.port id = none) (hw : network.writeFailure = some f) :
    printJob (fresh network n) text job =
      (.error (asWriteFailure f), reached network n id { kind := .network }) := by
  simp only [printJob, withIdentifier, hid, connect_reached hopen, Registry.print, send_refused hw]
  rfl

theorem printJob_taken (hid : Identifier.ofText text = .ok id)
    (hopen : network.openFailure n.port id = none) (hw : network.writeFailure = none) :
    printJob (fresh network n) text job =
      (.ok printedNotice, reached network n id (took (Escpos.encode job))) := by
  simp only [printJob, withIdentifier, hid, connect_reached hopen, Registry.print, send_taken hw]
  rfl

/-- A request that prints does so as a whole or not at all. -/
theorem allOrNothing_printJob (husable : (q.settings loaded).Usable)
    (hprint : q.command.isPrint = true) (hprinter : q.command.printer? = some text)
    (hsends : q.command.Sends files (Escpos.encode job)) :
    let (result, r) := printJob (fresh network (q.settings loaded).network) text job
    AllOrNothing files network loaded q (result.mapError .failure) r.closeAll.2 := by
  have hstatus (text : String) : q.command ≠ .status text := by
    intro h
    rw [h] at hprint
    cases hprint
  have hfails (text : String) (template : Option Template) (trouble : Trouble)
      (hcommand : q.command = .printReceipt text template) :
      ¬ Template.Fails files template trouble := fun h => h.not_sends (hcommand ▸ hsends)
  cases hid : Identifier.ofText text with
  | error f =>
    rw [printJob_invalid hid]
    refine .of_no_lines rfl (fun _ => rfl) (fun h => by cases h) (fun _ id _ hfit => ?_)
      (fun text template trouble h h' => absurd h' (hfails text template trouble h))
      fun text h => absurd h (hstatus text)
    cases hid.symm.trans (hfit.ofText_eq hprinter)
  | ok id =>
    have hname : q.command.printer? = some id.text := by rw [hprinter, Identifier.ofText_eq_ok_iff.1 hid]
    have hfit : q.Fit files loaded id (Escpos.encode job) := ⟨husable, hname, hsends⟩
    cases hopen : network.openFailure (q.settings loaded).network.port id with
    | some f =>
      obtain ⟨g, attempts, hjob⟩ := printJob_tried hid hopen job
      rw [hjob]
      refine .of_no_lines rfl (fun h => absurd hfit (h id _)) (fun h => by cases h)
        (fun _ id' _ hfit' => ?_)
        (fun text template trouble h h' => absurd h' (hfails text template trouble h))
        fun text h => absurd h (hstatus text)
      cases hid.symm.trans (hfit'.ofText_eq hprinter)
      rw [← openFailure_eq_none_iff_accepts, hopen]
      exact Option.some_ne_none f
    | none =>
      have haccepts := openFailure_eq_none_iff_accepts.1 hopen
      cases hw : network.writeFailure with
      | some f =>
        rw [printJob_refused hid hopen hw]
        refine .of_line hfit haccepts (lines_closeAll_reached _) (.inl rfl) ?_ (fun h => ?_)
          fun text h => absurd h (hstatus text)
        · refine iff_of_false (fun h => by cases h) fun h => ?_
          cases hw.symm.trans h.2
        · cases hw.symm.trans h
      | none =>
        rw [printJob_taken hid hopen hw]
        exact .of_line hfit haccepts (lines_closeAll_reached _) (.inr rfl)
          ⟨fun _ => ⟨hprint, hw⟩, fun _ => rfl⟩ (fun _ => rfl) fun text h => absurd h (hstatus text)

end printing

/-! ## The status -/

section status

variable {n : Settings.Network} {f : Failure} (files : Files) (sources : Discovery.Sources)

theorem run_status_invalid (hid : Identifier.ofText text = .error f) :
    Command.run files sources r (.status text) = (.ok Status.offline.toJson, r) := by
  simp only [Command.run, withIdentifier, Registry.status, hid]

theorem run_status_tried (hid : Identifier.ofText text = .ok id)
    (hopen : network.openFailure n.port id = some f) : ∃ attempts,
    Command.run files sources (fresh network n) (.status text) =
      (.ok Status.offline.toJson, tried network n attempts) := by
  obtain ⟨g, attempts, hconnect⟩ := connect_tried hopen
  refine ⟨attempts, ?_⟩
  simp only [Command.run, withIdentifier, Registry.status, probe, hid, hconnect, send_tried]

theorem run_status_refused (hid : Identifier.ofText text = .ok id)
    (hopen : network.openFailure n.port id = none) (hw : network.writeFailure = some f) :
    Command.run files sources (fresh network n) (.status text) =
      (.ok Status.writeError.toJson, reached network n id { kind := .network }) := by
  simp only [Command.run, withIdentifier, Registry.status, probe, hid, connect_reached hopen,
    send_refused hw]
  cases f <;> rfl

theorem run_status_taken (hid : Identifier.ofText text = .ok id)
    (hopen : network.openFailure n.port id = none) (hw : network.writeFailure = none) :
    Command.run files sources (fresh network n) (.status text) =
      (.ok Status.ready.toJson, reached network n id (took [0x10, 0x04, 0x01])) := by
  simp only [Command.run, withIdentifier, Registry.status, probe, hid, connect_reached hopen,
    Escpos.statusInquiry_eq, send_taken hw]

theorem toJson_ne_printedNotice (s : Status) : s.toJson ≠ printedNotice := by
  intro h
  have hlength : 3 = 2 := congrArg List.length (Json.Value.object.inj h)
  omega

/-- A request for a status is answered, whatever becomes of the inquiry. -/
theorem allOrNothing_status (husable : (q.settings loaded).Usable)
    (hstatus : q.command = .status text) :
    let (result, r) := q.command.run files sources (fresh network (q.settings loaded).network)
    AllOrNothing files network loaded q result r.closeAll.2 := by
  have hprint : q.command.isPrint ≠ true := by
    rw [hstatus]
    exact Bool.false_ne_true
  have hprinter : q.command.printer? = some text := by
    rw [hstatus]
    rfl
  have hsends : q.command.Sends files [0x10, 0x04, 0x01] := by
    rw [hstatus]
    exact .status
  have hreceipt (text : String) (template : Option Template) :
      q.command ≠ .printReceipt text template := by
    intro h
    cases hstatus.symm.trans h
  have hresult (s : Status) : Except.ok s.toJson ≠ (.ok printedNotice : Except Trouble _) :=
    fun h => toJson_ne_printedNotice s (Except.ok.inj h)
  rw [hstatus]
  cases hid : Identifier.ofText text with
  | error f =>
    rw [run_status_invalid files sources hid]
    exact .of_no_lines rfl (fun _ => rfl) (hresult _) (fun h => absurd h hprint)
      (fun text template _ h => absurd h (hreceipt text template)) fun _ _ _ => ⟨_, rfl⟩
  | ok id =>
    have hname : q.command.printer? = some id.text := by rw [hprinter, Identifier.ofText_eq_ok_iff.1 hid]
    have hfit : q.Fit files loaded id [0x10, 0x04, 0x01] := ⟨husable, hname, hsends⟩
    cases hopen : network.openFailure (q.settings loaded).network.port id with
    | some f =>
      obtain ⟨attempts, hrun⟩ := run_status_tried files sources hid hopen
      rw [hrun]
      exact .of_no_lines rfl (fun h => absurd hfit (h id _)) (hresult _) (fun h => absurd h hprint)
        (fun text template _ h => absurd h (hreceipt text template)) fun _ _ _ => ⟨_, rfl⟩
    | none =>
      have haccepts := openFailure_eq_none_iff_accepts.1 hopen
      have hprinted (s : Status) : Except.ok s.toJson = (.ok printedNotice : Except Trouble _) ↔
          q.command.isPrint = true ∧ network.writeFailure = none :=
        ⟨fun h => absurd h (hresult s), fun h => absurd h.1 hprint⟩
      cases hw : network.writeFailure with
      | some f =>
        rw [run_status_refused files sources hid hopen hw]
        refine .of_line hfit haccepts (lines_closeAll_reached _) (.inl rfl) (hprinted _) (fun h => ?_)
          fun _ _ => ⟨_, rfl⟩
        cases hw.symm.trans h
      | none =>
        rw [run_status_taken files sources hid hopen hw]
        exact .of_line hfit haccepts (lines_closeAll_reached _) (.inr rfl) (hprinted _) (fun _ => rfl)
          fun _ _ => ⟨_, rfl⟩

end status

/-! ## Runs -/

theorem candidatesJson_ne_printedNotice (candidates : List Discovery.Candidate) :
    candidatesJson candidates ≠ printedNotice := by
  intro h
  cases h

/-- A receipt is read before anything is attempted. -/
theorem allOrNothing_receipt {template : Option Template} (sources : Discovery.Sources)
    (husable : (q.settings loaded).Usable) (hcommand : q.command = .printReceipt text template) :
    let (result, r) := q.command.run files sources (fresh network (q.settings loaded).network)
    AllOrNothing files network loaded q result r.closeAll.2 := by
  have hprint : q.command.isPrint = true := by
    rw [hcommand]
    rfl
  have hprinter : q.command.printer? = some text := by
    rw [hcommand]
    rfl
  cases hreceipt : Template.receipt files template with
  | error trouble =>
    have hrun (r : Registry) : q.command.run files sources r = (.error trouble, r) := by
      simp only [hcommand, Command.run, hreceipt]
    have hfails := Template.receipt_eq_error_iff.1 hreceipt
    rw [hrun]
    refine .of_no_lines rfl (fun _ => rfl) (fun h => by cases h) (fun _ id bytes hfit => ?_)
      (fun text' template' trouble' hcommand' hfails' _ => ?_) fun _ h => ?_
    · exact absurd hfit (Request.Fit.not_of_fails hcommand hfails)
    · cases hcommand.symm.trans hcommand'
      cases hreceipt.symm.trans (Template.receipt_eq_error_iff.2 hfails')
      rfl
    · cases hcommand.symm.trans h
  | ok receipt =>
    have hrun (r : Registry) : q.command.run files sources r =
        let (result, r) := printJob r text (.receipt receipt)
        (result.mapError .failure, r) := by
      simp only [hcommand, Command.run, hreceipt]
    rw [hrun]
    refine allOrNothing_printJob husable hprint hprinter ?_
    rw [hcommand]
    exact .receipt (Template.receipt_eq_ok_iff.1 hreceipt)

theorem allOrNothing_run (sources : Discovery.Sources) (husable : (q.settings loaded).Usable) :
    let (result, r) := q.command.run files sources (fresh network (q.settings loaded).network)
    AllOrNothing files network loaded q result r.closeAll.2 := by
  cases hcommand : q.command with
  | discover range =>
    exact .of_no_printer (by rw [hcommand]; rfl) rfl rfl
      fun h => candidatesJson_ne_printedNotice _ (Except.ok.inj h)
  | scan range =>
    refine .of_no_printer (by rw [hcommand]; rfl) rfl rfl ?_
    cases sources.network (some range) with
    | ok candidates => exact fun h => candidatesJson_ne_printedNotice candidates (Except.ok.inj h)
    | error f => exact fun h => by cases h
  | printText text content =>
    exact allOrNothing_printJob husable (by rw [hcommand]; rfl) (by rw [hcommand]; rfl)
      (by rw [hcommand]; exact .text)
  | printReceipt text template =>
    rw [← hcommand]
    exact allOrNothing_receipt sources husable hcommand
  | status text =>
    rw [← hcommand]
    exact allOrNothing_status files sources husable hcommand

/-- Whatever is asked for, over whatever settings, and whatever becomes of the attempt to connect and of
the write: a run does all that it is to do or nothing, and leaves no channel open. -/
theorem perform_all_or_nothing (files : Files) (network : Network.Surroundings) (loaded : Settings)
    (q : Request) :
    AllOrNothing files network loaded q (q.perform files network loaded).1
      (q.perform files network loaded).2 := by
  cases hvalid : (q.settings loaded).validate with
  | error f =>
    have hrun : q.perform files network loaded = (.error (.failure f), { connectors := [] }) := by
      simp only [Request.perform, Options.applyTo_eq_settings, hvalid]
    have hunusable : ¬ (q.settings loaded).Usable := by
      rw [← Settings.validate_eq_ok_iff, hvalid]
      exact fun h => by cases h
    rw [hrun]
    exact .of_no_lines rfl (fun _ => rfl) (fun h => by cases h)
      (fun _ _ _ hfit => absurd hfit.usable hunusable)
      (fun _ _ _ _ _ h => absurd h hunusable) fun _ _ h => absurd h hunusable
  | ok =>
    simp only [Request.perform, Options.applyTo_eq_settings, hvalid]
    exact allOrNothing_run _ (Settings.validate_eq_ok_iff.1 hvalid)

end ThermalPrint.CommandLine

import ThermalPrint.Settings.Basic

/-! Settings that can be used. They are checked one after another, so that the first that is wrong is
reported; whether anything is reported does not depend on the order. -/

namespace ThermalPrint.Settings

variable {s : Settings}

/-- Settings with which a printer can be reached and the network be searched. -/
structure Usable (s : Settings) : Prop where
  port : s.network.port ≠ 0
  channel : ∀ c ∈ s.bluetooth.channel, 1 ≤ c ∧ c ≤ 30
  concurrency : s.scan.concurrency ≠ 0
  networkConnect : s.network.connectTimeout ≠ 0
  networkWrite : s.network.writeTimeout ≠ 0
  bluetoothConnect : s.bluetooth.connectTimeout ≠ 0
  bluetoothWrite : s.bluetooth.writeTimeout ≠ 0
  probe : s.scan.probeTimeout ≠ 0

theorem find?_timeouts_eq_none_iff : s.timeouts.find? (·.2 = 0) = none ↔
    s.network.connectTimeout ≠ 0 ∧ s.network.writeTimeout ≠ 0 ∧ s.bluetooth.connectTimeout ≠ 0 ∧
      s.bluetooth.writeTimeout ≠ 0 ∧ s.scan.probeTimeout ≠ 0 := by
  simp only [List.find?_eq_none, timeouts, List.forall_mem_cons, List.not_mem_nil, false_imp_iff,
    implies_true, and_true, decide_eq_true_eq, ne_eq]

theorem filter_channel_eq_none_iff {channel : Option UInt8} :
    (channel.filter fun c => !(1 ≤ c && c ≤ 30)) = none ↔ ∀ c ∈ channel, 1 ≤ c ∧ c ≤ 30 := by
  simp only [Option.filter_eq_none_iff, Bool.not_eq_true', Bool.not_eq_false, Bool.and_eq_true,
    decide_eq_true_eq, Option.mem_def]

theorem problem?_eq_none_iff : s.problem? = none ↔ s.Usable := by
  unfold problem?
  split
  · next hport => exact iff_of_false (Option.some_ne_none _) fun h => h.port hport
  · next hport =>
    split
    · next c hfilter =>
      refine iff_of_false (Option.some_ne_none _) fun h => ?_
      rw [filter_channel_eq_none_iff.2 h.channel] at hfilter
      cases hfilter
    · next hfilter =>
      split
      · next hconcurrency => exact iff_of_false (Option.some_ne_none _) fun h => h.concurrency hconcurrency
      · next hconcurrency =>
        rw [Option.map_eq_none_iff, find?_timeouts_eq_none_iff]
        constructor
        · rintro ⟨h₁, h₂, h₃, h₄, h₅⟩
          exact ⟨hport, filter_channel_eq_none_iff.1 hfilter, hconcurrency, h₁, h₂, h₃, h₄, h₅⟩
        · exact fun h => ⟨h.networkConnect, h.networkWrite, h.bluetoothConnect, h.bluetoothWrite, h.probe⟩

/-- Settings pass exactly if they can be used. -/
theorem validate_eq_ok_iff : s.validate = .ok () ↔ s.Usable := by
  rw [← problem?_eq_none_iff, validate]
  cases s.problem? with
  | none => exact iff_of_true rfl rfl
  | some reason => simp only [reduceCtorEq]

theorem exists_of_not_usable (h : ¬ s.Usable) :
    ∃ f, s.validate = .error f ∧ f.kind = "invalid_config" := by
  rw [← problem?_eq_none_iff] at h
  obtain ⟨reason, hreason⟩ := Option.ne_none_iff_exists'.1 h
  refine ⟨.badConfiguration reason, ?_, rfl⟩
  rw [validate, hreason]

end ThermalPrint.Settings

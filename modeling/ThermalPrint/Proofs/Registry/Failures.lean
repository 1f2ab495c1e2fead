import ThermalPrint.Proofs.Registry.Independence

/-! The failures that calls about a printer end with. A printer is refused because of the text that names
it only if that text is no identifier; what connectors and channels report never comes to that. -/

namespace ThermalPrint.Registry

open Transport

variable {r : Registry} {id : Identifier} {f : Failure}

theorem kind_refusal (id : Identifier) (f : Failure) :
    (refusal id f).kind = "permission_denied" ∨ (refusal id f).kind = "connection_failed" := by
  cases f with
  | permissionDenied reason => exact .inl rfl
  | _ => exact .inr rfl

theorem openChannel_error (h : (r.openChannel id).1 = .error f) :
    f.kind = "permission_denied" ∨ f.kind = "connection_failed" := by
  cases htarget : (r.connectorFor (.ofIdentifier id)).bind fun i => r.connectors[i]? with
  | none =>
    rw [openChannel_unavailable htarget] at h
    cases h
    exact .inr rfl
  | some c =>
    obtain ⟨i, hi, hc⟩ := Option.bind_eq_some_iff.1 htarget
    cases hanswer : c.openFailure id with
    | none =>
      rw [openChannel_opened_eq hi hc hanswer] at h
      cases h
    | some g =>
      rw [openChannel_refused hi hc hanswer] at h
      cases h
      exact kind_refusal id g

theorem connect_error (h : (r.connect id).1 = .error f) :
    f.kind = "permission_denied" ∨ f.kind = "connection_failed" := by
  rcases hopen : ({ r with slots := r.slots.ensure id } : Registry).openChannel id with ⟨g | opened, r'⟩
  · rw [connect_eq_of_error hopen] at h
    cases h
    exact openChannel_error (congrArg Prod.fst hopen)
  · rw [connect_eq_of_ok hopen] at h
    cases h

theorem disconnect_error (h : (r.disconnect id).1 = .error f) : f.kind = "not_connected" := by
  unfold disconnect at h
  split at h <;> cases h <;> rfl

/-- Whatever a write fails with, it is reported as a failure to write. -/
theorem kind_asWriteFailure (f : Failure) : (asWriteFailure f).kind = "write_failed" := by
  cases f <;> rfl

theorem send_error {bytes : Bytes} (h : (r.send id bytes).1 = .error f) :
    f.kind = "not_connected" ∨ f.kind = "write_failed" := by
  unfold send at h
  split at h
  · cases h
    exact .inl rfl
  · cases h
    exact .inl rfl
  · next handle _ =>
    split at h
    · cases h
      exact .inl rfl
    · next c _ =>
      dsimp only at h
      cases hwrite : (c.writeOn handle.line bytes).1 with
      | ok _ =>
        rw [hwrite] at h
        cases h
      | error g =>
        rw [hwrite] at h
        cases h
        exact .inr (kind_asWriteFailure g)

/-! ## Names of printers -/

/-- A printer may be named by a text: no call about it is refused because of that text. -/
def Takes (text : String) : Prop :=
  ∀ (r : Registry) (job : Job), ∀ c ∈ [Call.connect text, .disconnect text, .print text job],
    ∀ f, (r.call c).1 = .failure f → f.kind ≠ "invalid_identifier"

theorem reply_eq_failure {α : Type} {encode : α → Reply} {x : Except Failure α × Registry}
    (hencode : ∀ a, encode a ≠ .failure f) (h : (reply encode x).1 = .failure f) : x.1 = .error f := by
  obtain ⟨g | a, r'⟩ := x
  · cases h
    rfl
  · exact absurd h (hencode a)

theorem takes_text (id : Identifier) : Takes id.text := by
  have hid : Identifier.ofText id.text = .ok id := Identifier.ofText_eq_ok_iff.2 rfl
  intro r job c hc f h
  simp only [List.mem_cons, List.not_mem_nil, or_false] at hc
  rcases hc with rfl | rfl | rfl
  · rw [call, withIdentifier, hid] at h
    rcases connect_error (reply_eq_failure (by simp) h) with hkind | hkind <;> simp [hkind]
  · rw [call, withIdentifier, hid] at h
    simp [disconnect_error (reply_eq_failure (by simp) h)]
  · rw [call, withIdentifier, hid] at h
    rcases send_error (reply_eq_failure (by simp) h) with hkind | hkind <;> simp [hkind]

end ThermalPrint.Registry

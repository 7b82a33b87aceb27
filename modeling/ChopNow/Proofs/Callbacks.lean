import ChopNow.Spec.World

/-! What Campay has said about its transactions, as the handlers come to know it. -/

namespace ChopNow

/-- The three statuses on which the collect handler acts. -/
def CampayStatus.isFinal (s : CampayStatus) : Bool := s == .successful || s.isFailure

/-- A terminal callback for `ref` that agrees with `st`. -/
structure CampayWebhookPayload.Settles (payload : CampayWebhookPayload) (ref : Reference) (st : CampayStatus) :
    Prop where
  reference : payload.reference = some ref
  terminal : payload.status.isSuccess = true ∨ payload.status.isFailure = true
  agrees : payload.status.isSuccess = st.isSuccess

/-- Every transaction but `ref` has been reported failed. -/
def SettledBut (ref : Option Reference) (txns : List CampayTxn) : Prop :=
  ∀ r ∈ txns, some r.reference ≠ ref → r.reportedFailed = true

/-- A callback is about a transaction that exists, and what it reports has left
its mark there before it is handled. -/
structure Heard (payload : CampayWebhookPayload) (ref : Reference) (txns : List CampayTxn) : Prop where
  known : issued ref txns = true
  reported : ∀ r ∈ txns, r.reference = ref → payload.status ∈ r.reported

theorem Heard.failed {payload : CampayWebhookPayload} {ref : Reference} {txns : List CampayTxn} {r : CampayTxn}
    (h : Heard payload ref txns) (hp : payload.status.isFailure = true) (hr : r ∈ txns) (href : r.reference = ref) :
    r.reportedFailed = true := by
  simp only [CampayTxn.reportedFailed, List.any_eq_true]
  exact ⟨_, h.reported r hr href, hp⟩

/-- A callback that has just arrived. -/
theorem Heard.arrived {payload : CampayWebhookPayload} {ref : Reference} {txns : List CampayTxn}
    (hissued : issued ref txns = true) : Heard payload ref (report ref payload.status txns) := by
  refine ⟨by rw [issued_report, hissued], fun r hr href => ?_⟩
  obtain ⟨u, hu, rfl⟩ := mem_report.1 hr
  rw [CampayTxn.hear_reference] at href
  simp [CampayTxn.hear_reported, href]

theorem SettledBut.report {o : Option Reference} {txns : List CampayTxn} (ref : Reference)
    (status : CampayStatus) (h : SettledBut o txns) : SettledBut o (report ref status txns) := by
  intro r hr hne
  obtain ⟨u, hu, rfl⟩ := mem_report.1 hr
  rw [CampayTxn.hear_reference] at hne
  rw [CampayTxn.hear_reportedFailed, h u hu hne, Bool.or_true]

theorem SettledBut.store {o : Option Reference} {txns : List CampayTxn} (ref : Reference)
    (h : SettledBut o txns) : SettledBut o (store ref txns) := by
  intro r hr hne
  obtain ⟨u, hu, rfl⟩ := mem_store.1 hr
  rw [CampayTxn.keep_reference] at hne
  rw [CampayTxn.keep_reportedFailed, h u hu hne]

theorem Heard.report {payload : CampayWebhookPayload} {r : Reference} {txns : List CampayTxn}
    (ref : Reference) (status : CampayStatus) (h : Heard payload r txns) :
    Heard payload r (report ref status txns) := by
  refine ⟨by rw [issued_report, h.known], fun r hr href => ?_⟩
  obtain ⟨u, hu, rfl⟩ := mem_report.1 hr
  rw [CampayTxn.hear_reference] at href
  rw [CampayTxn.hear_reported]
  split
  · exact .tail _ (h.reported u hu href)
  · exact h.reported u hu href

theorem Heard.store {payload : CampayWebhookPayload} {r : Reference} {txns : List CampayTxn}
    (ref : Reference) (h : Heard payload r txns) : Heard payload r (store ref txns) := by
  refine ⟨by rw [issued_store, h.known], fun r hr href => ?_⟩
  obtain ⟨u, hu, rfl⟩ := mem_store.1 hr
  rw [CampayTxn.keep_reference] at href
  rw [CampayTxn.keep_reported]
  exact h.reported u hu href

/-- A reference issued earlier is not the new one. -/
theorem Heard.append {payload : CampayWebhookPayload} {r : Reference} {txns : List CampayTxn}
    {txn : CampayTxn} (hnew : issued txn.reference txns = false) (h : Heard payload r txns) :
    Heard payload r (txns ++ [txn]) := by
  refine ⟨by simp [h.known], fun u hu href => ?_⟩
  rcases List.mem_append.1 hu with hu | hu
  · exact h.reported u hu href
  · obtain rfl := List.mem_singleton.1 hu
    have hknown := h.known
    rw [← href, hnew] at hknown
    cases hknown

/-- Campay has said that `ref` was paid. -/
def Succeeded (ref : Reference) (txns : List CampayTxn) : Prop :=
  ∃ r ∈ txns, r.reference = ref ∧ .successful ∈ r.reported

theorem succeeded_store {ref r : Reference} {txns : List CampayTxn} :
    Succeeded ref (store r txns) ↔ Succeeded ref txns := by
  simp only [Succeeded, store, List.mem_map]
  constructor
  · rintro ⟨_, ⟨u, hu, rfl⟩, href, hs⟩
    exact ⟨u, hu, by simpa using href, by simpa using hs⟩
  · rintro ⟨u, hu, href, hs⟩
    exact ⟨_, ⟨u, hu, rfl⟩, by simpa using href, by simpa using hs⟩

/-- A reference that was just issued has reported nothing. -/
theorem succeeded_append {ref : Reference} {txns : List CampayTxn} {txn : CampayTxn} (h : txn.reported = []) :
    Succeeded ref (txns ++ [txn]) ↔ Succeeded ref txns := by
  simp [Succeeded, or_and_right, exists_or, h]

theorem succeeded_report {ref r : Reference} {s : CampayStatus} {txns : List CampayTxn} (h : r ≠ ref) :
    Succeeded ref (report r s txns) ↔ Succeeded ref txns := by
  simp only [Succeeded, report, List.mem_map]
  constructor
  · rintro ⟨_, ⟨u, hu, rfl⟩, href, hs⟩
    have hne : u.reference ≠ r := by
      rintro rfl
      exact h (by simpa using href)
    exact ⟨u, hu, by simpa using href, by simpa [CampayTxn.hear, hne] using hs⟩
  · rintro ⟨u, hu, href, hs⟩
    have hne : u.reference ≠ r := by
      rintro rfl
      exact h href
    exact ⟨_, ⟨u, hu, rfl⟩, by simpa using href, by simpa [CampayTxn.hear, hne] using hs⟩

/-- What Campay has reported of `ref`, latest first. -/
def reports (ref : Reference) (txns : List CampayTxn) : List CampayStatus :=
  ((txns.find? fun t => t.reference == ref).map (·.reported)).getD []

theorem reports_report (ref : Reference) (s : CampayStatus) {txns : List CampayTxn} (h : issued ref txns = true) :
    reports ref (report ref s txns) = s :: reports ref txns := by
  have hsame : ((fun t => t.reference == ref) ∘ CampayTxn.hear ref s) = fun t : CampayTxn => t.reference == ref := by
    funext t
    simp
  simp only [reports, report, List.find?_map, hsame]
  cases hf : txns.find? fun t => t.reference == ref with
  | none =>
    simp only [List.find?_eq_none, beq_iff_eq] at hf
    simp only [issued, List.any_eq_true, beq_iff_eq] at h
    obtain ⟨t, ht, hr⟩ := h
    exact absurd hr (hf t ht)
  | some t =>
    have hr := List.find?_some hf
    simp only [beq_iff_eq] at hr
    simp [CampayTxn.hear_reported, hr]

theorem reports_store (ref r : Reference) (txns : List CampayTxn) : reports ref (store r txns) = reports ref txns := by
  have hsame : ((fun t => t.reference == ref) ∘ CampayTxn.keep r) = fun t : CampayTxn => t.reference == ref := by
    funext t
    simp
  simp only [reports, store, List.find?_map, hsame, Option.map_map]
  congr 2
  funext t
  simp

theorem reports_append (ref : Reference) (txns : List CampayTxn) {txn : CampayTxn} (h : txn.reported = []) :
    reports ref (txns ++ [txn]) = reports ref txns := by
  simp only [reports, List.find?_append]
  cases txns.find? fun t => t.reference == ref with
  | some t => rfl
  | none =>
    simp only [Option.none_or, Option.map_none, Option.getD_none]
    cases hr : txn.reference == ref <;> simp [hr, h]

/-- `ref` has reached its row. -/
def kept (ref : Reference) (txns : List CampayTxn) : Bool := txns.any fun t => t.reference == ref && t.stored

theorem kept_report (ref r : Reference) (s : CampayStatus) (txns : List CampayTxn) :
    kept ref (report r s txns) = kept ref txns := by
  simp [kept, report, List.any_map, Function.comp_def]

theorem kept_append {ref : Reference} {txns : List CampayTxn} {txn : CampayTxn} (h : txn.stored = false) :
    kept ref (txns ++ [txn]) = kept ref txns := by
  simp [kept, h]

theorem kept_store (ref r : Reference) {txns : List CampayTxn} (h : issued r txns = true) :
    kept ref (store r txns) = (kept ref txns || r == ref) := by
  rw [Bool.eq_iff_iff]
  simp only [kept, store, issued, List.any_map, List.any_eq_true, Function.comp_apply, CampayTxn.keep_reference,
    CampayTxn.keep_stored, Bool.and_eq_true, Bool.or_eq_true, beq_iff_eq, decide_eq_true_eq] at h ⊢
  constructor
  · rintro ⟨t, ht, href, rfl | hs⟩
    · exact .inr href
    · exact .inl ⟨t, ht, href, hs⟩
  · rintro (⟨t, ht, href, hs⟩ | rfl)
    · exact ⟨t, ht, href, .inr hs⟩
    · obtain ⟨t, ht, href⟩ := h
      exact ⟨t, ht, href, .inl href⟩

theorem kept_of_unissued {ref : Reference} {txns : List CampayTxn} (h : issued ref txns = false) :
    kept ref txns = false := by
  simp only [issued, kept, List.any_eq_false, beq_iff_eq, Bool.and_eq_true, not_and, Bool.not_eq_true] at h ⊢
  exact fun t ht href => absurd href (h t ht)

theorem reports_of_unissued {ref : Reference} {txns : List CampayTxn} (h : issued ref txns = false) :
    reports ref txns = [] := by
  have hnone : txns.find? (fun t => t.reference == ref) = none := by simpa [issued] using h
  simp [reports, hnone]

end ChopNow

import DriverHub.Proofs.Session.Outcome

/-! Two actions in step. They work on different tables and otherwise on the same session, and whatever
they ask of the collaborators they ask in the same order. So they answer together or end together. -/
namespace DriverHub

variable {σ σ' τ γ ι H α β α' β' : Type}

/-- The session with other tables. -/
def Session.withTables (s : Session σ τ γ ι H) (tables : σ') : Session σ' τ γ ι H :=
  ⟨tables, s.transport, s.grants, s.interface, s.journal⟩

namespace SessionM

/-- From this session on, and with the tables `other` in it, the two actions either both answer so that
`answers`, or both end the session for the same reason. What they leave differs in the tables alone. -/
def InStep (x : SessionM σ τ γ ι H α) (y : SessionM σ' τ γ ι H β) (s : Session σ τ γ ι H) (other : σ')
    (answers : α → Session σ τ γ ι H → β → σ' → Prop) (ends : Fatal → Prop) : Prop :=
  match x s with
  | .ok a t =>
    ∃ b other', y (s.withTables other) = .ok b (t.withTables other') ∧ answers a t b other'
  | .error fatal t =>
    (∃ other', y (s.withTables other) = .error fatal (t.withTables other')) ∧ ends fatal

/-- Two checked steps have the same outcome: results that belong together, or the same failure, which is
one that is provided for. -/
inductive Agree (belong : α → β → Prop) (provided : Defect → Prop) :
    Except Defect α → Except Defect β → Prop
  | ok {a : α} {b : β} (h : belong a b) : Agree belong provided (.ok a) (.ok b)
  | error {defect : Defect} (h : provided defect) : Agree belong provided (.error defect) (.error defect)

theorem Agree.outcome {belong : α → β → Prop} {provided : Defect → Prop} {x : Except Defect α}
    {y : Except Defect β} (h : Agree belong provided x y) :
    (∃ a b, x = .ok a ∧ y = .ok b ∧ belong a b) ∨
      ∃ defect, x = .error defect ∧ y = .error defect ∧ provided defect := by
  cases h with
  | ok h => exact .inl ⟨_, _, rfl, rfl, h⟩
  | error h => exact .inr ⟨_, rfl, rfl, h⟩

theorem Agree.exists_ok {belong : α → β → Prop} {provided : Defect → Prop} {x : Except Defect α}
    {y : Except Defect β} (h : Agree belong provided x y) {a : α} (hx : x = .ok a) :
    ∃ b, y = .ok b ∧ belong a b := by
  subst hx
  cases h with
  | ok h => exact ⟨_, rfl, h⟩

theorem Agree.bind {belong : α → β → Prop} {belong' : α' → β' → Prop} {provided : Defect → Prop}
    {x : Except Defect α} {y : Except Defect β} {f : α → Except Defect α'} {g : β → Except Defect β'}
    (h : Agree belong provided x y)
    (hnext : ∀ a b, belong a b → Agree belong' provided (f a) (g b)) :
    Agree belong' provided (x >>= f) (y >>= g) := by
  cases h with
  | ok h => exact hnext _ _ h
  | error h => exact .error h

variable {s : Session σ τ γ ι H} {other : σ'} {ends : Fatal → Prop}
variable {answers : α → Session σ τ γ ι H → β → σ' → Prop}

theorem InStep.bind {x : SessionM σ τ γ ι H α} {y : SessionM σ' τ γ ι H β}
    {f : α → SessionM σ τ γ ι H α'} {g : β → SessionM σ' τ γ ι H β'}
    {answers' : α' → Session σ τ γ ι H → β' → σ' → Prop} (h : InStep x y s other answers ends)
    (hnext : ∀ a t b other', answers a t b other' → InStep (f a) (g b) t other' answers' ends) :
    InStep (x >>= f) (y >>= g) s other answers' ends := by
  unfold InStep at h
  change InStep (EStateM.bind x f) (EStateM.bind y g) s other answers' ends
  unfold InStep EStateM.bind
  cases hx : x s with
  | ok a t =>
    rw [hx] at h
    obtain ⟨b, other', hy, hanswers⟩ := h
    have hlater := hnext a t b other' hanswers
    rw [hy]
    exact hlater
  | error fatal t =>
    rw [hx] at h
    obtain ⟨⟨other', hy⟩, hends⟩ := h
    rw [hy]
    exact ⟨⟨other', rfl⟩, hends⟩

theorem InStep.mono {x : SessionM σ τ γ ι H α} {y : SessionM σ' τ γ ι H β}
    {answers' : α → Session σ τ γ ι H → β → σ' → Prop} (h : InStep x y s other answers ends)
    (ha : ∀ a t b other', answers a t b other' → answers' a t b other') :
    InStep x y s other answers' ends := by
  unfold InStep at *
  split at h
  · obtain ⟨b, other', hy, hanswers⟩ := h
    exact ⟨b, other', hy, ha _ _ _ _ hanswers⟩
  · exact h

/-- What is known of one of two actions in step is known of both. -/
theorem InStep.and_goes {x : SessionM σ τ γ ι H α} {y : SessionM σ' τ γ ι H β}
    {holds : α → Session σ τ γ ι H → Prop} {ends' : Fatal → Prop}
    (h : InStep x y s other answers ends) (hgoes : x.Goes s holds ends') :
    InStep x y s other (fun a t b other' => answers a t b other' ∧ holds a t) ends := by
  unfold InStep at *
  unfold Goes at hgoes
  cases hx : x s with
  | ok a t =>
    rw [hx] at h hgoes
    obtain ⟨b, other', hy, hanswers⟩ := h
    exact ⟨b, other', hy, hanswers, hgoes⟩
  | error fatal t =>
    rw [hx] at h
    exact h

/-- Both look at their tables. -/
theorem inStep_tables {f : σ → SessionM σ τ γ ι H α} {g : σ' → SessionM σ' τ γ ι H β}
    (h : InStep (f s.tables) (g other) s other answers ends) :
    InStep (tables >>= f) (tables >>= g) s other answers ends := h

/-- Both replace their tables. -/
theorem inStep_setTables {x : SessionM σ τ γ ι H α} {y : SessionM σ' τ γ ι H β} {tables : σ}
    {other' : σ'} (h : InStep x y { s with tables } other' answers ends) :
    InStep (setTables tables >>= fun _ => x) (setTables other' >>= fun _ => y) s other answers ends :=
  h

theorem inStep_expect {belong : α → β → Prop} {provided : Defect → Prop} {x : Except Defect α}
    {y : Except Defect β} {f : α → SessionM σ τ γ ι H α'} {g : β → SessionM σ' τ γ ι H β'}
    {answers' : α' → Session σ τ γ ι H → β' → σ' → Prop} (h : Agree belong provided x y)
    (ha : ∀ a b, belong a b → InStep (f a) (g b) s other answers' ends)
    (he : ∀ defect, provided defect → ends (.defect defect)) :
    InStep (expect x >>= f) (expect y >>= g) s other answers' ends := by
  cases h with
  | ok h => exact ha _ _ h
  | error h => exact ⟨⟨other, rfl⟩, he _ h⟩

section Grants

variable [GrantTable γ]

/-- Both create the same grant. -/
theorem inStep_createGrant (grant : Grant) :
    InStep (createGrant grant) (createGrant grant) s other
      (fun a t b other' => b = a ∧ t.tables = s.tables ∧ other' = other) ends :=
  ⟨_, other, rfl, rfl, rfl, rfl⟩

/-- Both revoke the same grants. -/
theorem inStep_revokeGrants (grants : List GrantId)
    (he : ∀ grant cause, ends (.revocation grant cause)) :
    InStep (revokeGrants grants) (revokeGrants grants) s other
      (fun _ t _ other' => t.tables = s.tables ∧ other' = other) ends := by
  -- The session changes with every grant that is revoked, and its tables do not.
  induction grants generalizing s with
  | nil => exact ⟨(), other, rfl, rfl, rfl⟩
  | cons grant rest ih =>
    have hfirst : InStep (revokeGrant grant) (revokeGrant grant) s other
        (fun _ t _ other' => t.tables = s.tables ∧ other' = other) ends := by
      unfold InStep revokeGrant Session.withTables
      dsimp only
      rcases GrantTable.revoke s.grants grant with ⟨cause | ⟨⟩, g⟩
      · exact ⟨⟨other, rfl⟩, he grant cause⟩
      · exact ⟨(), other, rfl, rfl, rfl⟩
    rw [revokeGrants, revokeGrants]
    refine hfirst.bind fun _ t _ other' hrevoked => ?_
    obtain ⟨htables, rfl⟩ := hrevoked
    refine ih.mono fun _ u _ other'' hothers => ?_
    obtain ⟨htables', rfl⟩ := hothers
    exact ⟨htables'.trans htables, rfl⟩

end Grants

end SessionM
end DriverHub

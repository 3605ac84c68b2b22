import OncallGateway.AcceptanceStore
import OncallGateway.EventGrammar

/-! # Delivery identities in the three layers

The handler checks the `Idempotency-Key` of a delivery against a pattern.  Behind it
`authentication.parseRequest` and `intake.Service.Accept` read the same text with
`ParseDeliveryIdentity`, and compare it with the text of what they have read.  They ask for the
same texts but for one: the identity of zeros fits the pattern, and is refused by the others
(`zero_identity_refused_later`).
-/

namespace OncallGateway

/-- The text of an identity that is read from it. -/
def AdmittedIdentity (s : ByteString) : Prop :=
  ∃ id, parseDeliveryIdentity s = .ok id ∧ formatUUID id = s

theorem admittedIdentity_iff {s : ByteString} :
    AdmittedIdentity s ↔ ∃ id : UUID, ¬ id.IsZero ∧ s = formatUUID id := by
  constructor
  · rintro ⟨id, hparse, rfl⟩
    exact ⟨id, (eq_of_parseDeliveryIdentity_formatUUID hparse).2, rfl⟩
  · rintro ⟨id, hnonzero, rfl⟩
    refine ⟨id, ?_, rfl⟩
    rw [parseDeliveryIdentity_formatUUID, if_neg hnonzero]

/-- The pattern of the handler, for a text that is not the one of zeros. -/
theorem validCanonicalUUID_iff_admitted {s : ByteString} (hs : s ≠ formatUUID (.zero 16)) :
    validCanonicalUUID s = true ↔ AdmittedIdentity s := by
  rw [validCanonicalUUID_eq_true, admittedIdentity_iff]
  refine exists_congr fun id => ⟨fun h => ⟨fun hzero => hs ?_, h⟩, fun h => h.2⟩
  rw [h, show id = .zero 16 from hzero]

/-! ## The authentication service -/

/-- A request with a method and a path that are accepted is malformed for its identity only. -/
theorem parseRequest_malformed_iff {request : AuthenticationRequest}
    (hmethod : request.method = .ascii "POST") (hpath : validCanonicalPath request.path = true) :
    parseRequest request = .error .errRequestInvalid ↔
      ¬ AdmittedIdentity request.deliveryIdentity := by
  unfold parseRequest
  rw [if_neg (by simp [hmethod, hpath])]
  constructor
  · rintro h ⟨id, hparse, hformat⟩
    rw [hparse] at h
    dsimp only at h
    rw [if_neg (not_not.mpr hformat)] at h
    split at h
    · split at h
      · cases h
      · cases h
    · cases h
  · intro h
    split
    · rfl
    · rename_i id hparse
      rw [if_pos fun hformat => h ⟨id, hparse, hformat⟩]

/-! ## The intake service -/

section
variable {ν : Type} [ErrorGraph ν]

theorem mem_of_findM? {α : Type} {p : α → Except Stop Bool} {as : List α} {a : α}
    (h : as.findM? p = .ok (some a)) : a ∈ as := by
  induction as with
  | nil => cases h
  | cons b as ih =>
    rw [List.findM?] at h
    cases hb : p b with
    | error reason =>
      rw [hb] at h
      cases h
    | ok found =>
      rw [hb] at h
      cases found with
      | true =>
        cases h
        exact List.mem_cons_self
      | false => exact List.mem_cons_of_mem _ (ih h)

variable {safe : List Sentinel}

/-- An error is classified as one of the list, or as the one beside it. -/
theorem classifyError_mem {otherwise kind : Sentinel} {err : GoError ν}
    (h : classifyError safe otherwise err = .ok kind) : kind ∈ otherwise :: safe := by
  rw [classifyError] at h
  cases hfind : safe.findM? err.errorsIs with
  | error reason =>
    rw [hfind] at h
    cases h
  | ok found =>
    rw [hfind] at h
    cases h
    cases found with
    | none => exact List.mem_cons_self
    | some kind => exact List.mem_cons_of_mem _ (mem_of_findM? hfind)

/-- An error is not taken for a malformed request where that is not in the list. -/
theorem yields_classifyError {otherwise kind : Sentinel} {err : GoError ν}
    (h : kind ∉ otherwise :: safe) :
    (do return (.zero, some (← classifyError safe otherwise err)) :
      AcceptanceProg ν (AcceptanceResult × Option Sentinel)).Yields fun r => r.2 ≠ some kind :=
  .settle fun _ hkind heq => h (Option.some.inj heq ▸ classifyError_mem hkind)

omit [ErrorGraph ν] in
theorem yields_acceptanceContextErr {α : Type} {P : α → Prop}
    {f : Option (GoError ν) → AcceptanceProg ν α} :
    (acceptanceContextErr >>= f).Yields P ↔ ∀ contextErr, (f contextErr).Yields P := Iff.rfl

/-- Whatever happens later is not taken for a malformed request. -/
theorem storePrepared_yields (aead : Aead) (prepared : PreparedAcceptance) :
    (storePrepared aead prepared : AcceptanceProg ν _).Yields
      fun r => r.2 ≠ some .errInvalidRequest := by
  refine Prog.Yields.andThen _ fun contextErr => ?_
  split
  · exact fun h => Sentinel.noConfusion (Option.some.inj h)
  · refine Prog.Yields.andThen _ ?_
    rintro ⟨result, _ | err⟩
    · dsimp only
      split
      · exact fun h => Sentinel.noConfusion (Option.some.inj h)
      · exact fun h => nomatch h
    · exact yields_classifyError (by decide)

/-- **The intake service refuses a request for its identity exactly when that is not
admitted.** -/
theorem intakeAccept_yields_iff {aead : Aead} {sum256 : Hash}
    {order : RangeOrder ByteString ByteString} {request : IntakeRequest}
    (hprincipal : request.corePrincipalID ≠ []) (hdestination : request.destinationID ≠ [])
    (hevent : nilEvent request.event = false) :
    (intakeAccept aead sum256 order request : AcceptanceProg ν _).Yields
        (fun r => r.2 ≠ some .errInvalidRequest) ↔ AdmittedIdentity request.deliveryIdentity := by
  have hrequest : ¬ (request.corePrincipalID = [] ∨ request.destinationID = [] ∨
      nilEvent request.event = true) := by simp [hprincipal, hdestination, hevent]
  constructor
  · -- a context that is not canceled lets the identity be looked at
    intro h
    rw [intakeAccept, yields_acceptanceContextErr] at h
    have hlooked := h none
    rw [if_neg Bool.noConfusion, if_neg hrequest] at hlooked
    split at hlooked
    · exact absurd rfl hlooked
    · rename_i id hparse
      by_contra hnot
      rw [if_pos fun hformat => hnot ⟨id, hparse, hformat⟩] at hlooked
      exact absurd rfl hlooked
  · rintro ⟨id, hparse, hformat⟩
    refine Prog.Yields.andThen _ fun contextErr => ?_
    rw [if_neg hrequest, hparse]
    dsimp only
    rw [if_neg (not_not.mpr hformat)]
    split
    · exact fun h => Sentinel.noConfusion (Option.some.inj h)
    · split
      · exact fun h => Sentinel.noConfusion (Option.some.inj h)
      · refine Prog.Yields.andThen _ fun contextErr => ?_
        split
        · exact fun h => Sentinel.noConfusion (Option.some.inj h)
        · refine Prog.Yields.andThen _ fun r => ?_
          match r with
          | .error err => exact yields_classifyError (by decide)
          | .ok prepared =>
            dsimp only
            split
            · exact fun h => Sentinel.noConfusion (Option.some.inj h)
            · exact storePrepared_yields aead prepared

/-- **All layers admit the same delivery identities, but for the one of zeros.**  The handler
takes a text exactly when it is read by `ParseDeliveryIdentity` as an identity with this text;
exactly then the authentication service does not find the request malformed, nor does the
intake service. -/
theorem layers_admit_same_identities (s : ByteString) (hs : s ≠ formatUUID (.zero 16)) :
    (validCanonicalUUID s = true ↔ ∃ id, parseDeliveryIdentity s = .ok id ∧ formatUUID id = s) ∧
    (∀ request : AuthenticationRequest, request.deliveryIdentity = s →
      request.method = .ascii "POST" → validCanonicalPath request.path = true →
      (validCanonicalUUID s = true ↔ parseRequest request ≠ .error .errRequestInvalid)) ∧
    ∀ (aead : Aead) (sum256 : Hash) (order : RangeOrder ByteString ByteString)
      (request : IntakeRequest), request.deliveryIdentity = s →
      request.corePrincipalID ≠ [] → request.destinationID ≠ [] → nilEvent request.event = false →
      (validCanonicalUUID s = true ↔
        (intakeAccept aead sum256 order request : AcceptanceProg ν _).Yields
          fun r => r.2 ≠ some .errInvalidRequest) := by
  have hadmitted := validCanonicalUUID_iff_admitted hs
  refine ⟨hadmitted, ?_, ?_⟩
  · rintro request rfl hmethod hpath
    rw [ne_eq, parseRequest_malformed_iff hmethod hpath, not_not]
    exact hadmitted
  · rintro aead sum256 order request rfl hprincipal hdestination hevent
    rw [intakeAccept_yields_iff hprincipal hdestination hevent]
    exact hadmitted

/-- The identity of the request passes the handler and the intake service. -/
theorem sampleIntakeRequest_admitted :
    validCanonicalUUID sampleIntakeRequest.deliveryIdentity = true ∧
    (∃ id, parseDeliveryIdentity sampleIntakeRequest.deliveryIdentity = .ok id ∧
      formatUUID id = sampleIntakeRequest.deliveryIdentity) ∧
    (intakeAccept plainAead (fun _ => .zero 32) sampleOrder sampleIntakeRequest :
      AcceptanceProg Empty _).Yields fun r => r.2 ≠ some .errInvalidRequest := by
  have hvalid : validCanonicalUUID sampleIntakeRequest.deliveryIdentity = true := by decide +kernel
  obtain ⟨hparsed, -, hintake⟩ := layers_admit_same_identities (ν := Empty)
    sampleIntakeRequest.deliveryIdentity (by decide +kernel)
  refine ⟨hvalid, hparsed.mp hvalid, ?_⟩
  exact (hintake _ _ _ _ rfl (by decide +kernel) (by decide +kernel) rfl).mp hvalid

/-- **The identity of zeros passes the handler and is refused by both layers behind it**, whatever
else is in the request. -/
theorem zero_identity_refused_later :
    validCanonicalUUID (.ascii "00000000-0000-0000-0000-000000000000") = true ∧
    (¬ ∃ id, parseDeliveryIdentity (.ascii "00000000-0000-0000-0000-000000000000") = .ok id) ∧
    (∀ request : AuthenticationRequest,
      request.deliveryIdentity = .ascii "00000000-0000-0000-0000-000000000000" →
      parseRequest request = .error .errRequestInvalid) ∧
    ∀ (aead : Aead) (sum256 : Hash) (order : RangeOrder ByteString ByteString)
      (request : IntakeRequest),
      request.deliveryIdentity = .ascii "00000000-0000-0000-0000-000000000000" →
      (intakeAccept aead sum256 order request : AcceptanceProg Empty _).Yields
        fun r => r = (.zero, some .errCanceled) ∨ r = (.zero, some .errInvalidRequest) := by
  have hparse : parseDeliveryIdentity (.ascii "00000000-0000-0000-0000-000000000000") =
      .error .errInvalidAcceptance := by decide +kernel
  refine ⟨by decide +kernel, ?_, ?_, ?_⟩
  · rintro ⟨id, hid⟩
    rw [hparse] at hid
    cases hid
  · intro request hrequest
    unfold parseRequest
    rw [hrequest, hparse]
    split
    · rfl
    · rfl
  · intro aead sum256 order request hrequest
    refine Prog.Yields.andThen _ fun contextErr => ?_
    rw [hrequest, hparse]
    split
    · exact .inl rfl
    · split
      · exact .inr rfl
      · exact .inr rfl

end

end OncallGateway

/-
# DeliveryControl.TargetExclusion — the one-way marks of the target ledgers

The two ledgers under any interleaving of seals, cessations and contact
transactions. A call that raises is rolled back, so `Targets.after` is the
state the next transaction sees.

* `after_exclusive`: one transaction keeps the marks of a claim apart;
* `after_grows`: seals and cessations are never removed, and no result row
  appears for a ceased claim;
* `targets_exclusive`: the same over whole runs, with the answers to repeated
  and rebound seal requests.
-/
import Aegis.DeliveryControl.TargetLedger

namespace Aegis.DeliveryControl.TargetLedger

open Aegis.Lib
open Aegis.Lib.Guarded
open Aegis.Lib.Runs

set_option autoImplicit false

section Exclusion

variable {D : Type} [DecidableEq D]

/-- The ledger a transaction leaves: its result, or what it was when it raised. -/
def committed {A L : Type} (answer : Except ControlError (A × L)) (before : L) : L :=
  match answer with
  | .ok (_, ledger) => ledger
  | .error _ => before

/-- Both target ledgers. -/
structure Targets (D : Type) [DecidableEq D] where
  effect : EffectLedger D
  validator : ValidatorLedger D

/-- A call on one of the ledgers, with all its arguments. -/
inductive TargetCall (D : Type)
  | sealEffect (adapter : TargetAdapter) (attestation : NonexecutionAttestation D)
      (issuer : AttestationIssuer D)
  | contactEffect (call : EffectCall)
  | sealValidator (adapter : TargetAdapter) (attestation : NonexecutionAttestation D)
      (issuer : AttestationIssuer D)
  | cease (adapter : TargetAdapter) (attestation : CessationAttestation D)
      (issuer : AttestationIssuer D)
  | contactValidator (call : ValidatorCall)

/-- The ledgers after one call, rolled back when it raises. -/
def Targets.after (digests : LedgerDigests D) (targets : Targets D) : TargetCall D → Targets D
  | .sealEffect adapter attestation issuer =>
      { targets with
        effect := committed
          (targets.effect.sealNonexecution digests adapter attestation issuer) targets.effect }
  | .contactEffect call =>
      { targets with
        effect := committed (targets.effect.contact digests call) targets.effect }
  | .sealValidator adapter attestation issuer =>
      { targets with
        validator := committed
          (targets.validator.sealNonexecution digests adapter attestation issuer)
          targets.validator }
  | .cease adapter attestation issuer =>
      { targets with
        validator := committed
          (targets.validator.sealCessation digests adapter attestation issuer) targets.validator }
  | .contactValidator call =>
      { targets with
        validator := committed (targets.validator.contact digests call) targets.validator }

/-- The ledgers as the adapters create them. -/
def Targets.created (digests : LedgerDigests D) : Targets D where
  effect := ⟨.empty, .empty⟩
  validator :=
    ⟨some ⟨1, "aegis.synthetic.validator.in-process.v1", digests.support⟩, .empty, .empty, .empty⟩

/-- One call on the ledgers. -/
def Calls (digests : LedgerDigests D) (before : Targets D) (call : TargetCall D)
    (after : Targets D) : Prop :=
  before.after digests call = after

theorem committed_cases {A L : Type} (answer : Except ControlError (A × L)) (before : L) :
    committed answer before = before ∨
      ∃ result, answer = .ok result ∧ committed answer before = result.2 := by
  cases answer with
  | error error => exact .inl rfl
  | ok result => exact .inr ⟨result, rfl, rfl⟩

theorem EffectLedger.executed_eq_false {ledger : EffectLedger D} {claimId : String} :
    ledger.executed claimId = false ↔ ∀ row ∈ ledger.effects, row.claimId ≠ claimId := by
  simp [EffectLedger.executed]

theorem ValidatorLedger.executed_eq_false {ledger : ValidatorLedger D} {claimId : String} :
    ledger.executed claimId = false ↔ ∀ row ∈ ledger.results, row.claimId ≠ claimId := by
  simp [ValidatorLedger.executed]

/-! ## What each transaction writes -/

variable {digests : LedgerDigests D} {seals : Table (SealRow D)}
  {attestation : NonexecutionAttestation D} {target : D} {executed : String → Bool}
  {receipt : NonexecutionSealReceipt D} {adapter : TargetAdapter} {issuer : AttestationIssuer D}

/-- A recorded seal was there already, or is fresh on a claim that never executed. -/
theorem recordNonexecutionSeal_ok {next : Table (SealRow D)} {kind : ContactKind}
    (recorded : recordNonexecutionSeal digests seals attestation kind target executed
      = .ok (receipt, next)) :
    (next = seals ∧ receipt = sealReceipt digests attestation true ∧
        ∃ prior ∈ seals, prior.sharesIdentity attestation = true ∧
          prior.bodyJson = sealBody digests attestation) ∨
      ((∀ mark ∈ seals, mark.sharesIdentity attestation = false) ∧
        executed attestation.claimId = false ∧ receipt = sealReceipt digests attestation false ∧
        next.rows = seals.rows ++ [sealRow digests attestation]) := by
  simp only [recordNonexecutionSeal, bind_eq_ok, require_eq_ok] at recorded
  obtain ⟨_, _, recorded⟩ := recorded
  split at recorded
  · rename_i prior found
    simp only [bind_eq_ok, require_eq_ok, pure_eq_ok, Prod.mk.injEq] at recorded
    obtain ⟨_, same, answer, rfl⟩ := recorded
    obtain ⟨member, shares⟩ := Table.mem_of_find? found
    exact .inl ⟨rfl, answer.symm, prior, member, shares, same.2⟩
  · rename_i absent
    simp only [bind_eq_ok, refuse_eq_ok, pure_eq_ok, Prod.mk.injEq] at recorded
    obtain ⟨_, unexecuted, inserted, insertion, answer, rfl⟩ := recorded
    exact .inr ⟨Table.find?_eq_none.mp absent, by simpa using unexecuted, answer.symm,
      (Table.insert_eq_ok.mp insertion).2⟩

theorem effect_seal_ok {ledger : EffectLedger D}
    {result : NonexecutionSealReceipt D × EffectLedger D} :
    ledger.sealNonexecution digests adapter attestation issuer = .ok result ↔
      issuer.verifyNonexecutionAttestation attestation = .ok () ∧
        ∃ target, adapter.targetDigest digests .effect attestation.repositoryId = .ok target ∧
          ∃ seals, recordNonexecutionSeal digests ledger.seals attestation .effect target
              ledger.executed = .ok (result.1, seals) ∧
            result.2 = { ledger with seals := seals } := by
  obtain ⟨receipt, after⟩ := result
  simp only [EffectLedger.sealNonexecution, bind_eq_ok, pure_eq_ok, Prod.exists, Prod.mk.injEq]
  constructor
  · rintro ⟨_, verified, target, located, _, seals, recorded, rfl, rfl⟩
    exact ⟨verified, target, located, seals, recorded, rfl⟩
  · rintro ⟨verified, target, located, seals, recorded, rfl⟩
    exact ⟨(), verified, target, located, receipt, seals, recorded, rfl, rfl⟩

theorem validator_seal_ok {ledger : ValidatorLedger D}
    {result : NonexecutionSealReceipt D × ValidatorLedger D} :
    ledger.sealNonexecution digests adapter attestation issuer = .ok result ↔
      issuer.verifyNonexecutionAttestation attestation = .ok () ∧
        ∃ target, adapter.targetDigest digests .validator attestation.repositoryId = .ok target ∧
          ∃ seals, recordNonexecutionSeal digests ledger.seals attestation .validator target
              ledger.executed = .ok (result.1, seals) ∧
            result.2 = { ledger with seals := seals } := by
  obtain ⟨receipt, after⟩ := result
  simp only [ValidatorLedger.sealNonexecution, bind_eq_ok, pure_eq_ok, Prod.exists,
    Prod.mk.injEq]
  constructor
  · rintro ⟨_, verified, target, located, _, seals, recorded, rfl, rfl⟩
    exact ⟨verified, target, located, seals, recorded, rfl⟩
  · rintro ⟨verified, target, located, seals, recorded, rfl⟩
    exact ⟨(), verified, target, located, receipt, seals, recorded, rfl, rfl⟩

/-- A contact inserts one effect row, for a claim with no seal. -/
theorem effect_contact_ok {ledger : EffectLedger D} {call : EffectCall}
    {result : Option (EffectRow D) × EffectLedger D}
    (contacted : ledger.contact digests call = .ok result) :
    (∀ row ∈ ledger.seals, row.claimId ≠ call.capability.claimId) ∧
      (∀ row ∈ ledger.effects, row.claimId ≠ call.capability.claimId) ∧
      ∃ effects, result.2 = { ledger with effects := effects } ∧
        effects.rows = ledger.effects.rows ++ [call.row digests] := by
  simp only [EffectLedger.contact, bind_eq_ok, refuse_eq_ok, pure_eq_ok, Bool.not_eq_true,
    Table.any_eq_false, decide_eq_false_iff_not, EffectLedger.executed_eq_false] at contacted
  obtain ⟨_, unsealed, _, unexecuted, effects, inserted, rfl⟩ := contacted
  exact ⟨unsealed, unexecuted, effects, rfl, (Table.insert_eq_ok.mp inserted).2⟩

/-- A validator contact inserts one result row, for a claim neither ceased nor sealed. -/
theorem validator_contact_ok {ledger : ValidatorLedger D} {call : ValidatorCall}
    {result : Option (ResultRow D) × ValidatorLedger D}
    (contacted : ledger.contact digests call = .ok result) :
    (∀ row ∈ ledger.cessations, row.claimId ≠ call.capability.claimId) ∧
      (∀ row ∈ ledger.seals, row.claimId ≠ call.capability.claimId) ∧
      ∃ containment results, result.2 = { ledger with results := results } ∧
        results.rows = ledger.results.rows ++ [call.row digests containment] := by
  simp only [ValidatorLedger.contact, bind_eq_ok, refuse_eq_ok, require_eq_ok, pure_eq_ok,
    Bool.not_eq_true, Table.any_eq_false, decide_eq_false_iff_not] at contacted
  obtain ⟨_, _, containment, _, _, unceased, _, unsealed, _, _, results, inserted, rfl⟩ :=
    contacted
  exact ⟨unceased, unsealed, containment, results, rfl, (Table.insert_eq_ok.mp inserted).2⟩

/-- The stored cessation has the attestation's identities and digest. -/
def CessationRow.Records (digests : LedgerDigests D) (row : CessationRow D)
    (attestation : CessationAttestation D) : Prop :=
  row.cessationId = attestation.cessationId ∧ row.claimId = attestation.claimId ∧
    row.sourceId = attestation.sourceId ∧ row.attestationId = attestation.attestationId ∧
    row.attestationDigest = digests.cessationAttestation attestation

/-- A cessation was there already, or is the row of its attestation. -/
theorem sealCessation_ok {ledger : ValidatorLedger D} {attestation : CessationAttestation D}
    {result : CessationSealReceipt D × ValidatorLedger D}
    (ceased : ledger.sealCessation digests adapter attestation issuer = .ok result) :
    (result.2 = ledger ∧ ∃ prior ∈ ledger.cessations,
        prior.Records digests attestation ∧ result.1 = cessationReceipt prior true) ∨
      (∀ mark ∈ ledger.cessations, mark.sharesIdentity attestation = false) ∧
      ∃ target found cessations,
        result = (cessationReceipt (cessationRow digests attestation target found) false,
          { ledger with cessations := cessations }) ∧
        cessations.rows =
          ledger.cessations.rows ++ [cessationRow digests attestation target found] := by
  simp only [ValidatorLedger.sealCessation, bind_eq_ok, require_eq_ok] at ceased
  obtain ⟨_, -, target, -, -, -, ceased⟩ := ceased
  split at ceased
  · rename_i prior found
    simp only [bind_eq_ok, require_eq_ok, pure_eq_ok] at ceased
    obtain ⟨_, same, rfl⟩ := ceased
    have member := (Table.mem_of_find? found).1
    exact .inl ⟨rfl, prior, member, same, rfl⟩
  · rename_i absent
    simp only [bind_eq_ok, pure_eq_ok] at ceased
    obtain ⟨cessations, inserted, rfl⟩ := ceased
    exact .inr ⟨Table.find?_eq_none.mp absent, target, _, cessations, rfl, (Table.insert_eq_ok.mp inserted).2⟩

/-! ## One transaction -/

/-- The marks of every claim are apart, and every mark is the record of its attestation. -/
structure Exclusive (digests : LedgerDigests D) (targets : Targets D) : Prop where
  effect : ∀ mark ∈ targets.effect.seals, ∀ row ∈ targets.effect.effects,
    mark.claimId ≠ row.claimId
  validator : ∀ mark ∈ targets.validator.seals, ∀ row ∈ targets.validator.results,
    mark.claimId ≠ row.claimId
  effectSeals : ∀ mark ∈ targets.effect.seals, mark = sealRow digests mark.bodyJson.attestation
  validatorSeals : ∀ mark ∈ targets.validator.seals,
    mark = sealRow digests mark.bodyJson.attestation
  cessations : ∀ mark ∈ targets.validator.cessations, ∃ target result,
    mark = cessationRow digests mark.bodyJson.attestation target result

/-- Everything one call can write, with what its checks established. -/
inductive Writes (digests : LedgerDigests D) (before : Targets D) : Targets D → Prop
  | nothing : Writes digests before before
  | effectSeal (attestation : NonexecutionAttestation D) (seals : Table (SealRow D))
      (unexecuted : ∀ row ∈ before.effect.effects, row.claimId ≠ attestation.claimId)
      (rows : seals.rows = before.effect.seals.rows ++ [sealRow digests attestation]) :
      Writes digests before { before with effect := { before.effect with seals := seals } }
  | effectRow (call : EffectCall) (effects : Table (EffectRow D))
      (unsealed : ∀ mark ∈ before.effect.seals, mark.claimId ≠ call.capability.claimId)
      (rows : effects.rows = before.effect.effects.rows ++ [call.row digests]) :
      Writes digests before { before with effect := { before.effect with effects := effects } }
  | validatorSeal (attestation : NonexecutionAttestation D) (seals : Table (SealRow D))
      (unexecuted : ∀ row ∈ before.validator.results, row.claimId ≠ attestation.claimId)
      (rows : seals.rows = before.validator.seals.rows ++ [sealRow digests attestation]) :
      Writes digests before { before with validator := { before.validator with seals := seals } }
  | cessation (attestation : CessationAttestation D) (target : D) (found : Option (ResultRow D))
      (cessations : Table (CessationRow D))
      (rows : cessations.rows =
        before.validator.cessations.rows ++ [cessationRow digests attestation target found]) :
      Writes digests before
        { before with validator := { before.validator with cessations := cessations } }
  | resultRow (call : ValidatorCall) (containment : String) (results : Table (ResultRow D))
      (unceased : ∀ mark ∈ before.validator.cessations, mark.claimId ≠ call.capability.claimId)
      (unsealed : ∀ mark ∈ before.validator.seals, mark.claimId ≠ call.capability.claimId)
      (rows : results.rows = before.validator.results.rows ++ [call.row digests containment]) :
      Writes digests before
        { before with validator := { before.validator with results := results } }

theorem after_writes (digests : LedgerDigests D) (before : Targets D) (call : TargetCall D) :
    Writes digests before (before.after digests call) := by
  cases call with
  | sealEffect adapter attestation issuer =>
      rcases committed_cases (before.effect.sealNonexecution digests adapter attestation issuer)
        before.effect with same | ⟨result, accepted, same⟩
      · simpa only [Targets.after, same] using .nothing
      · obtain ⟨-, target, -, seals, recorded, ledger⟩ := effect_seal_ok.mp accepted
        simp only [Targets.after, same, ledger]
        rcases recordNonexecutionSeal_ok recorded with ⟨rfl, -⟩ | ⟨-, unexecuted, -, rows⟩
        · exact .nothing
        · exact .effectSeal attestation seals
            (EffectLedger.executed_eq_false.mp unexecuted) rows
  | contactEffect call =>
      rcases committed_cases (before.effect.contact digests call) before.effect with
        same | ⟨result, accepted, same⟩
      · simpa only [Targets.after, same] using .nothing
      · obtain ⟨unsealed, -, effects, ledger, rows⟩ := effect_contact_ok accepted
        simp only [Targets.after, same, ledger]
        exact .effectRow call effects unsealed rows
  | sealValidator adapter attestation issuer =>
      rcases committed_cases (before.validator.sealNonexecution digests adapter attestation issuer)
        before.validator with same | ⟨result, accepted, same⟩
      · simpa only [Targets.after, same] using .nothing
      · obtain ⟨-, target, -, seals, recorded, ledger⟩ := validator_seal_ok.mp accepted
        simp only [Targets.after, same, ledger]
        rcases recordNonexecutionSeal_ok recorded with ⟨rfl, -⟩ | ⟨-, unexecuted, -, rows⟩
        · exact .nothing
        · exact .validatorSeal attestation seals
            (ValidatorLedger.executed_eq_false.mp unexecuted) rows
  | cease adapter attestation issuer =>
      rcases committed_cases (before.validator.sealCessation digests adapter attestation issuer)
        before.validator with same | ⟨result, accepted, same⟩
      · simpa only [Targets.after, same] using .nothing
      · simp only [Targets.after, same]
        rcases sealCessation_ok accepted with
          ⟨ledger, -⟩ | ⟨-, target, found, cessations, rfl, rows⟩
        · simpa only [ledger] using .nothing
        · exact .cessation attestation target found cessations rows
  | contactValidator call =>
      rcases committed_cases (before.validator.contact digests call) before.validator with
        same | ⟨result, accepted, same⟩
      · simpa only [Targets.after, same] using .nothing
      · obtain ⟨unceased, unsealed, containment, results, ledger, rows⟩ :=
          validator_contact_ok accepted
        simp only [Targets.after, same, ledger]
        exact .resultRow call containment results unceased unsealed rows

/-- One call keeps the marks of every claim apart. -/
theorem after_exclusive {before after : Targets D} (good : Exclusive digests before)
    (writes : Writes digests before after) :
    Exclusive digests after := by
  cases writes with
  | nothing => exact good
  | effectSeal attestation seals unexecuted rows =>
      refine { good with effect := ?_, effectSeals := ?_ }
      · intro mark member row executed
        simp only [← Table.mem_rows, rows, List.mem_append, List.mem_singleton] at member
        rcases member with old | rfl
        · exact good.effect mark old row executed
        · exact (unexecuted row executed).symm
      · intro mark member
        simp only [← Table.mem_rows, rows, List.mem_append, List.mem_singleton] at member
        rcases member with old | rfl
        · exact good.effectSeals mark old
        · rfl
  | effectRow call effects unsealed rows =>
      refine { good with effect := ?_ }
      intro mark member row executed
      simp only [← Table.mem_rows, rows, List.mem_append, List.mem_singleton] at executed
      rcases executed with old | rfl
      · exact good.effect mark member row old
      · exact unsealed mark member
  | validatorSeal attestation seals unexecuted rows =>
      refine { good with validator := ?_, validatorSeals := ?_ }
      · intro mark member row executed
        simp only [← Table.mem_rows, rows, List.mem_append, List.mem_singleton] at member
        rcases member with old | rfl
        · exact good.validator mark old row executed
        · exact (unexecuted row executed).symm
      · intro mark member
        simp only [← Table.mem_rows, rows, List.mem_append, List.mem_singleton] at member
        rcases member with old | rfl
        · exact good.validatorSeals mark old
        · rfl
  | cessation attestation target found cessations rows =>
      refine { good with cessations := ?_ }
      intro mark member
      simp only [← Table.mem_rows, rows, List.mem_append, List.mem_singleton] at member
      rcases member with old | rfl
      · exact good.cessations mark old
      · exact ⟨target, found, rfl⟩
  | resultRow call containment results unceased unsealed rows =>
      refine { good with validator := ?_ }
      intro mark member row executed
      simp only [← Table.mem_rows, rows, List.mem_append, List.mem_singleton] at executed
      rcases executed with old | rfl
      · exact good.validator mark member row old
      · exact unsealed mark member

/-- Marks only accumulate, and a ceased claim gets no result row any more. -/
structure Grows (before after : Targets D) : Prop where
  effectSeals : ∀ mark ∈ before.effect.seals, mark ∈ after.effect.seals
  validatorSeals : ∀ mark ∈ before.validator.seals, mark ∈ after.validator.seals
  cessations : ∀ mark ∈ before.validator.cessations, mark ∈ after.validator.cessations
  ceased : ∀ mark ∈ before.validator.cessations, ∀ row ∈ after.validator.results,
    row.claimId = mark.claimId → row ∈ before.validator.results

theorem Grows.refl (targets : Targets D) : Grows targets targets :=
  ⟨fun _ h => h, fun _ h => h, fun _ h => h, fun _ _ _ h _ => h⟩

theorem Grows.trans {first middle last : Targets D} (early : Grows first middle)
    (late : Grows middle last) : Grows first last where
  effectSeals mark member := late.effectSeals mark (early.effectSeals mark member)
  validatorSeals mark member := late.validatorSeals mark (early.validatorSeals mark member)
  cessations mark member := late.cessations mark (early.cessations mark member)
  ceased mark member row result same :=
    early.ceased mark member row
      (late.ceased mark (early.cessations mark member) row result same) same

theorem after_grows {before after : Targets D} (writes : Writes digests before after) :
    Grows before after := by
  cases writes with
  | nothing => exact .refl before
  | effectSeal attestation seals unexecuted rows =>
      refine { Grows.refl before with effectSeals := fun mark member => ?_ }
      simp only [← Table.mem_rows, rows, List.mem_append]
      exact .inl member
  | effectRow call effects unsealed rows => exact { Grows.refl before with }
  | validatorSeal attestation seals unexecuted rows =>
      refine { Grows.refl before with validatorSeals := fun mark member => ?_ }
      simp only [← Table.mem_rows, rows, List.mem_append]
      exact .inl member
  | cessation attestation target found cessations rows =>
      refine { Grows.refl before with cessations := fun mark member => ?_ }
      simp only [← Table.mem_rows, rows, List.mem_append]
      exact .inl member
  | resultRow call containment results unceased unsealed rows =>
      refine { Grows.refl before with ceased := fun mark member row result same => ?_ }
      simp only [← Table.mem_rows, rows, List.mem_append, List.mem_singleton] at result
      rcases result with old | rfl
      · exact old
      · exact absurd same.symm (unceased mark member)

theorem run_grows {before after : Targets D} {calls : List (TargetCall D)}
    (run : Run (Calls digests) before calls after) :
    Grows before after := by
  refine run.invariant (fun middle call _ grown taken => ?_) (.refl before)
  exact grown.trans (taken ▸ after_grows (after_writes digests middle call))

variable {targets : Targets D}

theorem run_exclusive {calls : List (TargetCall D)}
    (run : Run (Calls digests) (.created digests) calls targets) : Exclusive digests targets := by
  refine run.invariant (fun before call _ good taken => ?_) ?_
  · exact taken ▸ after_exclusive good (after_writes digests before call)
  · constructor <;> simp [Targets.created]

/-! ## Repeated and rebound seal requests -/

theorem conflict_of_sharesIdentity {mark : SealRow D}
    (shares : mark.sharesIdentity attestation = true) :
    Conflict mark (sealRow digests attestation) := by
  simp only [SealRow.sharesIdentity, Bool.or_eq_true, decide_eq_true_eq] at shares
  simp only [Conflict, sealRow]
  tauto

/-- The seal of an attestation, once stored, answers that attestation as a replay. -/
theorem recordNonexecutionSeal_replay {kind : ContactKind}
    (member : sealRow digests attestation ∈ seals)
    (binds : attestation.contactKind = kind ∧ attestation.targetDigest = target) :
    recordNonexecutionSeal digests seals attestation kind target executed
      = .ok (sealReceipt digests attestation true, seals) := by
  have found : seals.find? (fun row => row.sharesIdentity attestation)
      = some (sealRow digests attestation) :=
    Table.find?_eq_some member (by simp [SealRow.sharesIdentity, sealRow])
      (fun other _ shares => conflict_of_sharesIdentity shares)
  have stored : (sealRow digests attestation).sealHash
        = digests.nonexecutionSeal (sealBody digests attestation) ∧
      (sealRow digests attestation).bodyJson = sealBody digests attestation := ⟨rfl, rfl⟩
  simp only [recordNonexecutionSeal, found]
  simp [require, binds, stored, bind, Except.bind, pure, Except.pure]

/-- An accepted seal request leaves the seal of exactly its attestation. -/
theorem recordNonexecutionSeal_stores {next : Table (SealRow D)} {kind : ContactKind}
    (good : ∀ mark ∈ seals, mark = sealRow digests mark.bodyJson.attestation)
    (recorded : recordNonexecutionSeal digests seals attestation kind target executed
      = .ok (receipt, next)) :
    sealRow digests attestation ∈ next ∧
      { receipt with replayed := true } = sealReceipt digests attestation true := by
  rcases recordNonexecutionSeal_ok recorded with
    ⟨rfl, rfl, prior, member, -, body⟩ | ⟨-, -, rfl, rows⟩
  · have same := good prior member
    rw [body] at same
    exact ⟨same ▸ member, rfl⟩
  · refine ⟨?_, rfl⟩
    simp [← Table.mem_rows, rows]

theorem recordNonexecutionSeal_binds {kind : ContactKind}
    {result : NonexecutionSealReceipt D × Table (SealRow D)}
    (recorded : recordNonexecutionSeal digests seals attestation kind target executed
      = .ok result) :
    attestation.contactKind = kind ∧ attestation.targetDigest = target := by
  simp only [recordNonexecutionSeal, bind_eq_ok, require_eq_ok] at recorded
  obtain ⟨_, binds, -⟩ := recorded
  exact binds

/-- A stored identity is never sealed for another attestation. -/
theorem recordNonexecutionSeal_rebound {kind : ContactKind} {mark : SealRow D}
    {result : NonexecutionSealReceipt D × Table (SealRow D)}
    (good : ∀ mark ∈ seals, mark = sealRow digests mark.bodyJson.attestation)
    (member : mark ∈ seals) (shares : mark.sharesIdentity attestation = true)
    (other : mark.bodyJson.attestation ≠ attestation) :
    recordNonexecutionSeal digests seals attestation kind target executed ≠ .ok result := by
  intro recorded
  rcases recordNonexecutionSeal_ok recorded with ⟨-, -, prior, stored, -, body⟩ | ⟨absent, -⟩
  · have same : prior = sealRow digests attestation := by
      rw [good prior stored, body]
      rfl
    rw [same] at stored
    obtain rfl := Table.eq_of_conflict member stored (conflict_of_sharesIdentity shares)
    exact other rfl
  · rw [absent mark member] at shares
    exact Bool.false_ne_true shares

/-- A stored cessation answers its attestation as a replay. -/
theorem sealCessation_replay {ledger : ValidatorLedger D} {attestation : CessationAttestation D}
    {row : CessationRow D}
    (verified : issuer.verifyValidatorCessationAttestation attestation = .ok ())
    (located : adapter.targetDigest digests .validator attestation.repositoryId = .ok target)
    (binds : attestation.targetDigest = target) (member : row ∈ ledger.cessations)
    (records : row.Records digests attestation) :
    ledger.sealCessation digests adapter attestation issuer
      = .ok (cessationReceipt row true, ledger) := by
  have found : ledger.cessations.find? (fun row => row.sharesIdentity attestation) = some row := by
    refine Table.find?_eq_some member (by simp [CessationRow.sharesIdentity, records.1]) ?_
    intro other _ shares
    simp only [CessationRow.sharesIdentity, Bool.or_eq_true, decide_eq_true_eq] at shares
    simp only [Conflict, records.1, records.2.1, records.2.2.1, records.2.2.2.1]
    tauto
  unfold CessationRow.Records at records
  simp only [ValidatorLedger.sealCessation, verified, located, found]
  simp [require, binds, records, bind, Except.bind, pure, Except.pure]

/-- What an accepted cessation request had checked, and the row it leaves. -/
theorem sealCessation_stores {ledger : ValidatorLedger D} {attestation : CessationAttestation D}
    {result : CessationSealReceipt D × ValidatorLedger D}
    (ceased : ledger.sealCessation digests adapter attestation issuer = .ok result) :
    issuer.verifyValidatorCessationAttestation attestation = .ok () ∧
      adapter.targetDigest digests .validator attestation.repositoryId
        = .ok attestation.targetDigest ∧
      ∃ row ∈ result.2.cessations, row.Records digests attestation ∧
        { result.1 with replayed := true } = cessationReceipt row true := by
  have shape := sealCessation_ok ceased
  simp only [ValidatorLedger.sealCessation, bind_eq_ok, require_eq_ok] at ceased
  obtain ⟨_, verified, target, located, _, binds, -⟩ := ceased
  refine ⟨verified, binds ▸ located, ?_⟩
  rcases shape with ⟨ledger, prior, member, records, receipt⟩ |
    ⟨-, target, found, cessations, rfl, rows⟩
  · exact ⟨prior, ledger ▸ member, records, by rw [receipt]; rfl⟩
  · refine ⟨cessationRow digests attestation target found, ?_, ⟨rfl, rfl, rfl, rfl, rfl⟩, rfl⟩
    simp [← Table.mem_rows, rows]

/-- A ceased identity is never sealed for another attestation. -/
theorem sealCessation_rebound {ledger : ValidatorLedger D} {attestation : CessationAttestation D}
    {mark : CessationRow D} {result : CessationSealReceipt D × ValidatorLedger D}
    (collisionFree : Function.Injective digests.cessationAttestation)
    (good : ∀ mark ∈ ledger.cessations, ∃ target found,
      mark = cessationRow digests mark.bodyJson.attestation target found)
    (member : mark ∈ ledger.cessations) (shares : mark.sharesIdentity attestation = true)
    (other : mark.bodyJson.attestation ≠ attestation) :
    ledger.sealCessation digests adapter attestation issuer ≠ .ok result := by
  intro ceased
  rcases sealCessation_ok ceased with ⟨-, prior, stored, records, -⟩ | ⟨absent, -⟩
  · obtain ⟨target, found, same⟩ := good prior stored
    have attested : prior.bodyJson.attestation = attestation := by
      apply collisionFree
      have digest := records.2.2.2.2
      rw [same] at digest
      exact digest
    have conflict : Conflict mark prior := by
      obtain ⟨first, second, third, fourth, -⟩ := records
      simp only [CessationRow.sharesIdentity, Bool.or_eq_true, decide_eq_true_eq] at shares
      simp only [Conflict, first, second, third, fourth]
      tauto
    obtain rfl := Table.eq_of_conflict member stored conflict
    exact other attested
  · rw [absent mark member] at shares
    exact Bool.false_ne_true shares

/-! ## Whole runs -/

/-- What the ledgers owe from one state on, whatever calls come next. -/
structure MarksExclude (digests : LedgerDigests D) (targets : Targets D) : Prop where
  /-- No claim has both a non-execution seal and an effect row. -/
  effectApart : ∀ mark ∈ targets.effect.seals, ∀ row ∈ targets.effect.effects,
    mark.claimId ≠ row.claimId
  /-- No claim has both a non-execution seal and a result row. -/
  validatorApart : ∀ mark ∈ targets.validator.seals, ∀ row ∈ targets.validator.results,
    mark.claimId ≠ row.claimId
  /-- A ceased claim has in every later state only the result rows it has now. -/
  ceased : ∀ calls later, Run (Calls digests) targets calls later →
    ∀ mark ∈ targets.validator.cessations, ∀ row ∈ later.validator.results,
      row.claimId = mark.claimId → row ∈ targets.validator.results
  /-- An accepted seal, submitted again in any later state, is a replay and writes nothing. -/
  effectReplay : ∀ adapter attestation issuer receipt ledger,
    targets.effect.sealNonexecution digests adapter attestation issuer = .ok (receipt, ledger) →
      ∀ calls later,
        Run (Calls digests) (targets.after digests (.sealEffect adapter attestation issuer))
          calls later →
        later.effect.sealNonexecution digests adapter attestation issuer
          = .ok ({ receipt with replayed := true }, later.effect)
  validatorReplay : ∀ adapter attestation issuer receipt ledger,
    targets.validator.sealNonexecution digests adapter attestation issuer
        = .ok (receipt, ledger) →
      ∀ calls later,
        Run (Calls digests) (targets.after digests (.sealValidator adapter attestation issuer))
          calls later →
        later.validator.sealNonexecution digests adapter attestation issuer
          = .ok ({ receipt with replayed := true }, later.validator)
  cessationReplay : ∀ adapter attestation issuer receipt ledger,
    targets.validator.sealCessation digests adapter attestation issuer = .ok (receipt, ledger) →
      ∀ calls later,
        Run (Calls digests) (targets.after digests (.cease adapter attestation issuer))
          calls later →
        later.validator.sealCessation digests adapter attestation issuer
          = .ok ({ receipt with replayed := true }, later.validator)
  /-- A request that shares an identity with a stored seal of another attestation raises. -/
  effectRebound : ∀ adapter attestation issuer, ∀ mark ∈ targets.effect.seals,
    mark.sharesIdentity attestation = true → mark.bodyJson.attestation ≠ attestation →
      (∃ error, targets.effect.sealNonexecution digests adapter attestation issuer
        = .error error) ∧
      targets.after digests (.sealEffect adapter attestation issuer) = targets
  validatorRebound : ∀ adapter attestation issuer, ∀ mark ∈ targets.validator.seals,
    mark.sharesIdentity attestation = true → mark.bodyJson.attestation ≠ attestation →
      (∃ error, targets.validator.sealNonexecution digests adapter attestation issuer
        = .error error) ∧
      targets.after digests (.sealValidator adapter attestation issuer) = targets
  cessationRebound : ∀ adapter attestation issuer, ∀ mark ∈ targets.validator.cessations,
    mark.sharesIdentity attestation = true → mark.bodyJson.attestation ≠ attestation →
      (∃ error, targets.validator.sealCessation digests adapter attestation issuer
        = .error error) ∧
      targets.after digests (.cease adapter attestation issuer) = targets

theorem exists_error {A : Type} {answer : Except ControlError A}
    (refused : ∀ result, answer ≠ .ok result) : ∃ error, answer = .error error := by
  cases answer with
  | error error => exact ⟨error, rfl⟩
  | ok result => exact absurd rfl (refused result)

theorem effect_replay {later : Targets D} {ledger : EffectLedger D} {calls : List (TargetCall D)}
    (good : Exclusive digests targets)
    (accepted : targets.effect.sealNonexecution digests adapter attestation issuer
      = .ok (receipt, ledger))
    (run : Run (Calls digests) (targets.after digests (.sealEffect adapter attestation issuer))
      calls later) :
    later.effect.sealNonexecution digests adapter attestation issuer
      = .ok ({ receipt with replayed := true }, later.effect) := by
  obtain ⟨verified, target, located, seals, recorded, rfl⟩ := effect_seal_ok.mp accepted
  obtain ⟨stored, answer⟩ := recordNonexecutionSeal_stores good.effectSeals recorded
  have kept : sealRow digests attestation ∈ later.effect.seals := by
    refine (run_grows run).effectSeals _ ?_
    simpa only [Targets.after, accepted, committed] using stored
  refine effect_seal_ok.mpr ⟨verified, target, located, later.effect.seals, ?_, rfl⟩
  rw [answer]
  exact recordNonexecutionSeal_replay kept (recordNonexecutionSeal_binds recorded)

theorem validator_replay {later : Targets D} {ledger : ValidatorLedger D}
    {calls : List (TargetCall D)} (good : Exclusive digests targets)
    (accepted : targets.validator.sealNonexecution digests adapter attestation issuer
      = .ok (receipt, ledger))
    (run : Run (Calls digests) (targets.after digests (.sealValidator adapter attestation issuer))
      calls later) :
    later.validator.sealNonexecution digests adapter attestation issuer
      = .ok ({ receipt with replayed := true }, later.validator) := by
  obtain ⟨verified, target, located, seals, recorded, rfl⟩ := validator_seal_ok.mp accepted
  obtain ⟨stored, answer⟩ := recordNonexecutionSeal_stores good.validatorSeals recorded
  have kept : sealRow digests attestation ∈ later.validator.seals := by
    refine (run_grows run).validatorSeals _ ?_
    simpa only [Targets.after, accepted, committed] using stored
  refine validator_seal_ok.mpr ⟨verified, target, located, later.validator.seals, ?_, rfl⟩
  rw [answer]
  exact recordNonexecutionSeal_replay kept (recordNonexecutionSeal_binds recorded)

theorem cessation_replay {later : Targets D} {attestation : CessationAttestation D}
    {receipt : CessationSealReceipt D} {ledger : ValidatorLedger D} {calls : List (TargetCall D)}
    (accepted : targets.validator.sealCessation digests adapter attestation issuer
      = .ok (receipt, ledger))
    (run : Run (Calls digests) (targets.after digests (.cease adapter attestation issuer))
      calls later) :
    later.validator.sealCessation digests adapter attestation issuer
      = .ok ({ receipt with replayed := true }, later.validator) := by
  obtain ⟨verified, located, row, stored, records, answer⟩ := sealCessation_stores accepted
  have kept : row ∈ later.validator.cessations := by
    refine (run_grows run).cessations _ ?_
    simpa only [Targets.after, accepted, committed] using stored
  rw [answer]
  exact sealCessation_replay verified located rfl kept records

/-- **The marks of a claim exclude each other on every run of both ledgers.**
`collisionFree` is the collision resistance of the digest that a repeated
cessation is compared by. -/
theorem targets_exclusive (digests : LedgerDigests D)
    (collisionFree : Function.Injective digests.cessationAttestation)
    (calls : List (TargetCall D)) (targets : Targets D)
    (run : Run (Calls digests) (.created digests) calls targets) :
    MarksExclude digests targets := by
  have good := run_exclusive run
  refine
    { effectApart := good.effect
      validatorApart := good.validator
      ceased := fun calls later more => (run_grows more).ceased
      effectReplay := fun _ _ _ _ _ accepted _ _ more => effect_replay good accepted more
      validatorReplay := fun _ _ _ _ _ accepted _ _ more => validator_replay good accepted more
      cessationReplay := fun _ _ _ _ _ accepted _ _ more => cessation_replay accepted more
      effectRebound := fun adapter attestation issuer mark member shares other => ?_
      validatorRebound := fun adapter attestation issuer mark member shares other => ?_
      cessationRebound := fun adapter attestation issuer mark member shares other => ?_ }
  · have refused : ∀ result,
        targets.effect.sealNonexecution digests adapter attestation issuer ≠ .ok result := by
      intro result accepted
      obtain ⟨-, target, -, seals, recorded, -⟩ := effect_seal_ok.mp accepted
      exact recordNonexecutionSeal_rebound good.effectSeals member shares other recorded
    obtain ⟨error, raised⟩ := exists_error refused
    exact ⟨⟨error, raised⟩, by simp only [Targets.after, raised, committed]⟩
  · have refused : ∀ result,
        targets.validator.sealNonexecution digests adapter attestation issuer ≠ .ok result := by
      intro result accepted
      obtain ⟨-, target, -, seals, recorded, -⟩ := validator_seal_ok.mp accepted
      exact recordNonexecutionSeal_rebound good.validatorSeals member shares other recorded
    obtain ⟨error, raised⟩ := exists_error refused
    exact ⟨⟨error, raised⟩, by simp only [Targets.after, raised, committed]⟩
  · have refused : ∀ result,
        targets.validator.sealCessation digests adapter attestation issuer ≠ .ok result :=
      fun result => sealCessation_rebound collisionFree good.cessations member shares other
    obtain ⟨error, raised⟩ := exists_error refused
    exact ⟨⟨error, raised⟩, by simp only [Targets.after, raised, committed]⟩

end Exclusion

/-! ## A run of every kind of call -/

/-- Digests that write their payload out, as lists of texts. -/
def textDigests : LedgerDigests (List String) where
  target kind repositoryId path :=
    [match kind with | .effect => "EFFECT" | .validator => "VALIDATOR", repositoryId, path]
  nonexecutionAttestation attestation := [attestation.attestationId, attestation.issuerMac]
  nonexecutionSeal body := "seal" :: body.attestationDigest
  cessationAttestation a :=
    a.attestationId :: a.cessationId :: a.claimId :: a.sourceId :: a.sourceEventHash ::
      a.repositoryId :: a.runId :: a.itemId :: a.logicalEffectId :: a.revisionDigest ::
      a.checkId :: a.validatorAttemptId :: a.action :: a.policyId :: a.policyVersion ::
      a.issuerMac :: a.targetDigest
  cessation body := "cessation" :: body.attestationDigest
  receiptId claimId effectId attemptId payload := [claimId, effectId, attemptId, payload]
  resultId claimId resultDigest verdict := [claimId, resultDigest, verdict]
  support := ["support"]

theorem textDigests_injective : Function.Injective textDigests.cessationAttestation := by
  intro a b same
  cases a
  cases b
  simp_all [textDigests]

def sampleAdapter : TargetAdapter := ⟨some "repo", true, "/state"⟩

def sampleIssuer : AttestationIssuer (List String) := ⟨fun _ => "mac", fun _ => "mac"⟩

def sampleSeal (claimId : String) : NonexecutionAttestation (List String) :=
  ⟨"attestation", "seal", .effect, ["EFFECT", "repo", "/state"], claimId, "source", "hash",
    "reservation", "repo", "run", "item", "effect", "attempt", "SEAL_NONEXECUTION",
    "nonexecution-policy", "1", "mac"⟩

def sampleCessation : CessationAttestation (List String) :=
  ⟨"attestation", "cessation", ["VALIDATOR", "repo", "/state"], "claim", "source", "hash", "repo",
    "run", "item", "effect", "revision", "check", "attempt", "CEASE_VALIDATOR",
    "validator-cessation-policy", "1", "mac"⟩

def sampleTargets : Targets (List String) :=
  ((Targets.created textDigests).after textDigests
    (.sealEffect sampleAdapter (sampleSeal "claim") sampleIssuer)).after textDigests
    (.cease sampleAdapter sampleCessation sampleIssuer)

/-- After a seal and a cessation were accepted, the seal's identity cannot be
bound to another claim. -/
theorem sampleTargets_rebound :
    (∃ mark ∈ sampleTargets.effect.seals, mark.claimId = "claim") ∧
      (∃ mark ∈ sampleTargets.validator.cessations, mark.claimId = "claim") ∧
      ∃ error, sampleTargets.effect.sealNonexecution textDigests sampleAdapter
        (sampleSeal "other") sampleIssuer = .error error := by
  have run : Run (Calls textDigests) (.created textDigests)
      [.sealEffect sampleAdapter (sampleSeal "claim") sampleIssuer,
        .cease sampleAdapter sampleCessation sampleIssuer] sampleTargets :=
    (Run.nil.snoc rfl).snoc rfl
  have member : sealRow textDigests (sampleSeal "claim") ∈ sampleTargets.effect.seals :=
    List.mem_singleton.mpr rfl
  have ceased : cessationRow textDigests sampleCessation ["VALIDATOR", "repo", "/state"] none ∈
      sampleTargets.validator.cessations := List.mem_singleton.mpr rfl
  exact ⟨⟨_, member, rfl⟩, ⟨_, ceased, rfl⟩,
    ((targets_exclusive textDigests textDigests_injective _ _ run).effectRebound sampleAdapter
      (sampleSeal "other") sampleIssuer _ member (by decide) (by decide)).1⟩

end Aegis.DeliveryControl.TargetLedger

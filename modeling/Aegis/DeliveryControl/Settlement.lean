/-
# DeliveryControl.Settlement — how one reservation is accounted

`_SETTLEMENT_TRANSITIONS` and `_derive_settlement_accounting` of `storage.py`:
the table of dispositions and the units a settlement leaves held and charged.
Units are natural numbers; the request contracts refuse negative ones.

* `deriveSettlementAccounting_ok`: everything an accepted derivation says;
* `chain_never_undercounts`: the accounting along every accepted chain;
* `released_twice_accepted`: the table alone lets a reservation be released
  twice. `_settle_budget` refuses the second release by reading the recorded
  history (`historicalReleaseCheck`).
-/
import Aegis.DeliveryControl.Contracts
import Aegis.Lib.Guarded
import Aegis.Lib.Runs

namespace Aegis.DeliveryControl

open Aegis.Lib.Guarded
open Aegis.Lib.Runs

set_option autoImplicit false

/-- `_SETTLEMENT_TRANSITIONS`. -/
def settlementTransitions : BudgetDisposition → List BudgetDisposition
  | .reserved => [.consumed, .released, .unknownWorstCaseCharged]
  | .consumed => [.adjusted, .unknownWorstCaseCharged]
  | .adjusted => [.adjusted, .released, .unknownWorstCaseCharged]
  | .unknownWorstCaseCharged => [.adjusted, .released, .unknownWorstCaseCharged]
  | .released => [.adjusted, .unknownWorstCaseCharged]

/-- Known absolute usage: the dispositions that a later unknown settlement adds to. -/
def BudgetDisposition.knownUsage : BudgetDisposition → Bool
  | .consumed | .adjusted => true
  | _ => false

/-- `expected_additional_liability`: an unknown settlement on top of known usage. -/
def expectedAdditionalLiability (currentDisposition nextDisposition : BudgetDisposition) : Bool :=
  nextDisposition = .unknownWorstCaseCharged && currentDisposition.knownUsage

/-- The refusal for a flag that disagrees with `expectedAdditionalLiability`. -/
def additionalLiabilityError (expected : Bool) : String :=
  if expected then "unknown accounting cannot downgrade known usage"
  else "additional liability flag does not match accounting history"

/-- `_derive_settlement_accounting`: the held units, the charged units and the
uncertainty after one settlement. -/
def deriveSettlementAccounting (currentDisposition : BudgetDisposition)
    (currentChargedUnits worstCaseUnits : Nat) (nextDisposition : BudgetDisposition)
    (actualUnits : Option Nat)
    (additionalLiability nonDispatchProven zeroLiabilityProven : Bool) :
    Except ControlError (Nat × Nat × Bool) := do
  refuse (nextDisposition = .reserved)
    (ControlError.valueError "RESERVED is created only with an intent")
  require (nextDisposition ∈ settlementTransitions currentDisposition)
    (ControlError.valueError <| "illegal budget settlement transition from " ++
      currentDisposition.value ++ " to " ++ nextDisposition.value)
  let expected := expectedAdditionalLiability currentDisposition nextDisposition
  require (additionalLiability = expected)
    (ControlError.valueError (additionalLiabilityError expected))
  match nextDisposition with
  | .unknownWorstCaseCharged => do
      require (actualUnits = none)
        (ControlError.valueError "unknown accounting cannot carry authoritative usage")
      let chargedUnits :=
        if expected then currentChargedUnits + worstCaseUnits
        else max currentChargedUnits worstCaseUnits
      return (0, chargedUnits, true)
  | .released => do
      require (nonDispatchProven ∧ zeroLiabilityProven)
        (ControlError.valueError "release requires non-dispatch and zero-liability proof")
      return (0, 0, false)
  | _ => do
      let units ← fetch actualUnits
        (ControlError.valueError "authoritative actual usage is required for this settlement")
      return (0, units, false)

/-- `_is_budget_breach`: an overrun of the cap, or known usage above the reservation. -/
def isBudgetBreach (disposition : BudgetDisposition) (chargedUnits reservedUnits capUnits : Nat) :
    Bool :=
  chargedUnits > capUnits || (disposition.knownUsage && chargedUnits > reservedUnits)

/-! ## What an accepted derivation says -/

/-- The charged units after an unknown settlement. -/
def unknownCharge (currentDisposition : BudgetDisposition) (currentCharged worst : Nat) : Nat :=
  if currentDisposition.knownUsage then currentCharged + worst else max currentCharged worst

/-- **The accepted derivations, by kind.** Nothing stays held; the flag is the
expected one; and the charge is the unknown charge, zero, or the reported usage. -/
theorem deriveSettlementAccounting_ok {current next : BudgetDisposition} {charged worst : Nat}
    {actual : Option Nat} {additional nonDispatch zeroLiability : Bool} {held units : Nat}
    {uncertain : Bool} :
    deriveSettlementAccounting current charged worst next actual additional nonDispatch
        zeroLiability = .ok (held, units, uncertain) ↔
      next ∈ settlementTransitions current ∧ held = 0 ∧
        additional = expectedAdditionalLiability current next ∧
        ((next = .unknownWorstCaseCharged ∧ actual = none ∧
            units = unknownCharge current charged worst ∧ uncertain = true) ∨
          (next = .released ∧ nonDispatch = true ∧ zeroLiability = true ∧ units = 0 ∧
            uncertain = false) ∨
          (next.knownUsage = true ∧ actual = some units ∧ uncertain = false)) := by
  cases next <;> cases current <;>
    simp [deriveSettlementAccounting, settlementTransitions, expectedAdditionalLiability,
      BudgetDisposition.knownUsage, unknownCharge] <;>
    grind

/-- An unknown settlement charges the worst case, keeps what was charged, and adds
the two when the usage was known. -/
theorem unknownCharge_bounds (current : BudgetDisposition) (charged worst : Nat) :
    worst ≤ unknownCharge current charged worst ∧ charged ≤ unknownCharge current charged worst ∧
      (current.knownUsage = true → charged + worst ≤ unknownCharge current charged worst) := by
  unfold unknownCharge
  split
  · simp
  · rename_i unknown
    exact ⟨by omega, by omega, fun known => absurd known unknown⟩

/-! ## Chains of settlements of one reservation -/

/-- The accounting columns of a `budget_reservations` row. -/
structure Accounting where
  disposition : BudgetDisposition
  heldUnits : Nat
  chargedUnits : Nat
  uncertainty : Bool
  deriving DecidableEq, Repr

/-- What the accounting reads of a settlement request. -/
structure SettlementTerms where
  disposition : BudgetDisposition
  actualUnits : Option Nat
  additionalLiability : Bool
  nonDispatchProven : Bool
  zeroLiabilityProven : Bool
  deriving DecidableEq, Repr

namespace Accounting

/-- The columns as `commit_intent` inserts them. -/
def reserve (reservedUnits : Nat) : Accounting :=
  ⟨.reserved, reservedUnits, 0, false⟩

/-- The columns after one settlement. -/
def settle (worst : Nat) (before : Accounting) (terms : SettlementTerms) :
    Except ControlError Accounting := do
  let (held, charged, uncertainty) ← deriveSettlementAccounting before.disposition
    before.chargedUnits worst terms.disposition terms.actualUnits terms.additionalLiability
    terms.nonDispatchProven terms.zeroLiabilityProven
  return ⟨terms.disposition, held, charged, uncertainty⟩

/-- `terms` settles `before` into `after`. -/
def Settles (worst : Nat) (before : Accounting) (terms : SettlementTerms) (after : Accounting) :
    Prop :=
  before.settle worst terms = .ok after

variable {worst : Nat} {before : Accounting} {terms : SettlementTerms}

theorem settles_iff {after : Accounting} :
    Settles worst before terms after ↔
      after.disposition = terms.disposition ∧
        deriveSettlementAccounting before.disposition before.chargedUnits worst terms.disposition
          terms.actualUnits terms.additionalLiability terms.nonDispatchProven
          terms.zeroLiabilityProven
            = .ok (after.heldUnits, after.chargedUnits, after.uncertainty) := by
  obtain ⟨disposition, held, charged, uncertainty⟩ := after
  simp only [Settles, settle, bind_eq_ok, pure_eq_ok, Prod.exists]
  grind

/-- An accepted chain of settlements, from the reservation on. -/
abbrev Chain (reserved worst : Nat) : List SettlementTerms → Accounting → Prop :=
  Run (Settles worst) (reserve reserved)

/-- Uncertainty is exactly the mark of an unknown disposition. -/
def Marked (accounting : Accounting) : Prop :=
  accounting.uncertainty = true ↔ accounting.disposition = .unknownWorstCaseCharged

theorem settles_marked {after : Accounting} (settles : Settles worst before terms after) :
    after.Marked := by
  rw [settles_iff, deriveSettlementAccounting_ok] at settles
  obtain ⟨same, -, -, -, kind⟩ := settles
  rcases kind with ⟨unknown, -, -, mark⟩ | ⟨released, -, -, -, mark⟩ | ⟨known, -, mark⟩
  · simp [Marked, same, unknown, mark]
  · simp [Marked, same, released, mark]
  · have : terms.disposition ≠ .unknownWorstCaseCharged := by
      intro unknown
      simp [unknown, BudgetDisposition.knownUsage] at known
    simp [Marked, same, mark, this]

theorem settles_held {after : Accounting} (settles : Settles worst before terms after) :
    after.heldUnits = 0 := by
  rw [settles_iff, deriveSettlementAccounting_ok] at settles
  exact settles.2.2.1

theorem settles_unknown {after : Accounting} (settles : Settles worst before terms after)
    (unknown : after.disposition = .unknownWorstCaseCharged) :
    after.chargedUnits = unknownCharge before.disposition before.chargedUnits worst := by
  rw [settles_iff, deriveSettlementAccounting_ok] at settles
  obtain ⟨same, -, -, -, kind⟩ := settles
  rw [same] at unknown
  rcases kind with ⟨-, -, charge, -⟩ | ⟨released, -⟩ | ⟨known, -⟩
  · exact charge
  · simp [unknown] at released
  · simp [unknown, BudgetDisposition.knownUsage] at known

/-- The charge falls only to a reported usage or at a proven release. -/
theorem settles_decrease {after : Accounting} (settles : Settles worst before terms after)
    (less : after.chargedUnits < before.chargedUnits) :
    terms.actualUnits = some after.chargedUnits ∨
      (terms.disposition = .released ∧ terms.nonDispatchProven = true ∧
        terms.zeroLiabilityProven = true) := by
  rw [settles_iff, deriveSettlementAccounting_ok] at settles
  obtain ⟨-, -, -, -, kind⟩ := settles
  rcases kind with ⟨-, -, charge, -⟩ | ⟨released, nonDispatch, zero, -⟩ | ⟨-, actual, -⟩
  · have := (unknownCharge_bounds before.disposition before.chargedUnits worst).2.1
    omega
  · exact .inr ⟨released, nonDispatch, zero⟩
  · exact .inl actual

theorem chain_marked {reserved : Nat} {chain : List SettlementTerms} {last : Accounting}
    (run : Chain reserved worst chain last) : last.Marked := by
  cases run with
  | nil => simp [Marked, reserve]
  | snoc _ settles => exact settles_marked settles

theorem chain_held {reserved : Nat} {chain : List SettlementTerms} {last : Accounting}
    (run : Chain reserved worst chain last) (settled : chain ≠ []) : last.heldUnits = 0 := by
  cases run with
  | nil => exact absurd rfl settled
  | snoc _ settles => exact settles_held settles

/-! ## The recorded history -/

/-- The `historical_release` refusal of `_settle_budget`. -/
def historicalReleaseCheck (history : List SettlementTerms) (terms : SettlementTerms) :
    Except ControlError Unit :=
  refuse (terms.disposition = .released ∧ ∃ earlier ∈ history, earlier.disposition = .released)
    (ControlError.dispatchDenied "budget reservation was already released in its history")

/-- Every settlement of the chain passes the check against those before it. -/
def PassesHistory (chain : List SettlementTerms) : Prop :=
  ∀ earlier terms later, chain = earlier ++ terms :: later →
    historicalReleaseCheck earlier terms = .ok ()

theorem passesHistory_init {chain : List SettlementTerms}
    (passes : PassesHistory (chain ++ [terms])) : PassesHistory chain := by
  intro earlier step later eq
  exact passes earlier step (later ++ [terms]) (by simp [eq])

/-- The number of releases of a chain that passes the recorded-history check. -/
theorem released_at_most_once :
    ∀ chain : List SettlementTerms, PassesHistory chain →
      chain.countP (fun terms => terms.disposition = .released) ≤ 1 := by
  intro chain
  induction chain using List.reverseRecOn with
  | nil => simp
  | append_singleton chain terms ih =>
      intro passes
      have before := ih (passesHistory_init passes)
      have check := passes chain terms [] rfl
      simp only [historicalReleaseCheck, refuse_eq_ok, not_and, not_exists] at check
      rw [List.countP_append]
      by_cases released : terms.disposition = .released
      · have none : chain.countP (fun terms => terms.disposition = .released) = 0 := by
          rw [List.countP_eq_zero]
          intro earlier member
          simpa using check released earlier member
        simp [none, released]
      · simpa [released] using before

/-- **Settlements never undercount.** Along every accepted chain nothing stays
held after the first settlement, uncertainty marks exactly the unknown
disposition, an unknown settlement charges at least the worst case and all that
was charged (their sum on top of known usage), the charge falls only to a
reported usage or at a proven release, and a chain that passes the
recorded-history check releases the reservation at most once. -/
theorem chain_never_undercounts (reserved worst : Nat) (chain : List SettlementTerms)
    (last : Accounting) (run : Chain reserved worst chain last) :
    (chain ≠ [] → last.heldUnits = 0) ∧
      (last.uncertainty = true ↔ last.disposition = .unknownWorstCaseCharged) ∧
      (∀ terms after, Settles worst last terms after →
        (after.disposition = .unknownWorstCaseCharged →
          worst ≤ after.chargedUnits ∧ last.chargedUnits ≤ after.chargedUnits ∧
            (last.disposition = .consumed ∨ last.disposition = .adjusted →
              last.chargedUnits + worst ≤ after.chargedUnits)) ∧
        (after.chargedUnits < last.chargedUnits →
          terms.actualUnits = some after.chargedUnits ∨
            (terms.disposition = .released ∧ terms.nonDispatchProven = true ∧
              terms.zeroLiabilityProven = true))) ∧
      (PassesHistory chain →
        chain.countP (fun terms => terms.disposition = .released) ≤ 1) := by
  refine ⟨chain_held run, chain_marked run, ?_, released_at_most_once chain⟩
  intro terms after settles
  refine ⟨fun unknown => ?_, settles_decrease settles⟩
  obtain ⟨atLeastWorst, atLeastCharged, sum⟩ :=
    unknownCharge_bounds last.disposition last.chargedUnits worst
  rw [settles_unknown settles unknown]
  refine ⟨atLeastWorst, atLeastCharged, fun known => sum ?_⟩
  rcases known with known | known <;> simp [known, BudgetDisposition.knownUsage]

/-- A release with both proofs. -/
def releaseTerms : SettlementTerms := ⟨.released, none, false, true, true⟩

/-- An adjustment to a reported usage. -/
def adjustTerms (units : Nat) : SettlementTerms := ⟨.adjusted, some units, false, false, false⟩

/-- A chain that consumes, adds an unknown liability, adjusts and releases. -/
def fullChain : List SettlementTerms :=
  [⟨.consumed, some 2, false, false, false⟩, ⟨.unknownWorstCaseCharged, none, true, false, false⟩,
    adjustTerms 3, releaseTerms]

/-- The chain at a reservation of 2 units with worst case 5 leaves nothing held. -/
theorem fullChain_never_undercounts :
    fullChain ≠ [] ∧ (⟨.released, 0, 0, false⟩ : Accounting).heldUnits = 0 := by
  have run : Chain 2 5 fullChain ⟨.released, 0, 0, false⟩ := Run.iff_foldlM.mpr rfl
  exact ⟨by simp [fullChain], (chain_never_undercounts 2 5 _ _ run).1 (by simp [fullChain])⟩

/-- The table and the derivation accept a second release after an adjustment. -/
theorem released_twice_accepted :
    ¬ ∀ (reserved worst : Nat) (chain : List SettlementTerms) (last : Accounting),
        Chain reserved worst chain last →
          chain.countP (fun terms => terms.disposition = .released) ≤ 1 := by
  intro once
  have run : Chain 1 1 [releaseTerms, adjustTerms 1, releaseTerms] ⟨.released, 0, 0, false⟩ :=
    Run.iff_foldlM.mpr rfl
  exact absurd (once 1 1 _ _ run) (by decide)

end Accounting

end Aegis.DeliveryControl

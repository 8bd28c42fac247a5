/-
# DeliveryControl.AuthorityRuns — one grant, one claim, one intent

Any number of authority instances on one claim store, their calls interleaved
with starts and crashes. A call that raises leaves the store and its instance as
they were. The issue check of a call and its locked section are separate steps.

* `perform_writes`: everything a call can write to the durable tables;
* `tableWrites_evolves`, `run_evolves`: rows stay, and a committed row stays as
  it is;
* `one_grant_one_intent`: the guarantees in every state of every run.
-/
import Aegis.DeliveryControl.AuthorityClaims

namespace Aegis.DeliveryControl.AuthorityClaims

open Aegis.Lib
open Aegis.Lib.Guarded
open Aegis.Lib.Runs

set_option autoImplicit false

/-! ## The system -/

/-- A call on an instance. The calls that follow an issue check name the
capability that passed it. -/
inductive ClaimCall
  | register (grant : SyntheticGrant)
  | claim (requested : SyntheticGrant)
  | claimOrRecover (requested : SyntheticGrant)
  | verifyIssued (capability : SyntheticCapability)
  | verifyForIntent (capability : SyntheticCapability)
  | markIntentCommitted (capability : SyntheticCapability) (eventId eventHash : Option String)
  | markOrRecoverIntentCommitted (capability : SyntheticCapability) (eventId eventHash : String)
  | registerValidator (grant : SyntheticValidatorGrant)
  | claimValidator (requested : SyntheticValidatorGrant)
  | claimOrRecoverValidator (requested : SyntheticValidatorGrant)
  | releaseUncommittedValidatorClaim (capability : SyntheticValidatorCapability)
  | verifyValidatorIssued (capability : SyntheticValidatorCapability)
  | verifyValidatorForIntent (capability : SyntheticValidatorCapability)
  | markValidatorIntentCommitted (capability : SyntheticValidatorCapability)
      (eventId eventHash : String)
  | markOrRecoverValidatorIntentCommitted (capability : SyntheticValidatorCapability)
      (eventId eventHash : String)

/-- The pair an effect marking carries. -/
def ClaimCall.effectMark : ClaimCall → Option (SyntheticCapability × String × String)
  | .markIntentCommitted capability (some eventId) (some eventHash) =>
      some (capability, eventId, eventHash)
  | .markOrRecoverIntentCommitted capability eventId eventHash =>
      some (capability, eventId, eventHash)
  | _ => none

/-- The pair a validator marking carries. -/
def ClaimCall.validatorMark : ClaimCall → Option (SyntheticValidatorCapability × String × String)
  | .markValidatorIntentCommitted capability eventId eventHash
  | .markOrRecoverValidatorIntentCommitted capability eventId eventHash =>
      some (capability, eventId, eventHash)
  | _ => none

/-- The capability an effect intent check is made for. -/
def ClaimCall.effectCheck : ClaimCall → Option SyntheticCapability
  | .verifyForIntent capability => some capability
  | _ => none

/-- The capability a validator intent check is made for. -/
def ClaimCall.validatorCheck : ClaimCall → Option SyntheticValidatorCapability
  | .verifyValidatorForIntent capability => some capability
  | _ => none

/-- Run one call of an instance against the store. -/
def perform (key : IssuerKey) (authority : Authority) (store : ClaimStore) :
    ClaimCall → Except ControlError (Authority × ClaimStore)
  | .register grant => authority.register key store grant
  | .claim requested => authority.claim key store requested
  | .claimOrRecover requested => do
      let (memory, tables) ← AuthorityClaims.claimOrRecover (effectSource key) authority.effect
        store.effect requested
      return ({ authority with effect := memory }, { store with effect := tables })
  | .verifyIssued capability => do
      verifyIssued (effectSource key) authority.effect capability
      return ({ authority with issuedEffects := capability :: authority.issuedEffects }, store)
  | .verifyForIntent capability => do
      require (capability ∈ authority.issuedEffects)
        (ControlError.dispatchDenied (effectSource key).texts.notIssued)
      verifyForIntent (effectSource key) authority.committedClaims store.effect capability
      return (authority, store)
  | .markIntentCommitted capability eventId eventHash => do
      require (capability ∈ authority.issuedEffects)
        (ControlError.dispatchDenied (effectSource key).texts.notIssued)
      authority.markIntentCommitted key store capability eventId eventHash
  | .markOrRecoverIntentCommitted capability eventId eventHash => do
      require (capability ∈ authority.issuedEffects)
        (ControlError.dispatchDenied (effectSource key).texts.notIssued)
      authority.markOrRecoverIntentCommitted key store capability eventId eventHash
  | .registerValidator grant => authority.registerValidator key store grant
  | .claimValidator requested => authority.claimValidator key store requested
  | .claimOrRecoverValidator requested => do
      let (memory, tables) ← AuthorityClaims.claimOrRecover (validatorSource key)
        authority.validator store.validator requested
      return ({ authority with validator := memory }, { store with validator := tables })
  | .releaseUncommittedValidatorClaim capability =>
      authority.releaseUncommittedValidatorClaim key store capability
  | .verifyValidatorIssued capability => do
      verifyIssued (validatorSource key) authority.validator capability
      return ({ authority with issuedValidators := capability :: authority.issuedValidators },
        store)
  | .verifyValidatorForIntent capability => do
      require (capability ∈ authority.issuedValidators)
        (ControlError.dispatchDenied (validatorSource key).texts.notIssued)
      verifyForIntent (validatorSource key) authority.committedClaims store.validator capability
      return (authority, store)
  | .markValidatorIntentCommitted capability eventId eventHash
  | .markOrRecoverValidatorIntentCommitted capability eventId eventHash => do
      require (capability ∈ authority.issuedValidators)
        (ControlError.dispatchDenied (validatorSource key).texts.notIssued)
      authority.markValidatorIntentBinding key store capability eventId eventHash

/-- The store and the live instances. -/
structure System where
  store : ClaimStore
  instances : List Authority

/-- What happens next: an instance starts, dies, or runs one call. -/
inductive Event
  | start
  | crash (index : Nat)
  | call (index : Nat) (call : ClaimCall)

/-- The system after one event; a call that raises changes nothing. -/
def System.after (key : IssuerKey) (system : System) : Event → System
  | .start =>
      match Authority.start key system.store with
      | .ok authority => { system with instances := system.instances ++ [authority] }
      | .error _ => system
  | .crash index => { system with instances := system.instances.eraseIdx index }
  | .call index call =>
      match system.instances[index]? with
      | none => system
      | some authority =>
          match perform key authority system.store call with
          | .ok (changed, store) => ⟨store, system.instances.set index changed⟩
          | .error _ => system

/-- No instance yet, and the store as the first one creates it. -/
def System.initial : System := ⟨.created, []⟩

/-- One event of the system. -/
def Happens (key : IssuerKey) (before : System) (event : Event) (after : System) : Prop :=
  before.after key event = after

/-! ## What a call can write -/

section Family

set_option linter.unusedSectionVars false

variable {G C : Type} [DecidableEq G] [DecidableEq C]

/-- Everything one call can do to the tables of a family. -/
inductive TableWrites (source : ClaimSource G C) (before : SourceTables G C) :
    SourceTables G C → Prop
  | nothing : TableWrites source before before
  | grant (grant : G) (grants : Table (GrantRow G))
      (rows : grants.rows = before.grants.rows ++ [⟨source.grantId grant, grant⟩]) :
      TableWrites source before { before with grants := grants }
  | claim (grant : G) (claims : Table (ClaimRow C))
      (registered : (⟨source.grantId grant, grant⟩ : GrantRow G) ∈ before.grants)
      (rows : claims.rows = before.claims.rows ++ [claimedRow source grant]) :
      TableWrites source before { before with claims := claims }
  | mark (capability : C) (eventId eventHash : String) (row : ClaimRow C)
      (member : row ∈ before.claims) (sameGrant : row.grantId = source.capabilityGrant capability)
      (unmarked : row.state = .claimed) :
      TableWrites source before (markRow source before capability eventId eventHash)

variable {source : ClaimSource G C} {tables before : SourceTables G C} {capability : C}
  {eventId eventHash : String} {row : ClaimRow C}

theorem mem_markRow :
    row ∈ (markRow source tables capability eventId eventHash).claims ↔
      ∃ old ∈ tables.claims, (if old.grantId = source.capabilityGrant capability then
        { old with state := .intentCommitted eventId eventHash } else old) = row := by
  simp [markRow]

theorem claimRowOf_eq_some (found : claimRowOf source tables capability = some row) :
    row ∈ tables.claims ∧ row.grantId = source.capabilityGrant capability ∧
      row.claimId = source.capabilityClaim capability ∧ row.capabilityJson = capability := by
  simp only [claimRowOf, Option.filter_eq_some_iff, Bool.and_eq_true, decide_eq_true_eq] at found
  obtain ⟨located, claim, same⟩ := found
  obtain ⟨member, grant⟩ := Table.mem_of_find? located
  exact ⟨member, by simpa using grant, claim, same⟩

/-- The claim row of a stored capability is found. -/
theorem claimRowOf_of_mem (member : row ∈ tables.claims)
    (grant : row.grantId = source.capabilityGrant row.capabilityJson)
    (claim : row.claimId = source.capabilityClaim row.capabilityJson) :
    claimRowOf source tables row.capabilityJson = some row := by
  have located : tables.claims.find?
      (fun other => other.grantId = source.capabilityGrant row.capabilityJson) = some row := by
    refine Table.find?_eq_some member (by simpa using grant) ?_
    intro other _ same
    exact .inl ((by simpa using same : other.grantId = _).trans grant.symm)
  simp [claimRowOf, located, claim]

theorem registerDurable_writes {after : SourceTables G C} {grant : G}
    (registered : registerDurable source before grant = .ok after) :
    TableWrites source before after := by
  simp only [registerDurable] at registered
  split at registered
  · simp only [bind_eq_ok, pure_eq_ok] at registered
    obtain ⟨grants, inserted, rfl⟩ := registered
    exact .grant grant grants (Table.insert_eq_ok.mp inserted).2
  · simp only [bind_eq_ok, pure_eq_ok] at registered
    obtain ⟨_, -, rfl⟩ := registered
    exact .nothing

/-- After a registration the durable row of that grant is exactly it. -/
theorem registerDurable_mem {after : SourceTables G C} {grant : G}
    (registered : registerDurable source before grant = .ok after) :
    (⟨source.grantId grant, grant⟩ : GrantRow G) ∈ after.grants := by
  simp only [registerDurable] at registered
  split at registered
  · simp only [bind_eq_ok, pure_eq_ok] at registered
    obtain ⟨grants, inserted, rfl⟩ := registered
    exact (Table.mem_of_insert inserted _).mpr (.inr rfl)
  · rename_i prior found
    simp only [bind_eq_ok, require_eq_ok, pure_eq_ok] at registered
    obtain ⟨_, same, rfl⟩ := registered
    obtain ⟨member, key⟩ := Table.mem_of_find? found
    have : prior = ⟨source.grantId grant, grant⟩ := by
      cases prior
      simp_all
    exact this ▸ member

theorem checkDurableGrant_mem {grant : G} (checked : checkDurableGrant source tables grant = .ok ()) :
    (⟨source.grantId grant, grant⟩ : GrantRow G) ∈ tables.grants := by
  simp only [checkDurableGrant, require_eq_ok, Option.map_eq_some_iff] at checked
  obtain ⟨row, found, same⟩ := checked
  obtain ⟨member, key⟩ := Table.mem_of_find? found
  have : row = ⟨source.grantId grant, grant⟩ := by
    cases row
    simp_all
  exact this ▸ member

theorem claimOrRecover_writes {memory : SourceMemory G C} {requested : G}
    {result : SourceMemory G C × SourceTables G C}
    (claimed : claimOrRecover source memory before requested = .ok result) :
    TableWrites source before result.2 ∧ result.1.grants = memory.grants := by
  simp only [claimOrRecover, bind_eq_ok] at claimed
  obtain ⟨grant, -, _, checked, claimed⟩ := claimed
  split at claimed
  · simp only [bind_eq_ok, pure_eq_ok] at claimed
    obtain ⟨claims, inserted, rfl⟩ := claimed
    exact ⟨.claim grant claims (checkDurableGrant_mem checked) (Table.insert_eq_ok.mp inserted).2,
      rfl⟩
  · simp only [bind_eq_ok, pure_eq_ok] at claimed
    obtain ⟨_, -, rfl⟩ := claimed
    exact ⟨.nothing, rfl⟩

/-- A successful marking leaves the row of its capability committed to its pair. -/
theorem markDurable_ok {after : SourceTables G C}
    (marked : markDurable source before capability eventId eventHash = .ok after) :
    TableWrites source before after ∧ ∃ row ∈ before.claims,
      row.claimId = source.capabilityClaim capability ∧
        (row.state = .claimed ∨ row.state = .intentCommitted eventId eventHash) ∧
        { row with state := .intentCommitted eventId eventHash } ∈ after.claims := by
  simp only [markDurable, bind_eq_ok, fetch_eq_ok] at marked
  obtain ⟨row, found, marked⟩ := marked
  obtain ⟨member, grant, claim, -⟩ := claimRowOf_eq_some found
  split at marked
  · rename_i unmarked
    obtain rfl := pure_eq_ok.mp marked
    refine ⟨.mark capability eventId eventHash row member grant unmarked, row, member, claim,
      .inl unmarked, ?_⟩
    exact mem_markRow.mpr ⟨row, member, by simp [grant]⟩
  · rename_i priorId priorHash committed
    simp only [bind_eq_ok, require_eq_ok, pure_eq_ok] at marked
    obtain ⟨_, ⟨rfl, rfl⟩, rfl⟩ := marked
    refine ⟨.nothing, row, member, claim, .inr committed, ?_⟩
    rw [← committed]
    exact member

/-- A verified-for-intent capability has a claim row that is not committed. -/
theorem verifyForIntent_ok {committedClaims : List String}
    (verified : verifyForIntent source committedClaims tables capability = .ok ()) :
    ∃ row ∈ tables.claims, row.claimId = source.capabilityClaim capability ∧
      row.state = .claimed := by
  simp only [verifyForIntent, verifyDurableClaimUncommitted, bind_eq_ok, fetch_eq_ok,
    require_eq_ok] at verified
  obtain ⟨_, -, row, found, unmarked⟩ := verified
  obtain ⟨member, -, claim, -⟩ := claimRowOf_eq_some found
  exact ⟨row, member, claim, unmarked⟩

/-! ## One family over time -/

/-- Every claim row is the claim of the grant that was registered under its id. -/
structure Sound (source : ClaimSource G C) (tables : SourceTables G C) : Prop where
  grants : ∀ row ∈ tables.grants, row.grantId = source.grantId row.grantJson
  claims : ∀ row ∈ tables.claims, ∃ grant,
    (⟨row.grantId, grant⟩ : GrantRow G) ∈ tables.grants ∧
      row.capabilityJson = source.issue grant ∧
      row.claimId = source.capabilityClaim row.capabilityJson

theorem Sound.claim_grant (sound : Sound source tables) (member : row ∈ tables.claims) :
    row.grantId = source.capabilityGrant row.capabilityJson := by
  obtain ⟨grant, registered, capability, -⟩ := sound.claims row member
  rw [capability, source.issue_grant]
  exact sound.grants _ registered

theorem tableWrites_sound {after : SourceTables G C} (sound : Sound source before)
    (writes : TableWrites source before after) :
    Sound source after := by
  cases writes with
  | nothing => exact sound
  | grant grant grants rows =>
      have mem : ∀ row, row ∈ grants ↔ row ∈ before.grants ∨ row = ⟨source.grantId grant, grant⟩ := by
        simp [← Table.mem_rows, rows]
      refine ⟨fun row member => ?_, fun row member => ?_⟩
      · rcases (mem row).mp member with old | rfl
        · exact sound.grants row old
        · rfl
      · obtain ⟨found, registered, rest⟩ := sound.claims row member
        exact ⟨found, (mem _).mpr (.inl registered), rest⟩
  | claim grant claims registered rows =>
      refine ⟨sound.grants, fun row member => ?_⟩
      simp only [← Table.mem_rows, rows, List.mem_append, List.mem_singleton] at member
      rcases member with old | rfl
      · exact sound.claims row old
      · exact ⟨grant, registered, rfl, rfl⟩
  | mark capability eventId eventHash row member sameGrant unmarked =>
      refine ⟨sound.grants, fun changed changedMember => ?_⟩
      obtain ⟨old, oldMember, rfl⟩ := mem_markRow.mp changedMember
      have := sound.claims old oldMember
      split <;> exact this

/-- Grants stay; a claim row stays, unchanged once it is committed. -/
structure Evolves (before after : SourceTables G C) : Prop where
  grants : ∀ row ∈ before.grants, row ∈ after.grants
  claims : ∀ row ∈ before.claims, ∃ later ∈ after.claims,
    later.grantId = row.grantId ∧ later.claimId = row.claimId ∧
      later.capabilityJson = row.capabilityJson
  committed : ∀ row ∈ before.claims, row.state ≠ .claimed → row ∈ after.claims

theorem Evolves.refl (tables : SourceTables G C) : Evolves tables tables :=
  ⟨fun _ member => member, fun row member => ⟨row, member, rfl, rfl, rfl⟩,
    fun _ member _ => member⟩

theorem Evolves.trans {first middle last : SourceTables G C} (early : Evolves first middle)
    (late : Evolves middle last) : Evolves first last := by
  refine ⟨fun row member => late.grants row (early.grants row member), fun row member => ?_,
    fun row member marked => late.committed row (early.committed row member marked) marked⟩
  obtain ⟨next, nextMember, grant, claim, capability⟩ := early.claims row member
  obtain ⟨later, laterMember, grant', claim', capability'⟩ := late.claims next nextMember
  exact ⟨later, laterMember, grant'.trans grant, claim'.trans claim,
    capability'.trans capability⟩

theorem tableWrites_evolves {after : SourceTables G C} (writes : TableWrites source before after) :
    Evolves before after := by
  cases writes with
  | nothing => exact .refl before
  | grant grant grants rows =>
      refine { Evolves.refl before with grants := fun row member => ?_ }
      simp only [← Table.mem_rows, rows, List.mem_append]
      exact .inl member
  | claim grant claims registered rows =>
      have kept : ∀ row ∈ before.claims, row ∈ claims := by
        intro row member
        simp only [← Table.mem_rows, rows, List.mem_append]
        exact .inl member
      exact ⟨fun _ member => member, fun row member => ⟨row, kept row member, rfl, rfl, rfl⟩,
        fun row member _ => kept row member⟩
  | mark capability eventId eventHash row member sameGrant unmarked =>
      refine ⟨fun _ member => member, fun old oldMember => ?_, fun old oldMember marked => ?_⟩
      · refine ⟨_, mem_markRow.mpr ⟨old, oldMember, rfl⟩, ?_⟩
        split <;> exact ⟨rfl, rfl, rfl⟩
      · refine mem_markRow.mpr ⟨old, oldMember, if_neg fun same => ?_⟩
        -- the committed row would be the unmarked one
        obtain rfl := Table.eq_of_conflict oldMember member (.inl (same.trans sameGrant.symm))
        exact marked unmarked

/-- Once a row is committed, a later marking of its claim repeats its pair. -/
theorem Evolves.mark_agrees {later after : SourceTables G C} {id hash : String}
    (evolves : Evolves before later) (member : row ∈ before.claims)
    (committed : row.state = .intentCommitted eventId eventHash)
    (marked : markDurable source later capability id hash = .ok after)
    (same : source.capabilityClaim capability = row.claimId) : id = eventId ∧ hash = eventHash := by
  have kept := evolves.committed row member (by simp [committed])
  obtain ⟨-, found, foundMember, claim, state, -⟩ := markDurable_ok marked
  obtain rfl := Table.eq_of_conflict foundMember kept (.inr (claim.trans same))
  rw [committed] at state
  simpa [eq_comm] using state

/-- Once a row is committed, its claim passes no intent check any more. -/
theorem Evolves.verifyForIntent_fails {later : SourceTables G C} {committedClaims : List String}
    (evolves : Evolves before later) (member : row ∈ before.claims)
    (committed : row.state ≠ .claimed) (same : source.capabilityClaim capability = row.claimId) :
    verifyForIntent source committedClaims later capability ≠ .ok () := by
  intro verified
  have kept := evolves.committed row member committed
  obtain ⟨found, foundMember, claim, unmarked⟩ := verifyForIntent_ok verified
  obtain rfl := Table.eq_of_conflict foundMember kept (.inr (claim.trans same))
  exact committed unmarked

/-- An instance that holds a committed claim confirms exactly its pair. -/
theorem verifyIntentCommitted_iff {memory : SourceMemory G C} {id hash : String}
    (sound : Sound source tables) (member : row ∈ tables.claims)
    (committed : row.state = .intentCommitted eventId eventHash)
    (holds : memory.claims row.grantId = some row.capabilityJson) :
    verifyIntentCommitted source memory tables row.capabilityJson id hash = .ok () ↔
      id = eventId ∧ hash = eventHash := by
  have grant := sound.claim_grant member
  obtain ⟨registered, -, capability, claim⟩ := sound.claims row member
  have found := claimRowOf_of_mem member grant claim
  have authentic : source.authentic row.capabilityJson = true := by
    rw [capability]
    exact source.issue_authentic registered
  simp only [verifyIntentCommitted, verifyIssued, verifyDurableClaimCommitted, bind_eq_ok,
    fetch_eq_ok, require_eq_ok, found, Option.some.injEq]
  constructor
  · rintro ⟨_, -, _, rfl, state⟩
    rw [committed] at state
    simpa [eq_comm] using state
  · rintro ⟨rfl, rfl⟩
    exact ⟨(), ⟨grant ▸ holds, authentic⟩, row, rfl, committed⟩

end Family

/-! ## The calls of an instance -/

/-- The effect grants an instance remembers are the durable ones. -/
def Cached (store : ClaimStore) (authority : Authority) : Prop :=
  ∀ grantId grant, authority.effect.grants grantId = some grant →
    (⟨grantId, grant⟩ : GrantRow SyntheticGrant) ∈ store.effect.grants

variable {before : ClaimStore} {authority changed : Authority}

theorem Cached.mono {after : ClaimStore} (cached : Cached before authority)
    (same : changed.effect.grants = authority.effect.grants)
    (evolves : Evolves before.effect after.effect) : Cached after changed := by
  intro grantId grant remembered
  rw [same] at remembered
  exact evolves.grants _ (cached grantId grant remembered)

/-- What a successful call did to both families, and that the cache stays right. -/
structure Performed (key : IssuerKey) (before after : ClaimStore) (changed : Authority) :
    Prop where
  effect : TableWrites (effectSource key) before.effect after.effect
  validator : TableWrites (validatorSource key) before.validator after.validator
  cached : Cached after changed

theorem register_performed {key : IssuerKey} {after : ClaimStore} {grant : SyntheticGrant}
    (cached : Cached before authority)
    (done : authority.register key before grant = .ok (changed, after)) :
    Performed key before after changed := by
  simp only [Authority.register, bind_eq_ok] at done
  obtain ⟨_, -, done⟩ := done
  split at done
  · simp only [bind_eq_ok, pure_eq_ok, Prod.mk.injEq] at done
    obtain ⟨_, -, rfl, rfl⟩ := done
    exact ⟨.nothing, .nothing, cached⟩
  · simp only [bind_eq_ok, pure_eq_ok, Prod.mk.injEq] at done
    obtain ⟨tables, registered, rfl, rfl⟩ := done
    refine ⟨registerDurable_writes registered, .nothing, ?_⟩
    intro grantId stored remembered
    by_cases same : grantId = grant.grantId
    · subst same
      obtain rfl : grant = stored := by simpa using remembered
      exact registerDurable_mem registered
    · have remembered : authority.effect.grants grantId = some stored := by
        simpa [same] using remembered
      exact (tableWrites_evolves (registerDurable_writes registered)).grants _
        (cached grantId stored remembered)

theorem claim_performed {key : IssuerKey} {after : ClaimStore} {requested : SyntheticGrant}
    (cached : Cached before authority)
    (done : authority.claim key before requested = .ok (changed, after)) :
    Performed key before after changed := by
  simp only [Authority.claim, requestedGrant, bind_eq_ok, fetch_eq_ok, require_eq_ok, pure_eq_ok,
    Prod.mk.injEq] at done
  obtain ⟨_, ⟨grant, remembered, _, rfl, rfl⟩, _, -, _, -, claims, inserted, rfl, rfl⟩ := done
  have registered := cached _ _ remembered
  have writes : TableWrites (effectSource key) before.effect
      { before.effect with claims := claims } :=
    .claim requested claims registered (Table.insert_eq_ok.mp inserted).2
  exact ⟨writes, .nothing, cached.mono rfl (tableWrites_evolves writes)⟩

theorem claimValidator_performed {key : IssuerKey} {after : ClaimStore}
    {requested : SyntheticValidatorGrant} (cached : Cached before authority)
    (done : authority.claimValidator key before requested = .ok (changed, after)) :
    Performed key before after changed := by
  simp only [Authority.claimValidator, bind_eq_ok, pure_eq_ok, Prod.mk.injEq] at done
  obtain ⟨grant, -, _, -, _, checked, _, -, claims, inserted, rfl, rfl⟩ := done
  exact ⟨.nothing, .claim grant claims (checkDurableGrant_mem checked)
    (Table.insert_eq_ok.mp inserted).2, cached⟩

variable {eventId eventHash : String} {result : Authority × ClaimStore}

theorem markOrRecover_performed {key : IssuerKey} {after : ClaimStore}
    {capability : SyntheticCapability} (cached : Cached before authority)
    (done : authority.markOrRecoverIntentCommitted key before capability eventId eventHash
      = .ok (changed, after)) :
    Performed key before after changed ∧
      markDurable (effectSource key) before.effect capability eventId eventHash
        = .ok after.effect := by
  simp only [Authority.markOrRecoverIntentCommitted, bind_eq_ok, pure_eq_ok, Prod.mk.injEq] at done
  obtain ⟨_, -, tables, marked, rfl, rfl⟩ := done
  have writes := (markDurable_ok marked).1
  exact ⟨⟨writes, .nothing, cached.mono rfl (tableWrites_evolves writes)⟩, marked⟩

theorem markValidator_performed {key : IssuerKey} {after : ClaimStore}
    {capability : SyntheticValidatorCapability} (cached : Cached before authority)
    (done : authority.markValidatorIntentBinding key before capability eventId eventHash
      = .ok (changed, after)) :
    Performed key before after changed ∧
      markDurable (validatorSource key) before.validator capability eventId eventHash
        = .ok after.validator := by
  simp only [Authority.markValidatorIntentBinding, bind_eq_ok, pure_eq_ok, Prod.mk.injEq] at done
  obtain ⟨_, -, _, -, tables, marked, rfl, rfl⟩ := done
  exact ⟨⟨.nothing, (markDurable_ok marked).1, cached⟩, marked⟩

/-- `mark_intent_committed` succeeds only with a pair, and then marks as the recovery does. -/
theorem markIntentCommitted_ok {key : IssuerKey} {store : ClaimStore}
    {capability : SyntheticCapability} {eventId eventHash : Option String}
    (done : authority.markIntentCommitted key store capability eventId eventHash = .ok result) :
    ∃ id hash, eventId = some id ∧ eventHash = some hash ∧
      authority.markOrRecoverIntentCommitted key store capability id hash = .ok result := by
  cases eventId with
  | none =>
      cases eventHash with
      | none => simp [Authority.markIntentCommitted] at done
      | some hash => simp [Authority.markIntentCommitted] at done
  | some id =>
      cases eventHash with
      | none => simp [Authority.markIntentCommitted] at done
      | some hash => exact ⟨id, hash, rfl, rfl, done⟩

/-- **Everything a call can write.** -/
theorem perform_writes {key : IssuerKey} {after : ClaimStore} {call : ClaimCall}
    (cached : Cached before authority)
    (done : perform key authority before call = .ok (changed, after)) :
    Performed key before after changed := by
  cases call with
  | register grant => exact register_performed cached done
  | claim requested => exact claim_performed cached done
  | claimOrRecover requested =>
      simp only [perform, bind_eq_ok, pure_eq_ok, Prod.exists, Prod.mk.injEq] at done
      obtain ⟨memory, tables, claimed, rfl, rfl⟩ := done
      obtain ⟨writes, same⟩ := claimOrRecover_writes claimed
      exact ⟨writes, .nothing, cached.mono same (tableWrites_evolves writes)⟩
  | verifyIssued capability =>
      simp only [perform, bind_eq_ok, pure_eq_ok, Prod.mk.injEq] at done
      obtain ⟨_, -, rfl, rfl⟩ := done
      exact ⟨.nothing, .nothing, cached⟩
  | verifyForIntent capability =>
      simp only [perform, bind_eq_ok, pure_eq_ok, Prod.mk.injEq] at done
      obtain ⟨_, -, _, -, rfl, rfl⟩ := done
      exact ⟨.nothing, .nothing, cached⟩
  | markIntentCommitted capability eventId eventHash =>
      simp only [perform, bind_eq_ok] at done
      obtain ⟨_, -, done⟩ := done
      obtain ⟨id, hash, -, -, marked⟩ := markIntentCommitted_ok done
      exact (markOrRecover_performed cached marked).1
  | markOrRecoverIntentCommitted capability eventId eventHash =>
      simp only [perform, bind_eq_ok] at done
      obtain ⟨_, -, marked⟩ := done
      exact (markOrRecover_performed cached marked).1
  | registerValidator grant =>
      simp only [perform, Authority.registerValidator, bind_eq_ok, pure_eq_ok,
        Prod.mk.injEq] at done
      obtain ⟨_, -, _, -, tables, registered, rfl, rfl⟩ := done
      exact ⟨.nothing, registerDurable_writes registered, cached⟩
  | claimValidator requested => exact claimValidator_performed cached done
  | claimOrRecoverValidator requested =>
      simp only [perform, bind_eq_ok, pure_eq_ok, Prod.exists, Prod.mk.injEq] at done
      obtain ⟨memory, tables, claimed, rfl, rfl⟩ := done
      exact ⟨.nothing, (claimOrRecover_writes claimed).1, cached⟩
  | releaseUncommittedValidatorClaim capability =>
      simp only [perform, Authority.releaseUncommittedValidatorClaim, bind_eq_ok, pure_eq_ok,
        Prod.mk.injEq] at done
      obtain ⟨_, -, _, -, _, -, _, -, rfl, rfl⟩ := done
      exact ⟨.nothing, .nothing, cached⟩
  | verifyValidatorIssued capability =>
      simp only [perform, bind_eq_ok, pure_eq_ok, Prod.mk.injEq] at done
      obtain ⟨_, -, rfl, rfl⟩ := done
      exact ⟨.nothing, .nothing, cached⟩
  | verifyValidatorForIntent capability =>
      simp only [perform, bind_eq_ok, pure_eq_ok, Prod.mk.injEq] at done
      obtain ⟨_, -, _, -, rfl, rfl⟩ := done
      exact ⟨.nothing, .nothing, cached⟩
  | markValidatorIntentCommitted capability eventId eventHash =>
      simp only [perform, bind_eq_ok] at done
      obtain ⟨_, -, marked⟩ := done
      exact (markValidator_performed cached marked).1
  | markOrRecoverValidatorIntentCommitted capability eventId eventHash =>
      simp only [perform, bind_eq_ok] at done
      obtain ⟨_, -, marked⟩ := done
      exact (markValidator_performed cached marked).1

/-! ## Whole runs -/

/-- Both families are sound and every live cache is right. -/
structure SystemSound (key : IssuerKey) (system : System) : Prop where
  effect : Sound (effectSource key) system.store.effect
  validator : Sound (validatorSource key) system.store.validator
  cached : ∀ authority ∈ system.instances, Cached system.store authority

/-- Both families evolve. -/
structure SystemEvolves (before after : System) : Prop where
  effect : Evolves before.store.effect after.store.effect
  validator : Evolves before.store.validator after.store.validator

theorem SystemEvolves.refl (system : System) : SystemEvolves system system :=
  ⟨.refl _, .refl _⟩

theorem SystemEvolves.trans {first middle last : System} (early : SystemEvolves first middle)
    (late : SystemEvolves middle last) : SystemEvolves first last :=
  ⟨early.effect.trans late.effect, early.validator.trans late.validator⟩

theorem start_cached {key : IssuerKey} {store : ClaimStore}
    (started : Authority.start key store = .ok authority) : Cached store authority := by
  simp only [Authority.start, bind_eq_ok, pure_eq_ok] at started
  obtain ⟨_, -, _, -, rfl⟩ := started
  intro grantId grant remembered
  simp at remembered

theorem after_sound {key : IssuerKey} {before : System} (sound : SystemSound key before)
    (event : Event) :
    SystemSound key (before.after key event) ∧ SystemEvolves before (before.after key event) := by
  cases event with
  | start =>
      simp only [System.after]
      split
      · rename_i authority started
        refine ⟨{ sound with cached := fun other member => ?_ }, .refl _, .refl _⟩
        rcases List.mem_append.mp member with old | new
        · exact sound.cached other old
        · obtain rfl := List.mem_singleton.mp new
          exact start_cached started
      · exact ⟨sound, .refl before⟩
  | crash index =>
      refine ⟨{ sound with cached := fun other member => ?_ }, .refl _, .refl _⟩
      exact sound.cached other (List.mem_of_mem_eraseIdx member)
  | call index call =>
      simp only [System.after]
      split
      · exact ⟨sound, .refl before⟩
      · rename_i authority live
        have member := List.mem_of_getElem? live
        split
        · rename_i changed store done
          have writes := perform_writes (sound.cached authority member) done
          have evolves : SystemEvolves before ⟨store, before.instances.set index changed⟩ :=
            ⟨tableWrites_evolves writes.effect, tableWrites_evolves writes.validator⟩
          refine ⟨⟨tableWrites_sound sound.effect writes.effect,
            tableWrites_sound sound.validator writes.validator, fun other there => ?_⟩, evolves⟩
          rcases List.mem_or_eq_of_mem_set there with old | rfl
          · exact (sound.cached other old).mono rfl evolves.effect
          · exact writes.cached
        · exact ⟨sound, .refl before⟩

variable {system : System}

theorem run_sound {key : IssuerKey} {events : List Event}
    (run : Run (Happens key) .initial events system) : SystemSound key system := by
  refine run.invariant (fun before event _ sound happens => ?_) ?_
  · exact happens ▸ (after_sound sound event).1
  · constructor
    · constructor <;> simp [System.initial, ClaimStore.created]
    · constructor <;> simp [System.initial, ClaimStore.created]
    · simp [System.initial]

theorem run_evolves {key : IssuerKey} {before after : System} {events : List Event}
    (sound : SystemSound key before) (run : Run (Happens key) before events after) :
    SystemSound key after ∧ SystemEvolves before after := by
  refine run.invariant (I := fun later => SystemSound key later ∧ SystemEvolves before later)
    (fun middle event _ held happens => ?_) ⟨sound, .refl before⟩
  obtain ⟨keeps, evolves⟩ := after_sound held.1 event
  exact happens ▸ ⟨keeps, held.2.trans evolves⟩

/-- A call of a live instance succeeds. -/
def Succeeds (key : IssuerKey) (system : System) (index : Nat) (call : ClaimCall)
    (result : Authority × ClaimStore) : Prop :=
  ∃ authority, system.instances[index]? = some authority ∧
    perform key authority system.store call = .ok result

theorem effect_mark_ok {key : IssuerKey} {index : Nat} {call : ClaimCall}
    {capability : SyntheticCapability} (sound : SystemSound key system)
    (succeeds : Succeeds key system index call result)
    (marks : call.effectMark = some (capability, eventId, eventHash)) :
    markDurable (effectSource key) system.store.effect capability eventId eventHash
      = .ok result.2.effect := by
  obtain ⟨authority, live, done⟩ := succeeds
  have cached := sound.cached authority (List.mem_of_getElem? live)
  cases call with
  | markIntentCommitted named id hash =>
      simp only [perform, bind_eq_ok] at done
      obtain ⟨_, -, done⟩ := done
      obtain ⟨id, hash, rfl, rfl, marked⟩ := markIntentCommitted_ok done
      simp only [ClaimCall.effectMark, Option.some.injEq, Prod.mk.injEq] at marks
      obtain ⟨rfl, rfl, rfl⟩ := marks
      exact (markOrRecover_performed cached marked).2
  | markOrRecoverIntentCommitted named id hash =>
      simp only [perform, bind_eq_ok] at done
      obtain ⟨_, -, marked⟩ := done
      simp only [ClaimCall.effectMark, Option.some.injEq, Prod.mk.injEq] at marks
      obtain ⟨rfl, rfl, rfl⟩ := marks
      exact (markOrRecover_performed cached marked).2
  | _ => simp [ClaimCall.effectMark] at marks

theorem validator_mark_ok {key : IssuerKey} {index : Nat} {call : ClaimCall}
    {capability : SyntheticValidatorCapability} (sound : SystemSound key system)
    (succeeds : Succeeds key system index call result)
    (marks : call.validatorMark = some (capability, eventId, eventHash)) :
    markDurable (validatorSource key) system.store.validator capability eventId eventHash
      = .ok result.2.validator := by
  obtain ⟨authority, live, done⟩ := succeeds
  have cached := sound.cached authority (List.mem_of_getElem? live)
  cases call with
  | markValidatorIntentCommitted named id hash =>
      simp only [perform, bind_eq_ok] at done
      obtain ⟨_, -, marked⟩ := done
      simp only [ClaimCall.validatorMark, Option.some.injEq, Prod.mk.injEq] at marks
      obtain ⟨rfl, rfl, rfl⟩ := marks
      exact (markValidator_performed cached marked).2
  | markOrRecoverValidatorIntentCommitted named id hash =>
      simp only [perform, bind_eq_ok] at done
      obtain ⟨_, -, marked⟩ := done
      simp only [ClaimCall.validatorMark, Option.some.injEq, Prod.mk.injEq] at marks
      obtain ⟨rfl, rfl, rfl⟩ := marks
      exact (markValidator_performed cached marked).2
  | _ => simp [ClaimCall.validatorMark] at marks

section Guarantees

variable {G C : Type} [DecidableEq G] [DecidableEq C]

/-- What one family guarantees in a state, whatever happens next. `tables` and
`memory` are its part of the store and of an instance, `mark` and `check` read
the markings and the intent checks off the calls. -/
structure OneIntent (key : IssuerKey) (source : ClaimSource G C)
    (tables : System → SourceTables G C) (memory : Authority → SourceMemory G C)
    (mark : ClaimCall → Option (C × String × String)) (check : ClaimCall → Option C)
    (system : System) : Prop where
  /-- A grant has at most one durable claim row. -/
  oneClaim : ∀ a ∈ (tables system).claims, ∀ b ∈ (tables system).claims,
    a.grantId = b.grantId → a = b
  /-- A claim row's capability is issued for exactly the registered grant. -/
  bound : ∀ row ∈ (tables system).claims, ∃ grant,
    (⟨row.grantId, grant⟩ : GrantRow G) ∈ (tables system).grants ∧
      row.capabilityJson = source.issue grant ∧
      row.claimId = source.capabilityClaim (source.issue grant)
  /-- A successful marking commits the claim to its pair. -/
  marks : ∀ index call result capability eventId eventHash,
    Succeeds key system index call result → mark call = some (capability, eventId, eventHash) →
      ∃ row ∈ (tables (system.after key (.call index call))).claims,
        row.claimId = source.capabilityClaim capability ∧
          row.state = .intentCommitted eventId eventHash
  /-- A committed row is there, unchanged, in every later state. -/
  keeps : ∀ row ∈ (tables system).claims, row.state ≠ .claimed →
    ∀ events later, Run (Happens key) system events later → row ∈ (tables later).claims
  /-- A marking of a committed claim that succeeds later, on any instance, has its pair. -/
  agrees : ∀ row ∈ (tables system).claims, ∀ eventId eventHash,
    row.state = .intentCommitted eventId eventHash →
      ∀ events later, Run (Happens key) system events later →
        ∀ index call result capability id hash, Succeeds key later index call result →
          mark call = some (capability, id, hash) →
            source.capabilityClaim capability = row.claimId → id = eventId ∧ hash = eventHash
  /-- No later intent check of a committed claim succeeds, on any instance. -/
  closed : ∀ row ∈ (tables system).claims, row.state ≠ .claimed →
    ∀ events later, Run (Happens key) system events later →
      ∀ index call result capability, check call = some capability →
        source.capabilityClaim capability = row.claimId →
          ¬ Succeeds key later index call result
  /-- An instance that holds a committed claim confirms exactly its pair. -/
  confirms : ∀ row ∈ (tables system).claims, ∀ eventId eventHash,
    row.state = .intentCommitted eventId eventHash →
      ∀ authority ∈ system.instances, (memory authority).claims row.grantId
          = some row.capabilityJson →
        ∀ id hash, verifyIntentCommitted source (memory authority) (tables system)
            row.capabilityJson id hash = .ok () ↔ id = eventId ∧ hash = eventHash

/-- The guarantees of a family, from how its calls act on its tables. -/
theorem oneIntent_of {key : IssuerKey} {source : ClaimSource G C}
    {tables : System → SourceTables G C} {memory : Authority → SourceMemory G C}
    {mark : ClaimCall → Option (C × String × String)} {check : ClaimCall → Option C}
    {system : System} (sound : Sound source (tables system))
    (evolves : ∀ events later, Run (Happens key) system events later →
      SystemSound key later ∧ Evolves (tables system) (tables later))
    (marked : ∀ later index call result capability eventId eventHash, SystemSound key later →
      Succeeds key later index call result → mark call = some (capability, eventId, eventHash) →
        markDurable source (tables later) capability eventId eventHash
          = .ok (tables (later.after key (.call index call))))
    (checked : ∀ later index call result capability, Succeeds key later index call result →
      check call = some capability →
        ∃ committedClaims, verifyForIntent source committedClaims (tables later) capability
          = .ok ()) :
    OneIntent key source tables memory mark check system where
  oneClaim a left b right same := Table.eq_of_conflict left right (.inl same)
  bound row member := by
    obtain ⟨grant, registered, capability, claim⟩ := sound.claims row member
    exact ⟨grant, registered, capability, capability ▸ claim⟩
  marks index call result capability eventId eventHash succeeds marks := by
    have here := (evolves [] system .nil).1
    obtain ⟨-, row, -, claim, -, after⟩ :=
      markDurable_ok (marked system index call result capability eventId eventHash here succeeds
        marks)
    exact ⟨_, after, claim, rfl⟩
  keeps row member committed events later run :=
    (evolves events later run).2.committed row member committed
  agrees row member eventId eventHash committed events later run index call result capability id
      hash succeeds marks same := by
    obtain ⟨here, evolution⟩ := evolves events later run
    exact evolution.mark_agrees member committed
      (marked later index call result capability id hash here succeeds marks) same
  closed row member committed events later run index call result capability checks same
      succeeds := by
    obtain ⟨committedClaims, verified⟩ :=
      checked later index call result capability succeeds checks
    exact (evolves events later run).2.verifyForIntent_fails member committed same verified
  confirms row member eventId eventHash committed authority _ holds id hash :=
    verifyIntentCommitted_iff sound member committed holds

end Guarantees

theorem after_call {key : IssuerKey} {index : Nat} {call : ClaimCall}
    (succeeds : Succeeds key system index call result) :
    (system.after key (.call index call)).store = result.2 := by
  obtain ⟨authority, live, done⟩ := succeeds
  simp only [System.after, live, done]

/-- **One grant, one claim, one intent**, in every state that any interleaving of
calls, starts and crashes of any number of instances reaches, for effects and
for validators. -/
theorem one_grant_one_intent (key : IssuerKey) (events : List Event) (system : System)
    (run : Run (Happens key) .initial events system) :
    OneIntent key (effectSource key) (·.store.effect) (·.effect) ClaimCall.effectMark
        ClaimCall.effectCheck system ∧
      OneIntent key (validatorSource key) (·.store.validator) (·.validator)
        ClaimCall.validatorMark ClaimCall.validatorCheck system := by
  have sound := run_sound run
  constructor
  · refine oneIntent_of sound.effect ?_ ?_ ?_
    · intro events later more
      obtain ⟨here, evolution⟩ := run_evolves sound more
      exact ⟨here, evolution.effect⟩
    · intro later index call result capability eventId eventHash here succeeds marks
      rw [after_call succeeds]
      exact effect_mark_ok here succeeds marks
    · rintro later index call result capability ⟨authority, -, done⟩ checks
      cases call with
      | verifyForIntent named =>
          obtain rfl : named = capability := by simpa [ClaimCall.effectCheck] using checks
          simp only [perform, bind_eq_ok] at done
          obtain ⟨_, -, _, verified, -⟩ := done
          exact ⟨_, verified⟩
      | _ => simp [ClaimCall.effectCheck] at checks
  · refine oneIntent_of sound.validator ?_ ?_ ?_
    · intro events later more
      obtain ⟨here, evolution⟩ := run_evolves sound more
      exact ⟨here, evolution.validator⟩
    · intro later index call result capability eventId eventHash here succeeds marks
      rw [after_call succeeds]
      exact validator_mark_ok here succeeds marks
    · rintro later index call result capability ⟨authority, -, done⟩ checks
      cases call with
      | verifyValidatorForIntent named =>
          obtain rfl : named = capability := by simpa [ClaimCall.validatorCheck] using checks
          simp only [perform, bind_eq_ok] at done
          obtain ⟨_, -, _, verified, -⟩ := done
          exact ⟨_, verified⟩
      | _ => simp [ClaimCall.validatorCheck] at checks

def sampleKey : IssuerKey where
  claimId parts := parts.foldl (fun joined part => joined ++ "/" ++ part) ""
  effectMac capability := "mac:" ++ capability.claimId
  validatorMac capability := "mac:" ++ capability.claimId

def sampleGrant : SyntheticGrant := ⟨"grant", "repo", "effect", "attempt", "scope"⟩

def sampleCapability : SyntheticCapability := (effectSource sampleKey).issue sampleGrant

/-- Two instances register one grant; the first claims it, the second recovers the
claim and commits it. -/
def sampleEvents : List Event :=
  [.start, .start, .call 0 (.register sampleGrant), .call 1 (.register sampleGrant),
    .call 0 (.claim sampleGrant), .call 1 (.claimOrRecover sampleGrant),
    .call 1 (.verifyIssued sampleCapability),
    .call 1 (.markIntentCommitted sampleCapability (some "event") (some "hash"))]

def sampleSystem : System := sampleEvents.foldl (System.after sampleKey) .initial

/-- The first instance, which did not mark, confirms exactly the pair the second committed. -/
theorem sampleSystem_confirms :
    ∃ authority ∈ sampleSystem.instances, ∀ id hash,
      verifyIntentCommitted (effectSource sampleKey) authority.effect sampleSystem.store.effect
        sampleCapability id hash = .ok () ↔ id = "event" ∧ hash = "hash" := by
  have guarantees := (one_grant_one_intent sampleKey sampleEvents sampleSystem
    (Run.of_foldl System.initial sampleEvents)).1
  have member : (⟨"grant", sampleCapability.claimId, sampleCapability,
      .intentCommitted "event" "hash"⟩ : ClaimRow SyntheticCapability) ∈
        sampleSystem.store.effect.claims := List.mem_singleton.mpr rfl
  exact ⟨_, List.mem_cons_self, guarantees.confirms _ member "event" "hash" rfl _
    List.mem_cons_self rfl⟩

end Aegis.DeliveryControl.AuthorityClaims

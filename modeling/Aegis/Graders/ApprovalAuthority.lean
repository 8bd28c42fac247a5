/-
# Graders.ApprovalAuthority — the grants of actions

The second half of `check_lifecycle` goes through the actions in the order of their effect and asks
that the grant of each one is in force. An invalidation counts from the time at which it takes effect,
also when it was recorded later. `checkAuthority_eq_ok` says which histories pass.
-/
import Aegis.Graders.ApprovalLifecycle
import Aegis.Lib.SortBy
import Mathlib.Data.Prod.Lex

namespace Aegis.Graders

open Aegis.Lib
open Aegis.Lib.Guarded
open Aegis.Lib.UtcTime (Instant)

set_option autoImplicit false

section Authority

variable {F : Type}

/-- The lifecycle events of a grant: its `invalidations`. -/
def invalidations (history : List (HistoryEvent F)) (id : String) : List (HistoryEvent F) :=
  history.filter fun event => event.kind ∈ EventKind.lifecycle ∧ event.approvalId = some id

/-- The grant of an action, when it has one. -/
def actionGrant (history : List (HistoryEvent F)) (event : HistoryEvent F) : Option Grant :=
  if event.kind ∈ EventKind.actions then findGrant history event.approvalId else none

/-- The grant is expired, used up or invalidated at a time. -/
def inactive (history : List (HistoryEvent F)) (used : List String) (grant : Grant) (time : Instant) :
    Bool :=
  (grant.expiresAt.any (· ≤ time)) || grant.id ∈ used ||
    (invalidations history grant.id).any fun event => event.time ≤ time

/-- The loop over the events in the order of their effect. -/
def checkActions (history : List (HistoryEvent F)) (used : List String) :
    List (HistoryEvent F) → Except (Raised F) Unit
  | [] => .ok ()
  | event :: later =>
      match actionGrant history event with
      | none => checkActions history used later
      | some grant => do
          refuse (event.time < grant.time)
            (failed .actionBeforeApproval "action predates the grant's effective time")
          refuse (inactive history used grant event.time = true)
            (failed .approvalMissing ("approval " ++ grant.id ++
              s!" is inactive at action seq {event.seq}; historical ACTIVE text cannot revive it"))
          checkActions history (if grant.usage = .singleUse then grant.id :: used else used) later

/-- The order of effect: the time, then the place in the recording. -/
def HistoryEvent.order (event : HistoryEvent F) : Nat ×ₗ Int := toLex (event.time, event.seq)

/-- The second half of `check_lifecycle`. -/
def checkAuthority (history : List (HistoryEvent F)) : Except (Raised F) Unit :=
  checkActions history [] (sortBy HistoryEvent.order history)

/-- `check_lifecycle`. -/
def checkLifecycle (events : List (ApprovalEvent F)) :
    Except (Raised F) (List (String × Json F)) := do
  let history ← readHistory events
  checkAuthority history
  pure [("lifecycle_version", .str lifecycleVersion),
    ("lifecycle_event_count",
      .int (events.countP fun event => event.kind ∈ EventKind.lifecycle))]

/-! ## Which histories pass -/

variable {history : List (HistoryEvent F)}

/-- A grant is in force at a time. -/
structure InForce (history : List (HistoryEvent F)) (grant : Grant) (time : Instant) : Prop where
  effective : grant.time ≤ time
  notExpired : ∀ expiry, grant.expiresAt = some expiry → time < expiry
  notInvalidated : ∀ event ∈ history, event.kind ∈ EventKind.lifecycle →
    event.approvalId = some grant.id → time < event.time

theorem inactive_eq_false {used : List String} {grant : Grant} {time : Instant} :
    inactive history used grant time = false ↔
      (∀ expiry, grant.expiresAt = some expiry → time < expiry) ∧ grant.id ∉ used ∧
        ∀ event ∈ history, event.kind ∈ EventKind.lifecycle → event.approvalId = some grant.id →
          time < event.time := by
  unfold inactive invalidations
  simp only [Bool.or_eq_false_iff, decide_eq_false_iff_not, List.any_eq_false, List.mem_filter,
    decide_eq_true_iff, and_imp, not_le, and_assoc]
  refine and_congr_left' ?_
  cases grant.expiresAt <;> simp

/-- Two actions do not share a single-use grant. -/
def NotShared (history : List (HistoryEvent F)) (left right : HistoryEvent F) : Prop :=
  ∀ grant, actionGrant history left = some grant → actionGrant history right = some grant →
    grant.usage ≠ .singleUse

theorem notShared_symm {left right : HistoryEvent F} (apart : NotShared history left right) :
    NotShared history right left :=
  fun grant isRight isLeft => apart grant isLeft isRight

theorem named_of_actionGrant {event : HistoryEvent F} {grant : Grant}
    (found : actionGrant history event = some grant) :
    event.kind ∈ EventKind.actions ∧ findGrant history event.approvalId = some grant ∧
      event.approvalId = some grant.id := by
  unfold actionGrant at found
  split at found
  · rename_i action
    have same : some grant.id = event.approvalId := by simpa using List.find?_some found
    exact ⟨action, found, same.symm⟩
  · cases found

theorem eq_of_actionGrant {left right : HistoryEvent F} {one two : Grant}
    (isLeft : actionGrant history left = some one) (isRight : actionGrant history right = some two)
    (same : one.id = two.id) : one = two := by
  obtain ⟨-, findLeft, namedLeft⟩ := named_of_actionGrant isLeft
  obtain ⟨-, findRight, namedRight⟩ := named_of_actionGrant isRight
  rw [namedLeft, same, ← namedRight, findRight] at findLeft
  exact (Option.some.inj findLeft).symm

theorem checkActions_eq_ok {used : List String} {events : List (HistoryEvent F)} {done : Unit} :
    checkActions history used events = .ok done ↔
      (∀ event ∈ events, ∀ grant, actionGrant history event = some grant →
        InForce history grant event.time ∧ grant.id ∉ used) ∧
      events.Pairwise (NotShared history) := by
  induction events generalizing used with
  | nil => exact ⟨fun _ => ⟨by simp, .nil⟩, fun _ => rfl⟩
  | cons event later ih =>
      rw [checkActions, List.forall_mem_cons, List.pairwise_cons]
      cases found : actionGrant history event with
      | none =>
          refine ih.trans ?_
          constructor
          · rintro ⟨inForce, apart⟩
            refine ⟨⟨nofun, inForce⟩, fun other _ grant isEvent => ?_, apart⟩
            rw [found] at isEvent
            cases isEvent
          · rintro ⟨⟨-, inForce⟩, -, apart⟩
            exact ⟨inForce, apart⟩
      | some grant =>
          simp only [bind_eq_ok, refuse_eq_ok, Bool.not_eq_true, inactive_eq_false, ih]
          constructor
          · rintro ⟨_, effective, _, ⟨notExpired, unused, notInvalidated⟩, inForce, apart⟩
            refine ⟨⟨?_, fun other member held isOther => ?_⟩, fun other member held isEvent isOther => ?_,
              apart⟩
            · rintro _ ⟨⟩
              exact ⟨⟨Nat.not_lt.mp effective, notExpired, notInvalidated⟩, unused⟩
            · obtain ⟨active, fresh⟩ := inForce other member held isOther
              refine ⟨active, fun earlier => fresh ?_⟩
              split
              · exact List.mem_cons_of_mem _ earlier
              · exact earlier
            · intro single
              obtain rfl := Option.some.inj (found.symm.trans isEvent)
              have fresh := (inForce other member grant isOther).2
              rw [if_pos single] at fresh
              exact fresh List.mem_cons_self
          · rintro ⟨⟨here, inForce⟩, apart, later⟩
            obtain ⟨active, unused⟩ := here grant rfl
            refine ⟨⟨⟩, Nat.not_lt.mpr active.effective, ⟨⟩,
              ⟨active.notExpired, unused, active.notInvalidated⟩, fun other member held isOther => ?_,
              later⟩
            obtain ⟨isActive, fresh⟩ := inForce other member held isOther
            refine ⟨isActive, ?_⟩
            split
            · rename_i single
              intro used
              rcases List.mem_cons.mp used with same | earlier
              · obtain rfl := eq_of_actionGrant isOther found same
                exact apart other member held found isOther single
              · exact fresh earlier
            · exact fresh

/-- **The second half of the lifecycle check accepts the histories whose actions have grants in force
and share no single-use grant.** -/
theorem checkAuthority_eq_ok {done : Unit} :
    checkAuthority history = .ok done ↔
      (∀ event ∈ history, ∀ grant, actionGrant history event = some grant →
        InForce history grant event.time) ∧
      history.Pairwise (NotShared history) := by
  unfold checkAuthority
  rw [checkActions_eq_ok, (perm_sortBy history).pairwise_iff notShared_symm]
  simp only [mem_sortBy, List.not_mem_nil, not_false_eq_true, and_true]

theorem raises_checkActions (used : List String) (events : List (HistoryEvent F)) :
    Raises Raised.IsFail (checkActions history used events) := by
  induction events generalizing used with
  | nil => exact raises_pure _
  | cons event later ih =>
      rw [checkActions]
      split
      · exact ih used
      · apply (raises_refuse _ (isFail_failed _ _)).bind
        intro _
        exact (raises_refuse _ (isFail_failed _ _)).bind fun _ => ih _

end Authority

end Aegis.Graders

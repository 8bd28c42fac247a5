/-
# Live.HistoryCounts — which identities an allowance history counts

The history is that of the gates and the manifests that were read (`collected_iff`). Every record,
those of the first manifest too, is filed under the default allowance and phase, and the history holds
what was filed (`history_filed`). So it counts every identity once, and does not depend on the order
of the runs, exactly where the first manifest names no other allowance and phase and every manifest
leaves the same history (`counts_once_iff`).
-/
import Aegis.Lib.Readings
import Aegis.Live.AllowanceHistory

namespace Aegis.Live

open Aegis.Lib
open Aegis.Lib.Guarded
open Aegis.Lib.Readings

set_option autoImplicit false

section History

variable {F : Type} [JsonFloat F] (shown : Shown F)

/-! ## From the runs to the values that were read -/

/-- What the gates and the manifests make of the history. -/
def historyOf (gates : List SmokeGate) (trials : List TrialManifest) :
    Except String AllowanceHistory := do
  let records ← gates.foldlM
    (fun records gate => mergeSmokeGateSpend shown (SmokeSpend.records records) gate.record) []
  let trial ← (trials.foldl TrialChoice.next {}).spend
  mergeHistory shown records trial

section Reads

variable (gh : GitHub F) (digest : List Char → String) (currentRunId : Json F)

/-- The gates of the ended smoke runs, in the order in which they are listed. -/
def smokeGates : Except String (List SmokeGate) := do
  let runs ← listWorkflowRuns gh smokeWorkflowFile
  readAll (readSmokeRun gh digest shown currentRunId) runs

/-- The manifests of the ended trial runs, in the order in which they are listed. -/
def trialManifests : Except String (List TrialManifest) := do
  let runs ← listWorkflowRuns gh trialWorkflowFile
  readAll (readTrialRun gh shown currentRunId) runs

end Reads

variable {shown} {gh : GitHub F} {digest : List Char → String} {currentRunId : Json F}

theorem addSmokeRun_eq (records : SmokeSpend) (run : Json F) :
    addSmokeRun gh digest shown currentRunId records run =
      readSmokeRun gh digest shown currentRunId run >>= fun found =>
        found.elim (pure records) fun gate =>
          mergeSmokeGateSpend shown (SmokeSpend.records records) gate.record := by
  unfold addSmokeRun
  congr 1
  funext found
  cases found <;> rfl

theorem addTrialRun_eq (choice : TrialChoice) (run : Json F) :
    addTrialRun gh shown currentRunId choice run =
      readTrialRun gh shown currentRunId run >>= fun found =>
        found.elim (pure choice) fun trial => pure (choice.next trial) := by
  unfold addTrialRun
  congr 1
  funext found
  cases found <;> rfl

variable {records : SmokeSpend}

theorem collectSmokeProofSpends_eq_ok :
    collectSmokeProofSpends gh digest shown currentRunId = .ok records ↔
      ∃ gates, smokeGates shown gh digest currentRunId = .ok gates ∧ gates.foldlM
        (fun records gate => mergeSmokeGateSpend shown (SmokeSpend.records records) gate.record) [] =
          .ok records := by
  simp only [collectSmokeProofSpends, smokeGates, bind_eq_ok]
  constructor
  · rintro ⟨runs, listed, done⟩
    obtain ⟨gates, isRead, merged⟩ := (foldlM_found_eq_ok addSmokeRun_eq).mp done
    exact ⟨gates, ⟨runs, listed, isRead⟩, merged⟩
  · rintro ⟨gates, ⟨runs, listed, isRead⟩, merged⟩
    exact ⟨runs, listed, (foldlM_found_eq_ok addSmokeRun_eq).mpr ⟨gates, isRead, merged⟩⟩

theorem collectLatestTrialSpend_eq_ok {spend : TrialSpend} :
    collectLatestTrialSpend gh shown currentRunId = .ok spend ↔
      ∃ trials, trialManifests shown gh currentRunId = .ok trials ∧
        (trials.foldl TrialChoice.next {}).spend = .ok spend := by
  simp only [collectLatestTrialSpend, trialManifests, bind_eq_ok]
  simp only [foldlM_found_eq_ok addTrialRun_eq, List.foldlM_pure, pure_eq_ok]
  constructor
  · rintro ⟨runs, listed, _, ⟨trials, isRead, rfl⟩, done⟩
    exact ⟨trials, ⟨runs, listed, isRead⟩, done⟩
  · rintro ⟨trials, ⟨runs, listed, isRead⟩, done⟩
    exact ⟨runs, listed, _, ⟨trials, isRead, rfl⟩, done⟩

/-- The history is a matter of the values that were read. -/
theorem collected_iff {history : AllowanceHistory} :
    collectAllowanceHistory gh digest shown currentRunId = .ok history ↔
      ∃ gates trials, smokeGates shown gh digest currentRunId = .ok gates ∧
        trialManifests shown gh currentRunId = .ok trials ∧
        historyOf shown gates trials = .ok history := by
  simp only [collectAllowanceHistory, historyOf, bind_eq_ok, collectSmokeProofSpends_eq_ok,
    collectLatestTrialSpend_eq_ok]
  constructor
  · rintro ⟨records, ⟨gates, isGates, merged⟩, spend, ⟨trials, isTrials, chosen⟩, done⟩
    exact ⟨gates, trials, isGates, isTrials, records, merged, spend, chosen, done⟩
  · rintro ⟨gates, trials, isGates, isTrials, records, merged, spend, chosen, done⟩
    exact ⟨records, ⟨gates, isGates, merged⟩, spend, ⟨trials, isTrials, chosen⟩, done⟩

/-! ## The chosen manifest -/

theorem mem_seenTotals {trials : List TrialManifest} {choice : TrialChoice} {total : Nat} :
    total ∈ (trials.foldl TrialChoice.next choice).seenTotals ↔
      total ∈ choice.seenTotals ∨ ∃ trial ∈ trials, trial.total = total := by
  induction trials generalizing choice with
  | nil => simp
  | cons trial rest ih =>
      rw [List.foldl_cons, ih, List.exists_mem_cons_iff, TrialChoice.next, List.mem_insert_iff]
      tauto

theorem nodup_seenTotals {trials : List TrialManifest} {choice : TrialChoice}
    (distinct : choice.seenTotals.Nodup) :
    (trials.foldl TrialChoice.next choice).seenTotals.Nodup := by
  induction trials generalizing choice with
  | nil => exact distinct
  | cons trial rest ih => exact ih (distinct.insert)

/-- Of manifests with one total the first one is chosen. -/
theorem chosen_of_sameTotal {trials : List TrialManifest} {choice : TrialChoice} {total : Nat}
    (same : ∀ trial ∈ trials, trial.total = total)
    (held : ∀ trial ∈ choice.chosen, trial.total = total) :
    (trials.foldl TrialChoice.next choice).chosen = choice.chosen.or trials.head? := by
  induction trials generalizing choice with
  | nil => rw [List.foldl_nil, List.head?_nil, Option.or_none]
  | cons trial rest ih =>
      obtain ⟨here, others⟩ := List.forall_mem_cons.mp same
      have kept : (choice.next trial).chosen = choice.chosen.or (some trial) := by
        unfold TrialChoice.next
        cases chosen : choice.chosen with
        | none => rfl
        | some earlier =>
            have equal : ¬ earlier.total < trial.total := by
              rw [held earlier chosen, here]
              exact Nat.lt_irrefl _
            simp only [if_neg equal, Option.some_or]
      rw [List.foldl_cons, ih others, kept, List.head?_cons]
      · cases choice.chosen <;> rfl
      · rw [kept]
        intro other member
        cases chosen : choice.chosen with
        | none =>
            rw [chosen] at member
            obtain rfl := Option.some.inj member
            exact here
        | some earlier =>
            rw [chosen] at member
            obtain rfl := Option.some.inj member
            exact held _ chosen

/-- The manifests have one total. -/
def SameTotals (trials : List TrialManifest) : Prop :=
  ∀ left ∈ trials, ∀ right ∈ trials, left.total = right.total

/-- The spend of the manifest that was chosen, if there is one. -/
def spendOf : Option TrialManifest → TrialSpend
  | none => ⟨preservedHistoricalLedgerCents, []⟩
  | some trial => ⟨max trial.ledger preservedHistoricalLedgerCents, trial.smokeSpend⟩

theorem chosenSpend_eq_ok {trials : List TrialManifest} {spend : TrialSpend} :
    (trials.foldl TrialChoice.next {}).spend = .ok spend ↔
      SameTotals trials ∧ spend = spendOf trials.head? := by
  have members {total : Nat} :
      total ∈ (trials.foldl TrialChoice.next {}).seenTotals ↔
        ∃ trial ∈ trials, trial.total = total := by
    rw [mem_seenTotals]
    simp
  have short : (trials.foldl TrialChoice.next {}).seenTotals.length ≤ 1 ↔ SameTotals trials := by
    constructor
    · intro few left isLeft right isRight
      have inLeft := members.mpr ⟨left, isLeft, rfl⟩
      have inRight := members.mpr ⟨right, isRight, rfl⟩
      match seen : (trials.foldl TrialChoice.next {}).seenTotals, few with
      | [], _ =>
          rw [seen] at inLeft
          cases inLeft
      | [only], _ =>
          rw [seen, List.mem_singleton] at inLeft inRight
          rw [inLeft, inRight]
    · intro same
      have distinct : (trials.foldl TrialChoice.next {}).seenTotals.Nodup :=
        nodup_seenTotals List.nodup_nil
      match seen : (trials.foldl TrialChoice.next {}).seenTotals with
      | [] => exact Nat.zero_le 1
      | [only] => exact Nat.le_refl 1
      | first :: second :: rest =>
          rw [seen] at distinct members
          obtain ⟨left, isLeft, rfl⟩ := members.mp (List.mem_cons_self ..)
          obtain ⟨right, isRight, rfl⟩ := members.mp (List.mem_cons_of_mem _ (List.mem_cons_self ..))
          rw [same left isLeft right isRight] at distinct
          exact absurd (List.mem_cons_self ..) (List.nodup_cons.mp distinct).1
  have ends (all : SameTotals trials) :
      (trials.foldl TrialChoice.next {}).chosen = trials.head? := by
    cases trials with
    | nil => rfl
    | cons trial rest =>
        exact chosen_of_sameTotal (fun other member => all other member trial (List.mem_cons_self ..))
          fun _ member => nomatch member
  simp only [TrialChoice.spend, bind_eq_ok, refuse_eq_ok, Nat.not_lt, short]
  constructor
  · rintro ⟨_, same, done⟩
    rw [ends same] at done
    refine ⟨same, ?_⟩
    cases first : trials.head? with
    | none =>
        rw [first] at done
        exact (Except.ok.inj done).symm
    | some trial =>
        rw [first] at done
        exact (Except.ok.inj done).symm
  · rintro ⟨same, rfl⟩
    refine ⟨(), same, ?_⟩
    rw [ends same]
    cases trials.head? <;> rfl

/-! ## Every record is a restored one -/

/-- The identity that a gate is merged under. -/
def SmokeGate.identity (gate : SmokeGate) : SmokeIdentity :=
  ⟨allowanceId, strip gate.runId, gate.attempt, phaseSmoke⟩

/-- The key of an identity that has one. -/
def keyOf (identity : SmokeIdentity) : String :=
  match identityKey identity with
  | .ok key => key
  | .error _ => ""

omit [JsonFloat F] in
theorem SmokeIdentity.Read.keyed {identity : SmokeIdentity} (read : identity.Read shown) :
    identityKey identity = .ok (keyOf identity) := by
  obtain ⟨key, keyed⟩ := read.key
  rw [keyOf, keyed]

omit [JsonFloat F] in
theorem recordIdentity_gate {gate : SmokeGate} {identity : SmokeIdentity}
    (done : recordIdentity shown (.str gate.runId) (.int gate.attempt) (.str allowanceId)
      (.str phaseSmoke) = .ok identity) : identity = gate.identity := by
  obtain ⟨runId, attempted, allowance, phase⟩ := recordIdentity_texts done
  have given : strictPositiveInt (.int gate.attempt : Json F) "run_attempt" =
      .ok identity.runAttempt := attempted
  have attempt : gate.attempt = identity.runAttempt := by
    have same := (strictPositiveInt_ok given).1
    injection same with same
    exact Int.ofNat.inj same
  have defaults : strip allowanceId = allowanceId ∧ strip phaseSmoke = phaseSmoke := by
    decide +kernel
  rw [defaults.1] at allowance
  rw [defaults.2] at phase
  cases identity
  simp_all [SmokeGate.identity]

omit [JsonFloat F] in
theorem recordIdentity_strip (runId : String) (runAttempt allowance phase : Json F) :
    recordIdentity shown (.str (strip runId)) runAttempt allowance phase =
      recordIdentity shown (.str runId) runAttempt allowance phase := by
  have trimmed : strip (strip runId) = strip runId := strip_eq_self_iff.mpr (trimmed_strip runId)
  have same : normalizeSmokeRunId shown (.str (strip runId)) =
      normalizeSmokeRunId shown (.str runId) := by
    unfold normalizeSmokeRunId runIdText
    simp only [pure_bind, trimmed]
  unfold recordIdentity
  rw [same]

/-- A gate is one more receipt. -/
theorem mergeGate_eq (records : SmokeSpend) (gate : SmokeGate) :
    mergeSmokeGateSpend shown (SmokeSpend.records records) gate.record =
      addSmokeSpend shown (SmokeSpend.records records) (.str gate.runId) (.int gate.spent)
        (.int gate.attempt) (.str allowanceId) (.str phaseSmoke) := by
  have merged : mergeSmokeGateSpend shown (SmokeSpend.records records) gate.record =
      validateSmokeSpend shown (SmokeSpend.records records) >>= fun merged =>
        addSmokeSpend shown (SmokeSpend.records merged) (.str gate.runId) (.int gate.spent)
          (.int gate.attempt) (.str allowanceId) (.str phaseSmoke) := rfl
  rw [merged]
  cases valid : validateSmokeSpend shown (SmokeSpend.records records) with
  | error failure =>
      unfold addSmokeSpend
      rw [valid]
      rfl
  | ok spend =>
      have again := (validateSmokeSpend_canonical valid).validates
      unfold addSmokeSpend
      rw [valid]
      show (validateSmokeSpend shown (SmokeSpend.records spend) >>= _) = _
      rw [again]

theorem mergeGate_restores {gate : SmokeGate} (read : gate.identity.Read shown)
    (records : SmokeSpend) :
    mergeSmokeGateSpend shown (SmokeSpend.records records) gate.record =
      restoreEntry shown records (keyOf gate.identity, .int gate.spent) := by
  have back := (legacyIdentity_key_iff read.accepted read.keyed).mpr read.free
  have plain : recordIdentity shown (.str (strip gate.runId)) .. = _ :=
    recordIdentity_strip gate.runId (.int gate.attempt) (.str allowanceId) (.str phaseSmoke)
  unfold restoreEntry
  rw [mergeGate_eq, back]
  show addSmokeSpend .. = addSmokeSpend ..
  unfold addSmokeSpend
  rw [← plain]
  rfl

omit [JsonFloat F] in
/-- The key of an identity is read again as its run and its attempt. -/
theorem rereadIdentity_key {identity : SmokeIdentity} {key : String} (read : identity.Read shown)
    (keyed : identityKey identity = .ok key) :
    rereadIdentity shown key = .ok (identity.workflowRunId, identity.runAttempt) := by
  obtain ⟨attempt, written, rfl⟩ := identityKey_eq_ok.mp keyed
  have free : ∀ field ∈ [identity.allowanceId, identity.workflowRunId, attempt, identity.phase],
      '|' ∉ field.toList := length_pieces_eq_iff.2.mp ((free_iff_length written).mp read.free)
  have cut : (joined '|' [identity.allowanceId, identity.workflowRunId, attempt,
      identity.phase]).toList.splitOn '|' = [identity.allowanceId.toList,
        identity.workflowRunId.toList, attempt.toList, identity.phase.toList] := by
    rw [joined, String.toList_ofList, splitOn_joined '|' (by simp), List.flatMap_map]
    exact pieces_of_free free
  obtain ⟨digits, number⟩ := readDigits_natText written
  unfold rereadIdentity attemptOfDigits
  simp only [cut, digits, if_true, pythonInt, number, fetch, String.ofList_toList]
  rfl

theorem addTrialEntry_restores {entry : String × Nat} {identity : SmokeIdentity}
    (read : identity.Read shown) (keyed : identityKey identity = .ok entry.1)
    (records : SmokeSpend) :
    addTrialEntry shown records entry = restoreEntry shown records (entry.1, .int entry.2) := by
  have back := (legacyIdentity_key_iff read.accepted keyed).mpr read.free
  unfold addTrialEntry restoreEntry
  rw [rereadIdentity_key read keyed, back]
  rfl

omit [JsonFloat F] in
/-- A key that is read at all is that of an identity without separators. -/
theorem free_of_back {identity other : SmokeIdentity} {key : String}
    (accepted : identity.Accepted shown) (keyed : identityKey identity = .ok key)
    (back : legacyIdentity shown key = .ok other) : identity.Free := by
  obtain ⟨attempt, written, rfl⟩ := identityKey_eq_ok.mp keyed
  rw [legacyIdentity_key accepted written] at back
  unfold canonicalIdentity at back
  split at back
  · rename_i four
    exact (free_iff_length written).mpr (by rw [four]; rfl)
  · cases back

/-- What is validated after an addition holds an identity that reads back. -/
theorem read_of_added {gate : SmokeGate} {after spend : SmokeSpend}
    (added : addSmokeSpend shown (SmokeSpend.records records) (.str gate.runId) (.int gate.spent)
      (.int gate.attempt) (.str allowanceId) (.str phaseSmoke) = .ok after)
    (valid : validateSmokeSpend shown (SmokeSpend.records after) = .ok spend) :
    gate.identity.Read shown := by
  obtain ⟨current, identity, key, cents, -, recorded, keyed, -, -, rfl⟩ := addSmokeSpend_ok added
  obtain rfl := recordIdentity_gate recorded
  have accepted := recordIdentity_ok recorded
  have member : (key, cents) ∈ Dict.assign current key cents :=
    Dict.mem_of_get? (by rw [Dict.get?_assign, if_pos rfl])
  have listed : (key, (.int cents : Json F)) ∈
      (Dict.assign current key cents).map fun entry => (entry.1, (.int entry.2 : Json F)) :=
    List.mem_map_of_mem member
  obtain ⟨reading, reads, -⟩ := bind_eq_ok.mp valid
  obtain ⟨other, -, back, -⟩ := (readSpends_ok canonical_nil reads).2 _ listed
  obtain ⟨attempt, written, -⟩ := identityKey_eq_ok.mp keyed
  exact ⟨accepted, free_of_back accepted keyed back, attempt, written⟩

theorem gates_read {gates : List SmokeGate} {spend : SmokeSpend}
    (done : gates.foldlM
      (fun records gate => mergeSmokeGateSpend shown (SmokeSpend.records records) gate.record) [] =
        .ok records) (valid : validateSmokeSpend shown (SmokeSpend.records records) = .ok spend) :
    ∀ gate ∈ gates, gate.identity.Read shown := by
  induction gates using List.reverseRecOn generalizing records spend with
  | nil => exact fun _ member => absurd member List.not_mem_nil
  | append_singleton earlier gate ih =>
      rw [List.foldlM_append, bind_eq_ok] at done
      obtain ⟨middle, before, last⟩ := done
      obtain ⟨after, added, ended⟩ := bind_eq_ok.mp (List.foldlM_cons.symm.trans last)
      obtain rfl : after = records := Except.ok.inj ended
      rw [mergeGate_eq] at added
      obtain ⟨held, _, _, _, isValid, -⟩ := addSmokeSpend_ok added
      intro asked member
      rcases List.mem_append.mp member with old | new
      · exact ih before isValid asked old
      · obtain rfl := List.mem_singleton.mp new
        exact read_of_added added valid

/-! ## Filed records -/

/-- The entries that are merged, in turn: those of the gates and those of the chosen manifest. -/
def filedEntries (gates : List SmokeGate) (trial : Option TrialManifest) : List (String × Json F) :=
  gates.map (fun gate => (keyOf gate.identity, .int gate.spent)) ++
    (spendOf trial).smokeSpend.map fun entry => (entry.1, .int entry.2)

/-- The manifest records the spend for the identity. -/
def OwnSpend (shown : Shown F) (trial : TrialManifest) (identity : SmokeIdentity) (spent : Nat) :
    Prop :=
  ∃ entry ∈ trial.smokeSpend, legacyIdentity shown entry.1 = .ok identity ∧ entry.2 = spent

/-- The spend of the identity is proved by a gate, or recorded by the manifest. -/
def Paid (shown : Shown F) (gates : List SmokeGate) (trial : Option TrialManifest)
    (identity : SmokeIdentity) (spent : Nat) : Prop :=
  (∃ gate ∈ gates, gate.identity = identity ∧ gate.spent = spent) ∨
    ∃ manifest ∈ trial, OwnSpend shown manifest identity spent

/-- The identity of the preserved spend. -/
def preservedIdentity : SmokeIdentity :=
  ⟨allowanceId, "preserved-historical-20261031", 1, phaseSmoke⟩

/-- What is paid, with the preserved spend where nothing was spent. -/
def Kept (paid : SmokeIdentity → Nat → Prop) (identity : SmokeIdentity) (spent : Nat) : Prop :=
  paid identity spent ∨ (∀ other cents, paid other cents → cents = 0) ∧
    identity = preservedIdentity ∧ spent = preservedHistoricalSmokeCents

/-- What is kept, under the default allowance and phase. -/
def Filed (shown : Shown F) (gates : List SmokeGate) (trial : Option TrialManifest)
    (identity : SmokeIdentity) (spent : Nat) : Prop :=
  ∃ other, Kept (Paid shown gates trial) other spent ∧ other.refiled = identity

theorem foldlM_map_congr {α β γ ε : Type} {f : γ → α → Except ε γ} {g : γ → β → Except ε γ}
    {entry : α → β} {elements : List α} (same : ∀ element ∈ elements, ∀ state,
      f state element = g state (entry element)) (start : γ) :
    elements.foldlM f start = (elements.map entry).foldlM g start := by
  induction elements generalizing start with
  | nil => rfl
  | cons first rest ih =>
      obtain ⟨here, later⟩ := List.forall_mem_cons.mp same
      rw [List.map_cons, List.foldlM_cons, List.foldlM_cons, here]
      exact bind_congr fun state => ih later state

/-- All records are restored, in turn. -/
theorem merged_eq {gates : List SmokeGate} {trial : Option TrialManifest}
    (reads : ∀ gate ∈ gates, gate.identity.Read shown)
    (canonical : ∀ manifest ∈ trial, Canonical shown manifest.smokeSpend) :
    (gates.foldlM (fun records gate =>
        mergeSmokeGateSpend shown (SmokeSpend.records records) gate.record) [] >>= fun records =>
      (spendOf trial).smokeSpend.foldlM (addTrialEntry shown) records) =
      (filedEntries gates trial).foldlM (restoreEntry shown) [] := by
  rw [filedEntries, List.foldlM_append, ← foldlM_map_congr
    fun gate member records => mergeGate_restores (reads gate member) records]
  refine bind_congr fun records => foldlM_map_congr (fun entry member state => ?_) records
  cases trial with
  | none => cases member
  | some manifest =>
      obtain ⟨identity, read, keyed⟩ := (canonical manifest rfl).keys entry member
      exact addTrialEntry_restores read keyed state

omit [JsonFloat F] in
theorem canonical_spendOf {trial : Option TrialManifest}
    (canonical : ∀ manifest ∈ trial, Canonical shown manifest.smokeSpend) :
    Canonical shown (spendOf trial).smokeSpend := by
  cases trial with
  | none => exact canonical_nil
  | some manifest => exact canonical manifest rfl

/-- What is validated after the entries of the manifest was valid before them. -/
theorem valid_before {entries : List (String × Nat)} {merged spend : SmokeSpend}
    (added : entries.foldlM (addTrialEntry shown) records = .ok merged)
    (valid : validateSmokeSpend shown (SmokeSpend.records merged) = .ok spend) :
    ∃ before, validateSmokeSpend shown (SmokeSpend.records records) = .ok before := by
  cases entries with
  | nil =>
      obtain rfl := Except.ok.inj added
      exact ⟨spend, valid⟩
  | cons entry rest =>
      obtain ⟨middle, first, -⟩ := bind_eq_ok.mp (List.foldlM_cons.symm.trans added)
      obtain ⟨run, -, addition⟩ := bind_eq_ok.mp first
      obtain ⟨current, _, _, _, isValid, -⟩ := addSmokeSpend_ok addition
      exact ⟨current, isValid⟩

/-- A history is made of the gates, whose identities read back, and of the first manifest, where all
manifests have one total. -/
theorem historyOf_eq_ok {gates : List SmokeGate} {trials : List TrialManifest}
    (canonical : ∀ trial ∈ trials, Canonical shown trial.smokeSpend) {history : AllowanceHistory} :
    historyOf shown gates trials = .ok history ↔
      SameTotals trials ∧ (∀ gate ∈ gates, gate.identity.Read shown) ∧
        ∃ merged, (filedEntries gates trials.head?).foldlM (restoreEntry shown) [] = .ok merged ∧
          preserveSmoke shown merged = .ok history.smokeSpend ∧
          smokeSpendTotal shown (SmokeSpend.records history.smokeSpend) =
            .ok history.smokeSpendCents ∧
          history.ledgerSpendCents =
            max (spendOf trials.head?).ledgerSpendCents preservedHistoricalLedgerCents := by
  have first : ∀ manifest ∈ trials.head?, Canonical shown manifest.smokeSpend :=
    fun manifest member => canonical manifest (List.mem_of_head? member)
  simp only [historyOf, mergeHistory, bind_eq_ok, pure_eq_ok, chosenSpend_eq_ok]
  constructor
  · rintro ⟨records, isRecords, _, ⟨same, rfl⟩, entries, valid, merged, added, kept, preserved,
      total, summed, rfl⟩
    rw [(canonical_spendOf first).validates] at valid
    obtain rfl := Except.ok.inj valid
    obtain ⟨found, isFound, -⟩ := bind_eq_ok.mp preserved
    obtain ⟨spend, isValid, -⟩ := bind_eq_ok.mp isFound
    obtain ⟨before, isBefore⟩ := valid_before added isValid
    have reads := gates_read isRecords isBefore
    refine ⟨same, reads, merged, ?_, preserved, summed, rfl⟩
    rw [← merged_eq reads first, isRecords]
    exact added
  · rintro ⟨same, reads, merged, restored, preserved, summed, ledger⟩
    rw [← merged_eq reads first] at restored
    obtain ⟨records, isRecords, added⟩ := bind_eq_ok.mp restored
    refine ⟨records, isRecords, _, ⟨same, rfl⟩, _, (canonical_spendOf first).validates, merged,
      added, _, preserved, _, summed, ?_⟩
    rw [← ledger]


/-! ## What a history holds -/

section Held

variable {gates : List SmokeGate} {trial : Option TrialManifest}

omit [JsonFloat F] in
/-- The entries that are merged record what is paid. -/
theorem occurs_filedEntries (reads : ∀ gate ∈ gates, gate.identity.Read shown)
    (identity : SmokeIdentity) (spent : Nat) :
    Occurs shown [filedEntries gates trial] identity spent ↔
      Paid shown gates trial identity spent := by
  unfold Occurs filedEntries Paid
  rw [List.flatten_singleton]
  simp only [List.mem_append, or_and_right, exists_or]
  refine or_congr ⟨?_, ?_⟩ ⟨?_, ?_⟩
  · rintro ⟨_, member, back, value⟩
    obtain ⟨gate, listed, rfl⟩ := List.mem_map.mp member
    have read := reads gate listed
    have known := (legacyIdentity_key_iff read.accepted read.keyed).mpr read.free
    refine ⟨gate, listed, Except.ok.inj (known.symm.trans back), ?_⟩
    injection value with value
    exact Int.ofNat.inj value
  · rintro ⟨gate, listed, rfl, rfl⟩
    have read := reads gate listed
    exact ⟨_, List.mem_map_of_mem listed,
      (legacyIdentity_key_iff read.accepted read.keyed).mpr read.free, rfl⟩
  · rintro ⟨_, member, back, value⟩
    obtain ⟨entry, listed, rfl⟩ := List.mem_map.mp member
    cases trial with
    | none => cases listed
    | some manifest =>
        injection value with value
        exact ⟨manifest, rfl, entry, listed, back, Int.ofNat.inj value⟩
  · rintro ⟨manifest, isTrial, entry, listed, back, rfl⟩
    obtain rfl := Option.mem_def.mp isTrial
    exact ⟨_, List.mem_map_of_mem listed, back, rfl⟩

variable {merged records : SmokeSpend}

/-- What the merged map has seen is what is paid. -/
theorem merged_paid (reads : ∀ gate ∈ gates, gate.identity.Read shown)
    (done : (filedEntries gates trial).foldlM (restoreEntry shown) [] = .ok merged) :
    ∃ seen, Merged shown merged seen ∧ (∀ paid ∈ seen, paid.1.Read shown) ∧
      ∀ identity spent, (identity, spent) ∈ seen ↔ Paid shown gates trial identity spent := by
  obtain ⟨seen, state, each⟩ := restoreEntries_ok merged_nil done
  have listed : List.Forall₂ (fun entry spend => legacyIdentity shown entry.1 = .ok spend.1 ∧
      entry.2 = (.int (spend.2 : Nat) : Json F)) [filedEntries gates trial].flatten seen := by
    rw [List.flatten_singleton]
    exact each
  refine ⟨seen, state, ?_, fun identity spent =>
    (seen_iff_occurs listed identity spent).trans (occurs_filedEntries reads identity spent)⟩
  rintro ⟨identity, spent⟩ member
  obtain ⟨entry, -, back, -⟩ := (seen_iff_occurs listed identity spent).mp member
  exact legacyIdentity_ok back

omit [JsonFloat F] in
/-- Nothing was spent exactly where every spend that was seen is zero. -/
theorem Merged.unspent_iff {seen : List (SmokeIdentity × Nat)} (state : Merged shown merged seen)
    (reads : ∀ paid ∈ seen, paid.1.Read shown) :
    (merged.map Prod.snd).sum = 0 ↔ ∀ identity spent, (identity, spent) ∈ seen → spent = 0 := by
  rw [List.sum_eq_zero_iff]
  constructor
  · intro zero identity spent member
    obtain ⟨key, keyed⟩ := (reads _ member).refiled.key
    have found := (state.held key spent).mpr ⟨identity, member, keyed⟩
    exact zero spent (List.mem_map_of_mem (f := Prod.snd) (Dict.mem_of_get? found))
  · intro zero spent member
    obtain ⟨entry, listed, rfl⟩ := List.mem_map.mp member
    obtain ⟨identity, seenIt, -⟩ :=
      (state.held entry.1 entry.2).mp (Dict.get?_of_mem state.canonical.ordered listed)
    exact zero identity entry.2 seenIt

omit [JsonFloat F] in
theorem preserved_read : preservedIdentity.Read shown := by
  have allowance : Trimmed allowanceId.toList ∧ allowanceId ≠ "" := by
    refine ⟨⟨?_, ?_⟩, ?_⟩ <;> decide +kernel
  have phase : Trimmed phaseSmoke.toList ∧ phaseSmoke ≠ "" := by
    refine ⟨⟨?_, ?_⟩, ?_⟩ <;> decide +kernel
  have runId : Trimmed preservedIdentity.workflowRunId.toList ∧
      preservedIdentity.workflowRunId ≠ "" := by
    refine ⟨⟨?_, ?_⟩, ?_⟩ <;> decide +kernel
  have free : '|' ∉ preservedIdentity.workflowRunId.toList := by decide +kernel
  exact ⟨⟨allowance, runId, rfl, Nat.one_pos, phase⟩, ⟨free_defaults.1, free, free_defaults.2⟩,
    natText_one⟩

omit [JsonFloat F] in
theorem recordIdentity_preserved :
    recordIdentity shown (.str "preserved-historical-20261031") .null (.str allowanceId)
      (.str phaseSmoke) = .ok preservedIdentity := rfl

/-- What is preserved besides the merged map. -/
theorem preserveSmoke_ok {seen : List (SmokeIdentity × Nat)} (state : Merged shown merged seen)
    (done : preserveSmoke shown merged = .ok records) :
    (merged.map Prod.snd).sum = 0 ∧
        Merged shown records (seen ++ [(preservedIdentity, preservedHistoricalSmokeCents)]) ∨
      (merged.map Prod.snd).sum ≠ 0 ∧ preservedHistoricalSmokeCents ≤ (merged.map Prod.snd).sum ∧
        records = merged := by
  unfold preserveSmoke at done
  rw [smokeSpendTotal_canonical state.canonical] at done
  simp only [bind_eq_ok, Except.ok.injEq, exists_eq_left'] at done
  split at done
  · rename_i zero
    obtain ⟨current, identity, key, cents, valid, recorded, keyed, spent, agrees, rfl⟩ :=
      addSmokeSpend_ok done
    rw [state.canonical.validates] at valid
    obtain rfl := Except.ok.inj valid
    obtain rfl := Except.ok.inj (recordIdentity_preserved.symm.trans recorded)
    injection spent with spent
    obtain rfl : preservedHistoricalSmokeCents = cents := Int.ofNat.inj spent
    exact .inl ⟨zero, state.assign preserved_read keyed agrees⟩
  · rename_i some
    split at done
    · cases done
    · rename_i enough
      exact .inr ⟨some, Nat.le_of_not_lt enough, (Except.ok.inj done).symm⟩

/-- The records of a history are what is kept, under the default allowance and phase. -/
structure Holds (shown : Shown F) (gates : List SmokeGate) (trial : Option TrialManifest)
    (records : SmokeSpend) : Prop where
  merged : ∃ seen, Merged shown records seen ∧ (∀ paid ∈ seen, paid.1.Read shown) ∧
    ∀ identity spent, (identity, spent) ∈ seen ↔ Kept (Paid shown gates trial) identity spent
  floor : preservedHistoricalSmokeCents ≤ (records.map Prod.snd).sum

theorem holds_of_preserved (reads : ∀ gate ∈ gates, gate.identity.Read shown)
    (done : (filedEntries gates trial).foldlM (restoreEntry shown) [] = .ok merged)
    (preserved : preserveSmoke shown merged = .ok records) : Holds shown gates trial records := by
  obtain ⟨seen, state, seenRead, members⟩ := merged_paid reads done
  have unspent := state.unspent_iff seenRead
  simp only [members] at unspent
  rcases preserveSmoke_ok state preserved with ⟨zero, grown⟩ | ⟨spent, enough, rfl⟩
  · refine ⟨⟨_, grown, ?_, fun identity cents => ?_⟩, ?_⟩
    · intro paid member
      rcases List.mem_append.mp member with old | new
      · exact seenRead paid old
      · obtain rfl := List.mem_singleton.mp new
        exact preserved_read
    · rw [List.mem_append, members, List.mem_singleton, Prod.mk.injEq, Kept]
      exact or_congr_right ⟨fun same => ⟨unspent.mp zero, same⟩, fun both => both.2⟩
    · have read : preservedIdentity.Read shown := preserved_read
      obtain ⟨key, keyed⟩ := read.refiled.key
      have found := (grown.held key preservedHistoricalSmokeCents).mpr
        ⟨preservedIdentity, by simp, keyed⟩
      exact List.le_sum_of_mem (List.mem_map_of_mem (f := Prod.snd) (Dict.mem_of_get? found))
  · refine ⟨⟨seen, state, seenRead, fun identity cents => ?_⟩, enough⟩
    rw [members, Kept]
    exact ⟨.inl, fun kept => kept.elim id fun other => absurd (unspent.mpr other.1) spent⟩

omit [JsonFloat F] in
theorem Holds.get?_iff (holds : Holds shown gates trial records) {key : String} {spent : Nat} :
    Dict.get? records key = some spent ↔
      ∃ identity, Filed shown gates trial identity spent ∧ identityKey identity = .ok key := by
  obtain ⟨seen, state, -, members⟩ := holds.merged
  rw [state.held]
  simp only [members, Filed]
  constructor
  · rintro ⟨identity, kept, keyed⟩
    exact ⟨identity.refiled, ⟨identity, kept, rfl⟩, keyed⟩
  · rintro ⟨_, ⟨identity, kept, rfl⟩, keyed⟩
    exact ⟨identity, kept, keyed⟩

omit [JsonFloat F] in
theorem Holds.canonical (holds : Holds shown gates trial records) :
    Canonical shown records := by
  obtain ⟨seen, state, -⟩ := holds.merged
  exact state.canonical

end Held

/-! ## Other orders -/

section Orders

variable {gates : List SmokeGate} {left right : Option TrialManifest}

/-- The manifests leave the same history: the same ledger spend, and the same records under the
default allowance and phase. -/
structure Agrees (shown : Shown F) (gates : List SmokeGate) (left right : Option TrialManifest) :
    Prop where
  ledger : (spendOf left).ledgerSpendCents = (spendOf right).ledgerSpendCents
  filed : ∀ identity spent,
    Filed shown gates left identity spent ↔ Filed shown gates right identity spent

omit [JsonFloat F] in
theorem paid_perm {others : List SmokeGate} (same : others.Perm gates) :
    Paid shown others left = Paid shown gates left := by
  funext identity spent
  simp only [Paid, same.mem_iff]

variable {records : SmokeSpend}

omit [JsonFloat F] in
theorem Holds.perm {others : List SmokeGate} (same : others.Perm gates)
    (holds : Holds shown gates left records) : Holds shown others left records :=
  ⟨by rw [paid_perm same]; exact holds.merged, holds.floor⟩

omit [JsonFloat F] in
theorem Agrees.perm {others : List SmokeGate} (same : others.Perm gates)
    (agrees : Agrees shown gates left right) : Agrees shown others left right :=
  ⟨agrees.ledger, by simpa only [Filed, paid_perm same] using agrees.filed⟩

omit [JsonFloat F] in
/-- A kept record of one manifest is held by the history of one that agrees. -/
theorem Holds.held (holds : Holds shown gates right records)
    (agrees : Agrees shown gates left right) {identity : SmokeIdentity} {spent : Nat} {key : String}
    (kept : Kept (Paid shown gates left) identity spent)
    (keyed : identityKey identity.refiled = .ok key) : Dict.get? records key = some spent :=
  holds.get?_iff.mpr ⟨identity.refiled, (agrees.filed _ _).mp ⟨identity, kept, rfl⟩, keyed⟩

omit [JsonFloat F] in
/-- Manifests that agree leave the same records. -/
theorem Holds.ext {others : SmokeSpend} (holds : Holds shown gates right records)
    (also : Holds shown gates left others) (agrees : Agrees shown gates left right) :
    others = records := by
  refine Dict.ext_of_ordered also.canonical.ordered holds.canonical.ordered fun key => ?_
  refine Option.ext fun spent => ?_
  rw [also.get?_iff, holds.get?_iff]
  simp only [agrees.filed]

/-- The records of a manifest that agrees are merged without a conflict. -/
theorem exists_merged (holds : Holds shown gates right records)
    (agrees : Agrees shown gates left right) (reads : ∀ gate ∈ gates, gate.identity.Read shown)
    (canonical : ∀ manifest ∈ left, Canonical shown manifest.smokeSpend) :
    ∃ merged, (filedEntries gates left).foldlM (restoreEntry shown) [] = .ok merged := by
  refine restoreEntries_eq_ok (P := Paid shown gates left) ?_ merged_nil
    (fun _ member => absurd member List.not_mem_nil) ?_
  · intro one other cents held isOne isOther same
    obtain ⟨seen, -, seenRead, members⟩ := holds.merged
    obtain ⟨witness, kept, filed⟩ := (agrees.filed one.refiled cents).mp ⟨one, .inl isOne, rfl⟩
    obtain ⟨key, keyed⟩ := (seenRead _ ((members _ _).mpr kept)).refiled.key
    rw [show one.refiled = witness.refiled from filed.symm] at same
    have first := holds.held agrees (.inl isOne) (filed ▸ keyed)
    have second := holds.held agrees (.inl isOther) (same.trans keyed)
    exact Option.some.inj (second.symm.trans first)
  · intro entry member
    rcases List.mem_append.mp member with ofGate | ofTrial
    · obtain ⟨gate, listed, rfl⟩ := List.mem_map.mp ofGate
      have read := reads gate listed
      exact ⟨gate.identity, gate.spent,
        (legacyIdentity_key_iff read.accepted read.keyed).mpr read.free, rfl,
        .inl ⟨gate, listed, rfl, rfl⟩⟩
    · obtain ⟨own, listed, rfl⟩ := List.mem_map.mp ofTrial
      cases left with
      | none => cases listed
      | some manifest =>
          obtain ⟨identity, read, keyed⟩ := (canonical manifest rfl).keys own listed
          have back := (legacyIdentity_key_iff read.accepted keyed).mpr read.free
          exact ⟨identity, own.2, back, rfl, .inr ⟨manifest, rfl, own, listed, back, rfl⟩⟩

/-- The preserved spend of a manifest that agrees is added, or its floor is reached. -/
theorem exists_preserved {merged : SmokeSpend} (holds : Holds shown gates right records)
    (agrees : Agrees shown gates left right) (reads : ∀ gate ∈ gates, gate.identity.Read shown)
    (done : (filedEntries gates left).foldlM (restoreEntry shown) [] = .ok merged) :
    ∃ preserved, preserveSmoke shown merged = .ok preserved := by
  obtain ⟨seen, state, seenRead, members⟩ := merged_paid reads done
  have unspent := state.unspent_iff seenRead
  simp only [members] at unspent
  unfold preserveSmoke
  rw [smokeSpendTotal_canonical state.canonical]
  show ∃ preserved, (if (merged.map Prod.snd).sum = 0 then _ else _) = Except.ok preserved
  by_cases zero : (merged.map Prod.snd).sum = 0
  · rw [if_pos zero]
    have read : preservedIdentity.Read shown := preserved_read
    have keyed := read.keyed
    simp only [addSmokeSpend, bind_eq_ok, refuse_eq_ok, pure_eq_ok, strictCents_eq_ok]
    refine ⟨_, merged, state.canonical.validates, preservedIdentity, recordIdentity_preserved,
      keyOf preservedIdentity, keyed, preservedHistoricalSmokeCents, rfl, (), ?_, rfl⟩
    rintro ⟨held, found, other⟩
    obtain ⟨identity, member, itsKey⟩ := (state.held _ held).mp found
    have first := holds.held agrees (.inl ((members _ _).mp member)) itsKey
    have second := holds.held agrees (.inr ⟨unspent.mp zero, rfl, rfl⟩) keyed
    exact other (Option.some.inj (first.symm.trans second))
  · have only : ∀ identity spent, Kept (Paid shown gates left) identity spent ↔
        (identity, spent) ∈ seen := by
      intro identity spent
      rw [members]
      exact ⟨fun kept => kept.elim id fun other => absurd (unspent.mpr other.1) zero, .inl⟩
    have same : merged = records := by
      refine Dict.ext_of_ordered state.canonical.ordered holds.canonical.ordered fun key => ?_
      refine Option.ext fun spent => ?_
      have filed (identity : SmokeIdentity) : Filed shown gates right identity spent ↔
          ∃ other, (other, spent) ∈ seen ∧ other.refiled = identity :=
        (agrees.filed identity spent).symm.trans (by simp only [Filed, only])
      rw [state.held, holds.get?_iff]
      simp only [filed]
      constructor
      · rintro ⟨identity, member, keyed⟩
        exact ⟨identity.refiled, ⟨identity, member, rfl⟩, keyed⟩
      · rintro ⟨_, ⟨identity, member, rfl⟩, keyed⟩
        exact ⟨identity, member, keyed⟩
    rw [if_neg zero, if_neg (Nat.not_lt.mpr (same ▸ holds.floor))]
    exact ⟨merged, rfl⟩

end Orders

section Histories

variable {gates others : List SmokeGate} {trials again : List TrialManifest}
  {history : AllowanceHistory}

/-- What a history holds of its gates and its first manifest. -/
theorem historyOf_holds (canonical : ∀ trial ∈ trials, Canonical shown trial.smokeSpend)
    (done : historyOf shown gates trials = .ok history) :
    Holds shown gates trials.head? history.smokeSpend := by
  obtain ⟨-, reads, merged, restored, preserved, -⟩ := (historyOf_eq_ok canonical).mp done
  exact holds_of_preserved reads restored preserved

omit [JsonFloat F] in
theorem preserved_le_spendOf (trial : Option TrialManifest) :
    preservedHistoricalLedgerCents ≤ (spendOf trial).ledgerSpendCents := by
  cases trial with
  | none => exact Nat.le_refl _
  | some manifest => exact Nat.le_max_right ..

/-- In another order the history is the same one, where the manifests that come first agree. -/
theorem historyOf_reordered (canonical : ∀ trial ∈ trials, Canonical shown trial.smokeSpend)
    (done : historyOf shown gates trials = .ok history) (sameGates : others.Perm gates)
    (sameTrials : again.Perm trials) (agrees : Agrees shown gates again.head? trials.head?) :
    historyOf shown others again = .ok history := by
  have holds := (historyOf_holds canonical done).perm sameGates
  have agreed := agrees.perm sameGates
  obtain ⟨same, reads, -, -, -, summed, ledger⟩ := (historyOf_eq_ok canonical).mp done
  have canonicalAgain : ∀ trial ∈ again, Canonical shown trial.smokeSpend :=
    fun trial member => canonical trial (sameTrials.mem_iff.mp member)
  have readsAgain : ∀ gate ∈ others, gate.identity.Read shown :=
    fun gate member => reads gate (sameGates.mem_iff.mp member)
  obtain ⟨merged, restored⟩ := exists_merged holds agreed readsAgain
    fun manifest member => canonicalAgain manifest (List.mem_of_head? member)
  obtain ⟨records, preserved⟩ := exists_preserved holds agreed readsAgain restored
  obtain rfl := holds.ext (holds_of_preserved readsAgain restored preserved) agreed
  refine (historyOf_eq_ok canonicalAgain).mpr
    ⟨?_, readsAgain, merged, restored, preserved, summed, ?_⟩
  · intro one isOne other isOther
    exact same one (sameTrials.mem_iff.mp isOne) other (sameTrials.mem_iff.mp isOther)
  · rw [ledger, agreed.ledger]

/-- Manifests that come first in orders with one history agree. -/
theorem agrees_of_histories (canonical : ∀ trial ∈ trials, Canonical shown trial.smokeSpend)
    (sameTrials : again.Perm trials) (done : historyOf shown gates trials = .ok history)
    (also : historyOf shown gates again = .ok history) :
    Agrees shown gates again.head? trials.head? := by
  have canonicalAgain : ∀ trial ∈ again, Canonical shown trial.smokeSpend :=
    fun trial member => canonical trial (sameTrials.mem_iff.mp member)
  have holds := historyOf_holds canonical done
  have holdsAgain := historyOf_holds canonicalAgain also
  obtain ⟨-, -, -, -, -, -, ledger⟩ := (historyOf_eq_ok canonical).mp done
  obtain ⟨-, -, -, -, -, -, ledgerAgain⟩ := (historyOf_eq_ok canonicalAgain).mp also
  have carried {left right : Option TrialManifest}
      (one : Holds shown gates left history.smokeSpend)
      (other : Holds shown gates right history.smokeSpend) {identity : SmokeIdentity} {spent : Nat}
      (filed : Filed shown gates left identity spent) :
      Filed shown gates right identity spent := by
    obtain ⟨seen, -, seenRead, members⟩ := id one.merged
    obtain ⟨kept, isKept, rfl⟩ := id filed
    have read := (seenRead _ ((members _ _).mpr isKept)).refiled
    obtain ⟨key, keyed⟩ := read.key
    obtain ⟨found, isFiled, itsKey⟩ := other.get?_iff.mp (one.get?_iff.mpr ⟨_, filed, keyed⟩)
    obtain rfl := identityKey_injective read.free keyed itsKey
    exact isFiled
  refine ⟨?_, fun identity spent => ⟨carried holdsAgain holds, carried holds holdsAgain⟩⟩
  rw [Nat.max_eq_left (preserved_le_spendOf _)] at ledger ledgerAgain
  exact ledgerAgain.symm.trans ledger

end Histories

/-! ## Every identity once -/

section Counted

variable {gh other : GitHub F} {digest : List Char → String} {currentRunId : Json F}
  {gates : List SmokeGate} {trials : List TrialManifest} {history : AllowanceHistory}

/-- The runs are listed in another order, and their artifacts are the same. -/
structure Reordered (gh other : GitHub F) : Prop where
  runs : ∀ file listed, listWorkflowRuns gh file = .ok listed →
    ∃ again, listWorkflowRuns other file = .ok again ∧ again.Perm listed
  artifacts : other.artifactPages = gh.artifactPages
  member : other.member = gh.member

/-- What is claimed of a history: it holds every identity that was paid once, with the preserved one
where nothing was spent, and does not depend on the order of the runs. -/
structure CountsOnce (shown : Shown F) (gh : GitHub F) (digest : List Char → String)
    (currentRunId : Json F) (gates : List SmokeGate) (trial : Option TrialManifest)
    (history : AllowanceHistory) : Prop where
  entries : ∃ spends : List (SmokeIdentity × Nat), (spends.map Prod.fst).Nodup ∧
    (∀ identity spent, (identity, spent) ∈ spends ↔
      Kept (Paid shown gates trial) identity spent) ∧
    List.Forall₂ (fun spend entry => identityKey spend.1 = .ok entry.1 ∧ spend.2 = entry.2)
      spends history.smokeSpend ∧
    history.smokeSpendCents = (spends.map Prod.snd).sum
  preserved : preservedHistoricalLedgerCents ≤ history.ledgerSpendCents
  ledger : ∀ manifest ∈ trial, manifest.ledger ≤ history.ledgerSpendCents
  reordered : ∀ other, Reordered gh other →
    collectAllowanceHistory other digest shown currentRunId = .ok history

/-- The first manifest names the default allowance and phase, and every other one leaves the same
history. -/
structure Consistent (shown : Shown F) (gates : List SmokeGate) (trials : List TrialManifest) :
    Prop where
  default : ∀ trial ∈ trials.head?, ∀ identity spent, OwnSpend shown trial identity spent →
    identity.allowanceId = Live.allowanceId ∧ identity.phase = phaseSmoke
  agree : ∀ trial ∈ trials, Agrees shown gates (some trial) trials.head?

theorem canonical_of_manifests (isTrials : trialManifests shown gh currentRunId = .ok trials) :
    ∀ trial ∈ trials, Canonical shown trial.smokeSpend := by
  intro trial member
  obtain ⟨runs, -, isRead⟩ := bind_eq_ok.mp isTrials
  obtain ⟨run, -, found⟩ := (mem_readAll isRead).mp member
  unfold readTrialRun readRun at found
  simp only [bind_eq_ok] at found
  obtain ⟨_, -, _, -, eligible, -, read⟩ := found
  cases eligible with
  | false => cases read
  | true =>
      obtain ⟨manifest, isManifest, same⟩ := bind_eq_ok.mp read
      obtain rfl := Option.some.inj (Except.ok.inj same)
      simp only [trialManifest, bind_eq_ok, pure_eq_ok] at isManifest
      obtain ⟨_, -, _, -, _, -, _, -, _, -, _, -, _, -, _, -, records, valid, _, -, _, -, rfl⟩ :=
        isManifest
      exact validateSmokeSpend_canonical valid

omit [JsonFloat F] in
theorem readAll_of_reordered {A : Type} (read : GitHub F → Json F → Except String (Option A))
    {file : String} {found : List A} (reordered : Reordered gh other)
    (sameRead : ∀ pages, read { gh with runPages := pages } = read gh)
    (isRead : listWorkflowRuns gh file >>= readAll (read gh) = .ok found) :
    ∃ again, listWorkflowRuns other file >>= readAll (read other) = .ok again ∧
      again.Perm found := by
  obtain ⟨runs, listed, isRead⟩ := bind_eq_ok.mp isRead
  obtain ⟨others, listedAgain, perm⟩ := reordered.runs _ _ listed
  obtain ⟨again, readAgain, same⟩ := readAll_perm perm isRead
  obtain ⟨_, artifacts, member⟩ := other
  obtain rfl : artifacts = gh.artifactPages := reordered.artifacts
  obtain rfl : member = gh.member := reordered.member
  exact ⟨again, bind_eq_ok.mpr ⟨others, listedAgain, sameRead _ ▸ readAgain⟩, same⟩

/-- The answers in which the trial runs are listed as given. -/
def relisted (gh : GitHub F) (runs : List (Json F)) : GitHub F :=
  { gh with
    runPages := fun file =>
      if file = trialWorkflowFile then
        .ok (.array [.object [("total_count", .int runs.length), ("workflow_runs", .array runs)]])
      else gh.runPages file }

omit [JsonFloat F] in
theorem listed_relisted (runs : List (Json F)) :
    listWorkflowRuns (relisted gh runs) trialWorkflowFile = .ok runs := by
  have pages : (relisted gh runs).runPages trialWorkflowFile =
      .ok (.array [.object [("total_count", .int runs.length), ("workflow_runs", .array runs)]]) := by
    simp [relisted]
  have listed : pageElements "workflow_runs"
      "a workflow run listing page has no workflow_runs list"
      [.object [("total_count", (.int runs.length : Json F)), ("workflow_runs", .array runs)]] =
        .ok (runs ++ []) := rfl
  unfold listWorkflowRuns
  simp only [bind_eq_ok, pure_eq_ok]
  refine ⟨_, pages, _, bind_eq_ok.mpr ⟨(), ?_, rfl⟩, runs, ?_, (), ?_, rfl⟩
  · rw [require_eq_ok]
    intro page member
    obtain rfl := List.mem_singleton.mp member
    rfl
  · rw [listed, List.append_nil]
  · show checkTotal (.int (runs.length : Int) : Json F) runs.length _ _ = _
    simp only [checkTotal, bind_eq_ok, require_eq_ok]
    exact ⟨(), Int.natCast_nonneg _, trivial⟩

omit [JsonFloat F] in
theorem reordered_relisted {runs again : List (Json F)}
    (listed : listWorkflowRuns gh trialWorkflowFile = .ok runs) (perm : again.Perm runs) :
    Reordered gh (relisted gh again) := by
  refine ⟨fun file held isHeld => ?_, rfl, rfl⟩
  by_cases trial : file = trialWorkflowFile
  · subst trial
    obtain rfl := Except.ok.inj (listed.symm.trans isHeld)
    exact ⟨again, listed_relisted again, perm⟩
  · refine ⟨held, ?_, .refl _⟩
    have pages : (relisted gh again).runPages file = gh.runPages file := if_neg trial
    unfold listWorkflowRuns at isHeld ⊢
    rw [pages]
    exact isHeld

/-- The identities of the first manifest are the default ones where the history holds them. -/
theorem default_of_counted
    (holds : Holds shown gates trials.head? history.smokeSpend)
    (counts : CountsOnce shown gh digest currentRunId gates trials.head? history) :
    ∀ trial ∈ trials.head?, ∀ identity spent, OwnSpend shown trial identity spent →
      identity.allowanceId = Live.allowanceId ∧ identity.phase = phaseSmoke := by
  intro trial isTrial identity spent own
  obtain ⟨spends, -, members, related, -⟩ := counts.entries
  have read : identity.Read shown := by
    obtain ⟨entry, _, back, _⟩ := own
    exact legacyIdentity_ok back
  obtain ⟨entry, inside, keyed, -⟩ := (beside related).1 (identity, spent)
    ((members identity spent).mpr (.inl (.inr ⟨trial, isTrial, own⟩)))
  obtain ⟨found, ⟨kept, -, rfl⟩, itsKey⟩ :=
    holds.get?_iff.mp (Dict.get?_of_mem holds.canonical.ordered inside)
  have same := identityKey_injective read.free keyed itsKey
  rw [← same]
  exact ⟨rfl, rfl⟩

omit [JsonFloat F] in
/-- The records of default identities are counted once. -/
theorem entries_of_default (holds : Holds shown gates trials.head? history.smokeSpend)
    (default : ∀ trial ∈ trials.head?, ∀ identity spent, OwnSpend shown trial identity spent →
      identity.allowanceId = Live.allowanceId ∧ identity.phase = phaseSmoke) :
    ∃ spends : List (SmokeIdentity × Nat), (spends.map Prod.fst).Nodup ∧
      (∀ identity spent, (identity, spent) ∈ spends ↔
        Kept (Paid shown gates trials.head?) identity spent) ∧
      List.Forall₂ (fun spend entry => identityKey spend.1 = .ok entry.1 ∧ spend.2 = entry.2)
        spends history.smokeSpend ∧
      (history.smokeSpend.map Prod.snd).sum = (spends.map Prod.snd).sum := by
  obtain ⟨seen, state, seenRead, members⟩ := holds.merged
  have kept : ∀ paid ∈ seen, paid.1.refiled = paid.1 := by
    rintro ⟨identity, spent⟩ member
    rcases (members identity spent).mp member with
      (⟨gate, -, rfl, -⟩ | ⟨trial, isTrial, own⟩) | ⟨-, rfl, -⟩
    · rfl
    · exact refiled_eq_self (default trial isTrial identity spent own)
    · rfl
  obtain ⟨spends, distinct, same, related, total⟩ := state.entries seenRead kept
  exact ⟨spends, distinct, fun identity spent => (same _).trans (members identity spent), related,
    total.symm⟩

/-- A history that was collected counts every identity once, in any order of the runs, exactly where
the first manifest names the default allowance and phase and the manifests leave one history. -/
theorem counts_once_iff
    (collected : collectAllowanceHistory gh digest shown currentRunId = .ok history) :
    ∃ gates trials, smokeGates shown gh digest currentRunId = .ok gates ∧
      trialManifests shown gh currentRunId = .ok trials ∧
      (CountsOnce shown gh digest currentRunId gates trials.head? history ↔
        Consistent shown gates trials) := by
  obtain ⟨gates, trials, isGates, isTrials, done⟩ := collected_iff.mp collected
  have canonical := canonical_of_manifests isTrials
  have holds := historyOf_holds canonical done
  obtain ⟨same, reads, -, -, -, summed, ledger⟩ := (historyOf_eq_ok canonical).mp done
  refine ⟨gates, trials, isGates, isTrials, fun counts => ⟨?_, ?_⟩, fun consistent => ⟨?_, ?_, ?_, ?_⟩⟩
  · exact default_of_counted holds counts
  · -- any manifest is the first one of some order
    intro trial member
    obtain ⟨runs, listed, isRead⟩ := bind_eq_ok.mp isTrials
    obtain ⟨others, perm, rest, readOthers⟩ := readAll_first isRead member
    have reordered := reordered_relisted listed perm
    obtain ⟨gatesAgain, again, isGatesAgain, isAgain, also⟩ :=
      collected_iff.mp (counts.reordered _ reordered)
    have sameGates : gatesAgain = gates :=
      Except.ok.inj (isGatesAgain.symm.trans isGates)
    have first : again = trial :: rest := by
      have isAgain' : trialManifests shown (relisted gh others) currentRunId = .ok (trial :: rest) :=
        bind_eq_ok.mpr ⟨others, listed_relisted others, readOthers⟩
      exact Except.ok.inj (isAgain.symm.trans isAgain')
    obtain ⟨permuted, isPermuted, samePerm⟩ := readAll_perm perm isRead
    obtain rfl : permuted = trial :: rest := Except.ok.inj (isPermuted.symm.trans readOthers)
    rw [sameGates, first] at also
    exact agrees_of_histories canonical samePerm done also
  · obtain ⟨spends, distinct, members, related, total⟩ := entries_of_default holds consistent.default
    refine ⟨spends, distinct, members, related, ?_⟩
    rw [smokeSpendTotal_canonical holds.canonical] at summed
    exact (Except.ok.inj summed).symm.trans total
  · rw [ledger]
    exact Nat.le_max_right ..
  · intro trial isTrial
    rw [ledger, Option.mem_def.mp isTrial]
    exact (Nat.le_max_left ..).trans (Nat.le_max_left ..)
  · intro other reordered
    obtain ⟨others, isOthers, sameGates⟩ :=
      readAll_of_reordered (fun gh => readSmokeRun gh digest shown currentRunId) reordered
        (fun _ => rfl) isGates
    obtain ⟨again, isAgain, sameTrials⟩ :=
      readAll_of_reordered (fun gh => readTrialRun gh shown currentRunId) reordered
        (fun _ => rfl) isTrials
    refine collected_iff.mpr ⟨others, again, isOthers, isAgain, ?_⟩
    refine historyOf_reordered canonical done sameGates sameTrials ?_
    cases again with
    | nil =>
        obtain rfl := sameTrials.symm.eq_nil
        exact ⟨rfl, fun _ _ => Iff.rfl⟩
    | cons trial rest => exact consistent.agree trial (sameTrials.subset (List.mem_cons_self ..))

end Counted

end History

section Sample

open Aegis.Budget (ZeroFloat)

def hexText (length : Nat) (digit : Char) : String := String.ofList (List.replicate length digit)

/-- The SHA-256 of the one proof of the samples. -/
def sampleProofDigest : List Char → String := fun _ =>
  "2d078b698446777bfda05650a790db39e01e80542125eb0cf6ce5e067d39bfd7"

def sampleProof : Json ZeroFloat :=
  .object [("built_config_sha256", .str (hexText 64 'b')), ("citability", .str "REAL_HOST"),
    ("config_template_sha256", .str (hexText 64 'c')), ("dataset_sha256", .str (hexText 64 'd')),
    ("dispatched_calls", .int 2), ("gate_id", .str "gate-1"), ("head_sha", .str (hexText 40 'a')),
    ("judge_model", .str "gpt-6-astra"), ("judge_vendor", .str "openai"),
    ("max_output_tokens", .int 16384), ("planned_calls", .int 2),
    ("proof_sha256", .str (sampleProofDigest [])), ("schema", .str smokeProofSchema),
    ("spent_cents", .int 25), ("status", .str "PASS"), ("subject_vendor", .str "anthropic"),
    ("workflow", .str "eval-smoke")]

/-- A manifest with the given smoke spend and total. -/
def sampleManifest (smokeSpend : List (String × Json ZeroFloat)) (total : Int) : Json ZeroFloat :=
  .object [("plan", .object [("config_sha256", .str (hexText 64 'c')),
      ("dataset_sha256", .str (hexText 64 'd')), ("dispatch_sha", .str (hexText 40 'a')),
      ("gate_id", .str "gate-1"), ("max_output_tokens", .int 16384),
      ("subject_vendors", .array [.str "anthropic"])]),
    ("schema", .str resumeManifestSchema), ("smoke_spend", .object smokeSpend),
    ("totals", .object [("spent_cents", .int total)])]

def samplePage (key : String) (elements : List (Json ZeroFloat)) : Json ZeroFloat :=
  .array [.object [("total_count", .int elements.length), (key, .array elements)]]

def sampleEnded (id : Int) : Json ZeroFloat :=
  .object [("head_sha", .str (hexText 40 'a')), ("id", .int id), ("status", .str "completed")]

/-- The ended smoke runs of the given ids, and one ended trial run with the manifest. -/
def sampleGitHub (smokeIds : List Int) (manifest : Json ZeroFloat) : GitHub ZeroFloat where
  runPages file := .ok (samplePage "workflow_runs"
    (if file = smokeWorkflowFile then smokeIds.map sampleEnded else [sampleEnded 8001]))
  artifactPages _ := .ok (samplePage "artifacts"
    [.object [("name", .str smokeArtifactName)], .object [("name", .str "ber-resume-manifest")]])
  member _ name _ := .ok (if name = smokeArtifactName then sampleProof else manifest)

theorem history_of_sample :
    ∃ gates trials,
      smokeGates sampleShown (sampleGitHub [7001] (sampleManifest [("7001", .int 25),
        ("7002#2", .int 30)] 400)) sampleProofDigest .null = .ok gates ∧
      trialManifests sampleShown (sampleGitHub [7001] (sampleManifest [("7001", .int 25),
        ("7002#2", .int 30)] 400)) .null = .ok trials ∧
      (CountsOnce sampleShown (sampleGitHub [7001] (sampleManifest [("7001", .int 25),
          ("7002#2", .int 30)] 400)) sampleProofDigest .null gates trials.head?
          ⟨345, [("pilot-a-recovery-20261031|7001|1|smoke-proof", 25),
            ("pilot-a-recovery-20261031|7002|2|smoke-proof", 30)], 55⟩ ↔
        Consistent sampleShown gates trials) :=
  counts_once_iff (by decide +kernel)

/-- The manifest of the run 5 of two allowances. -/
def mergedManifest : Json ZeroFloat :=
  sampleManifest [("5", .int 20), ("other|5|1|smoke-proof", .int 20)] 300

/-- The run of the other allowance is filed as the run of the same id of the default one: of 40
cents that were paid the history counts 20, and the ledger does not count the rest. -/
theorem allowance_merged :
    collectAllowanceHistory (sampleGitHub [] mergedManifest) sampleProofDigest sampleShown .null =
        .ok ⟨260, [("pilot-a-recovery-20261031|5|1|smoke-proof", 20)], 20⟩ ∧
      smokeGates sampleShown (sampleGitHub [] mergedManifest) sampleProofDigest .null = .ok [] ∧
      trialManifests sampleShown (sampleGitHub [] mergedManifest) .null =
        .ok [⟨300, [("other|5|1|smoke-proof", 20),
          ("pilot-a-recovery-20261031|5|1|smoke-proof", 20)]⟩] ∧
      ¬ CountsOnce sampleShown (sampleGitHub [] mergedManifest) sampleProofDigest .null []
        (some ⟨300, [("other|5|1|smoke-proof", 20),
          ("pilot-a-recovery-20261031|5|1|smoke-proof", 20)]⟩)
        ⟨260, [("pilot-a-recovery-20261031|5|1|smoke-proof", 20)], 20⟩ := by
  refine ⟨by decide +kernel, by decide +kernel, by decide +kernel, fun counts => ?_⟩
  obtain ⟨spends, -, members, related, -⟩ := counts.entries
  have other : (⟨"other", "5", 1, "smoke-proof"⟩, 20) ∈ spends :=
    (members _ _).mpr (.inl (.inr ⟨_, rfl, ("other|5|1|smoke-proof", 20), by simp,
      by decide +kernel, rfl⟩))
  obtain ⟨entry, listed, keyed, -⟩ := (beside related).1 _ other
  obtain rfl := List.mem_singleton.mp listed
  exact absurd keyed (by decide +kernel)

end Sample

end Aegis.Live

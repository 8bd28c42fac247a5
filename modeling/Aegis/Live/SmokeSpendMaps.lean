/-
# Live.SmokeSpendMaps — maps of spends that are validated, extended and restored

What `validateSmokeSpend` returns is `Canonical`: its keys are the keys of identities that were
read from keys. A canonical map is validated without change; the map that `addSmokeSpend` returns
is one exactly when the new identity survives its key (`smokeIdentity_survives_iff`).
`restoreSmokeSpend` files every record under the default allowance and phase, so it keeps the
identities of its maps exactly when they all have these (`restored_iff`).
-/
import Aegis.Budget.Conservation
import Aegis.Live.SmokeIdentities

namespace Aegis.Live

open Aegis.Lib
open Aegis.Lib.Guarded

set_option autoImplicit false

section Spends

variable {F : Type} [JsonFloat F] {shown : Shown F}

/-! ## Canonical maps -/

/-- A map whose keys are those of identities that keys can give. -/
structure Canonical (shown : Shown F) (spend : SmokeSpend) : Prop where
  ordered : Dict.Ordered spend
  keys : ∀ entry ∈ spend, ∃ identity : SmokeIdentity, identity.Read shown ∧
    identityKey identity = .ok entry.1

omit [JsonFloat F] in
theorem canonical_nil : Canonical shown [] :=
  ⟨Dict.ordered_nil, fun _ member => absurd member List.not_mem_nil⟩

omit [JsonFloat F] in
theorem SmokeIdentity.Read.key {identity : SmokeIdentity} (read : identity.Read shown) :
    ∃ key, identityKey identity = .ok key := by
  obtain ⟨attempt, written⟩ := read.written
  exact ⟨_, identityKey_eq_ok.mpr ⟨attempt, written, rfl⟩⟩

omit [JsonFloat F] in
theorem Canonical.assign {spend : SmokeSpend} (canonical : Canonical shown spend)
    {identity : SmokeIdentity} (read : identity.Read shown) {key : String}
    (keyed : identityKey identity = .ok key) (cents : Nat) :
    Canonical shown (Dict.assign spend key cents) where
  ordered := Dict.ordered_assign canonical.ordered _ _
  keys := by
    intro entry member
    rcases Dict.mem_assign member with held | rfl
    · exact canonical.keys entry held
    · exact ⟨identity, read, keyed⟩

omit [JsonFloat F] in
theorem strictCents_eq_ok {value : Json F} {label : String} {cents : Nat} :
    strictCents value label = .ok cents ↔ value = .int cents := by
  unfold strictCents
  constructor
  · intro done
    split at done
    · rename_i held
      split at done
      · rename_i positive
        obtain rfl := Except.ok.inj done
        rw [Int.toNat_of_nonneg positive]
      · cases done
    · cases done
  · rintro rfl
    show (if (0 : Int) ≤ cents then pure (cents : Int).toNat else _ : Except String Nat) = _
    rw [if_pos (Int.natCast_nonneg cents), Int.toNat_natCast]
    rfl

/-- What a turn of the loop reads. -/
theorem readSpend_ok {reading after : SpendReading} {entry : String × Json F}
    (done : readSpend shown reading entry = .ok after) :
    ∃ identity key cents, legacyIdentity shown entry.1 = .ok identity ∧
      identityKey identity = .ok key ∧ entry.2 = .int (cents : Nat) ∧
      after = ⟨Dict.assign reading.out key cents,
        Dict.assign reading.seenIdentity key entry.1⟩ := by
  simp only [readSpend, bind_eq_ok, refuse_eq_ok, pure_eq_ok, strictCents_eq_ok] at done
  obtain ⟨_, -, identity, read, key, keyed, _, -, _, -, cents, spent, rfl⟩ := done
  exact ⟨identity, key, cents, read, keyed, spent, rfl⟩

theorem readSpends_ok {entries : List (String × Json F)} {reading after : SpendReading}
    (canonical : Canonical shown reading.out)
    (done : entries.foldlM (readSpend shown) reading = .ok after) :
    Canonical shown after.out ∧ ∀ entry ∈ entries, ∃ identity : SmokeIdentity, ∃ cents : Nat,
      legacyIdentity shown entry.1 = .ok identity ∧ entry.2 = .int cents := by
  induction entries generalizing reading with
  | nil =>
      obtain rfl := Except.ok.inj done
      exact ⟨canonical, fun _ member => absurd member List.not_mem_nil⟩
  | cons entry rest ih =>
      rw [List.foldlM_cons, bind_eq_ok] at done
      obtain ⟨middle, first, later⟩ := done
      obtain ⟨identity, key, cents, read, keyed, spent, rfl⟩ := readSpend_ok first
      obtain ⟨grown, others⟩ := ih (canonical.assign (legacyIdentity_ok read) keyed cents) later
      exact ⟨grown, List.forall_mem_cons.mpr ⟨⟨identity, cents, read, spent⟩, others⟩⟩

/-- **What is validated is canonical.** -/
theorem validateSmokeSpend_canonical {records : Json F} {spend : SmokeSpend}
    (done : validateSmokeSpend shown records = .ok spend) : Canonical shown spend := by
  unfold validateSmokeSpend at done
  split at done
  · obtain rfl := Except.ok.inj done
    exact canonical_nil
  · simp only [bind_eq_ok, pure_eq_ok] at done
    obtain ⟨reading, read, rfl⟩ := done
    exact (readSpends_ok canonical_nil read).1
  · cases done

omit [JsonFloat F] in
theorem strip_key {identity : SmokeIdentity} {key : String} (accepted : identity.Accepted shown)
    (keyed : identityKey identity = .ok key) : strip key ≠ "" := by
  have trimmed := strip_eq_self_iff.mpr (trimmed_key accepted keyed)
  obtain ⟨attempt, -, rfl⟩ := identityKey_eq_ok.mp keyed
  rw [trimmed]
  intro none
  have chars := congrArg String.toList none
  rw [joined_four] at chars
  simp at chars

/-- A turn of the loop adds a new canonical entry behind the others. -/
theorem readSpend_above {spend : SmokeSpend} {entry : String × Nat} {identity : SmokeIdentity}
    (above : ∀ held ∈ spend, held.1 < entry.1) (read : identity.Read shown)
    (keyed : identityKey identity = .ok entry.1) :
    readSpend shown ⟨spend, spend.map fun held => (held.1, held.1)⟩ (entry.1, .int entry.2) =
      .ok ⟨spend ++ [entry], (spend ++ [entry]).map fun held => (held.1, held.1)⟩ := by
  have absent : ∀ {β : Type} (f : String × Nat → β),
      Dict.get? (spend.map fun held => (held.1, f held)) entry.1 = none := by
    intro β f
    rw [Dict.get?_eq_none]
    intro member
    simp only [List.map_map, List.mem_map, Function.comp_apply] at member
    obtain ⟨held, inside, same⟩ := member
    exact String.ne_of_lt (above held inside) same
  have unseen := absent Prod.fst
  have unspent : Dict.get? spend entry.1 = none := by
    have found := absent Prod.snd
    rwa [List.map_id''  (fun _ => rfl)] at found
  have back := (legacyIdentity_key_iff read.accepted keyed).mpr read.free
  simp only [readSpend, bind_eq_ok, refuse_eq_ok, pure_eq_ok, strictCents_eq_ok]
  refine ⟨(), strip_key read.accepted keyed, identity, back, entry.1, keyed, (), ?_, (), ?_,
    entry.2, rfl, ?_⟩
  · simp [unseen]
  · simp [unspent]
  · rw [Dict.assign_above _ above, Dict.assign_above, List.map_append]
    · rfl
    · intro held member
      obtain ⟨inside, insideMember, rfl⟩ := List.mem_map.mp member
      exact above inside insideMember

/-- **A canonical map is validated without change.** -/
theorem Canonical.validates {spend : SmokeSpend} (canonical : Canonical shown spend) :
    validateSmokeSpend shown (SmokeSpend.records spend) = .ok spend := by
  have run : ∀ before later : SmokeSpend, before ++ later = spend →
      (later.map fun entry : String × Nat => (entry.1, (.int entry.2 : Json F))).foldlM (readSpend shown)
        ⟨before, before.map fun held => (held.1, held.1)⟩ =
      .ok ⟨spend, spend.map fun held => (held.1, held.1)⟩ := by
    intro before later
    induction later generalizing before with
    | nil =>
        rintro rfl
        rw [List.append_nil]
        rfl
    | cons entry rest ih =>
        intro whole
        have member : entry ∈ spend := whole ▸ List.mem_append_right _ (List.mem_cons_self ..)
        obtain ⟨identity, read, keyed⟩ := canonical.keys entry member
        have ordered := canonical.ordered
        rw [← whole] at ordered
        have above : ∀ held ∈ before, held.1 < entry.1 := fun held inside =>
          (List.pairwise_append.mp ordered).2.2 held inside entry (List.mem_cons_self ..)
        rw [List.map_cons, List.foldlM_cons, readSpend_above above read keyed]
        refine ih (before ++ [entry]) ?_
        rw [List.append_assoc]
        exact whole
  show (do
    let reading ← (spend.map fun entry : String × Nat => (entry.1, (.int entry.2 : Json F))).foldlM
      (readSpend shown) {}
    pure reading.out) = _
  rw [bind_eq_ok]
  exact ⟨_, run [] spend rfl, rfl⟩

/-! ## What a new identity needs -/

/-- What is made of the identity of the arguments: its key reads back, no other identity has the
key, and a map it is added to is validated without change. -/
structure Survives (shown : Shown F) (workflowRunId runAttempt allowance phase : Json F)
    (identity : SmokeIdentity) : Prop where
  back : ∃ key, identityKey identity = .ok key ∧ legacyIdentity shown key = .ok identity
  alone : ∀ (runId attempt allowance phase : Json F) (other : SmokeIdentity),
    recordIdentity shown runId attempt allowance phase = .ok other → other ≠ identity →
    identityKey other ≠ identityKey identity
  validated : ∀ (records spent : Json F) (result : SmokeSpend),
    addSmokeSpend shown records workflowRunId spent runAttempt allowance phase = .ok result →
    validateSmokeSpend shown (SmokeSpend.records result) = .ok result

/-- The text of a value holds no separator. -/
def SeparatorFree (shown : Shown F) (value : Json F) : Prop :=
  ∀ text, pythonStr shown value = .ok text → '|' ∉ text.toList

/-- The arguments of an identity that survives: texts without a separator, and an attempt that can
be written. -/
structure Encodable (shown : Shown F) (workflowRunId runAttempt allowance phase : Json F) : Prop where
  runId : SeparatorFree shown workflowRunId
  allowance : SeparatorFree shown allowance
  phase : SeparatorFree shown phase
  attempt : ∀ count : Nat, runAttempt = .int count → (Nat.toDigits 10 count).length ≤ maxStrDigits

omit [JsonFloat F] in
theorem separator_mem_strip {text : String} : '|' ∈ (strip text).toList ↔ '|' ∈ text.toList := by
  rw [strip_toList]
  exact mem_stripChars (by decide)

omit [JsonFloat F] in
theorem attemptOf_ok {value : Json F} {attempt : Nat} (done : attemptOf value = .ok attempt) :
    value = .null ∧ attempt = 1 ∨ value = .int attempt := by
  unfold attemptOf at done
  split at done
  · exact .inl ⟨rfl, (Except.ok.inj done).symm⟩
  · exact .inr (strictPositiveInt_ok done).1

omit [JsonFloat F] in
/-- The fields of an identity are the texts of the arguments. -/
theorem recordIdentity_fields {workflowRunId runAttempt allowance phase : Json F}
    {identity : SmokeIdentity}
    (done : recordIdentity shown workflowRunId runAttempt allowance phase = .ok identity) :
    (∃ text, pythonStr shown workflowRunId = .ok text ∧ identity.workflowRunId = strip text) ∧
    (∃ text, pythonStr shown allowance = .ok text ∧ identity.allowanceId = strip text) ∧
    (∃ text, pythonStr shown phase = .ok text ∧ identity.phase = strip text) ∧
    attemptOf runAttempt = .ok identity.runAttempt := by
  simp only [recordIdentity, normalizeSmokeRunId, bind_eq_ok, refuse_eq_ok, pure_eq_ok] at done
  obtain ⟨allowanceText, isAllowance, _, -, phaseText, isPhase, _, -, attempt, isAttempt, runId,
    ⟨given, isGiven, _, -, _, -, rfl⟩, rfl⟩ := done
  refine ⟨⟨given, ?_, rfl⟩, ⟨_, isAllowance, rfl⟩, ⟨_, isPhase, rfl⟩, isAttempt⟩
  unfold runIdText at isGiven
  split at isGiven
  · exact isGiven
  · exact isGiven
  · cases isGiven

omit [JsonFloat F] in
/-- The condition on the arguments is one on the identity. -/
theorem encodable_iff {workflowRunId runAttempt allowance phase : Json F}
    {identity : SmokeIdentity}
    (done : recordIdentity shown workflowRunId runAttempt allowance phase = .ok identity) :
    Encodable shown workflowRunId runAttempt allowance phase ↔
      identity.Free ∧ ∃ text, natText identity.runAttempt = some text := by
  obtain ⟨⟨runId, isRun, run⟩, ⟨allow, isAllow, allowed⟩, ⟨phased, isPhase, phases⟩, isAttempt⟩ :=
    recordIdentity_fields done
  have alike : ∀ {value : Json F} {text field : String}, pythonStr shown value = .ok text →
      field = strip text → (SeparatorFree shown value ↔ '|' ∉ field.toList) := by
    rintro value text field shows rfl
    rw [separator_mem_strip]
    constructor
    · exact fun free => free text shows
    · intro free other again
      rw [shows] at again
      obtain rfl := Except.ok.inj again
      exact free
  rw [natText_isSome_iff]
  constructor
  · intro encodable
    refine ⟨⟨(alike isAllow allowed).mp encodable.allowance, (alike isRun run).mp encodable.runId,
      (alike isPhase phases).mp encodable.phase⟩, ?_⟩
    rcases attemptOf_ok isAttempt with ⟨-, first⟩ | given
    · rw [first]
      decide +kernel
    · exact encodable.attempt _ given
  · rintro ⟨⟨isAllowance, isRunId, isPhaseText⟩, short⟩
    refine ⟨(alike isRun run).mpr isRunId, (alike isAllow allowed).mpr isAllowance,
      (alike isPhase phases).mpr isPhaseText, ?_⟩
    rintro count rfl
    rcases attemptOf_ok isAttempt with ⟨none, -⟩ | same
    · cases none
    · injection same with same
      rw [Int.ofNat.inj same]
      exact short

/-- What an addition checks, and the map it returns. -/
theorem addSmokeSpend_ok {records smokeRunId spentCents runAttempt allowance phase : Json F}
    {result : SmokeSpend}
    (done : addSmokeSpend shown records smokeRunId spentCents runAttempt allowance phase =
      .ok result) :
    ∃ current identity key cents, validateSmokeSpend shown records = .ok current ∧
      recordIdentity shown smokeRunId runAttempt allowance phase = .ok identity ∧
      identityKey identity = .ok key ∧ spentCents = .int (cents : Nat) ∧
      (∀ held ∈ Dict.get? current key, held = cents) ∧ result = Dict.assign current key cents := by
  simp only [addSmokeSpend, bind_eq_ok, refuse_eq_ok, pure_eq_ok, strictCents_eq_ok] at done
  obtain ⟨current, valid, identity, recorded, key, keyed, cents, spent, _, agrees, rfl⟩ := done
  refine ⟨current, identity, key, cents, valid, recorded, keyed, spent, ?_, rfl⟩
  intro held member
  by_contra other
  exact agrees ⟨held, member, other⟩

/-- **Exactly the identities of texts without a separator and of an attempt that can be written
survive their key.** -/
theorem smokeIdentity_survives_iff {workflowRunId runAttempt allowance phase : Json F}
    {identity : SmokeIdentity}
    (done : recordIdentity shown workflowRunId runAttempt allowance phase = .ok identity) :
    Survives shown workflowRunId runAttempt allowance phase identity ↔
      Encodable shown workflowRunId runAttempt allowance phase := by
  have accepted := recordIdentity_ok done
  rw [encodable_iff done]
  constructor
  · intro survives
    obtain ⟨key, keyed, back⟩ := survives.back
    obtain ⟨attempt, written, -⟩ := identityKey_eq_ok.mp keyed
    exact ⟨(legacyIdentity_key_iff accepted keyed).mp back, attempt, written⟩
  · rintro ⟨free, attempt, written⟩
    have keyed : identityKey identity = .ok _ := identityKey_eq_ok.mpr ⟨attempt, written, rfl⟩
    refine ⟨⟨_, keyed, (legacyIdentity_key_iff accepted keyed).mpr free⟩, ?_, ?_⟩
    · intro runId otherAttempt otherAllowance otherPhase other _ distinct same
      exact distinct (identityKey_injective free keyed (same.trans keyed))
    · intro records spent result added
      obtain ⟨current, again, key, cents, valid, recorded, keyed', -, -, rfl⟩ :=
        addSmokeSpend_ok added
      rw [done] at recorded
      obtain rfl := Except.ok.inj recorded
      exact ((validateSmokeSpend_canonical valid).assign ⟨accepted, free, attempt, written⟩ keyed'
        cents).validates

/-! ## Restored maps -/

/-- The identity under which a record is restored: its allowance and its phase are dropped. -/
def SmokeIdentity.refiled (identity : SmokeIdentity) : SmokeIdentity :=
  { identity with allowanceId := Live.allowanceId, phase := phaseSmoke }

/-- One of the maps records the spend for the identity. -/
def Occurs (shown : Shown F) (maps : List (List (String × Json F))) (identity : SmokeIdentity)
    (spent : Nat) : Prop :=
  ∃ entry ∈ maps.flatten, legacyIdentity shown entry.1 = .ok identity ∧ entry.2 = .int spent

/-- What is restored of the maps: one entry for each identity, with its spend, whatever the order
and the repetitions of the maps. -/
structure Restored (shown : Shown F) (maps : List (List (String × Json F)))
    (result : SmokeSpend) : Prop where
  entries : ∃ spends : List (SmokeIdentity × Nat), (spends.map Prod.fst).Nodup ∧
    (∀ identity spent, (identity, spent) ∈ spends ↔ Occurs shown maps identity spent) ∧
    List.Forall₂ (fun spend entry => identityKey spend.1 = .ok entry.1 ∧ spend.2 = entry.2)
      spends result ∧
    smokeSpendTotal shown (SmokeSpend.records result) = .ok (spends.map Prod.snd).sum
  reordered : ∀ others : List (List (String × Json F)), (∀ map, map ∈ others ↔ map ∈ maps) →
    restoreSmokeSpend shown (.array (others.map .object)) .null = .ok result

omit [JsonFloat F] in
theorem SmokeIdentity.Read.refiled {identity : SmokeIdentity} (read : identity.Read shown) :
    identity.refiled.Read shown where
  accepted :=
    { read.accepted with
      allowance := by
        show Trimmed Live.allowanceId.toList ∧ Live.allowanceId ≠ ""
        refine ⟨⟨?_, ?_⟩, ?_⟩ <;> decide +kernel
      phase := by
        show Trimmed phaseSmoke.toList ∧ phaseSmoke ≠ ""
        refine ⟨⟨?_, ?_⟩, ?_⟩ <;> decide +kernel }
  free := ⟨free_defaults.1, read.free.2.1, free_defaults.2⟩
  written := read.written

omit [JsonFloat F] in
theorem refiled_eq_self {identity : SmokeIdentity}
    (default : identity.allowanceId = Live.allowanceId ∧ identity.phase = phaseSmoke) :
    identity.refiled = identity := by
  obtain ⟨allowance, phase⟩ := default
  unfold SmokeIdentity.refiled
  rw [← allowance, ← phase]

/-- What the records read so far have left in the merged map. -/
structure Merged (shown : Shown F) (merged : SmokeSpend) (seen : List (SmokeIdentity × Nat)) :
    Prop where
  canonical : Canonical shown merged
  held : ∀ key spent, Dict.get? merged key = some spent ↔
    ∃ identity, (identity, spent) ∈ seen ∧ identityKey identity.refiled = .ok key

omit [JsonFloat F] in
theorem merged_nil : Merged shown [] [] where
  canonical := canonical_nil
  held _ _ := by simp

variable {merged : SmokeSpend} {seen : List (SmokeIdentity × Nat)}

omit [JsonFloat F] in
/-- A spend is merged where the held ones of its key agree. -/
theorem Merged.assign (state : Merged shown merged seen) {identity : SmokeIdentity}
    (read : identity.Read shown) {key : String} (keyed : identityKey identity.refiled = .ok key)
    {cents : Nat} (agrees : ∀ held ∈ Dict.get? merged key, held = cents) :
    Merged shown (Dict.assign merged key cents) (seen ++ [(identity, cents)]) where
  canonical := state.canonical.assign read.refiled keyed cents
  held := by
    intro asked spent
    rw [Dict.get?_assign]
    simp only [List.mem_append, List.mem_singleton, Prod.mk.injEq]
    constructor
    · intro found
      split at found
      · rename_i same
        obtain rfl := Option.some.inj found
        exact ⟨identity, .inr ⟨rfl, rfl⟩, same ▸ keyed⟩
      · obtain ⟨other, member, itsKey⟩ := (state.held asked spent).mp found
        exact ⟨other, .inl member, itsKey⟩
    · rintro ⟨other, member | ⟨rfl, rfl⟩, itsKey⟩
      · have found := (state.held asked spent).mpr ⟨other, member, itsKey⟩
        split
        · rename_i same
          subst same
          rw [agrees spent found]
        · exact found
      · rw [keyed] at itsKey
        rw [if_pos (Except.ok.inj itsKey).symm]

/-- What a restored record adds. -/
theorem restoreEntry_ok {after : SmokeSpend} {entry : String × Json F}
    (state : Merged shown merged seen) (done : restoreEntry shown merged entry = .ok after) :
    ∃ identity cents, legacyIdentity shown entry.1 = .ok identity ∧
      entry.2 = .int (cents : Nat) ∧ Merged shown after (seen ++ [(identity, cents)]) := by
  simp only [restoreEntry, bind_eq_ok] at done
  obtain ⟨identity, back, added⟩ := done
  have read := legacyIdentity_ok back
  obtain ⟨current, filed, key, cents, valid, recorded, keyed, spent, agrees, rfl⟩ :=
    addSmokeSpend_ok added
  rw [state.canonical.validates] at valid
  obtain rfl := Except.ok.inj valid
  have refiled : recordIdentity shown (.str identity.workflowRunId) (.int identity.runAttempt)
      (.str allowanceId) (.str phaseSmoke) = .ok identity.refiled :=
    read.refiled.accepted.recordIdentity
  rw [refiled] at recorded
  obtain rfl := Except.ok.inj recorded
  exact ⟨identity, cents, back, spent, state.assign read keyed agrees⟩

/-- A record is restored where no other one that is filed with it has another spend. -/
theorem restoreEntry_eq_ok {entry : String × Json F} (state : Merged shown merged seen)
    {identity : SmokeIdentity} {cents : Nat} (back : legacyIdentity shown entry.1 = .ok identity)
    (spent : entry.2 = .int cents)
    (agree : ∀ other held, (other, held) ∈ seen →
      identityKey other.refiled = identityKey identity.refiled → held = cents) :
    ∃ after, restoreEntry shown merged entry = .ok after := by
  have read := legacyIdentity_ok back
  obtain ⟨key, keyed⟩ := read.refiled.key
  have refiled : recordIdentity shown (.str identity.workflowRunId) (.int identity.runAttempt)
      (.str allowanceId) (.str phaseSmoke) = .ok identity.refiled :=
    read.refiled.accepted.recordIdentity
  simp only [restoreEntry, addSmokeSpend, bind_eq_ok, refuse_eq_ok, pure_eq_ok, strictCents_eq_ok]
  refine ⟨_, identity, back, merged, state.canonical.validates, identity.refiled, refiled, key,
    keyed, cents, spent, (), ?_, rfl⟩
  rintro ⟨held, found, other⟩
  obtain ⟨earlier, member, itsKey⟩ := (state.held key held).mp found
  exact other (agree earlier held member (itsKey.trans keyed.symm))

/-- The maps are restored record by record. -/
theorem restorePriors_eq (maps : List (List (String × Json F))) (index : Nat)
    (merged : SmokeSpend) :
    ((maps.map Json.object).zipIdx index).foldlM (restorePrior shown) merged =
      maps.flatten.foldlM (restoreEntry shown) merged := by
  induction maps generalizing index merged with
  | nil => rfl
  | cons map rest ih =>
      rw [List.map_cons, List.zipIdx_cons, List.foldlM_cons, List.flatten_cons, List.foldlM_append]
      exact bind_congr fun after => ih (index + 1) after

theorem restoreSmokeSpend_maps (maps : List (List (String × Json F))) :
    restoreSmokeSpend shown (.array (maps.map .object)) .null =
      maps.flatten.foldlM (restoreEntry shown) [] := by
  show ((maps.map Json.object).zipIdx.foldlM (restorePrior shown) [] >>= fun merged =>
    pure merged) = _
  rw [restorePriors_eq, bind_pure]

/-- What a sequence of restored records has added. -/
theorem restoreEntries_ok {entries : List (String × Json F)} {after : SmokeSpend}
    (state : Merged shown merged seen)
    (done : entries.foldlM (restoreEntry shown) merged = .ok after) :
    ∃ later, Merged shown after (seen ++ later) ∧
      List.Forall₂ (fun entry spend => legacyIdentity shown entry.1 = .ok spend.1 ∧
        entry.2 = .int (spend.2 : Nat)) entries later := by
  induction entries generalizing merged seen with
  | nil =>
      obtain rfl := Except.ok.inj done
      exact ⟨[], by rwa [List.append_nil], .nil⟩
  | cons entry rest ih =>
      rw [List.foldlM_cons, bind_eq_ok] at done
      obtain ⟨middle, first, last⟩ := done
      obtain ⟨identity, cents, back, spent, grown⟩ := restoreEntry_ok state first
      obtain ⟨later, final, each⟩ := ih grown last
      exact ⟨(identity, cents) :: later, by rwa [List.append_assoc] at final,
        .cons ⟨back, spent⟩ each⟩

/-- Records whose filed spends agree are restored. -/
theorem restoreEntries_eq_ok {P : SmokeIdentity → Nat → Prop}
    (agree : ∀ left right cents held, P left cents → P right held →
      identityKey right.refiled = identityKey left.refiled → held = cents)
    {entries : List (String × Json F)} (state : Merged shown merged seen)
    (before : ∀ spend ∈ seen, P spend.1 spend.2)
    (each : ∀ entry ∈ entries, ∃ identity cents, legacyIdentity shown entry.1 = .ok identity ∧
      entry.2 = .int (cents : Nat) ∧ P identity cents) :
    ∃ after, entries.foldlM (restoreEntry shown) merged = .ok after := by
  induction entries generalizing merged seen with
  | nil => exact ⟨merged, rfl⟩
  | cons entry rest ih =>
      obtain ⟨⟨identity, cents, back, spent, holds⟩, others⟩ := List.forall_mem_cons.mp each
      obtain ⟨middle, first⟩ := restoreEntry_eq_ok state back spent fun other held member =>
        agree identity other cents held holds (before (other, held) member)
      obtain ⟨found, paid, again, same, grown⟩ := restoreEntry_ok state first
      rw [back] at again
      obtain rfl := Except.ok.inj again
      rw [spent] at same
      obtain rfl : cents = paid := by
        injection same with same
        exact Int.ofNat.inj same
      obtain ⟨after, last⟩ := ih grown (by
        intro spend member
        rcases List.mem_append.mp member with old | new
        · exact before spend old
        · obtain rfl := List.mem_singleton.mp new
          exact holds) others
      refine ⟨after, ?_⟩
      rw [List.foldlM_cons, bind_eq_ok]
      exact ⟨middle, first, last⟩

/-- The records of accepted maps. -/
theorem entries_of_accepted {maps : List (List (String × Json F))}
    (accepted : ∀ map ∈ maps, ∃ spend, validateSmokeSpend shown (.object map) = .ok spend) :
    ∀ entry ∈ maps.flatten, ∃ identity cents, legacyIdentity shown entry.1 = .ok identity ∧
      entry.2 = .int (cents : Nat) := by
  intro entry member
  obtain ⟨map, held, inside⟩ := List.mem_flatten.mp member
  obtain ⟨spend, valid⟩ := accepted map held
  simp only [validateSmokeSpend, bind_eq_ok] at valid
  obtain ⟨reading, read, -⟩ := valid
  exact (readSpends_ok canonical_nil read).2 entry inside

omit [JsonFloat F] in
/-- What the merged map has seen of records is what occurs in them. -/
theorem seen_iff_occurs {maps : List (List (String × Json F))}
    (each : List.Forall₂ (fun entry spend => legacyIdentity shown entry.1 = .ok spend.1 ∧
      entry.2 = (.int (spend.2 : Nat) : Json F)) maps.flatten seen) (identity : SmokeIdentity)
    (spent : Nat) :
    (identity, spent) ∈ seen ↔ Occurs shown maps identity spent := by
  unfold Occurs
  generalize maps.flatten = entries at each
  induction each with
  | nil => simp
  | cons here _ ih =>
      rename_i entry spend _ _ _
      obtain ⟨back, value⟩ := here
      rw [List.mem_cons, List.exists_mem_cons_iff, ih]
      refine or_congr ?_ Iff.rfl
      constructor
      · rintro rfl
        exact ⟨back, value⟩
      · rintro ⟨again, same⟩
        rw [back] at again
        rw [value] at same
        injection same with same
        rw [← Except.ok.inj again, ← Int.ofNat.inj same]

omit [JsonFloat F] in
/-- The entries of a canonical map are spends of identities. -/
theorem Canonical.spends {spend : SmokeSpend} (canonical : Canonical shown spend) :
    ∃ spends : List (SmokeIdentity × Nat), (∀ paid ∈ spends, paid.1.Read shown) ∧
      List.Forall₂ (fun paid entry => identityKey paid.1 = .ok entry.1 ∧ paid.2 = entry.2)
        spends spend := by
  have keys := canonical.keys
  clear canonical
  induction spend with
  | nil => exact ⟨[], fun _ member => absurd member List.not_mem_nil, .nil⟩
  | cons entry rest ih =>
      obtain ⟨⟨identity, read, keyed⟩, others⟩ := List.forall_mem_cons.mp keys
      obtain ⟨spends, reads, each⟩ := ih others
      exact ⟨(identity, entry.2) :: spends, List.forall_mem_cons.mpr ⟨read, reads⟩,
        .cons ⟨keyed, rfl⟩ each⟩

theorem smokeSpendTotal_canonical {spend : SmokeSpend} (canonical : Canonical shown spend) :
    smokeSpendTotal shown (SmokeSpend.records spend) = .ok (spend.map Prod.snd).sum := by
  unfold smokeSpendTotal
  rw [canonical.validates]
  rfl

omit [JsonFloat F] in
/-- Two lists in step: what an element stands beside. -/
theorem beside {α β : Type} {relation : α → β → Prop} {lefts : List α} {rights : List β}
    (each : List.Forall₂ relation lefts rights) :
    (∀ left ∈ lefts, ∃ right ∈ rights, relation left right) ∧
      ∀ right ∈ rights, ∃ left ∈ lefts, relation left right := by
  induction each with
  | nil => simp
  | cons here _ ih =>
      obtain ⟨fromLeft, fromRight⟩ := ih
      constructor
      · refine List.forall_mem_cons.mpr ⟨⟨_, List.mem_cons_self .., here⟩, fun left member => ?_⟩
        obtain ⟨right, inside, related⟩ := fromLeft left member
        exact ⟨right, List.mem_cons_of_mem _ inside, related⟩
      · refine List.forall_mem_cons.mpr ⟨⟨_, List.mem_cons_self .., here⟩, fun right member => ?_⟩
        obtain ⟨left, inside, related⟩ := fromRight right member
        exact ⟨left, List.mem_cons_of_mem _ inside, related⟩

omit [JsonFloat F] in
/-- A merged map of records that keep their identity has one entry for each of them. -/
theorem Merged.entries (state : Merged shown merged seen) (reads : ∀ paid ∈ seen, paid.1.Read shown)
    (kept : ∀ paid ∈ seen, paid.1.refiled = paid.1) :
    ∃ spends : List (SmokeIdentity × Nat), (spends.map Prod.fst).Nodup ∧
      (∀ paid, paid ∈ spends ↔ paid ∈ seen) ∧
      List.Forall₂ (fun paid entry => identityKey paid.1 = .ok entry.1 ∧ paid.2 = entry.2)
        spends merged ∧
      (spends.map Prod.snd).sum = (merged.map Prod.snd).sum := by
  obtain ⟨spends, canon, each⟩ := state.canonical.spends
  have keys : (spends.map Prod.fst).map identityKey = merged.map fun entry => .ok entry.1 := by
    clear state canon
    induction each with
    | nil => rfl
    | cons here _ ih => rw [List.map_cons, List.map_cons, List.map_cons, here.1, ih]
  have cents : spends.map Prod.snd = merged.map Prod.snd := by
    clear state canon keys
    induction each with
    | nil => rfl
    | cons here _ ih => rw [List.map_cons, List.map_cons, here.2, ih]
  have distinct : (merged.map fun entry => (.ok entry.1 : Except String String)).Nodup := by
    refine List.pairwise_map.mpr (state.canonical.ordered.imp fun below same => ?_)
    exact String.ne_of_lt below (Except.ok.inj same)
  rw [← keys] at distinct
  obtain ⟨fromSpends, fromMerged⟩ := beside each
  refine ⟨spends, distinct.of_map, ?_, each, by rw [cents]⟩
  rintro ⟨identity, spent⟩
  constructor
  · intro member
    obtain ⟨entry, inside, keyed, rfl⟩ := fromSpends _ member
    obtain ⟨other, seenOther, itsKey⟩ :=
      (state.held entry.1 entry.2).mp (Dict.get?_of_mem state.canonical.ordered inside)
    rw [kept _ seenOther] at itsKey
    obtain rfl : other = identity := identityKey_injective (canon _ member).free keyed itsKey
    exact seenOther
  · intro member
    obtain ⟨key, keyed⟩ := (reads _ member).key
    have filed : identityKey identity.refiled = .ok key := by
      rw [kept _ member]
      exact keyed
    have inside := Dict.mem_of_get? ((state.held key spent).mpr ⟨identity, member, filed⟩)
    obtain ⟨⟨other, paid⟩, found, itsKey, same⟩ := fromMerged _ inside
    obtain rfl : other = identity := identityKey_injective (reads _ member).free keyed itsKey
    obtain rfl : paid = spent := same
    exact found

/-- **The restored map keeps every identity of accepted and consistent maps exactly when all of
them have the default allowance and phase.** -/
theorem restored_iff {maps : List (List (String × Json F))}
    (accepted : ∀ map ∈ maps, ∃ spend, validateSmokeSpend shown (.object map) = .ok spend)
    (consistent : ∀ identity left right, Occurs shown maps identity left →
      Occurs shown maps identity right → left = right) :
    (∃ result, restoreSmokeSpend shown (.array (maps.map .object)) .null = .ok result ∧
      Restored shown maps result) ↔
    ∀ identity spent, Occurs shown maps identity spent →
      identity.allowanceId = Live.allowanceId ∧ identity.phase = phaseSmoke := by
  constructor
  · rintro ⟨result, done, restored⟩ identity spent occurs
    rw [restoreSmokeSpend_maps] at done
    obtain ⟨seen, state, each⟩ := restoreEntries_ok merged_nil done
    obtain ⟨entry, _, back, _⟩ := id occurs
    obtain ⟨spends, -, members, related, -⟩ := restored.entries
    -- the entry of the identity is the one of a refiled identity
    obtain ⟨held, inside, keyed, -⟩ :=
      (beside related).1 _ ((members identity spent).mpr occurs)
    obtain ⟨other, member, filed⟩ :=
      (state.held held.1 held.2).mp (Dict.get?_of_mem state.canonical.ordered inside)
    have same := identityKey_injective (legacyIdentity_ok back).free keyed filed
    rw [← same]
    exact ⟨rfl, rfl⟩
  · intro defaults
    have run : ∀ others : List (List (String × Json F)), (∀ map, map ∈ others ↔ map ∈ maps) →
        ∃ result seen, restoreSmokeSpend shown (.array (others.map .object)) .null = .ok result ∧
          Merged shown result seen ∧
          ∀ identity spent, (identity, spent) ∈ seen ↔ Occurs shown maps identity spent := by
      intro others same
      have occurs : ∀ identity spent, Occurs shown others identity spent ↔
          Occurs shown maps identity spent := by
        intro identity spent
        simp only [Occurs, List.mem_flatten, same]
      have each : ∀ entry ∈ others.flatten, ∃ identity cents,
          legacyIdentity shown entry.1 = .ok identity ∧ entry.2 = .int (cents : Nat) ∧
          Occurs shown maps identity cents := by
        intro entry member
        obtain ⟨identity, cents, back, spent⟩ := entries_of_accepted
          (fun map held => accepted map ((same map).mp held)) entry member
        exact ⟨identity, cents, back, spent, (occurs _ _).mp ⟨entry, member, back, spent⟩⟩
      have agree : ∀ left right cents held, Occurs shown maps left cents →
          Occurs shown maps right held →
          identityKey right.refiled = identityKey left.refiled → held = cents := by
        intro left right cents held here there filed
        have isLeft := refiled_eq_self (defaults left cents here)
        have isRight := refiled_eq_self (defaults right held there)
        rw [isLeft, isRight] at filed
        obtain ⟨entry, _, back, _⟩ := id here
        obtain ⟨key, keyed⟩ := (legacyIdentity_ok back).key
        obtain rfl := identityKey_injective (legacyIdentity_ok back).free keyed (filed.trans keyed)
        exact consistent right held cents there here
      obtain ⟨result, done⟩ := restoreEntries_eq_ok agree merged_nil
        (fun _ member => absurd member List.not_mem_nil) each
      obtain ⟨seen, state, reads⟩ := restoreEntries_ok merged_nil done
      refine ⟨result, seen, by rw [restoreSmokeSpend_maps, done], state, ?_⟩
      exact fun identity spent => (seen_iff_occurs reads identity spent).trans (occurs _ _)
    obtain ⟨result, seen, done, state, members⟩ := run maps fun _ => Iff.rfl
    refine ⟨result, done, ⟨?_, ?_⟩⟩
    · have reads : ∀ paid ∈ seen, paid.1.Read shown := by
        rintro ⟨identity, spent⟩ member
        obtain ⟨entry, _, back, _⟩ := (members identity spent).mp member
        exact legacyIdentity_ok back
      have kept : ∀ paid ∈ seen, paid.1.refiled = paid.1 := by
        rintro ⟨identity, spent⟩ member
        exact refiled_eq_self (defaults identity spent ((members identity spent).mp member))
      obtain ⟨spends, distinct, same, related, total⟩ := state.entries reads kept
      refine ⟨spends, distinct, fun identity spent => (same _).trans (members identity spent),
        related, ?_⟩
      rw [total]
      exact smokeSpendTotal_canonical state.canonical
    · intro others same
      obtain ⟨again, seenAgain, doneAgain, stateAgain, membersAgain⟩ := run others same
      rw [doneAgain]
      congr 1
      refine Dict.ext_of_ordered stateAgain.canonical.ordered state.canonical.ordered fun key => ?_
      refine Option.ext fun spent => ?_
      rw [state.held, stateAgain.held]
      simp only [members, membersAgain]

end Spends

section Sample

open Aegis.Budget (ZeroFloat)

/-- How Python shows the values of the samples: `None`, and texts without a quote. -/
def sampleShown : Shown ZeroFloat where
  str _ := "None"
  repr text := "\x27" ++ text ++ "\x27"

theorem smokeIdentity_of_sample :
    Survives sampleShown (.str " 7001 ") (.int 2) (.str "allowance") (.str "smoke-proof")
      ⟨"allowance", "7001", 2, "smoke-proof"⟩ := by
  refine (smokeIdentity_survives_iff (by decide +kernel)).mpr ⟨?_, ?_, ?_, ?_⟩
  · rintro _ ⟨⟩
    decide +kernel
  · rintro _ ⟨⟩
    decide +kernel
  · rintro _ ⟨⟩
    decide +kernel
  · rintro count ⟨⟩
    decide +kernel

/-- The key of the allowance `a|b` does not read back, and is the key of the run `b|c` of the
allowance `a`. -/
theorem barred_identity_lost :
    ∃ (left right : SmokeIdentity) (key : String), left ≠ right ∧
      recordIdentity sampleShown (.str "c") (.int 1) (.str "a|b") (.str "p") = .ok left ∧
      recordIdentity sampleShown (.str "b|c") (.int 1) (.str "a") (.str "p") = .ok right ∧
      identityKey left = .ok key ∧ identityKey right = .ok key ∧
      legacyIdentity sampleShown key =
        .error "malformed canonical smoke identity: \x27a|b|c|1|p\x27" ∧
      addSmokeSpend sampleShown .null (.str "c") (.int 3) (.int 1) (.str "a|b") (.str "p") =
        .ok [(key, 3)] ∧
      validateSmokeSpend sampleShown (SmokeSpend.records [(key, 3)]) =
        .error "malformed canonical smoke identity: \x27a|b|c|1|p\x27" :=
  ⟨⟨"a|b", "c", 1, "p"⟩, ⟨"a", "b|c", 1, "p"⟩, "a|b|c|1|p", by decide +kernel⟩

/-- Two maps, with one run in two spellings. -/
def sampleMaps : List (List (String × Json ZeroFloat)) :=
  [[("7001", .int 5)],
    [("pilot-a-recovery-20261031|7001|1|smoke-proof", .int 5), (" 7002#2 ", .int 5)]]

theorem restored_of_sample :
    ∃ result, restoreSmokeSpend sampleShown (.array (sampleMaps.map .object)) .null = .ok result ∧
      Restored sampleShown sampleMaps result := by
  refine (restored_iff ?_ ?_).mpr ?_
  · have valid : sampleMaps.map (fun map => validateSmokeSpend sampleShown (.object map)) =
        [.ok [("pilot-a-recovery-20261031|7001|1|smoke-proof", 5)],
          .ok [("pilot-a-recovery-20261031|7001|1|smoke-proof", 5),
            ("pilot-a-recovery-20261031|7002|2|smoke-proof", 5)]] := by
      decide +kernel
    intro map member
    have inside := List.mem_map_of_mem (f := fun map =>
      validateSmokeSpend sampleShown (.object map)) member
    rw [valid] at inside
    rcases List.mem_cons.mp inside with same | later
    · exact ⟨_, same⟩
    · exact ⟨_, List.mem_singleton.mp later⟩
  · -- every spend is the same one
    have five : ∀ {identity spent}, Occurs sampleShown sampleMaps identity spent → spent = 5 := by
      rintro identity spent ⟨entry, member, -, paid⟩
      have all : ∀ entry ∈ sampleMaps.flatten, entry.2 = .int 5 := by
        simp [sampleMaps]
      rw [all entry member] at paid
      injection paid with paid
      exact (Int.ofNat.inj paid).symm
    intro identity left right here there
    rw [five here, five there]
  · rintro identity spent ⟨entry, member, back, -⟩
    have all : ∀ entry ∈ sampleMaps.flatten, ∃ run ∈ [("7001", 1), ("7002", 2)],
        legacyIdentity sampleShown entry.1 = .ok ⟨allowanceId, run.1, run.2, phaseSmoke⟩ := by
      decide +kernel
    obtain ⟨run, -, read⟩ := all entry member
    rw [back] at read
    obtain rfl := Except.ok.inj read
    exact ⟨rfl, rfl⟩

/-- A run of another allowance is restored as the run of the same id of the default one: of two
paid runs one is left. -/
theorem allowance_dropped :
    ∃ map : List (String × Json ZeroFloat),
      map = [("5", .int 3), ("other|5|1|smoke-proof", .int 3)] ∧
      validateSmokeSpend sampleShown (.object map) =
        .ok [("other|5|1|smoke-proof", 3), ("pilot-a-recovery-20261031|5|1|smoke-proof", 3)] ∧
      restoreSmokeSpend sampleShown (.array [.object map]) .null =
        .ok [("pilot-a-recovery-20261031|5|1|smoke-proof", 3)] ∧
      smokeSpendTotal sampleShown (.object map) = .ok 6 ∧
      smokeSpendTotal sampleShown
        (SmokeSpend.records [("pilot-a-recovery-20261031|5|1|smoke-proof", 3)]) = .ok 3 :=
  ⟨_, rfl, by decide +kernel⟩

end Sample

end Aegis.Live

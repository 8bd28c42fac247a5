/-
# Live.SmokeIdentities — what a key of smoke spend says of its identity

The four fields of an identity are joined with `|`, which nothing keeps out of them. A key reads
back as its identity exactly when no field holds a `|` and the attempt can be written
(`legacyIdentity_key_iff`); such an identity shares its key with no other
(`identityKey_injective`). Every identity that is read from a key is one of them.
-/
import Aegis.Live.Cumulative

namespace Aegis.Live

open Aegis.Lib
open Aegis.Lib.Guarded

set_option autoImplicit false

section Identities

variable {F : Type} {shown : Shown F}

/-! ## Accepted identities -/

/-- What `recordIdentity` makes of any arguments. -/
structure SmokeIdentity.Accepted (shown : Shown F) (identity : SmokeIdentity) : Prop where
  allowance : Trimmed identity.allowanceId.toList ∧ identity.allowanceId ≠ ""
  runId : Trimmed identity.workflowRunId.toList ∧ identity.workflowRunId ≠ ""
  numeric : checkNumeric shown identity.workflowRunId = .ok ()
  attempt : 0 < identity.runAttempt
  phase : Trimmed identity.phase.toList ∧ identity.phase ≠ ""

/-- The text fields hold no separator. -/
def SmokeIdentity.Free (identity : SmokeIdentity) : Prop :=
  '|' ∉ identity.allowanceId.toList ∧ '|' ∉ identity.workflowRunId.toList ∧
    '|' ∉ identity.phase.toList

theorem trimmed_strip (text : String) : Trimmed (strip text).toList := by
  rw [strip_toList]
  exact trimmed_stripChars _

theorem strictPositiveInt_ok {value : Json F} {label : String} {count : Nat}
    (done : strictPositiveInt value label = .ok count) : value = .int count ∧ 0 < count := by
  unfold strictPositiveInt at done
  split at done
  · split at done
    · rename_i held positive
      obtain rfl := Except.ok.inj done
      have whole : (held.toNat : Int) = held := Int.toNat_of_nonneg positive.le
      exact ⟨by rw [whole], by omega⟩
    · cases done
  · cases done

theorem strictPositiveInt_natCast {label : String} {count : Nat} (positive : 0 < count) :
    strictPositiveInt (.int count : Json F) label = .ok count := by
  have above : (0 : Int) < count := by omega
  show (if (0 : Int) < count then pure (count : Int).toNat else _ : Except String Nat) = _
  rw [if_pos above, Int.toNat_natCast]
  rfl

theorem attemptOf_pos {value : Json F} {attempt : Nat} (done : attemptOf value = .ok attempt) :
    0 < attempt := by
  unfold attemptOf at done
  split at done
  · obtain rfl := Except.ok.inj done
    decide
  · exact (strictPositiveInt_ok done).2

theorem recordIdentity_ok {workflowRunId runAttempt allowance phase : Json F}
    {identity : SmokeIdentity}
    (done : recordIdentity shown workflowRunId runAttempt allowance phase = .ok identity) :
    identity.Accepted shown := by
  simp only [recordIdentity, normalizeSmokeRunId, bind_eq_ok, refuse_eq_ok, pure_eq_ok] at done
  obtain ⟨allowance, -, _, isAllowance, phase, -, _, isPhase, attempt, isAttempt, runId,
    ⟨given, -, _, isRun, _, numeric, rfl⟩, rfl⟩ := done
  exact ⟨⟨trimmed_strip _, isAllowance⟩, ⟨trimmed_strip _, isRun⟩, numeric,
    attemptOf_pos isAttempt, ⟨trimmed_strip _, isPhase⟩⟩

/-- An accepted identity is made of its own fields. -/
theorem SmokeIdentity.Accepted.recordIdentity {identity : SmokeIdentity}
    (accepted : identity.Accepted shown) :
    recordIdentity shown (.str identity.workflowRunId) (.int identity.runAttempt)
      (.str identity.allowanceId) (.str identity.phase) = .ok identity := by
  have allowance := strip_eq_self_iff.mpr accepted.allowance.1
  have phase := strip_eq_self_iff.mpr accepted.phase.1
  have runId := strip_eq_self_iff.mpr accepted.runId.1
  simp only [Live.recordIdentity, normalizeSmokeRunId, bind_eq_ok, refuse_eq_ok, pure_eq_ok]
  refine ⟨identity.allowanceId, rfl, (), ?_, identity.phase, rfl, (), ?_, identity.runAttempt,
    strictPositiveInt_natCast (F := F) accepted.attempt, identity.workflowRunId,
    ⟨identity.workflowRunId, rfl, (), ?_, (), ?_, runId⟩, ?_⟩
  · rw [allowance]
    exact accepted.allowance.2
  · rw [phase]
    exact accepted.phase.2
  · rw [runId]
    exact accepted.runId.2
  · rw [runId]
    exact accepted.numeric
  · rw [allowance, phase]

/-! ## Keys -/

theorem identityKey_eq_ok {identity : SmokeIdentity} {key : String} :
    identityKey identity = .ok key ↔ ∃ attempt, natText identity.runAttempt = some attempt ∧
      key = joined '|' [identity.allowanceId, identity.workflowRunId, attempt, identity.phase] := by
  simp only [identityKey, bind_eq_ok, fetch_eq_ok, pure_eq_ok]
  constructor
  · rintro ⟨attempt, written, same⟩
    exact ⟨attempt, written, same.symm⟩
  · rintro ⟨attempt, written, same⟩
    exact ⟨attempt, written, same.symm⟩

/-- A written number has no separator. -/
theorem free_natText {n : Nat} {text : String} (written : natText n = some text) :
    '|' ∉ text.toList := by
  intro member
  have digit := digit_of_mem_natText written member
  revert digit
  decide

theorem readAttempt_natText {n : Nat} {text : String} (positive : 0 < n)
    (written : natText n = some text) : readAttempt shown text.toList = .ok n := by
  obtain ⟨digits, read⟩ := readDigits_natText written
  unfold readAttempt
  rw [if_pos digits]
  simp only [pythonInt, bind_eq_ok, fetch_eq_ok, require_eq_ok, pure_eq_ok]
  exact ⟨n, read, (), positive, rfl⟩

theorem readAttempt_ok {text : List Char} {n : Nat} (done : readAttempt shown text = .ok n) :
    0 < n ∧ ∃ written, natText n = some written := by
  unfold readAttempt at done
  split at done
  · simp only [pythonInt, bind_eq_ok, fetch_eq_ok, require_eq_ok, pure_eq_ok] at done
    obtain ⟨read, found, _, positive, rfl⟩ := done
    exact ⟨positive, natText_of_readDigits found⟩
  · cases done

theorem joined_four (first second third fourth : String) :
    (joined '|' [first, second, third, fourth]).toList = first.toList ++
      ('|' :: (second.toList ++ '|' :: (third.toList ++ ['|']))) ++ fourth.toList := by
  simp [joined, List.intercalate]

/-- A key is not trimmed when it is read. -/
theorem trimmed_key {identity : SmokeIdentity} {key : String} (accepted : identity.Accepted shown)
    (keyed : identityKey identity = .ok key) : Trimmed key.toList := by
  obtain ⟨attempt, -, rfl⟩ := identityKey_eq_ok.mp keyed
  rw [joined_four]
  refine accepted.allowance.1.append accepted.phase.1 ?_ ?_ _
  · exact fun none => accepted.allowance.2 (String.toList_inj.mp none)
  · exact fun none => accepted.phase.2 (String.toList_inj.mp none)

/-- A key is read from the pieces of the fields. -/
theorem legacyIdentity_key {identity : SmokeIdentity} {attempt : String}
    (accepted : identity.Accepted shown) (written : natText identity.runAttempt = some attempt) :
    legacyIdentity shown
        (joined '|' [identity.allowanceId, identity.workflowRunId, attempt, identity.phase]) =
      canonicalIdentity shown
        (joined '|' [identity.allowanceId, identity.workflowRunId, attempt, identity.phase])
        (pieces '|' [identity.allowanceId, identity.workflowRunId, attempt, identity.phase]) := by
  have keyed : identityKey identity = .ok _ := identityKey_eq_ok.mpr ⟨attempt, written, rfl⟩
  have trimmed := stripChars_of_trimmed (trimmed_key accepted keyed)
  have inside : '|' ∈ (joined '|' [identity.allowanceId, identity.workflowRunId, attempt,
      identity.phase]).toList := by
    rw [joined_four]
    simp
  have cut : (joined '|' [identity.allowanceId, identity.workflowRunId, attempt,
      identity.phase]).toList.splitOn '|' =
      pieces '|' [identity.allowanceId, identity.workflowRunId, attempt, identity.phase] := by
    rw [joined, String.toList_ofList, splitOn_joined '|' (by simp), List.flatMap_map, pieces]
  unfold legacyIdentity
  simp only [trimmed, if_pos inside, cut]

/-- The fields have no separator exactly when their key has four pieces. -/
theorem free_iff_length {identity : SmokeIdentity} {attempt : String}
    (written : natText identity.runAttempt = some attempt) :
    identity.Free ↔ (pieces '|' [identity.allowanceId, identity.workflowRunId, attempt,
      identity.phase]).length = 4 := by
  have cut : (pieces '|' [identity.allowanceId, identity.workflowRunId, attempt,
      identity.phase]).length = 4 ↔
      ∀ field ∈ [identity.allowanceId, identity.workflowRunId, attempt, identity.phase],
        '|' ∉ field.toList := length_pieces_eq_iff.2
  have digits := free_natText written
  refine Iff.trans ?_ cut.symm
  unfold SmokeIdentity.Free
  simp only [List.mem_cons, List.not_mem_nil, or_false, forall_eq_or_imp, forall_eq]
  tauto

/-- **A key reads back as its identity exactly when the fields hold no separator.** -/
theorem legacyIdentity_key_iff {identity : SmokeIdentity} {key : String}
    (accepted : identity.Accepted shown) (keyed : identityKey identity = .ok key) :
    legacyIdentity shown key = .ok identity ↔ identity.Free := by
  obtain ⟨attempt, written, rfl⟩ := identityKey_eq_ok.mp keyed
  rw [legacyIdentity_key accepted written, free_iff_length written]
  constructor
  · intro done
    unfold canonicalIdentity at done
    split at done
    · rename_i four
      rw [four]
      rfl
    · cases done
  · intro four
    have free : ∀ field ∈ [identity.allowanceId, identity.workflowRunId, attempt, identity.phase],
        '|' ∉ field.toList := length_pieces_eq_iff.2.mp four
    rw [pieces_of_free free]
    simp only [List.map_cons, List.map_nil, canonicalIdentity, String.ofList_toList, bind_eq_ok]
    exact ⟨_, readAttempt_natText accepted.attempt written, accepted.recordIdentity⟩

/-- **An identity whose fields hold no separator shares its key with no other.** -/
theorem identityKey_injective {identity other : SmokeIdentity} {key : String}
    (free : identity.Free) (keyed : identityKey identity = .ok key)
    (otherKeyed : identityKey other = .ok key) : other = identity := by
  obtain ⟨attempt, written, rfl⟩ := identityKey_eq_ok.mp keyed
  obtain ⟨otherAttempt, otherWritten, same⟩ := identityKey_eq_ok.mp otherKeyed
  have pieces := (joined_eq_iff (by simp) (by simp)).mp same
  have four := (free_iff_length written).mp free
  rw [pieces] at four
  have otherFree := (free_iff_length otherWritten).mpr four
  have isFree : ∀ field ∈ [identity.allowanceId, identity.workflowRunId, attempt, identity.phase],
      '|' ∉ field.toList := length_pieces_eq_iff.2.mp ((free_iff_length written).mp free)
  have isOther : ∀ field ∈ [other.allowanceId, other.workflowRunId, otherAttempt, other.phase],
      '|' ∉ field.toList := length_pieces_eq_iff.2.mp four
  rw [pieces_of_free isFree, pieces_of_free isOther] at pieces
  simp only [List.map_cons, List.map_nil, List.cons.injEq, String.toList_inj, and_true] at pieces
  obtain ⟨allowance, runId, attempts, phase⟩ := pieces
  have numbers := (readDigits_natText written).2
  rw [attempts, (readDigits_natText otherWritten).2] at numbers
  cases identity
  cases other
  simp_all

/-! ## Keys of any spelling -/

/-- An identity that was read from a key. -/
structure SmokeIdentity.Read (shown : Shown F) (identity : SmokeIdentity) : Prop where
  accepted : identity.Accepted shown
  free : identity.Free
  written : ∃ attempt, natText identity.runAttempt = some attempt

theorem recordIdentity_texts {runId allowance phase : String} {runAttempt : Json F}
    {identity : SmokeIdentity}
    (done : recordIdentity shown (.str runId) runAttempt (.str allowance) (.str phase) =
      .ok identity) :
    identity.workflowRunId = strip runId ∧ attemptOf runAttempt = .ok identity.runAttempt ∧
      identity.allowanceId = strip allowance ∧ identity.phase = strip phase := by
  simp only [recordIdentity, normalizeSmokeRunId, pythonStr, runIdText, bind_eq_ok, refuse_eq_ok,
    pure_eq_ok] at done
  obtain ⟨_, rfl, _, -, _, rfl, _, -, attempt, isAttempt, _, ⟨_, rfl, _, -, _, -, rfl⟩, rfl⟩ := done
  exact ⟨rfl, isAttempt, rfl, rfl⟩

theorem free_strip {text : String} (free : '|' ∉ text.toList) : '|' ∉ (strip text).toList := by
  rw [strip_toList]
  exact fun member => free (mem_of_mem_stripChars member)

/-- A text that is read of a key without separators has none. -/
theorem read_of_texts {runId allowance phase : List Char} {attempt : Nat} {identity : SmokeIdentity}
    (done : recordIdentity shown (.str (String.ofList runId)) (.int attempt)
      (.str (String.ofList allowance)) (.str (String.ofList phase)) = .ok identity)
    (written : ∃ text, natText attempt = some text)
    (free : '|' ∉ runId ∧ '|' ∉ allowance ∧ '|' ∉ phase) : identity.Read shown := by
  obtain ⟨isRun, isAttempt, isAllowance, isPhase⟩ := recordIdentity_texts done
  have given : strictPositiveInt (.int attempt : Json F) "run_attempt" = .ok identity.runAttempt :=
    isAttempt
  have same := (strictPositiveInt_ok given).1
  obtain rfl : attempt = identity.runAttempt := by
    injection same with same
    exact Int.ofNat.inj same
  refine ⟨recordIdentity_ok done, ⟨?_, ?_, ?_⟩, written⟩
  · rw [isAllowance]
    exact free_strip (by rw [String.toList_ofList]; exact free.2.1)
  · rw [isRun]
    exact free_strip (by rw [String.toList_ofList]; exact free.1)
  · rw [isPhase]
    exact free_strip (by rw [String.toList_ofList]; exact free.2.2)

theorem free_defaults : '|' ∉ allowanceId.toList ∧ '|' ∉ phaseSmoke.toList := by
  decide +kernel

theorem natText_one : ∃ text, natText 1 = some text :=
  natText_isSome_iff.mpr (by decide +kernel)

/-- **Every key that is accepted gives an identity that its canonical key gives back.** -/
theorem legacyIdentity_ok {rawKey : String} {identity : SmokeIdentity}
    (done : legacyIdentity shown rawKey = .ok identity) : identity.Read shown := by
  obtain ⟨allowance, phase⟩ := free_defaults
  unfold legacyIdentity at done
  simp only at done
  split at done
  · unfold canonicalIdentity at done
    split at done
    · rename_i _ first second third fourth parts
      simp only [bind_eq_ok] at done
      obtain ⟨attempt, read, done⟩ := done
      have free : ∀ part ∈ [first, second, third, fourth], '|' ∉ part := by
        intro part member
        rw [← parts] at member
        exact free_of_mem_splitOn member
      exact read_of_texts done (readAttempt_ok read).2
        ⟨free _ (by simp), free _ (by simp), free _ (by simp)⟩
    · cases done
  · rename_i plain
    split at done
    · simp only [bind_eq_ok] at done
      obtain ⟨attempt, read, done⟩ := done
      have free : '|' ∉ (rsplit '#' (stripChars rawKey.toList)).1 := by
        intro member
        have inside := List.dropLast_sublist _ |>.subset member
        exact plain ((List.rdropWhile_prefix _ _).sublist.subset inside)
      rw [← String.ofList_toList (s := allowanceId), ← String.ofList_toList (s := phaseSmoke)] at done
      exact read_of_texts done (readAttempt_ok read).2 ⟨free, allowance, phase⟩
    · obtain ⟨isRun, isAttempt, isAllowance, isPhase⟩ := recordIdentity_texts done
      have first : identity.runAttempt = 1 := (Except.ok.inj isAttempt).symm
      refine ⟨recordIdentity_ok done, ⟨?_, ?_, ?_⟩, first ▸ natText_one⟩
      · rw [isAllowance]
        exact free_strip allowance
      · rw [isRun]
        exact free_strip (by rw [String.toList_ofList]; exact plain)
      · rw [isPhase]
        exact free_strip phase

end Identities

end Aegis.Live

/-
# Budget.Conservation — nothing is lost and no cap is passed

Over every sequence of calls and every clock:

* the reserved total of a dimension is its actual total plus what is in flight,
  and what was ever granted is what is reserved plus what was released;
* no reserved total passes its cap, a dimension without a cap is never reserved,
  and no more reservations are in flight than the concurrency cap allows;
* once the kill switch is engaged no reservation is granted again.

`Conserved` is the invariant; an event changes none of it (`Conserved.congr`), so
only a grant and a settlement need an argument.
-/
import Mathlib.Algebra.BigOperators.Group.List.Basic
import Mathlib.Algebra.Order.BigOperators.Group.List
import Aegis.Budget.Ledger
import Aegis.Lib.Runs

namespace Aegis.Budget

open Aegis.Lib
open Aegis.Lib.Guarded
open Aegis.Lib.Runs

set_option autoImplicit false

/-! ## Validated amounts -/

theorem lookup_assign (validated : List (Dimension × Nat)) (dimension : Dimension) (amount : Nat)
    (asked : Dimension) :
    (assignAmount validated dimension amount).lookup asked =
      if asked = dimension then some amount else validated.lookup asked := by
  have replaced : ∀ entries : List (Dimension × Nat),
      (entries.map fun entry => if entry.1 = dimension then (dimension, amount) else entry).lookup
        asked = if asked = dimension then (if entries.any (·.1 == dimension) then some amount else none)
          else entries.lookup asked := by
    intro entries
    induction entries with
    | nil => simp
    | cons entry entries ih =>
        obtain ⟨held, old⟩ := entry
        by_cases same : held = dimension
        · subst same
          by_cases asks : asked = held
          · simp [asks]
          · simp [List.lookup_cons, asks, beq_false_of_ne asks, ih]
        · by_cases asks : asked = held
          · subst asks
            simp [same]
          · have other : (held == dimension) = false := beq_false_of_ne same
            simp only [List.map_cons, if_neg same, List.lookup_cons, beq_false_of_ne asks,
              List.any_cons, other, Bool.false_or]
            exact ih
  have appended : ∀ entries : List (Dimension × Nat), entries.any (·.1 == dimension) = false →
      (entries ++ [(dimension, amount)]).lookup asked =
        if asked = dimension then some amount else entries.lookup asked := by
    intro entries fresh
    induction entries with
    | nil => by_cases asks : asked = dimension <;> simp [List.lookup_cons, asks, beq_false_of_ne]
    | cons entry entries ih =>
        obtain ⟨held, old⟩ := entry
        simp only [List.any_cons, Bool.or_eq_false_iff, beq_eq_false_iff_ne] at fresh
        have later := ih fresh.2
        by_cases asks : asked = held
        · subst asks
          simp [fresh.1]
        · simp [List.lookup_cons, beq_false_of_ne asks, later]
  unfold assignAmount
  split
  · rename_i known
    rw [replaced, known]
    rfl
  · rename_i fresh
    exact appended validated (Bool.not_eq_true _ ▸ fresh)

theorem keys_assign (validated : List (Dimension × Nat)) (dimension : Dimension) (amount : Nat)
    (distinct : (validated.map Prod.fst).Nodup) :
    ((assignAmount validated dimension amount).map Prod.fst).Nodup := by
  unfold assignAmount
  split
  · have same : (validated.map fun entry =>
        if entry.1 = dimension then (dimension, amount) else entry).map Prod.fst =
          validated.map Prod.fst := by
      rw [List.map_map]
      apply List.map_congr_left
      intro entry _
      by_cases is : entry.1 = dimension <;> simp [is]
    rw [same]
    exact distinct
  · rename_i fresh
    rw [List.map_append, List.nodup_append]
    refine ⟨distinct, List.nodup_singleton _, ?_⟩
    intro held member other single
    obtain ⟨entry, there, rfl⟩ := List.mem_map.mp member
    obtain rfl := List.mem_singleton.mp single
    rintro rfl
    apply fresh
    exact List.any_eq_true.mpr ⟨entry, there, beq_self_eq_true _⟩

/-- Validated amounts have one entry for each dimension. -/
theorem validateAmounts_nodup {F : Type} {amounts : Json F} {where_ : String}
    {validated : List (Dimension × Nat)} (valid : validateAmounts amounts where_ = .ok validated) :
    (validated.map Prod.fst).Nodup := by
  have turns : ∀ (items : List (String × Json F)) (held : List (Dimension × Nat)),
      (held.map Prod.fst).Nodup → items.foldlM (validateAmount where_) held = .ok validated →
        (validated.map Prod.fst).Nodup := by
    intro items
    induction items with
    | nil =>
        intro held distinct done
        obtain rfl : held = validated := Except.ok.inj done
        exact distinct
    | cons item items ih =>
        intro held distinct done
        rw [List.foldlM_cons, bind_eq_ok] at done
        obtain ⟨next, turned, done⟩ := done
        refine ih next ?_ done
        simp only [validateAmount, bind_eq_ok, fetch_eq_ok] at turned
        obtain ⟨dimension, -, turned⟩ := turned
        split at turned
        · simp only [bind_eq_ok, refuse_eq_ok, pure_eq_ok] at turned
          obtain ⟨_, _, rfl⟩ := turned
          exact keys_assign _ _ _ distinct
        · cases turned
  unfold validateAmounts at valid
  split at valid
  · exact turns _ [] List.nodup_nil valid
  · cases valid

/-- What the loop over a granted request adds. -/
theorem addReserved_eq (totals : Dimension → Int) (validated : List (Dimension × Nat))
    (distinct : (validated.map Prod.fst).Nodup) (dimension : Dimension) :
    BudgetLedger.addReserved totals validated dimension =
      totals dimension + (amountsOf validated).at_ dimension := by
  unfold BudgetLedger.addReserved amountsOf Amounts.at_
  induction validated generalizing totals with
  | nil => simp
  | cons entry validated ih =>
      obtain ⟨key, amount⟩ := entry
      obtain ⟨fresh, distinct⟩ := List.nodup_cons.mp distinct
      rw [List.foldl_cons, ih _ distinct]
      by_cases same : dimension = key
      · subst same
        have absent : validated.lookup dimension = none := by
          rw [List.lookup_eq_none_iff]
          intro other member
          have different : other.1 ≠ dimension :=
            fun same => fresh (List.mem_map.mpr ⟨other, member, same⟩)
          simpa using Ne.symm different
        simp [absent]
      · simp [List.lookup_cons, beq_false_of_ne same, Function.update_of_ne same]

/-! ## The invariant -/

section Digest

set_option linter.unusedSectionVars false

variable {F : Type} [ClockFloat F] {sha256Hex : ByteArray → String}

/-- The amounts in flight in one dimension. -/
def inflightTotal (inflight : List (Json F × Amounts)) (dimension : Dimension) : Int :=
  (inflight.map fun entry => (entry.2.at_ dimension : Int)).sum

/-- The accounts of a ledger that granted these amounts. -/
structure Conserved (ledger : BudgetLedger F) (granted : List Amounts) : Prop where
  reserved : ∀ dimension, ledger.reservedTotals dimension =
    ledger.actualTotals dimension + inflightTotal ledger.inflight dimension
  granted : ∀ dimension, (granted.map fun amounts => (amounts.at_ dimension : Int)).sum =
    ledger.reservedTotals dimension + ledger.releasedTotals dimension
  capped : ∀ dimension limit, ledger.caps.limits dimension = some limit →
    ledger.reservedTotals dimension ≤ limit
  uncapped : ∀ dimension, ledger.caps.limits dimension = none →
    ledger.reservedTotals dimension = 0
  concurrent : ledger.inflight.length ≤ ledger.caps.effectiveConcurrencyCap

def reservationId (number : Nat) : String := "resv-" ++ zeroPadded 6 number

theorem reservationId_injective : Function.Injective reservationId :=
  append_zeroPadded_injective "resv-" 6

/-- The reservations in flight have numbers of their own, none of them new. -/
structure Numbered (ledger : BudgetLedger F) : Prop where
  numbers : ∀ entry ∈ ledger.inflight, ∃ number ≤ ledger.sequence,
    entry.1 = .str (reservationId number)
  distinct : (ledger.inflight.map Prod.fst).Nodup

/-- Conserved accounts of a ledger whose reservations are numbered. -/
structure Accounts (ledger : BudgetLedger F) (granted : List Amounts) : Prop where
  conserved : Conserved ledger granted
  numbered : Numbered ledger
  nonneg : ∀ dimension, 0 ≤ ledger.actualTotals dimension

variable {granted : List Amounts} {validated : List (Dimension × Nat)}

/-- Whatever leaves totals, reservations and caps alone keeps the accounts. -/
theorem Accounts.congr {ledger after : BudgetLedger F} (accounts : Accounts ledger granted)
    (caps : after.caps = ledger.caps) (reserved : after.reservedTotals = ledger.reservedTotals)
    (actual : after.actualTotals = ledger.actualTotals)
    (released : after.releasedTotals = ledger.releasedTotals)
    (inflight : after.inflight = ledger.inflight) (sequence : ledger.sequence ≤ after.sequence) :
    Accounts after granted := by
  obtain ⟨conserved, numbered, nonneg⟩ := accounts
  refine ⟨⟨?_, ?_, ?_, ?_, ?_⟩, ⟨?_, ?_⟩, ?_⟩
  · rw [reserved, actual, inflight]
    exact conserved.reserved
  · rw [reserved, released]
    exact conserved.granted
  · rw [caps, reserved]
    exact conserved.capped
  · rw [caps, reserved]
    exact conserved.uncapped
  · rw [caps, inflight]
    exact conserved.concurrent
  · intro entry member
    rw [inflight] at member
    obtain ⟨number, known, named⟩ := numbered.numbers entry member
    exact ⟨number, known.trans sequence, named⟩
  · rw [inflight]
    exact numbered.distinct
  · rw [actual]
    exact nonneg

variable (sha256Hex) in
/-- An event is no account. -/
theorem Accounts.event {ledger : BudgetLedger F} (accounts : Accounts ledger granted)
    (event : List (String × Json F)) :
    Accounts (ledger.appendEvent sha256Hex event) granted :=
  accounts.congr rfl rfl rfl rfl rfl (Nat.le_succ _)

theorem Accounts.deny {ledger : BudgetLedger F} (accounts : Accounts ledger granted)
    (label : String) (requested : Amounts) (detail : String) :
    Accounts (ledger.deny sha256Hex label requested detail).1 granted :=
  accounts.congr rfl rfl rfl rfl rfl (Nat.le_succ _)

theorem Accounts.engage {ledger : BudgetLedger F} (accounts : Accounts ledger granted)
    (reason : String) :
    Accounts (ledger.engageKillSwitch sha256Hex reason) granted :=
  accounts.congr rfl rfl rfl rfl rfl (Nat.le_succ _)

theorem Accounts.ensure {ledger : BudgetLedger F} (accounts : Accounts ledger granted)
    (reason : String) :
    Accounts (ledger.ensureKillSwitch sha256Hex reason) granted := by
  unfold BudgetLedger.ensureKillSwitch
  split
  · exact accounts
  · exact accounts.engage reason

/-! ## A grant -/

/-- What the headroom check leaves room for. -/
theorem headroom_of_none {ledger : BudgetLedger F}
    (fits : ledger.headroomViolation validated = none) :
    ∀ entry ∈ validated, entry.2 = 0 ∨ ∃ limit : Nat, ledger.caps.limits entry.1 = some limit ∧
      ledger.reservedTotals entry.1 + entry.2 ≤ limit := by
  induction validated with
  | nil => exact fun _ member => absurd member List.not_mem_nil
  | cons first rest ih =>
      obtain ⟨dimension, amount⟩ := first
      unfold BudgetLedger.headroomViolation at fits
      intro entry member
      by_cases zero : amount = 0
      · rw [if_pos zero] at fits
        rcases List.mem_cons.mp member with rfl | later
        · exact .inl zero
        · exact ih fits entry later
      · rw [if_neg zero] at fits
        cases limits : ledger.caps.limits dimension with
        | none =>
            rw [limits] at fits
            simp only at fits
            split at fits <;> cases fits
        | some limit =>
            rw [limits] at fits
            simp only at fits
            split at fits
            · cases fits
            · rename_i within
              rcases List.mem_cons.mp member with rfl | later
              · refine .inr ⟨limit, limits, ?_⟩
                show ledger.reservedTotals dimension + (amount : Int) ≤ limit
                omega
              · exact ih fits entry later

theorem amountsOf_mem {dimension : Dimension} {amount : Nat}
    (held : amountsOf validated dimension = some amount) : (dimension, amount) ∈ validated := by
  unfold amountsOf at held
  induction validated with
  | nil => cases held
  | cons first rest ih =>
      obtain ⟨key, value⟩ := first
      rw [List.lookup_cons] at held
      by_cases same : dimension = key
      · subst same
        simp only [beq_self_eq_true] at held
        obtain rfl := Option.some.inj held
        exact List.mem_cons_self ..
      · rw [beq_false_of_ne same] at held
        exact List.mem_cons_of_mem _ (ih held)

/-- The granted amount of one dimension fits below its cap. -/
theorem granted_fits {ledger : BudgetLedger F} (fits : ledger.headroomViolation validated = none)
    (dimension : Dimension) :
    (amountsOf validated).at_ dimension = 0 ∨ ∃ limit : Nat,
      ledger.caps.limits dimension = some limit ∧
        ledger.reservedTotals dimension + (amountsOf validated).at_ dimension ≤ limit := by
  unfold Amounts.at_
  cases held : amountsOf validated dimension with
  | none => exact .inl rfl
  | some amount => exact headroom_of_none fits _ (amountsOf_mem held)

theorem putInflight_fresh {inflight : List (Json F × Amounts)} {key : Json F} (amounts : Amounts)
    (fresh : ∀ entry ∈ inflight, entry.1.same key = false) :
    BudgetLedger.putInflight inflight key amounts = inflight ++ [(key, amounts)] := by
  unfold BudgetLedger.putInflight
  rw [if_neg]
  intro known
  obtain ⟨entry, member, same⟩ := List.any_eq_true.mp known
  rw [fresh entry member] at same
  cases same

/-- The next number is no number in flight. -/
theorem Numbered.fresh {ledger : BudgetLedger F} (numbered : Numbered ledger) :
    ∀ entry ∈ ledger.inflight, entry.1.same (.str ledger.nextReservationId) = false := by
  intro entry member
  obtain ⟨number, known, named⟩ := numbered.numbers entry member
  rw [named]
  show (reservationId number == reservationId (ledger.sequence + 1)) = false
  apply beq_false_of_ne
  intro same
  have equal := reservationId_injective same
  omega

/-- A grant that passed every check. -/
theorem Accounts.grant {ledger : BudgetLedger F} (accounts : Accounts ledger granted)
    (distinct : (validated.map Prod.fst).Nodup)
    (room : ledger.inflight.length < ledger.caps.effectiveConcurrencyCap)
    (fits : ledger.headroomViolation validated = none) (event : List (String × Json F)) :
    Accounts ({ ledger with
      reservedTotals := BudgetLedger.addReserved ledger.reservedTotals validated
      inflight := BudgetLedger.putInflight ledger.inflight (.str ledger.nextReservationId)
        (amountsOf validated) }.appendEvent sha256Hex event)
      (granted ++ [amountsOf validated]) := by
  obtain ⟨conserved, numbered, nonneg⟩ := accounts
  have added := addReserved_eq ledger.reservedTotals validated distinct
  have put := putInflight_fresh (amountsOf validated) numbered.fresh
  rw [put]
  refine ⟨⟨?_, ?_, ?_, ?_, ?_⟩, ⟨?_, ?_⟩, nonneg⟩
  · intro dimension
    show BudgetLedger.addReserved _ _ dimension = ledger.actualTotals dimension +
      inflightTotal (ledger.inflight ++ [(_, amountsOf validated)]) dimension
    rw [added, conserved.reserved]
    simp only [inflightTotal, List.map_append, List.sum_append, List.map_cons, List.map_nil,
      List.sum_cons, List.sum_nil]
    omega
  · intro dimension
    show _ = BudgetLedger.addReserved _ _ dimension + ledger.releasedTotals dimension
    rw [added, List.map_append, List.sum_append, conserved.granted]
    simp only [List.map_cons, List.map_nil, List.sum_cons, List.sum_nil]
    omega
  · intro dimension limit limits
    show BudgetLedger.addReserved _ _ dimension ≤ _
    have before := conserved.capped dimension limit limits
    rw [added]
    obtain zero | ⟨cap, caps, within⟩ := granted_fits fits dimension
    · omega
    · have same : ledger.caps.limits dimension = some limit := limits
      rw [same] at caps
      obtain rfl := Option.some.inj caps
      exact within
  · intro dimension none
    show BudgetLedger.addReserved _ _ dimension = 0
    have before := conserved.uncapped dimension none
    rw [added, before]
    obtain zero | ⟨cap, caps, -⟩ := granted_fits fits dimension
    · omega
    · have same : ledger.caps.limits dimension = .none := none
      rw [same] at caps
      cases caps
  · show ((ledger.inflight ++ [_]).length : Int) ≤ ledger.caps.effectiveConcurrencyCap
    rw [List.length_append, List.length_singleton]
    omega
  · intro entry member
    show ∃ number ≤ ledger.sequence + 1, _
    rcases List.mem_append.mp member with before | now
    · obtain ⟨number, known, named⟩ := numbered.numbers entry before
      exact ⟨number, known.trans (Nat.le_succ _), named⟩
    · obtain rfl := List.mem_singleton.mp now
      exact ⟨ledger.sequence + 1, le_rfl, rfl⟩
  · show ((ledger.inflight ++ [_]).map Prod.fst).Nodup
    rw [List.map_append, List.nodup_append]
    refine ⟨numbered.distinct, List.nodup_singleton _, ?_⟩
    intro held member other single
    obtain ⟨entry, there, rfl⟩ := List.mem_map.mp member
    obtain rfl := List.mem_singleton.mp single
    intro same
    have different := numbered.fresh entry there
    rw [same] at different
    simp [Json.same] at different

/-! ## A settlement -/

theorem Numbered.same_iff {ledger : BudgetLedger F} (numbered : Numbered ledger)
    {entry : Json F × Amounts} (member : entry ∈ ledger.inflight) (id : String) :
    entry.1.same (.str id) = true ↔ entry.1 = .str id := by
  obtain ⟨number, -, named⟩ := numbered.numbers entry member
  rw [named, Json.str.injEq]
  exact beq_iff_eq

/-- The held reservation, and the ones that stay in flight. -/
theorem Numbered.perm_pop {ledger : BudgetLedger F} (numbered : Numbered ledger) {id : String}
    {held : Amounts} (found : BudgetLedger.held? ledger.inflight (.str id) = some held) :
    ledger.inflight.Perm
      ((.str id, held) :: BudgetLedger.popInflight ledger.inflight (.str id)) := by
  have keys : ∀ entry ∈ ledger.inflight, entry.1.same (.str id) = true ↔ entry.1 = .str id :=
    fun entry member => numbered.same_iff member id
  have distinct := numbered.distinct
  generalize ledger.inflight = inflight at keys distinct found
  unfold BudgetLedger.held? at found
  unfold BudgetLedger.popInflight
  induction inflight with
  | nil => cases found
  | cons first rest ih =>
      obtain ⟨fresh, distinct⟩ := List.nodup_cons.mp distinct
      have later : ∀ entry ∈ rest, entry.1.same (.str id) = true ↔ entry.1 = .str id :=
        fun entry member => keys entry (List.mem_cons_of_mem _ member)
      by_cases own : first.1 = .str id
      · have same := (keys first (List.mem_cons_self ..)).mpr own
        rw [List.find?_cons, same] at found
        obtain rfl : first.2 = held := Option.some.inj found
        have others : rest.filter (fun entry => !entry.1.same (.str id)) = rest := by
          rw [List.filter_eq_self]
          intro entry member
          have different : ¬ entry.1.same (.str id) = true := by
            intro same
            apply fresh
            rw [own, ← (later entry member).mp same]
            exact List.mem_map.mpr ⟨entry, member, rfl⟩
          simpa using different
        rw [List.filter_cons_of_neg (by simp [same]), others, ← own]
      · have different : ¬ first.1.same (.str id) = true :=
          fun same => own ((keys first (List.mem_cons_self ..)).mp same)
        rw [Bool.not_eq_true] at different
        rw [List.find?_cons, different] at found
        rw [List.filter_cons_of_pos (by rw [different]; rfl)]
        exact ((ih later distinct found).cons first).trans (.swap _ _ _)

theorem inflightTotal_perm {left right : List (Json F × Amounts)} (perm : left.Perm right)
    (dimension : Dimension) : inflightTotal left dimension = inflightTotal right dimension :=
  (perm.map _).sum_eq

theorem inflightTotal_nonneg (inflight : List (Json F × Amounts)) (dimension : Dimension) :
    0 ≤ inflightTotal inflight dimension := by
  apply List.sum_nonneg
  intro amount member
  obtain ⟨entry, _, rfl⟩ := List.mem_map.mp member
  exact Int.natCast_nonneg _

/-- Without an overrun the actual use of a dimension is within its reservation. -/
theorem within_of_overruns {held : Amounts} (none : BudgetLedger.overruns held validated = [])
    (dimension : Dimension) :
    (amountsOf validated).at_ dimension ≤ held.at_ dimension := by
  unfold Amounts.at_
  cases used : amountsOf validated dimension with
  | none => exact Nat.zero_le _
  | some amount =>
      have member := amountsOf_mem used
      have kept := List.filter_eq_nil_iff.mp none _ member
      simp only [decide_eq_true_eq, not_lt] at kept
      exact kept

theorem BudgetLedger.unusedIn_eq (held actuals : Amounts) (dimension : Dimension) :
    unusedIn held actuals dimension = held.at_ dimension - usedIn held actuals dimension := by
  unfold unusedIn usedIn Amounts.at_
  cases held dimension <;> simp

theorem BudgetLedger.usedIn_bounds {held actuals : Amounts} {dimension : Dimension}
    (within : actuals.at_ dimension ≤ held.at_ dimension) :
    0 ≤ usedIn held actuals dimension ∧ usedIn held actuals dimension ≤ held.at_ dimension := by
  unfold usedIn
  split <;> omega

/-- A reservation is settled within its amounts. -/
theorem Accounts.settle {ledger : BudgetLedger F} (accounts : Accounts ledger granted) {id : String}
    {held : Amounts} (found : BudgetLedger.held? ledger.inflight (.str id) = some held)
    (none : BudgetLedger.overruns held validated = []) :
    Accounts ({ ledger with
      inflight := BudgetLedger.popInflight ledger.inflight (.str id) }.settleTotals held
        (amountsOf validated)) granted := by
  obtain ⟨conserved, numbered, nonneg⟩ := accounts
  have perm := numbered.perm_pop found
  have within := within_of_overruns none
  have parts : ∀ dimension, inflightTotal ledger.inflight dimension = held.at_ dimension +
      inflightTotal (BudgetLedger.popInflight ledger.inflight (.str id)) dimension := by
    intro dimension
    rw [inflightTotal_perm perm]
    simp [inflightTotal]
  have unused := BudgetLedger.unusedIn_eq held (amountsOf validated)
  have used := fun dimension => BudgetLedger.usedIn_bounds (within dimension)
  refine ⟨⟨?_, ?_, ?_, ?_, ?_⟩, ⟨?_, ?_⟩, ?_⟩
  · intro dimension
    have before := conserved.reserved dimension
    have split := parts dimension
    simp only [BudgetLedger.settleTotals, unused]
    omega
  · intro dimension
    have before := conserved.granted dimension
    simp only [BudgetLedger.settleTotals, unused]
    omega
  · intro dimension limit limits
    have before := conserved.capped dimension limit limits
    have bounds := used dimension
    simp only [BudgetLedger.settleTotals, unused]
    omega
  · intro dimension uncapped
    have before := conserved.uncapped dimension uncapped
    have sum := conserved.reserved dimension
    have split := parts dimension
    have actual := nonneg dimension
    have rest := inflightTotal_nonneg
      (BudgetLedger.popInflight ledger.inflight (.str id)) dimension
    have bounds := used dimension
    simp only [BudgetLedger.settleTotals, unused]
    omega
  · have fewer := perm.length_eq
    have before := conserved.concurrent
    rw [List.length_cons] at fewer
    simp only [BudgetLedger.settleTotals]
    omega
  · intro entry member
    exact numbered.numbers entry (List.mem_of_mem_filter member)
  · exact numbered.distinct.sublist (List.filter_sublist.map _)
  · intro dimension
    have before := nonneg dimension
    have bounds := used dimension
    simp only [BudgetLedger.settleTotals]
    omega

/-! ## One call -/

/-- A ledger and the amounts of every reservation it granted. -/
structure Session (F : Type) where
  ledger : BudgetLedger F
  granted : List Amounts

namespace Session

variable (sha256Hex) in
/-- One call. -/
def step (session : Session F) (operation : BudgetLedger.Operation F) : Session F :=
  let done := session.ledger.run sha256Hex operation
  ⟨done.1, session.granted ++ (done.2.map (·.amounts)).toList⟩

end Session

/-- A reserve keeps the accounts, with what it granted. -/
theorem Accounts.reserve {ledger : BudgetLedger F} (accounts : Accounts ledger granted) (now : F)
    (label : String) (amounts : Json F) :
    Accounts (ledger.reserve sha256Hex now label amounts).1
      (granted ++ ((ledger.reserve sha256Hex now label amounts).2.toOption.map
        (·.amounts)).toList) := by
  have refused : ∀ {after : BudgetLedger F} {error : BudgetError}, Accounts after granted →
      Accounts after (granted ++ (((.error error : Except BudgetError Reservation).toOption.map
        (·.amounts)).toList)) := by
    intro after error kept
    rw [show ((.error error : Except BudgetError Reservation).toOption.map (·.amounts)).toList = []
      from rfl, List.append_nil]
    exact kept
  unfold BudgetLedger.reserve
  cases valid : validateAmounts amounts "reserve" with
  | error error => exact refused accounts
  | ok validated =>
      simp only
      by_cases late : ledger.deadlineExceeded now = true
      · rw [if_pos late]
        exact refused ((accounts.ensure _).deny _ _ _)
      rw [if_neg late]
      by_cases killed : ledger.killSwitchEngaged = true
      · rw [if_pos killed]
        exact refused (accounts.deny _ _ _)
      rw [if_neg killed]
      by_cases empty : validated.any (fun entry => decide (0 < entry.2)) = false
      · rw [if_pos empty]
        exact refused (accounts.deny _ _ _)
      rw [if_neg empty]
      by_cases full : ledger.caps.effectiveConcurrencyCap ≤ ledger.inflight.length
      · rw [if_pos full]
        exact refused (accounts.deny _ _ _)
      rw [if_neg full]
      cases fits : ledger.headroomViolation validated with
      | some violation => exact refused (accounts.deny _ _ _)
      | none => exact accounts.grant (validateAmounts_nodup valid) (by omega) fits _

/-- A reconciliation keeps the accounts. -/
theorem Accounts.reconcile {ledger : BudgetLedger F} (accounts : Accounts ledger granted)
    (id : String) (actuals : Json F) :
    Accounts (ledger.reconcile sha256Hex id actuals).1 granted := by
  unfold BudgetLedger.reconcile
  cases valid : validateAmounts actuals "reconcile" with
  | error error => exact accounts
  | ok validated =>
      simp only
      cases found : BudgetLedger.held? ledger.inflight (.str id) with
      | none => exact accounts
      | some held =>
          simp only
          by_cases excess : BudgetLedger.overruns held validated ≠ []
          · rw [if_pos excess]
            exact (accounts.event sha256Hex _).ensure _
          · rw [if_neg excess]
            exact (accounts.settle found (not_not.mp excess)).event sha256Hex _

/-- **One call keeps the accounts.** -/
theorem Accounts.step {session : Session F} (accounts : Accounts session.ledger session.granted)
    (operation : BudgetLedger.Operation F) :
    Accounts (session.step sha256Hex operation).ledger
      (session.step sha256Hex operation).granted := by
  cases operation with
  | reserve now label amounts => exact accounts.reserve now label amounts
  | reconcile id actuals =>
      show Accounts _ (session.granted ++ [])
      rw [List.append_nil]
      exact accounts.reconcile id actuals
  | engageKillSwitch reason =>
      show Accounts _ (session.granted ++ [])
      rw [List.append_nil]
      exact accounts.engage reason

/-! ## The kill switch -/

variable (sha256Hex) in
/-- A ledger whose kill switch is engaged grants nothing and keeps it engaged. -/
theorem reserve_of_killed {ledger : BudgetLedger F} (killed : ledger.killSwitchEngaged = true)
    (now : F) (label : String) (amounts : Json F) :
    (∃ error, (ledger.reserve sha256Hex now label amounts).2 = .error error) ∧
      (ledger.reserve sha256Hex now label amounts).1.killSwitchEngaged = true := by
  unfold BudgetLedger.reserve
  cases validateAmounts amounts "reserve" with
  | error error => exact ⟨⟨error, rfl⟩, killed⟩
  | ok validated =>
      simp only
      have ensured : ∀ reason, ledger.ensureKillSwitch sha256Hex reason = ledger := by
        intro reason
        rw [BudgetLedger.ensureKillSwitch, if_pos killed]
      split
      · rw [ensured]
        exact ⟨⟨_, rfl⟩, killed⟩
      · exact ⟨⟨_, rfl⟩, killed⟩

theorem ensureKillSwitch_engaged (ledger : BudgetLedger F) (reason : String) :
    (ledger.ensureKillSwitch sha256Hex reason).killSwitchEngaged = true := by
  unfold BudgetLedger.ensureKillSwitch
  split
  · assumption
  · rfl

theorem reconcile_of_killed {ledger : BudgetLedger F} (killed : ledger.killSwitchEngaged = true)
    (id : String) (actuals : Json F) :
    (ledger.reconcile sha256Hex id actuals).1.killSwitchEngaged = true := by
  unfold BudgetLedger.reconcile
  cases validateAmounts actuals "reconcile" with
  | error error => exact killed
  | ok validated =>
      simp only
      cases BudgetLedger.held? ledger.inflight (.str id) with
      | none => exact killed
      | some held =>
          simp only
          split
          · exact ensureKillSwitch_engaged _ _
          · exact killed

variable (sha256Hex) in
/-- No call takes the kill switch back, and none grants anything over it. -/
theorem step_of_killed {session : Session F} (killed : session.ledger.killSwitchEngaged = true)
    (operation : BudgetLedger.Operation F) :
    (session.step sha256Hex operation).ledger.killSwitchEngaged = true ∧
      (session.step sha256Hex operation).granted = session.granted := by
  cases operation with
  | reserve now label amounts =>
      obtain ⟨⟨error, raised⟩, engaged⟩ := reserve_of_killed sha256Hex killed now
        label amounts
      refine ⟨engaged, ?_⟩
      show session.granted ++ _ = session.granted
      simp only [BudgetLedger.run]
      rw [raised]
      exact List.append_nil _
  | reconcile id actuals => exact ⟨reconcile_of_killed killed id actuals, List.append_nil _⟩
  | engageKillSwitch reason => exact ⟨rfl, List.append_nil _⟩

/-- The three ways in which the kill switch gets engaged. -/
structure Engages (sha256Hex : ByteArray → String) (ledger : BudgetLedger F) : Prop where
  explicit : ∀ reason, (ledger.engageKillSwitch sha256Hex reason).killSwitchEngaged = true
  drift : ∀ id actuals validated held, validateAmounts actuals "reconcile" = .ok validated →
    BudgetLedger.held? ledger.inflight (.str id) = some held →
    BudgetLedger.overruns held validated ≠ [] →
      (ledger.reconcile sha256Hex id actuals).1.killSwitchEngaged = true
  deadline : ∀ now label amounts validated, validateAmounts amounts "reserve" = .ok validated →
    ledger.deadlineExceeded now = true →
      (ledger.reserve sha256Hex now label amounts).1.killSwitchEngaged = true

theorem engages (ledger : BudgetLedger F) : Engages sha256Hex ledger where
  explicit := fun _ => rfl
  drift := by
    intro id actuals validated held valid found excess
    unfold BudgetLedger.reconcile
    rw [valid]
    simp only [found]
    rw [if_pos excess]
    exact ensureKillSwitch_engaged _ _
  deadline := by
    intro now label amounts validated valid late
    unfold BudgetLedger.reserve
    rw [valid]
    simp only
    rw [if_pos late]
    exact ensureKillSwitch_engaged ledger "wall-clock deadline exceeded"

/-! ## Every sequence of calls -/

variable (sha256Hex) in
/-- The calls on a ledger that was opened with these caps. -/
def BudgetRun (caps : BudgetCaps F) (store : Option Store) (now : F)
    (operations : List (BudgetLedger.Operation F)) (session : Session F) : Prop :=
  ∃ ledger, BudgetLedger.open_ sha256Hex caps store now = .ok ledger ∧
    Run (fun before operation after => before.step sha256Hex operation = after)
      ⟨ledger, []⟩ operations session

/-- A ledger starts with nothing reserved. -/
theorem accounts_open {caps : BudgetCaps F} {store : Option Store} {now : F}
    {ledger : BudgetLedger F} (opened : BudgetLedger.open_ sha256Hex caps store now = .ok ledger) :
    Accounts ledger [] := by
  simp only [BudgetLedger.open_, bind_eq_ok, refuse_eq_ok] at opened
  obtain ⟨_, valid, _, _, opened⟩ := opened
  simp only [BudgetCaps.validate, bind_eq_ok, refuse_eq_ok] at valid
  obtain ⟨_, atLeastOne, _⟩ := valid
  have cap : 0 ≤ caps.effectiveConcurrencyCap := by
    unfold BudgetCaps.effectiveConcurrencyCap
    split <;> omega
  have fresh : ∀ deadline : Option F,
      Accounts ({ caps := caps, store := store, deadlineAt := deadline } : BudgetLedger F) [] := by
    intro deadline
    refine ⟨⟨fun _ => rfl, fun _ => rfl, fun _ limit _ => Int.natCast_nonneg limit, fun _ _ => rfl,
      cap⟩, ⟨fun _ member => absurd member List.not_mem_nil, List.nodup_nil⟩, fun _ => le_rfl⟩
  split at opened
  · simp only [bind_eq_ok, require_eq_ok, pure_eq_ok] at opened
    obtain ⟨_, _, rfl⟩ := opened
    exact (fresh _).event sha256Hex _
  · obtain rfl := Except.ok.inj opened
    exact fresh _

end Digest

/-! ## A sample -/

/-- The float `0.0`; the samples write down no other. -/
inductive ZeroFloat
  | zero

instance : ClockFloat ZeroFloat where
  finite _ := true
  text _ := ⟨false, ['0'], ['0'], none⟩
  ofText _ := .zero
  nan := .zero
  infinity := .zero
  negInfinity := .zero
  same _ _ := true
  sameInt _ value := value == 0
  text_wellFormed _ _ :=
    ⟨by decide, by decide, fun _ => rfl, by decide, fun _ _ _ none => by cases none⟩
  text_isFloat _ _ := rfl
  ofText_text x _ := by cases x; rfl
  same_self _ _ := rfl
  ofInt _ := .zero
  parse _ := some .zero
  add _ _ := .zero
  atLeast _ _ := true
  positive _ := false

/-- Two calls, no deadline. -/
def sampleCaps : BudgetCaps ZeroFloat where
  limits dimension := if dimension = .calls then some 2 else none
  concurrencyCap := 1
  wallClockDeadlineSeconds := none
  concurrencyCapability := .unknown

/-- A reservation that is overrun, and the next one. -/
def sampleOperations : List (BudgetLedger.Operation ZeroFloat) :=
  [.reserve .zero "case-01" (.object [("calls", .int 1)]),
    .reconcile "resv-000001" (.object [("calls", .int 2)]),
    .reserve .zero "case-02" (.object [("calls", .int 1)])]

def sampleSession : Session ZeroFloat :=
  sampleOperations.foldl (Session.step fun _ => "") ⟨{ caps := sampleCaps }, []⟩

end Aegis.Budget

/-
# Lib.HashChain — a chain of records is committed to by its head

Records carry the hash of their predecessor and their own hash. `Linked` says
that a list of records starts at the genesis value and ends at a head, every
record naming the hash before it. If equal hashes mean equal views, and a view
fixes the predecessor it names, then the head fixes the views of the whole
list: `linked_unique` walks both lists backwards from the shared head.
`linked_of_foldlM` is the loop that checks a chain record by record. `follow`
orders unordered records by walking their hashes; on a chain it is the identity.
-/
import Mathlib.Data.List.Induction
import Mathlib.Tactic.Common
import Aegis.Lib.Guarded

namespace Aegis.Lib.HashChain

open Aegis.Lib.Guarded

set_option autoImplicit false

universe u v w

variable {ρ : Type u} {D : Type v} {V : Type w} (previous hash : ρ → D)

/-- The records lead from the hash `start` to the hash `head`. -/
def Linked : D → List ρ → D → Prop
  | start, [], head => head = start
  | start, record :: rest, head => previous record = start ∧ Linked (hash record) rest head

variable {previous hash}

theorem linked_append_singleton {record : ρ} :
    ∀ (records : List ρ) (start head : D),
      Linked previous hash start (records ++ [record]) head ↔
        Linked previous hash start records (previous record) ∧ head = hash record
  | [], start, head => by simp [Linked]
  | first :: rest, start, head => by
      simp only [List.cons_append, Linked, linked_append_singleton rest, and_assoc]

/-- A loop that compares every record with the hash it has reached verifies a chain. -/
theorem linked_of_foldlM {σ : Type u} {ε : Type u} {check : σ → ρ → Except ε σ}
    (reached : σ → D) {P : ρ → Prop}
    (turn : ∀ s record t, check s record = .ok t →
      previous record = reached s ∧ reached t = hash record ∧ P record) :
    ∀ (records : List ρ) (s t : σ), records.foldlM check s = .ok t →
      Linked previous hash (reached s) records (reached t) ∧ ∀ record ∈ records, P record
  | [], s, t, done => by
      obtain rfl : s = t := by simpa using done
      simp [Linked]
  | record :: rest, s, t, done => by
      rw [List.foldlM_cons, bind_eq_ok] at done
      obtain ⟨middle, first, later⟩ := done
      obtain ⟨names, hashes, accepted⟩ := turn s record middle first
      obtain ⟨linked, all⟩ := linked_of_foldlM reached turn rest middle t later
      rw [hashes] at linked
      exact ⟨⟨names, linked⟩, by simpa using ⟨accepted, all⟩⟩

/-- **The head commits to the chain.** Two chains with one head have the same views. -/
theorem linked_unique {view : ρ → V} {genesis : D}
    (fixed : ∀ a b, view a = view b → previous a = previous b) :
    ∀ (left right : List ρ) (head : D),
      (∀ a ∈ left, ∀ b ∈ right, hash a = hash b → view a = view b) →
      (∀ a ∈ left, hash a ≠ genesis) → (∀ b ∈ right, hash b ≠ genesis) →
      Linked previous hash genesis left head → Linked previous hash genesis right head →
        left.map view = right.map view := by
  intro left
  induction left using List.reverseRecOn with
  | nil =>
      intro right head same _ proper first second
      obtain rfl : head = genesis := first
      cases right using List.reverseRecOn with
      | nil => rfl
      | append_singleton rest record =>
          have last := ((linked_append_singleton rest _ _).mp second).2
          exact absurd last.symm (proper record (by simp))
  | append_singleton before record ih =>
      intro right head same properLeft properRight first second
      obtain ⟨linked, last⟩ := (linked_append_singleton before _ _).mp first
      cases right using List.reverseRecOn with
      | nil => exact absurd (last.symm.trans second) (properLeft record (by simp))
      | append_singleton rest other =>
          obtain ⟨linked', last'⟩ := (linked_append_singleton rest _ _).mp second
          have view := same record (by simp) other (by simp) (last.symm.trans last')
          have init := ih rest (previous record)
            (fun a left b right => same a (by simp [left]) b (by simp [right]))
            (fun a left => properLeft a (by simp [left]))
            (fun b right => properRight b (by simp [right])) linked
            (fixed _ _ view ▸ linked')
          simp [init, view]

/-! ## Following the hashes -/

/-- The records met by following the hashes from `start` for at most `fuel` turns. -/
def follow [DecidableEq D] (previous hash : ρ → D) (records : List ρ) : Nat → D → List ρ
  | 0, _ => []
  | fuel + 1, start =>
      match records.find? (fun record => previous record = start) with
      | none => []
      | some record => record :: follow previous hash records fuel (hash record)

end Aegis.Lib.HashChain

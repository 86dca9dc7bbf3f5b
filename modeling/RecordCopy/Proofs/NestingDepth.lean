import Mathlib.Algebra.Ring.Nat
import Mathlib.Data.Nat.Log
import Mathlib.Order.Bounds.Basic
import RecordCopy.Proofs.Run

/-!
# How deep compositions are nested

Composing a list splits it in the middle.  Of the two halves the right one is the longer, or they
are equally long, so it is the one that decides how deep the composition becomes, and its length
is half of the whole rounded up.  Rounding up and halving until one operation is left takes as
many rounds as the binary logarithm, rounded up, says (`snd_balanced`).
-/

namespace RecordCopy

namespace Composition

variable {α : Type}

/-- The depth that composing reports is the one of what it makes. -/
theorem nesting_balanced (operations : List α) :
    (balanced operations).1.nesting = (balanced operations).2 := by
  fun_induction balanced operations with
  | case1 => rfl
  | case2 operation => rfl
  | case3 a b rest operations half left right ihLeft ihRight =>
    rw [nesting, ihLeft, ihRight]

/-- The longer half has one level less. -/
theorem clog_two_half {n : ℕ} (hn : 2 ≤ n) :
    1 + max (Nat.clog 2 (n / 2)) (Nat.clog 2 (n - n / 2)) = Nat.clog 2 n := by
  have hle : n / 2 ≤ n - n / 2 := by omega
  have hhalf : n - n / 2 = (n + 2 - 1) / 2 := by omega
  rw [max_eq_right (Nat.clog_mono_right 2 hle), hhalf, Nat.clog_of_two_le (by decide) hn,
    Nat.add_comm]

theorem snd_balanced (operations : List α) :
    (balanced operations).2 = Nat.clog 2 operations.length := by
  fun_induction balanced operations with
  | case1 => simp
  | case2 operation => simp
  | case3 a b rest operations half left right ihLeft ihRight =>
    have hlength : 2 ≤ operations.length := by simp [operations]
    have hleft : (operations.take half).length = operations.length / 2 := by
      rw [List.length_take]
      omega
    have hright : (operations.drop half).length = operations.length - operations.length / 2 :=
      List.length_drop
    rw [hleft] at ihLeft
    rw [hright] at ihRight
    rw [ihLeft, ihRight]
    exact clog_two_half hlength

/-- The depth that composing a list reports is how deep the composition is nested, and the least
    number of doublings from one that reaches the length of the list.  It is nothing for at most
    one operation; beyond that, one doubling less does not reach the length.  A plan counts its
    instructions, and its depth is the one of composing them. -/
theorem depth_balanced_least (operations : List α) :
    let composed := balanced operations
    composed.2 = composed.1.nesting ∧
    IsLeast {depth | operations.length ≤ 2 ^ depth} composed.2 ∧
    (composed.2 = 0 ↔ operations.length ≤ 1) ∧
    (2 ≤ operations.length →
      2 ^ (composed.2 - 1) < operations.length ∧ operations.length ≤ 2 ^ composed.2) ∧
    ∀ (s d : RecordType) (instructions : List Instruction),
      let plan := Plan.compile s d instructions
      plan.instructionCount = instructions.length ∧ plan.operation.operations = instructions ∧
      plan.depth = plan.operation.nesting ∧
      IsLeast {depth | instructions.length ≤ 2 ^ depth} plan.depth := by
  have hleast : ∀ {β : Type} (xs : List β),
      IsLeast {depth | xs.length ≤ 2 ^ depth} (balanced xs).2 := by
    intro β xs
    rw [snd_balanced]
    constructor
    · exact Nat.le_pow_clog (by decide) _
    · intro depth hdepth
      exact Nat.clog_le_of_le_pow hdepth
  refine ⟨(nesting_balanced operations).symm, hleast operations, ?_, ?_, ?_⟩
  · rw [snd_balanced, ← Nat.le_zero, Nat.clog_le_iff_le_pow (by decide), pow_zero]
  · intro hlength
    refine ⟨?_, (hleast operations).1⟩
    rw [snd_balanced]
    exact Nat.pow_pred_clog_lt_self (by decide) hlength
  · intro s d instructions
    exact ⟨rfl, operations_balanced instructions, (nesting_balanced instructions).symm,
      hleast instructions⟩

/-- Twenty-five operations need five levels. -/
theorem depth_balanced_twentyFive :
    2 ≤ (List.range 25).length ∧ 2 ^ ((balanced (List.range 25)).2 - 1) < (List.range 25).length ∧
      (balanced (List.range 25)).2 = 5 := by
  have hlength : 2 ≤ (List.range 25).length := by decide
  obtain ⟨-, ⟨hreached, hleast⟩, -, hbelow, -⟩ := depth_balanced_least (List.range 25)
  refine ⟨hlength, (hbelow hlength).1, Nat.le_antisymm (hleast (by decide)) ?_⟩
  by_contra hless
  have hpow : 2 ^ (balanced (List.range 25)).2 ≤ 2 ^ 4 :=
    Nat.pow_le_pow_right (by decide) (by omega)
  have hshort : (List.range 25).length ≤ 2 ^ 4 := Nat.le_trans hreached hpow
  exact absurd hshort (by decide)

end Composition

end RecordCopy

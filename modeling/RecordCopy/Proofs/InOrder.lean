import RecordCopy.Proofs.Run

/-!
# Operations in order

However a list of operations was composed, running the composition goes through the list: each
operation meets the state that the ones before it leave (`Composition.met`), whether those failed
or not, and the first one that fails gives the result.

That every operation runs, and runs once, does not show in the final state alone.  So there is a
second run, in which each operation notes itself down with the state it meets
(`Composition.noting`).  It differs from the first run in nothing else, and what has been noted
down at the end is `met`.
-/

namespace RecordCopy

namespace Composition

variable {α σ δ ε : Type}

theorem firstFailure_eq_error_iff {a b : Except ε Unit} {e : ε} :
    firstFailure a b = .error e ↔ a = .error e ∨ a = .ok () ∧ b = .error e := by
  cases a <;> simp [firstFailure]

theorem isIdle_iff {c : Composition α} : c.isIdle = true ↔ c = .idle := by
  cases c <;> simp [isIdle]

theorem balanced_eq_idle_iff {operations : List α} :
    (balanced operations).1 = .idle ↔ operations = [] := by
  constructor
  · intro hidle
    have hoperations := operations_balanced operations
    rw [hidle] at hoperations
    exact hoperations.symm
  · rintro rfl
    rw [balanced]

variable (perform : α → σ → δ → δ × Except ε Unit) (source : σ)

/-! ### The states that operations meet -/

def leave (state : δ) (operation : α) : δ := (perform operation source state).1

/-- The operations in order, each with the state that the ones before it leave. -/
def met (operations : List α) (state : δ) : List (α × δ) :=
  operations.zip (operations.scanl (leave perform source) state)

/-- Perform an operation and note it down, with the state it meets. -/
def noting (operation : α) (source : σ) (state : δ × List (α × δ)) :
    (δ × List (α × δ)) × Except ε Unit :=
  let done := perform operation source state.1
  ((done.1, state.2 ++ [(operation, state.1)]), done.2)

variable (operation : α) (operations : List α) (state : δ)

@[simp] theorem met_nil : met perform source [] state = [] := rfl

@[simp] theorem met_cons : met perform source (operation :: operations) state =
    (operation, state) :: met perform source operations (leave perform source state operation) := by
  rw [met, List.scanl_cons, List.zip_cons_cons]
  rfl

theorem map_fst_met : (met perform source operations state).map Prod.fst = operations := by
  apply List.map_fst_zip
  rw [List.length_scanl]
  exact Nat.le_succ _

theorem runAll_fst : (runAll perform source operations state).1 =
    operations.foldl (leave perform source) state := by
  induction operations generalizing state with
  | nil => rfl
  | cons operation rest ih =>
    rw [List.foldl_cons, ← ih]
    rfl

theorem runAll_noting (noted : List (α × δ)) :
    runAll (noting perform) source operations (state, noted) =
      (((runAll perform source operations state).1, noted ++ met perform source operations state),
        (runAll perform source operations state).2) := by
  induction operations generalizing state noted with
  | nil => simp [runAll]
  | cons operation rest ih =>
    have hrest := ih (leave perform source state operation) (noted ++ [(operation, state)])
    have hnoted : noted ++ met perform source (operation :: rest) state =
        (noted ++ [(operation, state)]) ++
          met perform source rest (leave perform source state operation) := by
      rw [met_cons, List.append_assoc]
      rfl
    rw [hnoted]
    simp only [runAll, noting]
    rw [leave] at hrest
    rw [hrest]
    rfl

/-! ### The result of a run -/

variable {perform source operations state}

theorem runAll_eq_ok_iff : (runAll perform source operations state).2 = .ok () ↔
    ∀ m ∈ met perform source operations state, (perform m.1 source m.2).2 = .ok () := by
  induction operations generalizing state with
  | nil => simp [runAll]
  | cons operation rest ih =>
    rw [runAll, firstFailure_eq_ok_iff, met_cons, List.forall_mem_cons, ih]
    rfl

theorem runAll_eq_error_iff {e : ε} : (runAll perform source operations state).2 = .error e ↔
    ∃ before m rest, met perform source operations state = before ++ m :: rest ∧
      (∀ b ∈ before, (perform b.1 source b.2).2 = .ok ()) ∧
      (perform m.1 source m.2).2 = .error e := by
  induction operations generalizing state with
  | nil =>
    simp [runAll]
  | cons operation rest ih =>
    rw [runAll, firstFailure_eq_error_iff, ih, met_cons]
    constructor
    · rintro (hfirst | ⟨hdone, before, m, more, hmet, hbefore, hm⟩)
      · exact ⟨[], (operation, state), _, rfl, by simp, hfirst⟩
      · refine ⟨(operation, state) :: before, m, more, ?_, ?_, hm⟩
        · rw [List.cons_append, ← hmet]
          rfl
        · exact List.forall_mem_cons.mpr ⟨hdone, hbefore⟩
    · rintro ⟨before, m, more, hmet, hbefore, hm⟩
      cases before with
      | nil =>
        obtain ⟨rfl, -⟩ := List.cons.inj hmet
        exact .inl hm
      | cons b before =>
        obtain ⟨rfl, hrest⟩ := List.cons.inj hmet
        obtain ⟨hdone, hbefore⟩ := List.forall_mem_cons.mp hbefore
        exact .inr ⟨hdone, before, m, more, hrest, hbefore, hm⟩

/-- A list of operations, composed in halves, runs from left to right.  The final state is the
    fold over the list; every operation runs exactly once, and on the state that the ones before
    it leave, whether they fail or not; and the run fails if one of the operations does, with the
    error of the first that fails.  A plan is the idle one if there is nothing to carry out, and
    only then. -/
theorem run_balanced_in_order (perform : α → σ → δ → δ × Except ε Unit) (operations : List α)
    (source : σ) (state : δ) :
    let composed := (balanced operations).1
    let done := composed.run perform source state
    let encounters := met perform source operations state
    done.1 = operations.foldl (leave perform source) state ∧
    composed.run (noting perform) source (state, []) = ((done.1, encounters), done.2) ∧
    encounters.map Prod.fst = operations ∧
    (done.2 = .ok () ↔ ∀ m ∈ encounters, (perform m.1 source m.2).2 = .ok ()) ∧
    (∀ e, done.2 = .error e ↔ ∃ before m rest, encounters = before ++ m :: rest ∧
      (∀ b ∈ before, (perform b.1 source b.2).2 = .ok ()) ∧
      (perform m.1 source m.2).2 = .error e) ∧
    ∀ (s d : RecordType) (instructions : List Instruction),
      (Plan.compile s d instructions).isNoop = true ↔ instructions = [] := by
  intro composed done encounters
  have hdone : done = runAll perform source operations state := by
    simp only [done, composed, run_eq_runAll, operations_balanced]
  have hnoting : composed.run (noting perform) source (state, []) =
      runAll (noting perform) source operations (state, []) := by
    simp only [composed, run_eq_runAll, operations_balanced]
  rw [hnoting, runAll_noting, List.nil_append, hdone]
  refine ⟨runAll_fst .., rfl, map_fst_met .., runAll_eq_ok_iff, ?_, ?_⟩
  · intro e
    exact runAll_eq_error_iff
  · intro s d instructions
    exact isIdle_iff.trans balanced_eq_idle_iff

/-- The odd ones fail: all four run, and the result is the failure of the first odd one. -/
example : (balanced [0, 1, 2, 3]).1.run
    (fun n (_ : Unit) ran => (ran ++ [n], if n % 2 = 1 then Except.error n else .ok ())) () [] =
      ([0, 1, 2, 3], .error 1) := by cbv

end Composition

end RecordCopy

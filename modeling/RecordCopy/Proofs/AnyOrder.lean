import Mathlib.Data.List.Pairwise
import RecordCopy.Proofs.Atomicity
import RecordCopy.Proofs.Idempotence

/-!
# Instructions in any order

Instructions that write at unrelated paths can be carried out in any order.  Their slots do not
touch, so what one of them puts into its slot neither makes the slot of another appear nor takes it
away, and does not change what lies in it.  An instruction that fails leaves nothing behind anyway.

What an instruction comes to is then settled before any of them has run: it is what the instruction
would come to by itself.  Only which of several failures is the first one depends on the order, and
so do the numbers of the allocations that are made on the way.  For that reason two instructions
commute up to fresh allocations, and no further.
-/

namespace RecordCopy

/-! ### Outcomes -/

namespace Composition

variable {α σ δ ε : Type} (perform : α → σ → δ → δ × Except ε Unit) (source : σ)

/-- The operations of a run in order, each with what it comes to. -/
def outcomes (operations : List α) (state : δ) : List (α × Except ε Unit) :=
  (met perform source operations state).map fun m => (m.1, (perform m.1 source m.2).2)

theorem outcomes_cons (operation : α) (rest : List α) (state : δ) :
    outcomes perform source (operation :: rest) state =
      (operation, (perform operation source state).2) ::
        outcomes perform source rest (perform operation source state).1 := by
  rw [outcomes, met_cons, List.map_cons]
  rfl

variable {perform source}

theorem runAll_eq_ok_iff_outcomes {operations : List α} {state : δ} :
    (runAll perform source operations state).2 = .ok () ↔
      ∀ o ∈ outcomes perform source operations state, o.2 = .ok () := by
  rw [runAll_eq_ok_iff, outcomes, List.forall_mem_map]

end Composition

/-- The slots of the instructions do not touch one another. -/
def Instruction.SlotsApart (instructions : List Instruction) : Prop :=
  instructions.Pairwise fun i j => Apart i.destination.fields j.destination.fields

theorem Instruction.SlotsApart.of_perm {instructions permuted : List Instruction}
    (h : SlotsApart instructions) (hperm : instructions.Perm permuted) : SlotsApart permuted :=
  List.Pairwise.perm h hperm Apart.symm

namespace Schema

variable {schema : Schema} {i j : Instruction} {source : Value} {first : Allocation}

/-! ### Two instructions -/

/-- Of the destination an instruction asks whether there is a slot, and for a value of which type.
    That alone decides what it comes to. -/
theorem result_copy_of_slot {t u : Target}
    (h : (slotAlong i.destination.fields t.value).map (·.content.type) =
      (slotAlong i.destination.fields u.value).map (·.content.type)) :
    (schema.copy i source t).2 = (schema.copy i source u).2 := by
  unfold copy
  cases i.source.compile source with
  | none => rfl
  | some v =>
    have ht : 0 ≤ t.fresh := Nat.zero_le _
    have hu : 0 ≤ u.fresh := Nat.zero_le _
    obtain ⟨R, hbrought, hstore⟩ := schema.storing_brought? i ht hu v
    simp only [deliver_eq, WritePath.storeWith, WritePath.slot_eq_slotAlong]
    generalize schema.brought? i t.fresh v = x, schema.brought? i u.fresh v = y at hbrought
    cases hbrought with
    | none => rfl
    | @some x y hxy =>
      dsimp only
      generalize slotAlong i.destination.fields t.value = p,
        slotAlong i.destination.fields u.value = q at h
      cases p with
      | none =>
        cases q with
        | none => rfl
        | some q => cases h
      | some p =>
        cases q with
        | none => cases h
        | some q =>
          have htaken := Stored.taken_eq_of_rel
            (hstore x y hxy p.content q.content (Option.some.inj h))
          simp only [htaken]
          split <;> rfl

theorem result_copy_of_apart (hapart : Apart i.destination.fields j.destination.fields)
    (target : Target) :
    (schema.copy j source (schema.copy i source target).1).2 = (schema.copy j source target).2 := by
  have hwalk := schema.walk_runAll_copy source (List.forall_mem_singleton.mpr hapart) target
  rw [walk_eq_content, walk_eq_content] at hwalk
  apply result_copy_of_slot
  have htypes := congrArg (Option.map Value.type) hwalk
  rw [Option.map_map, Option.map_map] at htypes
  exact htypes

/-- Instructions with slots apart leave the same in either order, up to fresh allocations. -/
theorem copy_swap (hapart : Apart i.destination.fields j.destination.fields) {target : Target}
    (hfresh : first ≤ target.fresh) :
    (schema.copy j source (schema.copy i source target).1).1.SameFrom first
      (schema.copy i source (schema.copy j source target).1).1 := by
  have hafter := hfresh.trans (schema.fresh_le_copy j source target)
  rcases schema.copy_cases i source target with
    ⟨report, hcopy⟩ | ⟨v, place, content, hread, hplace, hput, hcopy⟩
  · -- the one that fails by itself fails behind the other, too
    have hresult : (schema.copy i source (schema.copy j source target).1).2 =
        (schema.copy i source target).2 := result_copy_of_apart hapart.symm target
    rw [hcopy] at hresult
    have hleft := schema.copy_fst_of_error i source _ hresult
    rw [hcopy, hleft]
    exact .refl hafter
  · obtain ⟨other, hother, hcontent, hfilled⟩ := copy_apart hapart source hplace
    -- behind the other instruction the slot holds what it held, so the same is put into it
    have hsame := schema.put?_sameUpTo i hfresh hafter (congrArg Value.type hcontent.symm) v
    rw [hput] at hsame
    generalize hput' : schema.put? i (schema.copy j source target).1.fresh other.content v = found
      at hsame
    cases hsame with
    | @some _ content' hsame =>
      have hthen := schema.copy_eq_of_put? (schema.copy j source target).1 hread hother hput'
      have hnow : Target.SameFrom first ⟨place.replace content, target.fresh + 1⟩
          ⟨place.replace content, target.fresh⟩ :=
        ⟨.refl first _, Nat.le_succ_of_le hfresh, hfresh⟩
      obtain ⟨hcopied, -⟩ := schema.copy_sameFrom j source hnow
      have hvalue : (other.replace content).SameUpTo first (other.replace content') :=
        (Place.SameUpTo.of_slotAlong hother).replace content content' hsame
      rw [hcopy, hthen]
      refine ⟨?_, hcopied.fresh_left, Nat.le_succ_of_le hafter⟩
      rw [← hfilled content] at hvalue
      exact Eq.trans hcopied.value hvalue

/-! ### Runs -/

/-- Among slots apart every instruction comes to what it would come to by itself. -/
theorem outcomes_copy {instructions : List Instruction}
    (h : Instruction.SlotsApart instructions) (target : Target) :
    Composition.outcomes schema.copy source instructions target =
      instructions.map fun i => (i, (schema.copy i source target).2) := by
  induction instructions generalizing target with
  | nil => rfl
  | cons i rest ih =>
    obtain ⟨hfirst, hrest⟩ := List.pairwise_cons.mp h
    rw [Composition.outcomes_cons, ih hrest, List.map_cons]
    congr 1
    apply List.map_congr_left
    intro j hj
    rw [result_copy_of_apart (hfirst j hj)]

/-- Runs of the same instructions in two orders stay the same up to fresh allocations. -/
theorem runAll_copy_perm {instructions permuted : List Instruction}
    (hperm : instructions.Perm permuted) (h : Instruction.SlotsApart instructions) {t u : Target}
    (hsame : t.SameFrom first u) :
    (Composition.runAll schema.copy source instructions t).1.SameFrom first
      (Composition.runAll schema.copy source permuted u).1 := by
  induction hperm generalizing t u with
  | nil => exact hsame
  | cons i _ ih => exact ih (List.pairwise_cons.mp h).2 (schema.copy_sameFrom i source hsame).1
  | swap i j rest =>
    obtain ⟨hfirst, -⟩ := List.pairwise_cons.mp h
    have hswap : (schema.copy i source (schema.copy j source t).1).1.SameFrom first
        (schema.copy j source (schema.copy i source t).1).1 :=
      copy_swap (hfirst i List.mem_cons_self) hsame.fresh_left
    obtain ⟨hi, -⟩ := schema.copy_sameFrom i source hsame
    obtain ⟨hj, -⟩ := schema.copy_sameFrom j source hi
    exact (schema.runAll_copy_sameFrom source rest (hswap.trans hj)).1
  | trans hfirst _ ihFirst ihSecond =>
    exact (ihFirst h hsame).trans (ihSecond (h.of_perm hfirst) (.refl hsame.fresh_right))

/-! ### Plans -/

/-- Two plans of the same instructions in different orders, none of whose destination paths leads
    to another one, do the same.  They leave one destination, up to the numbers of the allocations
    made on the way; each instruction comes to the same in both, success or failure; and so the one
    plan succeeds exactly if the other does. -/
theorem execute_any_order {s d : RecordType} {instructions permuted : List Instruction}
    (hinto : ∀ i ∈ instructions, schema.resolveWrite d i.destination.path = .ok i.destination)
    (hunrelated : instructions.Pairwise fun i j =>
      i.destination.path.Unrelated j.destination.path)
    (hperm : instructions.Perm permuted) (source : Value) (target : Target) :
    let plan := Plan.compile s d instructions
    let other := Plan.compile s d permuted
    (schema.execute plan source target).1.value.SameUpTo target.fresh
      (schema.execute other source target).1.value ∧
    (Composition.outcomes schema.copy source plan.operation.operations target).Perm
      (Composition.outcomes schema.copy source other.operation.operations target) ∧
    ((schema.execute plan source target).2 = .ok () ↔
      (schema.execute other source target).2 = .ok ()) := by
  intro plan other
  have hapart : Instruction.SlotsApart instructions := by
    refine hunrelated.imp_of_mem ?_
    intro i j hi hj hpaths
    obtain ⟨⟨_, htrail⟩, -⟩ := readWrite_of_resolveWrite (hinto i hi)
    obtain ⟨⟨_, htrail'⟩, -⟩ := readWrite_of_resolveWrite (hinto j hj)
    exact htrail.apart htrail' hpaths.1 hpaths.2
  have hplan : plan.operation.operations = instructions := Composition.operations_balanced _
  have hother : other.operation.operations = permuted := Composition.operations_balanced _
  have houtcomes : (Composition.outcomes schema.copy source instructions target).Perm
      (Composition.outcomes schema.copy source permuted target) := by
    rw [outcomes_copy hapart, outcomes_copy (hapart.of_perm hperm)]
    exact hperm.map _
  refine ⟨?_, ?_, ?_⟩
  · simp only [plan, other, execute_compile]
    exact (runAll_copy_perm hperm hapart (.refl (Nat.le_refl target.fresh))).value
  · rw [hplan, hother]
    exact houtcomes
  · simp only [plan, other, execute_compile, Composition.runAll_eq_ok_iff_outcomes]
    constructor
    · intro hok o ho
      exact hok o (houtcomes.mem_iff.mpr ho)
    · intro hok o ho
      exact hok o (houtcomes.mem_iff.mp ho)

end Schema

/-! ### A registration

The chart has no place yet, so the room cannot be written, first or last.  The name is erased, under
a number that tells how many instructions were carried out before. -/

namespace Sample

def registration : List Instruction :=
  [⟨⟨"Patient", ⟨"ward", ["room"]⟩, [⟨"Patient", 1, field "ward" ward.type⟩],
      ⟨"Ward", 0, field "room" text⟩⟩,
    ⟨"Chart", ⟨"place", ["room"]⟩, [⟨"Chart", 1, field "place" (.option ward.type)⟩],
      ⟨"Ward", 0, field "room" text⟩⟩⟩,
   ⟨⟨"Patient", ⟨"name", []⟩, [], ⟨"Patient", 0, field "name" text⟩⟩,
    ⟨"Chart", ⟨"title", []⟩, [], ⟨"Chart", 0, field "title" text⟩⟩⟩,
   ⟨⟨"Patient", ⟨"name", []⟩, [], ⟨"Patient", 0, field "name" text⟩⟩,
    ⟨"Chart", ⟨"name", []⟩, [], ⟨"Chart", 4, field "name" .wildcard⟩⟩⟩]

end Sample

theorem Schema.execute_any_order_sample :
    let plan := Plan.compile Sample.patient Sample.chart Sample.registration
    let other := Plan.compile Sample.patient Sample.chart Sample.registration.reverse
    let done := Sample.clinic.execute plan Sample.grace ⟨Sample.emptyChart, 0⟩
    let done' := Sample.clinic.execute other Sample.grace ⟨Sample.emptyChart, 0⟩
    (∀ i ∈ Sample.registration,
      Sample.clinic.resolveWrite Sample.chart i.destination.path = .ok i.destination) ∧
    (Sample.registration.Pairwise fun i j =>
      i.destination.path.Unrelated j.destination.path) ∧
    Sample.registration.Perm Sample.registration.reverse ∧
    done.1.value.field? "Chart" 4 = some (.holding 1 (Sample.written "Grace")) ∧
    done'.1.value.field? "Chart" 4 = some (.holding 0 (Sample.written "Grace")) ∧
    done.1.value.SameUpTo 0 done'.1.value ∧
    (∃ report, done.2 = .error report) ∧ ¬ done'.2 = .ok () := by
  intro plan other done done'
  have hinto : ∀ i ∈ Sample.registration,
      Sample.clinic.resolveWrite Sample.chart i.destination.path = .ok i.destination := by
    simp only [Sample.registration, List.forall_mem_cons]
    exact ⟨rfl, rfl, rfl, by simp⟩
  have hunrelated : Sample.registration.Pairwise fun i j =>
      i.destination.path.Unrelated j.destination.path := by
    simp [Sample.registration, FieldPath.Unrelated, FieldPath.Leads, FieldPath.segments]
  have hperm : Sample.registration.Perm Sample.registration.reverse :=
    (List.reverse_perm _).symm
  obtain ⟨hsame, -, hok⟩ := @Schema.execute_any_order Sample.clinic Sample.patient Sample.chart
    Sample.registration Sample.registration.reverse hinto hunrelated hperm Sample.grace
    ⟨Sample.emptyChart, 0⟩
  have hdone : done = Composition.runAll Sample.clinic.copy Sample.grace Sample.registration
      ⟨Sample.emptyChart, 0⟩ := Schema.execute_compile ..
  have hdone' : done' = Composition.runAll Sample.clinic.copy Sample.grace
      Sample.registration.reverse ⟨Sample.emptyChart, 0⟩ := Schema.execute_compile ..
  have hfailed : ∃ report, done.2 = .error report := by
    rw [hdone]
    exact ⟨_, rfl⟩
  refine ⟨hinto, hunrelated, hperm, ?_, ?_, hsame, hfailed, ?_⟩
  · rw [hdone]
    rfl
  · rw [hdone']
    rfl
  · intro hdone
    obtain ⟨report, hreport⟩ := hfailed
    cases (hok.mpr hdone).symm.trans hreport

end RecordCopy

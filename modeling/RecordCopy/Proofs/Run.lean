import RecordCopy.Plan
import RecordCopy.Proofs.Slot

/-!
# Runs

A plan runs like its instructions one after the other, however they were composed.
So what one instruction does to a destination decides what a plan does, by induction
along the list.

What an instruction reads does not hang on how its reader was made either: folded into one
function or followed step by step, it ends at the same value (`ReadStep.Follows`).

An instruction that finds a slot writes it, also when the slot refused what was brought to
it.  As such a slot holds what it held, the destination is then as it was
(`Schema.content_deliver_of_refused`).  So `Schema.copy_cases` can say all that one
instruction does: either it fails and leaves the destination alone, or it finds a value and a
slot and puts something into the slot, and `Schema.put?` says what.
-/

namespace RecordCopy

/-! ### Compositions -/

namespace Composition

variable {α σ δ ε : Type}

theorem firstFailure_eq_ok_iff {a b : Except ε Unit} :
    firstFailure a b = .ok () ↔ a = .ok () ∧ b = .ok () := by
  cases a <;> simp [firstFailure]

theorem firstFailure_ok_right (a : Except ε Unit) : firstFailure a (.ok ()) = a := by
  cases a <;> rfl

theorem firstFailure_assoc (a b c : Except ε Unit) :
    firstFailure (firstFailure a b) c = firstFailure a (firstFailure b c) := by
  cases a <;> rfl

theorem runAll_append (perform : α → σ → δ → δ × Except ε Unit) (source : σ) (xs ys : List α)
    (state : δ) : runAll perform source (xs ++ ys) state =
      ((runAll perform source ys (runAll perform source xs state).1).1,
        firstFailure (runAll perform source xs state).2
          (runAll perform source ys (runAll perform source xs state).1).2) := by
  induction xs generalizing state with
  | nil => rfl
  | cons x xs ih =>
    simp only [List.cons_append, runAll, ih, firstFailure_assoc]

/-- A composition runs its operations one after the other. -/
theorem run_eq_runAll (perform : α → σ → δ → δ × Except ε Unit) (c : Composition α) (source : σ)
    (state : δ) : c.run perform source state = runAll perform source c.operations state := by
  induction c generalizing state with
  | idle => rfl
  | single operation => simp [run, operations, runAll, firstFailure_ok_right]
  | both left right ihLeft ihRight =>
    simp only [run, operations, runAll_append, ihLeft, ihRight]

/-- Composing a list keeps its operations and their order. -/
theorem operations_balanced (xs : List α) : (balanced xs).1.operations = xs := by
  fun_induction balanced xs with
  | case1 => rfl
  | case2 operation => rfl
  | case3 a b rest xs half left right ihLeft ihRight =>
    simp only [operations]
    rw [ihLeft, ihRight]
    exact List.take_append_drop half xs

end Composition

/-! ### The compiled reader -/

/-- Extending a reader by steps that are not yet followed reads on from where it stops. -/
theorem ReadStep.foldl_extend (before : ReadStep.Pending) (step : ReadStep)
    (rest : List ReadStep) (v : Value) :
    ((step :: rest).foldl Pending.extend before).1 v =
      ((before.1 v).bind before.2).bind (walk (step :: rest)) := by
  induction rest generalizing before step with
  | nil => rfl
  | cons next rest ih =>
    rw [List.foldl_cons, ih]
    have hwalk : walk (step :: next :: rest) =
        fun w => ((step.get w).bind step.enter).bind (walk (next :: rest)) := by
      funext w
      simp only [walk]
      cases step.get w with
      | none => rfl
      | some field =>
        simp only [Option.bind_some]
        cases step.enter field <;> rfl
    simp only [hwalk, Pending.extend, Option.bind_assoc]

/-- Steps folded into one function read what following them one by one reads. -/
theorem ReadStep.composed_eq_walk (steps : List ReadStep) : composed steps = walk steps := by
  funext v
  cases steps with
  | nil => rfl
  | cons first rest =>
    cases rest with
    | nil => rfl
    | cons next rest =>
      rw [composed, foldl_extend]
      simp only [walk]
      cases first.get v with
      | none => rfl
      | some field =>
        simp only [Option.bind_some]
        cases first.enter field <;> rfl

theorem ReadPath.compile_eq_read (p : ReadPath) : p.compile = p.read :=
  ReadStep.composed_eq_walk p.steps

/-- Following steps from a value ends at another one: each step finds a field, and each but the
    last enters what it found. -/
inductive ReadStep.Follows : List ReadStep → Value → Value → Prop where
  | last {step : ReadStep} {v found : Value} : step.get v = some found → Follows [step] v found
  | onward {step : ReadStep} {rest : List ReadStep} {v field inner found : Value} :
    step.get v = some field → step.enter field = some inner → Follows rest inner found →
      Follows (step :: rest) v found

theorem ReadStep.walk_eq_some_iff {steps : List ReadStep} {v found : Value} :
    walk steps v = some found ↔ Follows steps v found := by
  constructor
  · intro h
    fun_induction walk steps v with
    | case1 v => cases h
    | case2 v last => exact .last h
    | case3 v step next rest hget => cases h
    | case4 v step next rest field hget henter => cases h
    | case5 v step next rest field hget inner henter ih => exact .onward hget henter (ih h)
  · intro h
    induction h with
    | last hget => exact hget
    | @onward step rest v field inner found hget henter hrest ih =>
      -- some step follows, for following none ends nowhere
      cases rest with
      | nil => cases hrest
      | cons next rest => simp only [walk, hget, henter, ih]

/-- Whatever its steps find or enter, a reader folded into one function reads from every value
    what is read by following the steps one by one.  It reads exactly the value where following
    them ends, and nothing where a step on the way finds or enters nothing. -/
theorem ReadStep.composed_follows (steps : List ReadStep) (v : Value) :
    composed steps v = walk steps v ∧
      ∀ found, composed steps v = some found ↔ Follows steps v found := by
  rw [composed_eq_walk]
  exact ⟨rfl, fun _ => walk_eq_some_iff⟩

/-! ### One instruction -/

theorem Stored.result?_eq_some_iff {s : Stored} {content : Value} :
    s.result? = some content ↔ s.taken = true ∧ s.content = content := by
  unfold result?
  split <;> simp_all

namespace WritePath

variable {p : WritePath} {store : Value → Value → Stored} {v w : Value}

theorem storeWith_eq_some_iff {after : Stored} : p.storeWith store v w = some after ↔
    ∃ place, slotAlong p.fields v = some place ∧
      after = ⟨place.replace (store place.content w).content, (store place.content w).taken⟩ := by
  unfold storeWith
  rw [slot_eq_slotAlong]
  cases slotAlong p.fields v with
  | none => simp
  | some place => simp [eq_comm]

theorem storeWith_eq_took_iff {result : Value} :
    p.storeWith store v w = some (.took result) ↔ ∃ place content,
      slotAlong p.fields v = some place ∧ (store place.content w).result? = some content ∧
        result = place.replace content := by
  simp only [storeWith_eq_some_iff, Stored.result?_eq_some_iff]
  constructor
  · rintro ⟨place, hplace, hafter⟩
    obtain ⟨hcontent, htaken⟩ := Stored.mk.inj hafter
    exact ⟨place, _, hplace, ⟨htaken.symm, rfl⟩, hcontent⟩
  · rintro ⟨place, content, hplace, ⟨htaken, rfl⟩, rfl⟩
    refine ⟨place, hplace, ?_⟩
    rw [htaken]
    rfl

theorem writeWith_eq_written_iff {result : Value} :
    p.writeWith store v w = .written result ↔ ∃ place content,
      slotAlong p.fields v = some place ∧ (store place.content w).result? = some content ∧
        result = place.replace content := by
  rw [← storeWith_eq_took_iff, writeWith]
  cases p.storeWith store v w with
  | none => simp [WriteOutcome.of]
  | some after =>
    obtain ⟨content, taken⟩ := after
    cases taken <;> simp [WriteOutcome.of, Stored.took]

/-- Where refusing leaves a slot alone, it leaves the whole instance alone. -/
theorem content_storeWith_of_refused {after : Stored}
    (hstore : ∀ old w, (store old w).taken = false → (store old w).content = old)
    (h : p.storeWith store v w = some after) (hrefused : after.taken = false) :
    after.content = v := by
  obtain ⟨place, hplace, rfl⟩ := storeWith_eq_some_iff.mp h
  dsimp only at hrefused ⊢
  rw [hstore _ _ hrefused]
  exact slotAlong_replace_content hplace

end WritePath

namespace Schema

/-- What an instruction puts into a slot that holds `old`, for a value read from its
    source. -/
def put? (schema : Schema) (i : Instruction) (fresh : Allocation) (old v : Value) :
    Option Value :=
  match schema.transfer i.source.terminal i.destination.terminal with
  | .plain => i.destination.terminal.assign old v
  | .erased => (i.source.terminal.erase fresh v).bind (i.destination.terminal.assign old)
  | .converted upcast => (upcast.lead v).bind (upcast.last.assign old)

/-- What becomes of a value read from the source before it meets the slot. -/
def brought? (schema : Schema) (i : Instruction) (fresh : Allocation) (v : Value) : Option Value :=
  match schema.transfer i.source.terminal i.destination.terminal with
  | .plain => some v
  | .erased => i.source.terminal.erase fresh v
  | .converted upcast => upcast.lead v

def storing (schema : Schema) (i : Instruction) : Value → Value → Stored :=
  match schema.transfer i.source.terminal i.destination.terminal with
  | .plain | .erased => i.destination.terminal.store
  | .converted upcast => upcast.last.store

theorem put?_eq_bind (schema : Schema) (i : Instruction) (fresh : Allocation) (old v : Value) :
    schema.put? i fresh old v =
      (schema.brought? i fresh v).bind fun w => (schema.storing i old w).result? := by
  unfold put? brought? storing
  cases schema.transfer i.source.terminal i.destination.terminal <;> rfl

/-- A slot that refuses what an instruction brings to it holds what it held. -/
theorem content_storing_of_refused {schema : Schema} {i : Instruction} {old w : Value}
    (h : (schema.storing i old w).taken = false) : (schema.storing i old w).content = old := by
  revert h
  unfold storing
  cases schema.transfer i.source.terminal i.destination.terminal with
  | plain | erased => exact ValueType.content_store_of_refused
  | converted upcast => exact Step.content_store_of_refused

/-- A value that nothing can be made of is refused before the slot is looked for. -/
theorem deliver_eq (schema : Schema) (i : Instruction) (v : Value) (target : Target) :
    schema.deliver i v target =
      match schema.brought? i target.fresh v with
      | none => some (.refused target.value)
      | some w => i.destination.storeWith (schema.storing i) target.value w := by
  unfold deliver brought? storing
  cases schema.transfer i.source.terminal i.destination.terminal <;> rfl

/-- A delivery that is refused leaves the destination as it was. -/
theorem content_deliver_of_refused {schema : Schema} {i : Instruction} {v : Value}
    {target : Target} {after : Stored} (h : schema.deliver i v target = some after)
    (hrefused : after.taken = false) : after.content = target.value := by
  rw [deliver_eq] at h
  cases hbrought : schema.brought? i target.fresh v with
  | none =>
    rw [hbrought] at h
    rw [← Option.some.inj h]
    rfl
  | some w =>
    rw [hbrought] at h
    exact WritePath.content_storeWith_of_refused
      (fun _ _ => content_storing_of_refused) h hrefused

theorem deliver_eq_took_iff {schema : Schema} {i : Instruction} {v : Value} {target : Target}
    {result : Value} : schema.deliver i v target = some (.took result) ↔ ∃ place content,
      slotAlong i.destination.fields target.value = some place ∧
        schema.put? i target.fresh place.content v = some content ∧
        result = place.replace content := by
  simp only [deliver_eq, put?_eq_bind]
  cases schema.brought? i target.fresh v with
  | none => simp [Stored.took, Stored.refused]
  | some w => exact WritePath.storeWith_eq_took_iff

/-- An instruction fails and leaves the destination alone, or puts what `put?` says into
    the slot that its destination path names. -/
theorem copy_cases (schema : Schema) (i : Instruction) (source : Value) (target : Target) :
    (∃ report, schema.copy i source target = (target, .error report)) ∨
      ∃ v place content, i.source.read source = some v ∧
        slotAlong i.destination.fields target.value = some place ∧
        schema.put? i target.fresh place.content v = some content ∧
        schema.copy i source target = (⟨place.replace content, target.fresh + 1⟩, .ok ()) := by
  unfold copy
  rw [ReadPath.compile_eq_read]
  cases i.source.read source with
  | none => exact .inl ⟨_, rfl⟩
  | some v =>
    cases hdeliver : schema.deliver i v target with
    | none => exact .inl ⟨i.missingDestinationContainer, by simp only [hdeliver]⟩
    | some after =>
      obtain ⟨result, taken⟩ := after
      cases taken with
      | true =>
        obtain ⟨place, content, hplace, hput, rfl⟩ := deliver_eq_took_iff.mp hdeliver
        exact .inr ⟨v, place, content, rfl, hplace, hput, by simp only [hdeliver, if_true]⟩
      | false =>
        -- the destination is written also here, with what it holds
        obtain rfl : result = target.value := content_deliver_of_refused hdeliver rfl
        exact .inl ⟨i.unassignable, by simp only [hdeliver]; rfl⟩

theorem copy_eq_of_put? (schema : Schema) {i : Instruction} {source v content : Value}
    (target : Target) {place : Place} (hread : i.source.read source = some v)
    (hplace : slotAlong i.destination.fields target.value = some place)
    (hput : schema.put? i target.fresh place.content v = some content) :
    schema.copy i source target = (⟨place.replace content, target.fresh + 1⟩, .ok ()) := by
  have hdeliver : schema.deliver i v target = some (.took (place.replace content)) :=
    deliver_eq_took_iff.mpr ⟨place, content, hplace, hput, rfl⟩
  simp only [copy, ReadPath.compile_eq_read, hread, hdeliver]
  rfl

theorem copy_of_put?_eq_none {schema : Schema} {i : Instruction} {source v : Value}
    {target : Target} {place : Place} (hread : i.source.read source = some v)
    (hplace : slotAlong i.destination.fields target.value = some place)
    (hput : schema.put? i target.fresh place.content v = none) :
    schema.copy i source target = (target, .error i.unassignable) := by
  have hdeliver : ∃ after, schema.deliver i v target = some after := by
    rw [deliver_eq]
    cases schema.brought? i target.fresh v with
    | none => exact ⟨_, rfl⟩
    | some w => exact ⟨_, WritePath.storeWith_eq_some_iff.mpr ⟨place, hplace, rfl⟩⟩
  obtain ⟨⟨result, taken⟩, hafter⟩ := hdeliver
  cases taken with
  | true =>
    -- the slot is the one above, so it would have taken something
    obtain ⟨other, content, hother, htaken, -⟩ := deliver_eq_took_iff.mp hafter
    obtain rfl := Option.some.inj (hplace.symm.trans hother)
    rw [hput] at htaken
    cases htaken
  | false =>
    obtain rfl : result = target.value := content_deliver_of_refused hafter rfl
    simp only [copy, ReadPath.compile_eq_read, hread, hafter]
    rfl

/-- An instruction depends on the source through what it reads there, and not otherwise. -/
theorem copy_of_read_eq (schema : Schema) {i : Instruction} {v w : Value}
    (h : i.source.read v = i.source.read w) (target : Target) :
    schema.copy i v target = schema.copy i w target := by
  unfold copy
  rw [ReadPath.compile_eq_read, h]

/-! ### Plans -/

/-- Executing a plan carries out its instructions one after the other. -/
theorem execute_compile (schema : Schema) (s d : RecordType) (instructions : List Instruction)
    (source : Value) (target : Target) :
    schema.execute (Plan.compile s d instructions) source target =
      Composition.runAll schema.copy source instructions target := by
  unfold execute Plan.compile
  rw [Composition.run_eq_runAll, Composition.operations_balanced]

/-- Instructions that read the same from two sources copy the same. -/
theorem runAll_copy_of_read_eq (schema : Schema) {instructions : List Instruction} {v w : Value}
    (h : ∀ i ∈ instructions, i.source.read v = i.source.read w) (target : Target) :
    Composition.runAll schema.copy v instructions target =
      Composition.runAll schema.copy w instructions target := by
  induction instructions generalizing target with
  | nil => rfl
  | cons i rest ih =>
    obtain ⟨hfirst, hrest⟩ := List.forall_mem_cons.mp h
    simp only [Composition.runAll]
    rw [schema.copy_of_read_eq hfirst, ih hrest]

/-- What no slot of any instruction has a part in is after a run as it was before. -/
theorem runAll_copy_preserves {α : Type} (observe : Value → α) (schema : Schema) (source : Value)
    {instructions : List Instruction}
    (h : ∀ i ∈ instructions, ∀ v place, slotAlong i.destination.fields v = some place →
      ∀ content, observe (place.replace content) = observe v) (target : Target) :
    observe (Composition.runAll schema.copy source instructions target).1.value =
      observe target.value := by
  induction instructions generalizing target with
  | nil => rfl
  | cons i rest ih =>
    obtain ⟨hfirst, hrest⟩ := List.forall_mem_cons.mp h
    rw [Composition.runAll, ih hrest]
    rcases schema.copy_cases i source target with
      ⟨report, hcopy⟩ | ⟨v, place, content, -, hplace, -, hcopy⟩
    · rw [hcopy]
    · rw [hcopy]
      exact hfirst target.value place hplace content

/-- Whatever is copied into a destination, it keeps its type. -/
theorem type_runAll_copy (schema : Schema) (source : Value) (instructions : List Instruction)
    (target : Target) :
    (Composition.runAll schema.copy source instructions target).1.value.type =
      target.value.type := by
  apply runAll_copy_preserves Value.type
  intro i _ v place hplace content
  exact type_slotAlong_replace hplace content

theorem type_execute (schema : Schema) (plan : Plan) (source : Value) (target : Target) :
    (schema.execute plan source target).1.value.type = target.value.type := by
  unfold execute
  rw [Composition.run_eq_runAll]
  exact type_runAll_copy schema source _ target

/-- Instructions leave what is read apart from all their slots. -/
theorem walk_runAll_copy (schema : Schema) (source : Value) {instructions : List Instruction}
    {fields : List BoundField} (hapart : ∀ i ∈ instructions, Apart i.destination.fields fields)
    (target : Target) :
    ReadStep.walk (fields.map ReadStep.ofField)
        (Composition.runAll schema.copy source instructions target).1.value =
      ReadStep.walk (fields.map ReadStep.ofField) target.value := by
  apply runAll_copy_preserves (ReadStep.walk (fields.map ReadStep.ofField))
  intro i hi v place hplace content
  exact walk_replace_of_apart (hapart i hi) hplace content

end Schema

end RecordCopy

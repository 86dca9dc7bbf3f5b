import RecordCopy.Proofs.InOrder

/-!
# All of an instruction or nothing

An instruction that is carried out comes to a single write: one value put into the slot at the end
of its destination path (`Schema.write?`).  The source may hold nothing at the path, or nothing
that can be erased or converted, and the slot may be missing: then nothing is put anywhere.  A slot
that refuses what is brought to it is handed back into the destination, but it holds what it held
(`Schema.content_storing_of_refused`).  In each case the destination stays what it was.

A plan goes on after a failure.  What it leaves is therefore what the writes of those instructions
make that succeeded, one after the other, and the same plan without the others does just that and
does not fail.

Nothing is assumed of the fields on either path.  They may be unbound, or store another type than
they declare, and the values need not be typed.
-/

namespace RecordCopy

/-! ### Operations that succeed -/

namespace Composition

variable {α σ δ ε : Type}

/-- The operations of a run that succeed, each with the state it meets. -/
def succeeded (perform : α → σ → δ → δ × Except ε Unit) (source : σ) (operations : List α)
    (state : δ) : List (α × δ) :=
  (met perform source operations state).filter fun m => (perform m.1 source m.2).2.isOk

variable {perform : α → σ → δ → δ × Except ε Unit} {source : σ} {operation : α}
  {operations : List α} {state : δ}

theorem succeeded_cons_of_ok (h : (perform operation source state).2 = .ok ()) :
    succeeded perform source (operation :: operations) state = (operation, state) ::
      succeeded perform source operations (perform operation source state).1 := by
  rw [succeeded, met_cons, List.filter_cons_of_pos]
  · rfl
  · rw [h]
    rfl

theorem succeeded_cons_of_error {e : ε} (h : (perform operation source state).2 = .error e) :
    succeeded perform source (operation :: operations) state =
      succeeded perform source operations (perform operation source state).1 := by
  rw [succeeded, met_cons, List.filter_cons_of_neg]
  · rfl
  · rw [h]
    exact Bool.false_ne_true

/-- Where a failure leaves no trace, the operations that succeed leave the same by themselves. -/
theorem runAll_succeeded
    (hatomic : ∀ operation state e, (perform operation source state).2 = .error e →
      (perform operation source state).1 = state) :
    runAll perform source ((succeeded perform source operations state).map Prod.fst) state =
      ((runAll perform source operations state).1, .ok ()) := by
  induction operations generalizing state with
  | nil => rfl
  | cons operation rest ih =>
    cases hresult : (perform operation source state).2 with
    | ok done =>
      rw [succeeded_cons_of_ok hresult, List.map_cons]
      simp only [runAll, ih, hresult, firstFailure]
    | error e =>
      rw [succeeded_cons_of_error hresult, hatomic operation state e hresult, ih]
      simp only [runAll, hatomic operation state e hresult]

end Composition

/-! ### Writes -/

/-- A value for the slot at the end of a list of fields. -/
structure Write where
  fields : List BoundField
  content : Value

/-- Put the content into the slot; where there is no slot nothing changes. -/
def Write.into (w : Write) (v : Value) : Value :=
  match slotAlong w.fields v with
  | some place => place.replace w.content
  | none => v

namespace Schema

/-- What an instruction writes, if it can be carried out. -/
def write? (schema : Schema) (i : Instruction) (source : Value) (target : Target) :
    Option Write := do
  let v ← i.source.read source
  let place ← slotAlong i.destination.fields target.value
  let content ← schema.put? i target.fresh place.content v
  return ⟨i.destination.fields, content⟩

variable (schema : Schema) (i : Instruction) (source : Value) (target : Target)

/-- A failure leaves no trace, for what is handed back on a refusal is what was there. -/
theorem copy_fst_of_error {report : Report} (h : (schema.copy i source target).2 = .error report) :
    (schema.copy i source target).1 = target := by
  unfold copy at h ⊢
  cases hread : i.source.compile source with
  | none => rfl
  | some v =>
    rw [hread] at h
    cases hdeliver : schema.deliver i v target with
    | none => simp only [hdeliver]
    | some after =>
      cases hrefused : after.taken with
      | true => simp [hdeliver, hrefused] at h
      | false =>
        have hleft := content_deliver_of_refused hdeliver hrefused
        simp [hdeliver, hrefused, hleft]

/-- An instruction writes and succeeds, or does not write and fails. -/
theorem copy_write_cases :
    (∃ w, schema.write? i source target = some w ∧
      schema.copy i source target = (⟨w.into target.value, target.fresh + 1⟩, .ok ())) ∨
    (schema.write? i source target = none ∧
      ∃ report, (schema.copy i source target).2 = .error report) := by
  rcases schema.copy_cases i source target with
    ⟨report, hcopy⟩ | ⟨v, place, content, hread, hplace, hput, hcopy⟩
  · right
    refine ⟨?_, report, by rw [hcopy]⟩
    rw [Option.eq_none_iff_forall_ne_some]
    intro w hw
    obtain ⟨v, hread, hw⟩ := Option.bind_eq_some_iff.mp hw
    obtain ⟨place, hplace, hw⟩ := Option.bind_eq_some_iff.mp hw
    obtain ⟨content, hput, -⟩ := Option.bind_eq_some_iff.mp hw
    rw [schema.copy_eq_of_put? target hread hplace hput] at hcopy
    cases congrArg Prod.snd hcopy
  · left
    refine ⟨⟨i.destination.fields, content⟩, ?_, ?_⟩
    · simp [write?, hread, hplace, hput]
    · rw [hcopy, Write.into]
      simp only [hplace]

theorem copy_of_error {report : Report} (h : (schema.copy i source target).2 = .error report) :
    schema.write? i source target = none ∧ (schema.copy i source target).1 = target := by
  refine ⟨?_, schema.copy_fst_of_error i source target h⟩
  rcases schema.copy_write_cases i source target with ⟨w, -, hcopy⟩ | ⟨hwrite, -⟩
  · rw [hcopy] at h
    cases h
  · exact hwrite

theorem exists_write_of_ok (h : (schema.copy i source target).2 = .ok ()) :
    ∃ w, schema.write? i source target = some w ∧
      (schema.copy i source target).1.value = w.into target.value := by
  rcases schema.copy_write_cases i source target with ⟨w, hwrite, hcopy⟩ | ⟨-, report, hcopy⟩
  · rw [hcopy]
    exact ⟨w, hwrite, rfl⟩
  · rw [hcopy] at h
    cases h

/-! ### Plans -/

/-- A run leaves what the writes of its successes make, and every success has its write. -/
theorem runAll_copy_writes (instructions : List Instruction) :
    let succeeded := Composition.succeeded schema.copy source instructions target
    let writes := succeeded.filterMap fun m => schema.write? m.1 source m.2
    writes.length = succeeded.length ∧
      (Composition.runAll schema.copy source instructions target).1.value =
        writes.foldl (fun v w => w.into v) target.value := by
  induction instructions generalizing target with
  | nil => exact ⟨rfl, rfl⟩
  | cons i rest ih =>
    obtain ⟨hlength, hvalue⟩ := ih (schema.copy i source target).1
    cases hresult : (schema.copy i source target).2 with
    | ok done =>
      obtain ⟨w, hwrite, hafter⟩ := schema.exists_write_of_ok i source target hresult
      rw [Composition.succeeded_cons_of_ok hresult]
      simp only [List.filterMap_cons, hwrite, List.length_cons, List.foldl_cons]
      rw [← hafter]
      exact ⟨congrArg (· + 1) hlength, hvalue⟩
    | error report =>
      obtain ⟨-, hsame⟩ := schema.copy_of_error i source target hresult
      rw [Composition.succeeded_cons_of_error hresult]
      refine ⟨hlength, ?_⟩
      rw [hsame] at hvalue ⊢
      simp only [Composition.runAll, hsame]
      exact hvalue

/-- An instruction that fails leaves the destination exactly as it was.  So a plan leaves what the
    writes of the instructions that succeeded make of the destination, in their order, which is
    what these instructions do without the others. -/
theorem execute_all_or_nothing (schema : Schema) (source : Value) :
    (∀ (i : Instruction) (target : Target) (report : Report),
      (schema.copy i source target).2 = .error report →
        (schema.copy i source target).1 = target) ∧
    ∀ (plan : Plan) (target : Target),
      let succeeded :=
        Composition.succeeded schema.copy source plan.operation.operations target
      let writes := succeeded.filterMap fun m => schema.write? m.1 source m.2
      writes.length = succeeded.length ∧
      (schema.execute plan source target).1.value =
        writes.foldl (fun v w => w.into v) target.value ∧
      Composition.runAll schema.copy source (succeeded.map Prod.fst) target =
        ((schema.execute plan source target).1, .ok ()) := by
  have hatomic : ∀ (i : Instruction) (target : Target) (report : Report),
      (schema.copy i source target).2 = .error report →
        (schema.copy i source target).1 = target := by
    intro i target report h
    exact schema.copy_fst_of_error i source target h
  refine ⟨hatomic, ?_⟩
  intro plan target succeeded writes
  have hexecute : schema.execute plan source target =
      Composition.runAll schema.copy source plan.operation.operations target :=
    Composition.run_eq_runAll ..
  rw [hexecute]
  obtain ⟨hlength, hvalue⟩ :=
    schema.runAll_copy_writes source target plan.operation.operations
  exact ⟨hlength, hvalue, Composition.runAll_succeeded hatomic⟩

end Schema

end RecordCopy

import Mathlib.Data.List.Induction
import RecordCopy.Proofs.Frame
import RecordCopy.Proofs.FreshAllocations

/-!
# Running a plan again

A plan that is run a second time from the same source leaves the destination as the first run
left it, up to the numbers of the allocations made on the way.  The two runs need not carry out
the same writes: where a slot is filled late in the first run, an instruction that failed for
want of a container may find one in the second.

The argument is an induction on the last instruction.  If it writes, it writes over whatever
differs: the destination before that write and the one after it are the same but for one slot
(`Value.SameBut`), and the instructions before it keep them so.  An instruction inside the slot
changes nothing outside of it.  One whose slot does not touch it finds the same in both.  And one
whose slot contains it puts the same over both, which leaves no difference at all.
-/

namespace RecordCopy

/-! ### The same but for one slot -/

/-- Both values have a slot at the end of the fields, for contents of one type, and are the same
    up to fresh allocations once it is filled with the same. -/
def Value.SameBut (first : Allocation) (fields : List BoundField) (v w : Value) : Prop :=
  ∃ p q, slotAlong fields v = some p ∧ slotAlong fields w = some q ∧
    p.content.type = q.content.type ∧
    ∀ x y : Value, x.SameUpTo first y → (p.replace x).SameUpTo first (q.replace y)

namespace Value.SameBut

variable {first : Allocation} {fs more : List BoundField} {v w : Value}

theorem of_replace {p : Place} (h : slotAlong fs v = some p) {content : Value}
    (htype : content.type = p.content.type) : SameBut first fs v (p.replace content) :=
  ⟨p, _, h, slotAlong_replace h content, htype.symm, (Place.SameUpTo.of_slotAlong h).replace⟩

/-- What differs in a slot alone differs in no more than the slot around it. -/
theorem outer (hfs : fs ≠ []) (h : SameBut first (fs ++ more) v w) : SameBut first fs v w := by
  obtain ⟨p, q, hp, hq, htype, hsame⟩ := h
  obtain ⟨outer, houter, hinto⟩ := exists_outer_of_slotAlong hfs hp
  obtain ⟨outer', houter', hinto'⟩ := exists_outer_of_slotAlong hfs hq
  obtain ⟨content, hreplace, hcontent⟩ := hinto p.content rfl
  obtain ⟨content', hreplace', hcontent'⟩ := hinto' p.content htype
  -- filled with the same, the two values have the same place for the slot around it
  have hfilled := hsame p.content p.content (.refl first _)
  rw [hreplace, hreplace'] at hfilled
  have hplaces := slotAlong_sameUpTo fs hfilled
  rw [slotAlong_replace houter, slotAlong_replace houter'] at hplaces
  cases hplaces with
  | some hplace =>
    refine ⟨outer, outer', houter, houter', ?_, hplace.replace⟩
    rw [← hcontent, ← hcontent', hplace.content.type_eq]

end Value.SameBut

namespace Schema

variable {schema : Schema} {first : Allocation} {fields : List BoundField}

/-! ### One instruction -/

theorem fresh_le_copy (schema : Schema) (i : Instruction) (source : Value) (target : Target) :
    target.fresh ≤ (schema.copy i source target).1.fresh := by
  rcases schema.copy_cases i source target with ⟨report, hcopy⟩ | ⟨v, place, content, -, -, -, hcopy⟩
  · rw [hcopy]
  · rw [hcopy]
    exact Nat.le_succ _

/-- An instruction inside of a slot changes what lies in it and nothing else. -/
theorem copy_inside {i : Instruction} {more : List BoundField} (hfields : fields ≠ [])
    (hinside : i.destination.fields = fields ++ more) (source : Value) {target : Target} {p : Place}
    (h : slotAlong fields target.value = some p) :
    ∃ content, content.type = p.content.type ∧
      slotAlong fields (schema.copy i source target).1.value = some ⟨content, p.replace⟩ := by
  rcases schema.copy_cases i source target with
    ⟨report, hcopy⟩ | ⟨v, place, content, -, hplace, hput, hcopy⟩
  · rw [hcopy]
    exact ⟨p.content, rfl, h⟩
  · rw [hinside] at hplace
    obtain ⟨outer, houter, hinto⟩ := exists_outer_of_slotAlong hfields hplace
    obtain rfl : outer = p := Option.some.inj (houter.symm.trans h)
    obtain ⟨whole, hreplace, htype⟩ := hinto content (type_of_put? hput)
    rw [hcopy]
    dsimp only
    rw [hreplace]
    exact ⟨whole, htype, slotAlong_replace h whole⟩

/-- An instruction apart from a slot does the same whatever the slot is filled with. -/
theorem copy_apart {i : Instruction} (hapart : Apart fields i.destination.fields) (source : Value)
    {target : Target} {p : Place} (h : slotAlong fields target.value = some p) :
    ∃ after, slotAlong fields (schema.copy i source target).1.value = some after ∧
      after.content = p.content ∧
      ∀ w, (schema.copy i source ⟨p.replace w, target.fresh⟩).1.value = after.replace w := by
  rcases schema.copy_cases i source target with
    ⟨report, hcopy⟩ | ⟨v, place, content, hread, hplace, hput, hcopy⟩
  · refine ⟨p, by rw [hcopy]; exact h, rfl, ?_⟩
    intro w
    rcases schema.copy_cases i source ⟨p.replace w, target.fresh⟩ with
      ⟨report', hcopy'⟩ | ⟨v, place', content, hread, hplace', hput, -⟩
    · rw [hcopy']
    · -- what succeeds with the slot filled would have succeeded before
      cases hplace : slotAlong i.destination.fields target.value with
      | none =>
        rw [slotAlong_eq_none_of_apart hapart h hplace] at hplace'
        cases hplace'
      | some place =>
        obtain ⟨both, hleft, -⟩ := slotAlong_both_of_apart hapart h hplace
        rw [hleft w] at hplace'
        obtain rfl := Option.some.inj hplace'
        rw [schema.copy_eq_of_put? target hread hplace hput] at hcopy
        cases congrArg Prod.snd hcopy
  · obtain ⟨both, hleft, hright⟩ := slotAlong_both_of_apart hapart h hplace
    refine ⟨⟨p.content, fun w => both w content⟩, by rw [hcopy]; exact hright content, rfl, ?_⟩
    intro w
    have hfilled : slotAlong i.destination.fields (p.replace w) = some ⟨place.content, both w⟩ :=
      hleft w
    rw [schema.copy_eq_of_put? ⟨p.replace w, target.fresh⟩ hread hfilled hput]

/-- Over slots of one type an instruction puts the same, or fails in both cases. -/
theorem copy_over {i : Instruction} (source : Value) {t u : Target} (ht : first ≤ t.fresh)
    (hu : first ≤ u.fresh) (h : Value.SameBut first i.destination.fields t.value u.value) :
    (schema.copy i source t).1.SameFrom first (schema.copy i source u).1 ∨
      (∃ report, schema.copy i source t = (t, .error report)) ∧
        ∃ report, schema.copy i source u = (u, .error report) := by
  obtain ⟨p, q, hp, hq, htype, hsame⟩ := h
  rcases schema.copy_cases i source t with
    ⟨report, hcopy⟩ | ⟨v, place, content, hread, hplace, hput, hcopy⟩
  · rcases schema.copy_cases i source u with
      ⟨report', hcopy'⟩ | ⟨v, place, content, hread, hplace, hput, -⟩
    · exact .inr ⟨⟨report, hcopy⟩, report', hcopy'⟩
    · obtain rfl : place = q := Option.some.inj (hplace.symm.trans hq)
      have hrel := schema.put?_sameUpTo i ht hu htype v
      rw [hput] at hrel
      generalize hput' : schema.put? i t.fresh p.content v = found at hrel
      cases hrel with
      | some _ =>
        rw [schema.copy_eq_of_put? t hread hp hput'] at hcopy
        cases congrArg Prod.snd hcopy
  · obtain rfl : place = p := Option.some.inj (hplace.symm.trans hp)
    have hrel := schema.put?_sameUpTo i ht hu htype v
    rw [hput] at hrel
    generalize hput' : schema.put? i u.fresh q.content v = found at hrel
    cases hrel with
    | some hcontent =>
      rw [hcopy, schema.copy_eq_of_put? u hread hq hput']
      exact .inl ⟨hsame _ _ hcontent, Nat.le_succ_of_le ht, Nat.le_succ_of_le hu⟩

/-! ### Runs -/

/-- The destinations are the same up to fresh allocations, or so but for one slot. -/
structure NearFrom (first : Allocation) (fields : List BoundField) (t u : Target) : Prop where
  value : t.value.SameUpTo first u.value ∨ Value.SameBut first fields t.value u.value
  fresh_left : first ≤ t.fresh
  fresh_right : first ≤ u.fresh

variable {s d : RecordType}

/-- Of two paths written to in one record, one goes on from the other, or they do not touch. -/
theorem fields_cases {p q : WritePath} (hp : schema.resolveWrite d p.path = .ok p)
    (hq : schema.resolveWrite d q.path = .ok q) :
    p.fields <+: q.fields ∨ q.fields <+: p.fields ∨ Apart p.fields q.fields := by
  obtain ⟨⟨_, htrail⟩, -⟩ := readWrite_of_resolveWrite hp
  obtain ⟨⟨_, htrail'⟩, -⟩ := readWrite_of_resolveWrite hq
  by_cases hleads : p.path.Leads q.path
  · exact .inl (htrail.fields_prefix htrail' hleads)
  · by_cases hleads' : q.path.Leads p.path
    · exact .inr (.inl (htrail'.fields_prefix htrail hleads'))
    · exact .inr (.inr (htrail.apart htrail' hleads hleads'))

/-- What destinations that differ in one slot have in common, an instruction leaves them. -/
theorem NearFrom.copy {p : WritePath} (hp : schema.resolveWrite d p.path = .ok p)
    {j : Instruction} (hj : schema.resolveWrite d j.destination.path = .ok j.destination)
    (source : Value) {t u : Target} (h : NearFrom first p.fields t u) :
    NearFrom first p.fields (schema.copy j source t).1 (schema.copy j source u).1 := by
  obtain ⟨hvalue, ht, hu⟩ := h
  refine ⟨?_, ht.trans (schema.fresh_le_copy j source t), hu.trans (schema.fresh_le_copy j source u)⟩
  rcases hvalue with hsame | hbut
  · exact .inl (schema.copy_sameFrom j source ⟨hsame, ht, hu⟩).1.value
  · rcases fields_cases hp hj with ⟨more, hinside⟩ | ⟨more, haround⟩ | hapart
    · obtain ⟨place, place', hplace, hplace', htype, hfilled⟩ := hbut
      have hne : p.fields ≠ [] := by simp [ResolvedPath.fields]
      obtain ⟨content, hcontent, hafter⟩ := copy_inside hne hinside.symm source hplace
      obtain ⟨content', hcontent', hafter'⟩ := copy_inside hne hinside.symm source hplace'
      exact .inr ⟨_, _, hafter, hafter', by rw [hcontent, hcontent', htype], hfilled⟩
    · have hne : j.destination.fields ≠ [] := by simp [ResolvedPath.fields]
      rw [← haround] at hbut ⊢
      rcases copy_over source ht hu (hbut.outer hne) with hsame | ⟨⟨_, hcopy⟩, ⟨_, hcopy'⟩⟩
      · exact .inl hsame.value
      · rw [hcopy, hcopy']
        exact .inr hbut
    · obtain ⟨place, place', hplace, hplace', htype, hfilled⟩ := hbut
      obtain ⟨after, hafter, hcontent, hwith⟩ := copy_apart hapart source hplace
      obtain ⟨after', hafter', hcontent', hwith'⟩ := copy_apart hapart source hplace'
      refine .inr ⟨after, after', hafter, hafter', by rw [hcontent, hcontent', htype], ?_⟩
      intro x y hxy
      have hnow : Target.SameFrom first ⟨place.replace x, t.fresh⟩ ⟨place'.replace y, u.fresh⟩ :=
        ⟨hfilled x y hxy, ht, hu⟩
      rw [← hwith x, ← hwith' y]
      exact (schema.copy_sameFrom j source hnow).1.value

theorem NearFrom.runAll {p : WritePath} (hp : schema.resolveWrite d p.path = .ok p)
    {instructions : List Instruction}
    (hinto : ∀ i ∈ instructions, schema.resolveWrite d i.destination.path = .ok i.destination)
    (source : Value) {t u : Target} (h : NearFrom first p.fields t u) :
    NearFrom first p.fields (Composition.runAll schema.copy source instructions t).1
      (Composition.runAll schema.copy source instructions u).1 := by
  induction instructions generalizing t u with
  | nil => exact h
  | cons j rest ih =>
    obtain ⟨hj, hrest⟩ := List.forall_mem_cons.mp hinto
    exact ih hrest (h.copy hp hj source)

theorem fresh_le_runAll (schema : Schema) (source : Value) (instructions : List Instruction)
    (target : Target) :
    target.fresh ≤ (Composition.runAll schema.copy source instructions target).1.fresh := by
  induction instructions generalizing target with
  | nil => exact Nat.le_refl _
  | cons i rest ih => exact (schema.fresh_le_copy i source target).trans (ih _)

/-- Instructions carried out once more leave what they left before. -/
theorem runAll_copy_again {instructions : List Instruction}
    (hinto : ∀ i ∈ instructions, schema.resolveWrite d i.destination.path = .ok i.destination)
    (source : Value) {target : Target} (hfresh : first ≤ target.fresh) :
    let once := (Composition.runAll schema.copy source instructions target).1
    (Composition.runAll schema.copy source instructions once).1.SameFrom first once := by
  induction instructions using List.reverseRecOn with
  | nil => exact .refl hfresh
  | append_singleton before i ih =>
    obtain ⟨hbefore, hlast⟩ := List.forall_mem_append.mp hinto
    have hi := hlast i (List.mem_singleton_self i)
    have hagain := ih hbefore
    have hbound := hfresh.trans (schema.fresh_le_runAll source before target)
    have hone : ∀ t, (Composition.runAll schema.copy source (before ++ [i]) t).1 =
        (schema.copy i source (Composition.runAll schema.copy source before t).1).1 := by
      intro t
      rw [Composition.runAll_append]
      rfl
    simp only [hone]
    generalize (Composition.runAll schema.copy source before target).1 = reached at hagain hbound
    obtain ⟨hcopied, hresult⟩ := schema.copy_sameFrom i source hagain
    rcases schema.copy_cases i source reached with
      ⟨report, hcopy⟩ | ⟨v, place, content, -, hplace, hput, hcopy⟩
    · rw [hcopy] at hcopied ⊢
      exact hcopied
    · rw [hcopy] at hcopied hresult ⊢
      have hnear : NearFrom first i.destination.fields reached
          ⟨place.replace content, reached.fresh + 1⟩ :=
        ⟨.inr (.of_replace hplace (type_of_put? hput)), hbound, Nat.le_succ_of_le hbound⟩
      have hrun := hnear.runAll hi hbefore source
      -- whatever the difference has become, this instruction writes over it
      rcases hrun.value with hsame | hbut
      · have hover := schema.copy_sameFrom i source ⟨hsame, hrun.fresh_left, hrun.fresh_right⟩
        exact hover.1.symm.trans hcopied
      · rcases copy_over source hrun.fresh_left hrun.fresh_right hbut with
          hover | ⟨⟨report, hfailed⟩, -⟩
        · exact hover.symm.trans hcopied
        · rw [hfailed] at hresult
          cases hresult

/-- A plan that is run again from the same source leaves the destination as the first run left
    it, whether either of the runs fails or not and however the paths of its instructions
    overlap.  Only the allocations made on the way are numbered anew. -/
theorem execute_idempotent {instructions : List Instruction}
    (hinto : ∀ i ∈ instructions, schema.resolveWrite d i.destination.path = .ok i.destination)
    (source : Value) (target : Target) :
    let plan := Plan.compile s d instructions
    let once := (schema.execute plan source target).1
    let twice := (schema.execute plan source once).1
    twice.value.SameUpTo target.fresh once.value := by
  intro plan once twice
  have honce : once = (Composition.runAll schema.copy source instructions target).1 := by
    simp only [once, plan, execute_compile]
  have htwice : twice = (Composition.runAll schema.copy source instructions once).1 := by
    simp only [twice, plan, execute_compile]
  have hagain := runAll_copy_again hinto source (Nat.le_refl target.fresh)
  rw [htwice, honce]
  exact hagain.value

end Schema

/-- The first run fails for want of a place and makes one, and the second run writes into it.
    The name is erased twice, under two numbers. -/
theorem Schema.execute_idempotent_sample :
    let plan := Plan.compile Sample.patient Sample.chart Sample.admission
    let first := Sample.clinic.execute plan Sample.grace ⟨Sample.emptyChart, 0⟩
    let second := Sample.clinic.execute plan Sample.grace first.1
    (∀ i ∈ Sample.admission,
      Sample.clinic.resolveWrite Sample.chart i.destination.path = .ok i.destination) ∧
    (∃ report, first.2 = .error report) ∧ second.2 = .ok () ∧
    first.1.value.field? "Chart" 4 = some (.holding 1 (Sample.written "Grace")) ∧
    second.1.value.field? "Chart" 4 = some (.holding 4 (Sample.written "Grace")) ∧
    second.1.value.SameUpTo 0 first.1.value := by
  intro plan first second
  have hagain := @Schema.execute_idempotent Sample.clinic Sample.patient Sample.chart
    Sample.admission Sample.admission_into_chart Sample.grace ⟨Sample.emptyChart, 0⟩
  have hfirst : first = Composition.runAll Sample.clinic.copy Sample.grace Sample.admission
      ⟨Sample.emptyChart, 0⟩ := Schema.execute_compile ..
  have hsecond : second = Composition.runAll Sample.clinic.copy Sample.grace Sample.admission
      first.1 := Schema.execute_compile ..
  refine ⟨Sample.admission_into_chart, ?_, ?_, ?_, ?_, hagain⟩
  · rw [hfirst]
    exact ⟨_, rfl⟩
  · rw [hsecond, hfirst]
    rfl
  · rw [hfirst]
    rfl
  · rw [hsecond, hfirst]
    rfl

end RecordCopy

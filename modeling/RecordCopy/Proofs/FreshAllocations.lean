import RecordCopy.Proofs.Run

/-!
# Up to fresh allocations

What is erased on the way into a wildcard takes a new allocation, and its number depends on
how many were made before.  Two destinations are the same up to such numbers when they differ
in nothing but the allocations from a certain one on (`Value.SameUpTo`).

Instructions cannot tell such destinations apart.  They find the same slots in them, fail in
the same way, and leave destinations that are again the same up to fresh allocations, provided
they read the same values from their sources.  Of what a slot holds it is only the type that
an instruction asks for, and a number has no part in any type.
-/

namespace RecordCopy

/-! ### Values -/

namespace Value

variable {first : Allocation} {v w : Value}

theorem blurAll_eq_map (first : Allocation) (vs : List Value) :
    blurAll first vs = vs.map (blur first) := by
  induction vs with
  | nil => rfl
  | cons v vs ih => rw [blurAll, ih, List.map_cons]

@[simp] theorem type_blur (first : Allocation) : ∀ v : Value, (v.blur first).type = v.type
  | .present inner => by simp only [blur, type, type_blur first inner]
  | .scalar _ | .bytes _ | .empty | .holding _ _ | .absent _ | .record _ _ => rfl

namespace SameUpTo

theorem refl (first : Allocation) (v : Value) : v.SameUpTo first v := rfl

theorem symm (h : v.SameUpTo first w) : w.SameUpTo first v := Eq.symm h

theorem type_eq (h : v.SameUpTo first w) : v.type = w.type := by
  unfold SameUpTo at h
  rw [← type_blur first v, h, type_blur]

theorem record_iff {name : String} {fields : List Value} :
    (Value.record name fields).SameUpTo first w ↔
      ∃ others, w = .record name others ∧ fields.map (blur first) = others.map (blur first) := by
  unfold SameUpTo
  constructor
  · intro h
    cases w with
    | record other others =>
      simp only [blur, blurAll_eq_map, record.injEq] at h
      exact ⟨others, by rw [h.1], h.2⟩
    | _ => simp [blur] at h
  · rintro ⟨others, rfl, h⟩
    simp only [blur, blurAll_eq_map, h]

theorem present_iff {inner : Value} : (Value.present inner).SameUpTo first w ↔
    ∃ other, w = .present other ∧ inner.SameUpTo first other := by
  unfold SameUpTo
  constructor
  · intro h
    cases w with
    | present other => exact ⟨other, rfl, by simpa [blur] using h⟩
    | _ => simp [blur] at h
  · rintro ⟨other, rfl, h⟩
    simp only [blur, h]

theorem holding {a b : Allocation} (ha : first ≤ a) (hb : first ≤ b) (held : Value) :
    (Value.holding a held).SameUpTo first (.holding b held) := by
  unfold SameUpTo
  simp only [blur, Nat.min_eq_right ha, Nat.min_eq_right hb]

end SameUpTo

/-! ### What a slot accepts -/

theorem as?_blur (first : Allocation) (t : Ty) (v : Value) :
    (v.blur first).as? t = (v.as? t).map (blur first) := by
  unfold as?
  rw [type_blur]
  split <;> rfl

theorem payload?_blur (first : Allocation) (t : Ty) (v : Value) :
    (v.blur first).payload? t = (v.payload? t).map (blur first) := by
  cases v with
  | present inner => exact as?_blur first t inner
  | _ => rfl

theorem wildcard?_blur (first : Allocation) (v : Value) : (v.blur first).wildcard? =
    v.wildcard?.map (Option.map fun h => (min h.1 first, h.2.blur first)) := by
  cases v with
  | absent inner => cases inner <;> rfl
  | present inner => cases inner <;> rfl
  | _ => rfl

theorem held?_blur (first : Allocation) (t : Ty) (v : Value) :
    (v.blur first).held? t = (v.held? t).map (blur first) := by
  unfold held?
  rw [wildcard?_blur]
  cases v.wildcard? with
  | none => rfl
  | some held =>
    cases held with
    | none => rfl
    | some held => exact as?_blur first t held.2

end Value

/-- What a slot becomes depends on numbers of allocations only as far as it takes them over. -/
theorem Ty.accept?_blur (first : Allocation) (t : Ty) (v : Value) :
    t.accept? (v.blur first) = (t.accept? v).map (Value.blur first) := by
  have horElse : ∀ a b : Option Value,
      (a.map (Value.blur first) <|> b.map (Value.blur first)) =
        (a <|> b).map (Value.blur first) := by
    intro a b
    cases a <;> rfl
  cases t with
  | wildcard =>
    simp only [accept?, Value.wildcard?_blur, Option.map_map]
    congr 1
    funext held
    cases held <;> rfl
  | option inner =>
    simp only [accept?, Value.type_blur, Value.wildcard?_blur]
    split
    · rfl
    · cases hwildcard : v.wildcard? with
      | none =>
        simp only [Option.map_none, Value.as?_blur, Value.held?_blur, horElse, Option.map_map]
        rfl
      | some held =>
        cases held with
        | none => rfl
        | some held =>
          simp only [Option.map_some, Value.as?_blur, Value.held?_blur, horElse, Option.map_map]
          rfl
  | _ => simp only [accept?, Value.as?_blur, Value.payload?_blur, Value.held?_blur, horElse]

/-! ### What is put into a slot -/

theorem Value.rel_of_map_blur {first : Allocation} {a b : Option Value}
    (h : a.map (blur first) = b.map (blur first)) : Option.Rel (SameUpTo first) a b := by
  cases a with
  | none =>
    cases b with
    | none => exact .none
    | some w => cases h
  | some v =>
    cases b with
    | none => cases h
    | some w => exact .some (Option.some.inj h)

namespace ValueType

variable {first : Allocation}

theorem assign_sameUpTo (t : ValueType) {old old' v w : Value} (htype : old.type = old'.type)
    (h : v.SameUpTo first w) :
    Option.Rel (Value.SameUpTo first) (t.assign old v) (t.assign old' w) := by
  rw [assign_eq, assign_eq, htype]
  have haccept : Option.Rel (Value.SameUpTo first) (t.type.accept? v) (t.type.accept? w) := by
    apply Value.rel_of_map_blur
    rw [← Ty.accept?_blur, ← Ty.accept?_blur, h]
  split
  · exact .none
  · split
    · exact haccept
    · exact .none

/-- Two wildcards made for one value are the same up to their numbers. -/
theorem erase_sameUpTo (t : ValueType) {a b : Allocation} (ha : first ≤ a) (hb : first ≤ b)
    (v : Value) : Option.Rel (Value.SameUpTo first) (t.erase a v) (t.erase b v) := by
  -- a wildcard stays itself, and anything else is held by a new one
  have hplain : Option.Rel (Value.SameUpTo first)
      (if v.type = .wildcard then some v else (v.as? t.type).map (.holding a))
      (if v.type = .wildcard then some v else (v.as? t.type).map (.holding b)) := by
    split
    · exact .some (.refl first v)
    · cases v.as? t.type with
      | none => exact .none
      | some held => exact .some (.holding ha hb held)
  unfold erase
  split
  · exact .none
  · split
    · split
      · exact .some (.holding ha hb _)
      · exact .some (.refl first _)
    · exact .none
  all_goals exact hplain

end ValueType

/-- Of what a slot holds, a conversion into it asks for the type only. -/
theorem Step.assign_congr (s : Step) {old old' : Value} (htype : old.type = old'.type)
    (v : Value) : s.assign old v = s.assign old' v := by
  rw [assign_eq, assign_eq, htype]

/-! ### Places -/

/-- The same things lie at two places, and the same things put there leave the same. -/
structure Place.SameUpTo (first : Allocation) (p q : Place) : Prop where
  content : p.content.SameUpTo first q.content
  replace : ∀ v w : Value, v.SameUpTo first w → (p.replace v).SameUpTo first (q.replace w)

section

variable {first : Allocation} {v w : Value}

theorem Place.SameUpTo.inside {p q inner inner' : Place} (houter : p.SameUpTo first q)
    (hinner : inner.SameUpTo first inner') :
    (p.inside inner).SameUpTo first (q.inside inner') where
  content := hinner.content
  replace v w h := houter.replace _ _ (hinner.replace v w h)

/-- Going on from places that are the same leads to places that are the same. -/
theorem Place.SameUpTo.rel_inside {a b : Option Place} (h : Option.Rel (SameUpTo first) a b)
    {next : Value → Option Place}
    (hnext : ∀ v w, v.SameUpTo first w → Option.Rel (SameUpTo first) (next v) (next w)) :
    Option.Rel (SameUpTo first) (a.bind fun p => (next p.content).map p.inside)
      (b.bind fun p => (next p.content).map p.inside) := by
  cases h with
  | none => exact .none
  | @some p q hpq =>
    simp only [Option.bind_some]
    have hinner := hnext p.content q.content hpq.content
    generalize next p.content = inner, next q.content = inner' at hinner
    cases hinner with
    | none => exact .none
    | some hheld => exact .some (hpq.inside hheld)

theorem Value.fieldPlace?_sameUpTo (h : v.SameUpTo first w) (record : String) (position : Nat) :
    Option.Rel (Place.SameUpTo first) (v.fieldPlace? record position)
      (w.fieldPlace? record position) := by
  cases v with
  | record name fields =>
    obtain ⟨others, rfl, hfields⟩ := SameUpTo.record_iff.mp h
    simp only [fieldPlace?]
    split
    · have hat := congrArg (·[position]?) hfields
      simp only [List.getElem?_map] at hat
      have hrel := rel_of_map_blur hat
      generalize fields[position]? = old, others[position]? = old' at hrel
      cases hrel with
      | none => exact .none
      | some hold =>
        refine .some ⟨hold, ?_⟩
        intro v w hvw
        have hset : (fields.set position v).map (blur first) =
            (others.set position w).map (blur first) := by
          rw [List.map_set, List.map_set, hfields, hvw]
        exact SameUpTo.record_iff.mpr ⟨_, rfl, hset⟩
    · exact .none
  | _ => cases w <;> first | exact .none | simp [SameUpTo, blur] at h

theorem Value.payloadPlace?_sameUpTo (h : v.SameUpTo first w) (t : Ty) :
    Option.Rel (Place.SameUpTo first) (v.payloadPlace? t) (w.payloadPlace? t) := by
  cases v with
  | present inner =>
    obtain ⟨other, rfl, hinner⟩ := SameUpTo.present_iff.mp h
    simp only [payloadPlace?, as?, hinner.type_eq]
    split
    · refine .some ⟨hinner, ?_⟩
      intro v w hvw
      exact SameUpTo.present_iff.mpr ⟨w, rfl, hvw⟩
    · exact .none
  | _ => cases w <;> first | exact .none | simp [SameUpTo, blur] at h

theorem ValueType.enterPlace_sameUpTo (t : ValueType) (h : v.SameUpTo first w) :
    Option.Rel (Place.SameUpTo first) (t.enterPlace v) (t.enterPlace w) := by
  unfold enterPlace
  split
  · simp only [Value.as?, h.type_eq]
    split
    · exact .some ⟨h, fun _ _ hvw => hvw⟩
    · exact .none
  · exact Value.payloadPlace?_sameUpTo h _
  all_goals exact .none

theorem BoundField.place_sameUpTo (f : BoundField) (h : v.SameUpTo first w) :
    Option.Rel (Place.SameUpTo first) (f.place v) (f.place w) := by
  unfold place
  split
  · exact Value.fieldPlace?_sameUpTo h _ _
  · exact .none

theorem BoundField.inner_sameUpTo (f : BoundField) (h : v.SameUpTo first w) :
    Option.Rel (Place.SameUpTo first) (f.inner v) (f.inner w) := by
  rw [inner_eq_bind, inner_eq_bind]
  apply Place.SameUpTo.rel_inside (f.place_sameUpTo h)
  intro _ _ hstored
  exact f.field.type.enterPlace_sameUpTo hstored

theorem slotAlong_sameUpTo (fields : List BoundField) (h : v.SameUpTo first w) :
    Option.Rel (Place.SameUpTo first) (slotAlong fields v) (slotAlong fields w) := by
  induction fields generalizing v w with
  | nil => exact .none
  | cons f rest ih =>
    cases rest with
    | nil => exact f.place_sameUpTo h
    | cons next rest =>
      rw [slotAlong_cons_cons, slotAlong_cons_cons]
      apply Place.SameUpTo.rel_inside (f.inner_sameUpTo h)
      intro _ _ hheld
      exact ih hheld

theorem Place.SameUpTo.of_slotAlong {fields : List BoundField} {p : Place}
    (h : slotAlong fields v = some p) : p.SameUpTo first p := by
  have hself := slotAlong_sameUpTo fields (Value.SameUpTo.refl first v)
  rw [h] at hself
  cases hself with
  | some hplace => exact hplace

end

/-! ### Copies -/

/-- Both took the value or both refused it, and they hold the same. -/
structure Stored.SameUpTo (first : Allocation) (s t : Stored) : Prop where
  content : s.content.SameUpTo first t.content
  taken : s.taken = t.taken

theorem Stored.taken_eq_of_rel {R : Value → Value → Prop} {s t : Stored}
    (h : Option.Rel R s.result? t.result?) : s.taken = t.taken := by
  unfold result? at h
  cases hs : s.taken <;> cases ht : t.taken <;> simp only [hs, ht] at h ⊢ <;> cases h

/-- Slots that hold the same come to the same if they become the same where they take a value,
    for one that refuses it holds what it held. -/
theorem Stored.SameUpTo.of_result? {first : Allocation} {s t : Stored} {old old' : Value}
    (hold : old.SameUpTo first old') (hs : s.taken = false → s.content = old)
    (ht : t.taken = false → t.content = old')
    (h : Option.Rel (Value.SameUpTo first) s.result? t.result?) : s.SameUpTo first t := by
  have htaken := taken_eq_of_rel h
  refine ⟨?_, htaken⟩
  cases hcase : s.taken with
  | false =>
    rw [hs hcase, ht (htaken.symm.trans hcase)]
    exact hold
  | true =>
    simp only [result?, hcase, htaken.symm.trans hcase, if_true] at h
    cases h with
    | some hcontent => exact hcontent

/-- The values are the same up to allocations from `first` on, and the next allocations are
    such ones. -/
structure Target.SameFrom (first : Allocation) (t u : Target) : Prop where
  value : t.value.SameUpTo first u.value
  fresh_left : first ≤ t.fresh
  fresh_right : first ≤ u.fresh

theorem Target.SameFrom.refl {first : Allocation} {t : Target} (h : first ≤ t.fresh) :
    t.SameFrom first t :=
  ⟨.refl first _, h, h⟩

theorem Target.SameFrom.symm {first : Allocation} {t u : Target} (h : t.SameFrom first u) :
    u.SameFrom first t :=
  ⟨h.value.symm, h.fresh_right, h.fresh_left⟩

theorem Target.SameFrom.trans {first : Allocation} {t u w : Target} (h : t.SameFrom first u)
    (h' : u.SameFrom first w) : t.SameFrom first w :=
  ⟨Eq.trans h.value h'.value, h.fresh_left, h'.fresh_right⟩

theorem WritePath.storeWith_sameUpTo {first : Allocation} (p : WritePath)
    {store : Value → Value → Stored} {t u v w : Value} (htarget : t.SameUpTo first u)
    (hstore : ∀ old old', old.SameUpTo first old' →
      (store old v).SameUpTo first (store old' w)) :
    Option.Rel (Stored.SameUpTo first) (p.storeWith store t v) (p.storeWith store u w) := by
  unfold storeWith
  rw [slot_eq_slotAlong, slot_eq_slotAlong]
  have hslot := slotAlong_sameUpTo p.fields htarget
  generalize slotAlong p.fields t = place, slotAlong p.fields u = place' at hslot
  cases hslot with
  | none => exact .none
  | some hplace =>
    obtain ⟨hcontent, htaken⟩ := hstore _ _ hplace.content
    exact .some ⟨hplace.replace _ _ hcontent, htaken⟩

namespace Schema

variable {first : Allocation} {t u : Target}

/-- What an instruction brings to slots of one type comes to the same there, up to fresh
    allocations.  A value that is erased is the same up to its number; any other one is the very
    same, which a conversion may ask for. -/
theorem storing_brought? (schema : Schema) (i : Instruction) {a b : Allocation} (ha : first ≤ a)
    (hb : first ≤ b) (v : Value) : ∃ R : Value → Value → Prop,
      Option.Rel R (schema.brought? i a v) (schema.brought? i b v) ∧
        ∀ x y, R x y → ∀ old old' : Value, old.type = old'.type →
          Option.Rel (Value.SameUpTo first) (schema.storing i old x).result?
            (schema.storing i old' y).result? := by
  unfold brought? storing
  cases schema.transfer i.source.terminal i.destination.terminal with
  | plain =>
    refine ⟨Eq, .some rfl, ?_⟩
    rintro x _ rfl old old' htype
    exact i.destination.terminal.assign_sameUpTo htype (.refl first x)
  | erased =>
    refine ⟨Value.SameUpTo first, i.source.terminal.erase_sameUpTo ha hb v, ?_⟩
    intro x y hsame old old' htype
    exact i.destination.terminal.assign_sameUpTo htype hsame
  | converted upcast =>
    refine ⟨Eq, ?_, ?_⟩
    · dsimp only
      cases upcast.lead v with
      | none => exact .none
      | some lead => exact .some rfl
    · rintro x _ rfl old old' htype
      dsimp only
      rw [show (upcast.last.store old x).result? = (upcast.last.store old' x).result? from
        upcast.last.assign_congr htype x]
      exact Value.rel_of_map_blur rfl

theorem deliver_sameUpTo (schema : Schema) (i : Instruction) (v : Value)
    (h : t.SameFrom first u) :
    Option.Rel (Stored.SameUpTo first) (schema.deliver i v t) (schema.deliver i v u) := by
  rw [deliver_eq, deliver_eq]
  obtain ⟨R, hbrought, hstore⟩ := schema.storing_brought? i h.fresh_left h.fresh_right v
  generalize schema.brought? i t.fresh v = x, schema.brought? i u.fresh v = y at hbrought
  cases hbrought with
  | none => exact .some ⟨h.value, rfl⟩
  | some hsame =>
    apply i.destination.storeWith_sameUpTo h.value
    intro old old' hold
    exact .of_result? hold content_storing_of_refused content_storing_of_refused
      (hstore _ _ hsame old old' hold.type_eq)

theorem put?_sameUpTo (schema : Schema) (i : Instruction) {a b : Allocation} (ha : first ≤ a)
    (hb : first ≤ b) {old old' : Value} (htype : old.type = old'.type) (v : Value) :
    Option.Rel (Value.SameUpTo first) (schema.put? i a old v) (schema.put? i b old' v) := by
  rw [put?_eq_bind, put?_eq_bind]
  obtain ⟨R, hbrought, hstore⟩ := schema.storing_brought? i ha hb v
  generalize schema.brought? i a v = x, schema.brought? i b v = y at hbrought
  cases hbrought with
  | none => exact .none
  | some hsame => exact hstore _ _ hsame old old' htype

theorem copy_sameFrom (schema : Schema) (i : Instruction) (source : Value)
    (h : t.SameFrom first u) :
    (schema.copy i source t).1.SameFrom first (schema.copy i source u).1 ∧
      (schema.copy i source t).2 = (schema.copy i source u).2 := by
  unfold copy
  cases i.source.compile source with
  | none => exact ⟨h, rfl⟩
  | some v =>
    have hdelivered := schema.deliver_sameUpTo i v h
    dsimp only
    generalize schema.deliver i v t = after?, schema.deliver i v u = after?' at hdelivered
    cases hdelivered with
    | none => exact ⟨h, rfl⟩
    | some hafter =>
      simp only [hafter.taken]
      split
      · exact ⟨⟨hafter.content, Nat.le_succ_of_le h.fresh_left,
          Nat.le_succ_of_le h.fresh_right⟩, rfl⟩
      · exact ⟨⟨hafter.content, h.fresh_left, h.fresh_right⟩, rfl⟩

theorem runAll_copy_sameFrom (schema : Schema) (source : Value)
    (instructions : List Instruction) (h : t.SameFrom first u) :
    (Composition.runAll schema.copy source instructions t).1.SameFrom first
        (Composition.runAll schema.copy source instructions u).1 ∧
      (Composition.runAll schema.copy source instructions t).2 =
        (Composition.runAll schema.copy source instructions u).2 := by
  induction instructions generalizing t u with
  | nil => exact ⟨h, rfl⟩
  | cons i rest ih =>
    obtain ⟨hfirst, hresult⟩ := schema.copy_sameFrom i source h
    obtain ⟨hrest, hresults⟩ := ih hfirst
    simp only [Composition.runAll]
    rw [hresult, hresults]
    exact ⟨hrest, rfl⟩

theorem execute_sameFrom (schema : Schema) (plan : Plan) (source : Value)
    (h : t.SameFrom first u) :
    (schema.execute plan source t).1.SameFrom first (schema.execute plan source u).1 ∧
      (schema.execute plan source t).2 = (schema.execute plan source u).2 := by
  unfold execute
  rw [Composition.run_eq_runAll, Composition.run_eq_runAll]
  exact schema.runAll_copy_sameFrom source _ h

end Schema

end RecordCopy

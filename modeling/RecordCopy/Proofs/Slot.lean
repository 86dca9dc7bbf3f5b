import RecordCopy.ResolvedPath

/-!
# Slots

A slot is the place at the end of a list of fields.  Its laws are those of a lens:
reading along the fields finds what lies in the slot, and what is put there is found
again, with the rest of the value as before.  Two lists of fields that part at two
positions of one record name slots that do not touch each other.

None of this asks whether the value is well typed.  A place is only ever found where
every record and every option on the way is of the type asked for, and replacing a
field leaves the type of its record alone.
-/

namespace RecordCopy

/-! ### One field -/

namespace BoundField

/-- A field is found in records of its own type only, and replaced at its position. -/
theorem place_eq_some {f : BoundField} {v : Value} {p : Place} (h : f.place v = some p) :
    f.field.bound = true ∧ ∃ fields old, v = .record f.owner fields ∧
      fields[f.position]? = some old ∧
      p = ⟨old, fun w => .record f.owner (fields.set f.position w)⟩ := by
  unfold place at h
  split at h
  · rename_i hbound
    cases v with
    | record name fields =>
      simp only [Value.fieldPlace?] at h
      split at h
      · rename_i hname
        obtain ⟨old, hold, rfl⟩ := Option.map_eq_some_iff.mp h
        subst hname
        exact ⟨hbound, fields, old, rfl, hold, rfl⟩
      · cases h
    | _ => cases h
  · cases h

theorem place_replace {f : BoundField} {v : Value} {p : Place} (h : f.place v = some p)
    (w : Value) : f.place (p.replace w) = some ⟨w, p.replace⟩ := by
  obtain ⟨hbound, fields, old, rfl, hold, rfl⟩ := place_eq_some h
  have hlt := (List.getElem?_eq_some_iff.mp hold).1
  simp [place, hbound, Value.fieldPlace?, hlt]

theorem place_replace_content {f : BoundField} {v : Value} {p : Place} (h : f.place v = some p) :
    p.replace p.content = v := by
  obtain ⟨-, fields, old, rfl, hold, rfl⟩ := place_eq_some h
  obtain ⟨hlt, rfl⟩ := List.getElem?_eq_some_iff.mp hold
  exact congrArg (Value.record f.owner) (List.set_getElem_self hlt)

theorem type_of_place {f : BoundField} {v : Value} {p : Place} (h : f.place v = some p) :
    v.type = .record f.owner ∧ ∀ w, (p.replace w).type = .record f.owner := by
  obtain ⟨-, fields, old, rfl, -, rfl⟩ := place_eq_some h
  exact ⟨rfl, fun _ => rfl⟩

theorem get_replace_of_ne {f g : BoundField} {v : Value} {p : Place} (h : f.place v = some p)
    (hne : f.position ≠ g.position) (howner : f.owner = g.owner) (w : Value) :
    g.get (p.replace w) = g.get v := by
  obtain ⟨-, fields, old, rfl, -, rfl⟩ := place_eq_some h
  simp [get, Value.field?, howner, List.getElem?_set_ne hne]

theorem place_both {f g : BoundField} {v : Value} {p q : Place} (hf : f.place v = some p)
    (hg : g.place v = some q) (hne : f.position ≠ g.position) :
    ∃ both : Value → Value → Value, (∀ w, g.place (p.replace w) = some ⟨q.content, both w⟩) ∧
      ∀ u, f.place (q.replace u) = some ⟨p.content, fun w => both w u⟩ := by
  obtain ⟨hboundF, fields, old, rfl, hold, rfl⟩ := place_eq_some hf
  obtain ⟨hboundG, fields', old', hsame, hold', rfl⟩ := place_eq_some hg
  obtain ⟨howner, rfl⟩ := Value.record.inj hsame
  refine ⟨fun w u => .record f.owner ((fields.set f.position w).set g.position u), ?_, ?_⟩
  · intro w
    have hat : (fields.set f.position w)[g.position]? = some old' := by
      rw [List.getElem?_set_ne hne, hold']
    simp [place, hboundG, Value.fieldPlace?, ← howner, hat]
  · intro u
    have hat : (fields.set g.position u)[f.position]? = some old := by
      rw [List.getElem?_set_ne hne.symm, hold]
    simp [place, hboundF, Value.fieldPlace?, howner, hat, List.set_comm _ _ hne]

end BoundField

/-! ### What a field holds -/

theorem ValueType.enterPlace_replace {t : ValueType} {v w : Value} {p : Place}
    (h : t.enterPlace v = some p) (hw : w.type = p.content.type) :
    t.enterPlace (p.replace w) = some ⟨w, p.replace⟩ := by
  unfold enterPlace at h ⊢
  split at h
  · obtain ⟨u, hu, rfl⟩ := Option.map_eq_some_iff.mp h
    obtain ⟨htype, rfl⟩ := Value.as?_eq_some_iff.mp hu
    have hwas : w.as? (.record _) = some w := Value.as?_eq_some_iff.mpr ⟨hw.trans htype, rfl⟩
    simp only [Place.whole, id_eq, hwas, Option.map_some]
  · cases v with
    | present inner =>
      simp only [Value.payloadPlace?] at h ⊢
      obtain ⟨u, hu, rfl⟩ := Option.map_eq_some_iff.mp h
      obtain ⟨htype, rfl⟩ := Value.as?_eq_some_iff.mp hu
      have hwas : w.as? _ = some w := Value.as?_eq_some_iff.mpr ⟨hw.trans htype, rfl⟩
      simp only [hwas, Option.map_some]
    | _ => cases h
  all_goals cases h

theorem ValueType.enterPlace_replace_content {t : ValueType} {v : Value} {p : Place}
    (h : t.enterPlace v = some p) : p.replace p.content = v := by
  unfold enterPlace at h
  split at h
  · obtain ⟨u, hu, rfl⟩ := Option.map_eq_some_iff.mp h
    exact (Value.as?_eq_some_iff.mp hu).2.symm
  · cases v with
    | present inner =>
      obtain ⟨u, hu, rfl⟩ := Option.map_eq_some_iff.mp h
      exact congrArg Value.present (Value.as?_eq_some_iff.mp hu).2.symm
    | _ => cases h
  all_goals cases h

/-- What holds something keeps its type when something of the same type is put there. -/
theorem ValueType.type_enterPlace_replace {t : ValueType} {v w : Value} {p : Place}
    (h : t.enterPlace v = some p) (hw : w.type = p.content.type) : (p.replace w).type = v.type := by
  unfold enterPlace at h
  split at h
  · obtain ⟨u, hu, rfl⟩ := Option.map_eq_some_iff.mp h
    obtain ⟨-, rfl⟩ := Value.as?_eq_some_iff.mp hu
    exact hw
  · cases v with
    | present inner =>
      obtain ⟨u, hu, rfl⟩ := Option.map_eq_some_iff.mp h
      obtain ⟨-, rfl⟩ := Value.as?_eq_some_iff.mp hu
      exact congrArg Ty.option hw
    | _ => cases h
  all_goals cases h

namespace BoundField

theorem inner_eq_bind (f : BoundField) (v : Value) : f.inner v =
    (f.place v).bind fun p => (f.field.type.enterPlace p.content).map p.inside := by
  unfold inner
  cases f.place v <;> rfl

theorem inner_eq_some_iff {f : BoundField} {v : Value} {p : Place} :
    f.inner v = some p ↔ ∃ field held, f.place v = some field ∧
      f.field.type.enterPlace field.content = some held ∧ p = field.inside held := by
  simp only [inner_eq_bind, Option.bind_eq_some_iff, Option.map_eq_some_iff]
  constructor
  · rintro ⟨field, hplace, held, hheld, rfl⟩
    exact ⟨field, held, hplace, hheld, rfl⟩
  · rintro ⟨field, held, hplace, hheld, rfl⟩
    exact ⟨field, hplace, held, hheld, rfl⟩

/-- What a field holds is reached by reading the field and entering its value. -/
theorem map_content_inner (f : BoundField) (v : Value) :
    (f.inner v).map Place.content = (f.get v).bind f.field.type.enter := by
  unfold inner
  rw [← map_content_place]
  cases f.place v with
  | none => rfl
  | some field =>
    simp only [Option.map_some, Option.bind_some, ← ValueType.map_content_enterPlace,
      Option.map_map]
    rfl

theorem inner_replace {f : BoundField} {v w : Value} {p : Place} (h : f.inner v = some p)
    (hw : w.type = p.content.type) : f.inner (p.replace w) = some ⟨w, p.replace⟩ := by
  obtain ⟨field, held, hplace, hheld, rfl⟩ := inner_eq_some_iff.mp h
  exact inner_eq_some_iff.mpr ⟨_, _, place_replace hplace _,
    ValueType.enterPlace_replace hheld hw, rfl⟩

theorem inner_replace_content {f : BoundField} {v : Value} {p : Place} (h : f.inner v = some p) :
    p.replace p.content = v := by
  obtain ⟨field, held, hplace, hheld, rfl⟩ := inner_eq_some_iff.mp h
  change field.replace (held.replace held.content) = v
  rw [ValueType.enterPlace_replace_content hheld, place_replace_content hplace]

end BoundField

/-! ### A list of fields -/

def slotAlong : List BoundField → Value → Option Place
  | [], _ => none
  | [leaf], v => leaf.place v
  | f :: next :: rest, v =>
    match f.inner v with
    | none => none
    | some inner => (slotAlong (next :: rest) inner.content).map inner.inside

theorem slotAlong_cons_cons (f next : BoundField) (rest : List BoundField) (v : Value) :
    slotAlong (f :: next :: rest) v =
      (f.inner v).bind fun p => (slotAlong (next :: rest) p.content).map p.inside := by
  rw [slotAlong]
  cases f.inner v <;> rfl

theorem slotAlong_cons_eq_some_iff {f next : BoundField} {rest : List BoundField} {v : Value}
    {p : Place} : slotAlong (f :: next :: rest) v = some p ↔ ∃ inner slot, f.inner v = some inner ∧
      slotAlong (next :: rest) inner.content = some slot ∧ p = inner.inside slot := by
  simp only [slotAlong_cons_cons, Option.bind_eq_some_iff, Option.map_eq_some_iff]
  constructor
  · rintro ⟨inner, hinner, slot, hslot, rfl⟩
    exact ⟨inner, slot, hinner, hslot, rfl⟩
  · rintro ⟨inner, slot, hinner, hslot, rfl⟩
    exact ⟨inner, hinner, slot, hslot, rfl⟩

theorem WritePath.slot_eq_slotAlong (p : WritePath) (v : Value) :
    p.slot v = slotAlong p.fields v := by
  obtain ⟨⟨root, path, containers, leaf⟩⟩ := p
  simp only [slot, ResolvedPath.fields]
  induction containers generalizing v with
  | nil =>
    simp only [locate, List.nil_append, slotAlong]
    exact congrFun Option.map_id _
  | cons f rest ih =>
    have hcons : ∃ next more, rest ++ [leaf] = next :: more := by
      cases rest with
      | nil => exact ⟨leaf, [], rfl⟩
      | cons g gs => exact ⟨g, gs ++ [leaf], rfl⟩
    obtain ⟨next, more, hmore⟩ := hcons
    simp only [locate, List.cons_append, hmore, slotAlong]
    cases f.inner v with
    | none => rfl
    | some inner =>
      dsimp only
      rw [← hmore, ← ih inner.content]
      cases locate rest inner.content with
      | none => rfl
      | some container =>
        simp only [Option.map_some, Option.map_map]
        rfl

/-- Reading follows the fields into what they hold. -/
theorem ReadStep.walk_cons_cons (f next : BoundField) (rest : List BoundField) (v : Value) :
    ReadStep.walk ((f :: next :: rest).map ReadStep.ofField) v =
      ((f.inner v).map Place.content).bind
        (ReadStep.walk ((next :: rest).map ReadStep.ofField)) := by
  rw [BoundField.map_content_inner]
  simp only [List.map_cons, ReadStep.walk, ReadStep.ofField]
  cases f.get v with
  | none => rfl
  | some field =>
    simp only [Option.bind_some]
    cases f.field.type.enter field <;> rfl

theorem walk_eq_content (fields : List BoundField) (v : Value) :
    ReadStep.walk (fields.map ReadStep.ofField) v = (slotAlong fields v).map Place.content := by
  induction fields generalizing v with
  | nil => rfl
  | cons f rest ih =>
    cases rest with
    | nil => exact (BoundField.map_content_place f v).symm
    | cons next rest =>
      rw [ReadStep.walk_cons_cons, slotAlong]
      cases f.inner v with
      | none => rfl
      | some inner =>
        simp only [Option.map_some, Option.bind_some, ih, Option.map_map]
        rfl

/-- The path of a slot, read back, leads to what lies in the slot. -/
theorem WritePath.read_slot (p : WritePath) (v : Value) :
    ReadPath.read ⟨p.toResolvedPath⟩ v = (slotAlong p.fields v).map Place.content :=
  walk_eq_content p.fields v

/-- Whatever is put into a slot goes into the first field on the way. -/
theorem exists_place_of_slotAlong {f : BoundField} {fs : List BoundField} {v : Value} {p : Place}
    (h : slotAlong (f :: fs) v = some p) :
    ∃ field, f.place v = some field ∧ ∀ w, ∃ content, p.replace w = field.replace content := by
  cases fs with
  | nil => exact ⟨p, h, fun w => ⟨w, rfl⟩⟩
  | cons next rest =>
    obtain ⟨inner, slot, hinner, -, rfl⟩ := slotAlong_cons_eq_some_iff.mp h
    obtain ⟨field, held, hplace, -, rfl⟩ := BoundField.inner_eq_some_iff.mp hinner
    exact ⟨field, hplace, fun w => ⟨held.replace (slot.replace w), rfl⟩⟩

theorem type_slotAlong_replace {fields : List BoundField} {v : Value} {p : Place}
    (h : slotAlong fields v = some p) (w : Value) : (p.replace w).type = v.type := by
  cases fields with
  | nil => cases h
  | cons f rest =>
    obtain ⟨field, hplace, hreplace⟩ := exists_place_of_slotAlong h
    obtain ⟨content, hcontent⟩ := hreplace w
    obtain ⟨hv, hreplaced⟩ := BoundField.type_of_place hplace
    rw [hcontent, hv, hreplaced]

/-- What is put into a slot lies there afterwards, and can be replaced again. -/
theorem slotAlong_replace {fields : List BoundField} {v : Value} {p : Place}
    (h : slotAlong fields v = some p) (w : Value) :
    slotAlong fields (p.replace w) = some ⟨w, p.replace⟩ := by
  induction fields generalizing v p with
  | nil => cases h
  | cons f rest ih =>
    cases rest with
    | nil => exact BoundField.place_replace h w
    | cons next rest =>
      obtain ⟨inner, slot, hinner, hslot, rfl⟩ := slotAlong_cons_eq_some_iff.mp h
      have hentered := BoundField.inner_replace hinner (type_slotAlong_replace hslot w)
      exact slotAlong_cons_eq_some_iff.mpr ⟨_, _, hentered, ih hslot, rfl⟩

/-- Putting back what lies in a slot changes nothing. -/
theorem slotAlong_replace_content {fields : List BoundField} {v : Value} {p : Place}
    (h : slotAlong fields v = some p) : p.replace p.content = v := by
  induction fields generalizing v p with
  | nil => cases h
  | cons f rest ih =>
    cases rest with
    | nil => exact BoundField.place_replace_content h
    | cons next rest =>
      obtain ⟨inner, slot, hinner, hslot, rfl⟩ := slotAlong_cons_eq_some_iff.mp h
      change inner.replace (slot.replace slot.content) = v
      rw [ih hslot, BoundField.inner_replace_content hinner]

/-- Fields that go on lead into the slot where the ones before end. -/
theorem exists_outer_of_slotAlong {fs more : List BoundField} (hfs : fs ≠ []) {v : Value}
    {p : Place} (h : slotAlong (fs ++ more) v = some p) :
    ∃ outer, slotAlong fs v = some outer ∧ ∀ w, w.type = p.content.type →
      ∃ content, p.replace w = outer.replace content ∧ content.type = outer.content.type := by
  induction fs generalizing v p with
  | nil => exact absurd rfl hfs
  | cons f rest ih =>
    cases rest with
    | nil =>
      cases more with
      | nil => exact ⟨p, h, fun w hw => ⟨w, rfl, hw⟩⟩
      | cons next more =>
        obtain ⟨inner, slot, hinner, hslot, rfl⟩ := slotAlong_cons_eq_some_iff.mp h
        obtain ⟨field, held, hplace, hheld, rfl⟩ := BoundField.inner_eq_some_iff.mp hinner
        refine ⟨field, hplace, fun w _ => ⟨held.replace (slot.replace w), rfl, ?_⟩⟩
        exact ValueType.type_enterPlace_replace hheld (type_slotAlong_replace hslot w)
    | cons next rest =>
      obtain ⟨inner, slot, hinner, hslot, rfl⟩ := slotAlong_cons_eq_some_iff.mp h
      obtain ⟨outer, houter, hinto⟩ := ih (List.cons_ne_nil _ _) hslot
      refine ⟨inner.inside outer, ?_, ?_⟩
      · exact slotAlong_cons_eq_some_iff.mpr ⟨inner, outer, hinner, houter, rfl⟩
      · intro w hw
        obtain ⟨content, hcontent, htype⟩ := hinto w hw
        exact ⟨content, congrArg inner.replace hcontent, htype⟩

/-! ### Slots that do not touch -/

/-- Two lists of fields that agree up to where they part at two positions of one record. -/
inductive Apart : List BoundField → List BoundField → Prop where
  | here {f g : BoundField} {fs gs : List BoundField} :
    f.owner = g.owner → f.position ≠ g.position → Apart (f :: fs) (g :: gs)
  | there {f : BoundField} {fs gs : List BoundField} : Apart fs gs → Apart (f :: fs) (f :: gs)

theorem Apart.symm {fs gs : List BoundField} (h : Apart fs gs) : Apart gs fs := by
  induction h with
  | here howner hposition => exact .here howner.symm hposition.symm
  | there _ ih => exact .there ih

/-- Reading depends on the first field only through what it stores. -/
theorem walk_congr {f : BoundField} {v w : Value} (h : f.get v = f.get w)
    (rest : List BoundField) :
    ReadStep.walk ((f :: rest).map ReadStep.ofField) v =
      ReadStep.walk ((f :: rest).map ReadStep.ofField) w := by
  cases rest with
  | nil => exact h
  | cons next rest =>
    rw [ReadStep.walk_cons_cons, ReadStep.walk_cons_cons, BoundField.map_content_inner,
      BoundField.map_content_inner, h]

/-- Putting something into a slot changes nothing that is read apart from it. -/
theorem walk_replace_of_apart {fs gs : List BoundField} (hapart : Apart fs gs) {v : Value}
    {p : Place} (h : slotAlong fs v = some p) (w : Value) :
    ReadStep.walk (gs.map ReadStep.ofField) (p.replace w) =
      ReadStep.walk (gs.map ReadStep.ofField) v := by
  induction hapart generalizing v p with
  | @here f g fs gs howner hposition =>
    obtain ⟨field, hplace, hreplace⟩ := exists_place_of_slotAlong h
    obtain ⟨content, hcontent⟩ := hreplace w
    rw [hcontent]
    apply walk_congr
    exact BoundField.get_replace_of_ne hplace hposition howner content
  | @there f fs gs hrest ih =>
    cases fs with
    | nil => cases hrest
    | cons next rest =>
      cases gs with
      | nil => cases hrest
      | cons other more =>
        obtain ⟨inner, slot, hinner, hslot, rfl⟩ := slotAlong_cons_eq_some_iff.mp h
        have hentered := BoundField.inner_replace hinner (type_slotAlong_replace hslot w)
        rw [ReadStep.walk_cons_cons, ReadStep.walk_cons_cons, hinner]
        change ((f.inner (inner.replace (slot.replace w))).map Place.content).bind _ = _
        rw [hentered]
        exact ih hslot

/-- Behind its first field, a slot lies in what that field stores. -/
theorem exists_behind_of_slotAlong {f : BoundField} {fs : List BoundField} {v : Value} {p : Place}
    (h : slotAlong (f :: fs) v = some p) :
    ∃ field behind, f.place v = some field ∧ p = field.inside behind ∧
      ∀ u other, f.place u = some other → other.content = field.content →
        slotAlong (f :: fs) u = some (other.inside behind) := by
  cases fs with
  | nil =>
    refine ⟨p, .whole p.content, h, rfl, ?_⟩
    intro u other hother hsame
    rw [slotAlong, hother, ← hsame]
    rfl
  | cons next rest =>
    obtain ⟨inner, slot, hinner, hslot, rfl⟩ := slotAlong_cons_eq_some_iff.mp h
    obtain ⟨field, held, hplace, hheld, rfl⟩ := BoundField.inner_eq_some_iff.mp hinner
    refine ⟨field, held.inside slot, hplace, rfl, ?_⟩
    intro u other hother hsame
    rw [← hsame] at hheld
    have hentered : f.inner u = some (other.inside held) :=
      BoundField.inner_eq_some_iff.mpr ⟨other, held, hother, hheld, rfl⟩
    exact slotAlong_cons_eq_some_iff.mpr ⟨_, slot, hentered, hslot, rfl⟩

theorem slotAlong_both_of_apart {fs gs : List BoundField} (hapart : Apart fs gs) {v : Value}
    {p q : Place} (hf : slotAlong fs v = some p) (hg : slotAlong gs v = some q) :
    ∃ both : Value → Value → Value, (∀ w, slotAlong gs (p.replace w) = some ⟨q.content, both w⟩) ∧
      ∀ u, slotAlong fs (q.replace u) = some ⟨p.content, fun w => both w u⟩ := by
  induction hapart generalizing v p q with
  | here _ hposition =>
    obtain ⟨field, behind, hplace, rfl, hagain⟩ := exists_behind_of_slotAlong hf
    obtain ⟨field', behind', hplace', rfl, hagain'⟩ := exists_behind_of_slotAlong hg
    obtain ⟨both, hleft, hright⟩ := BoundField.place_both hplace hplace' hposition
    refine ⟨fun w u => both (behind.replace w) (behind'.replace u), ?_, ?_⟩
    · intro w
      exact hagain' _ _ (hleft (behind.replace w)) rfl
    · intro u
      exact hagain _ _ (hright (behind'.replace u)) rfl
  | @there f fs gs hrest ih =>
    cases fs with
    | nil => cases hrest
    | cons next rest =>
      cases gs with
      | nil => cases hrest
      | cons other more =>
        obtain ⟨inner, slot, hinner, hslot, rfl⟩ := slotAlong_cons_eq_some_iff.mp hf
        obtain ⟨inner', slot', hinner', hslot', rfl⟩ := slotAlong_cons_eq_some_iff.mp hg
        rw [hinner] at hinner'
        obtain rfl := Option.some.inj hinner'
        obtain ⟨both, hleft, hright⟩ := ih hslot hslot'
        refine ⟨fun w u => inner.replace (both w u), ?_, ?_⟩
        · intro w
          have hentered := BoundField.inner_replace hinner (type_slotAlong_replace hslot w)
          exact slotAlong_cons_eq_some_iff.mpr ⟨_, _, hentered, hleft w, rfl⟩
        · intro u
          have hentered := BoundField.inner_replace hinner (type_slotAlong_replace hslot' u)
          exact slotAlong_cons_eq_some_iff.mpr ⟨_, _, hentered, hright u, rfl⟩

/-- Filling one of two slots that do not touch does not make the other one appear. -/
theorem slotAlong_eq_none_of_apart {fs gs : List BoundField} (hapart : Apart fs gs) {v : Value}
    {p : Place} (hf : slotAlong fs v = some p) (hg : slotAlong gs v = none) (w : Value) :
    slotAlong gs (p.replace w) = none := by
  have hwalk := walk_replace_of_apart hapart hf w
  rw [walk_eq_content, walk_eq_content, hg, Option.map_none, Option.map_eq_none_iff] at hwalk
  exact hwalk

end RecordCopy

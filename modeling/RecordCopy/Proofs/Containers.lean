import RecordCopy.Proofs.Frame

/-!
# Missing containers

A path is resolved through containers under any number of option layers, but a container is
entered through one layer only.  So there are two ways to lose a path on an instance of the record
type it was resolved for.  A container is absent: this is what the failure is there to tell.  Or a
container is declared under a second option layer.  Then entering it comes upon an option, where
the next field is not found, and the path is lost however much the option holds.

Nothing else loses a path.  Every field on the way stores a value of its declared type, and up to
one layer entering such a value is taking off its layers (`ValueType.enter_eq_bare?`), after which
the next record lies open.
-/

namespace RecordCopy

namespace Ty

def layers : Ty → Nat
  | .option inner => inner.layers + 1
  | _ => 0

@[simp] theorem layers_option (t : Ty) : (Ty.option t).layers = t.layers + 1 := rfl

theorem canonical_eq_self {t : Ty} (h : t.layers = 0) : t.canonical = t := by
  cases t with
  | option inner => cases h
  | _ => rfl

theorem exists_option_of_layers {t : Ty} (h : 0 < t.layers) : ∃ u, t = .option u := by
  cases t with
  | option inner => exact ⟨inner, rfl⟩
  | _ => exact absurd h (Nat.lt_irrefl 0)

end Ty

/-! ### Behind the option layers -/

namespace Value

theorem type_of_bare? {v w : Value} (h : v.bare? = some w) : w.type = v.type.canonical := by
  induction v using bare?.induct with
  | case1 inner => cases h
  | case2 inner ih => exact ih h
  | case3 v habsent hpresent =>
    rw [bare?] at h
    · obtain rfl := Option.some.inj h
      cases v with
      | absent inner => exact absurd rfl (habsent inner)
      | present inner => exact absurd rfl (hpresent inner)
      | _ => rfl
    · exact habsent
    · exact hpresent

theorem bare?_eq_self {v : Value} (h : v.type.layers = 0) : v.bare? = some v := by
  cases v with
  | absent inner => cases h
  | present inner => cases h
  | _ => rfl

end Value

namespace ValueType

variable {t : ValueType} {v inner : Value}

theorem enter_eq_bare? {name : String} (ht : t.recordName? = some name)
    (hlayers : t.type.layers < 2) (hv : v.type = t.type) : t.enter v = v.bare? := by
  obtain ⟨hopen, hcanonical⟩ := recordName?_eq_some_iff.mp ht
  rw [canonical_of_open hopen] at hcanonical
  obtain ⟨type, closed⟩ := t
  obtain rfl : closed = false := hopen
  cases type with
  | record other =>
    have hbare : v.bare? = some v := by
      apply Value.bare?_eq_self
      rw [hv]
      rfl
    rw [hbare]
    exact Value.as?_eq_some_iff.mpr ⟨hv, rfl⟩
  | option payload =>
    have hnone : payload.layers = 0 := Nat.lt_one_iff.mp (Nat.lt_of_succ_lt_succ hlayers)
    cases v with
    | absent other => rfl
    | present content =>
      obtain rfl : content.type = payload := Ty.option.inj hv
      rw [Value.bare?, Value.bare?_eq_self hnone]
      exact Value.as?_type content
    | _ => cases hv
  | _ => cases hcanonical

/-- Under more layers what is entered is still an option. -/
theorem exists_option_of_enter (hlayers : 2 ≤ t.type.layers) (h : t.enter v = some inner) :
    ∃ u, inner.type = .option u := by
  obtain ⟨payload, htype⟩ := Ty.exists_option_of_layers (Nat.lt_of_lt_of_le Nat.two_pos hlayers)
  rw [htype, Ty.layers_option] at hlayers
  obtain ⟨type, closed⟩ := t
  obtain rfl : type = .option payload := htype
  cases closed with
  | true => cases h
  | false =>
    have hinner : inner.type = payload := Value.type_of_payload? h
    rw [hinner]
    exact Ty.exists_option_of_layers (Nat.le_of_succ_le_succ hlayers)

end ValueType

/-- A value of another type than the record of the first field has nothing along the fields. -/
theorem walk_eq_none_of_type {f : BoundField} {rest : List BoundField} {v : Value}
    (h : v.type ≠ .record f.owner) :
    ReadStep.walk ((f :: rest).map ReadStep.ofField) v = none := by
  rw [walk_eq_content, Option.map_eq_none_iff, Option.eq_none_iff_forall_ne_some]
  intro slot hslot
  obtain ⟨field, hplace, -⟩ := exists_place_of_slotAlong hslot
  exact h (BoundField.type_of_place hplace).1

namespace Schema

variable {schema : Schema} {v w : Value} {name : String}

theorem Typed.bare? (h : schema.Typed v) (hbare : v.bare? = some w) : schema.Typed w := by
  induction h with
  | absent inner => cases hbare
  | present _ ih => exact ih hbare
  | scalar content => cases hbare; exact .scalar content
  | bytes content => cases hbare; exact .bytes content
  | empty => cases hbare; exact .empty
  | holding allocation hheld => cases hbare; exact .holding allocation hheld
  | record hr hfields hall => cases hbare; exact .record hr hfields hall

theorem Instance.exists_get {r : RecordType} {f : BoundField} (hfaithful : schema.Faithful)
    (hr : schema.Declares r) (hv : schema.Instance r v) (hf : r.field? name = some f) :
    ∃ w, f.get v = some w ∧ schema.fieldAt v name = some w ∧ w.type = f.field.type.type ∧
      schema.Typed w := by
  obtain ⟨howner, hposition, hname⟩ := RecordType.field?_eq_some hf
  obtain ⟨hbound, -⟩ := hfaithful r (mem_of_record? hr) f.field (List.mem_of_getElem? hposition)
  obtain ⟨fields, rfl, hfields, -⟩ := hv.exists_fields hr
  have hlength : f.position < fields.length := by
    have hsame := congrArg List.length hfields
    rw [List.length_map, List.length_map] at hsame
    rw [hsame]
    exact (List.getElem?_eq_some_iff.mp hposition).1
  have hat : Value.field? f.owner f.position (.record r.name fields) =
      some fields[f.position] := by
    rw [howner, Value.field?, if_pos rfl, List.getElem?_eq_getElem hlength]
  have hget : f.get (.record r.name fields) = some fields[f.position] := by
    rw [BoundField.get, if_pos hbound, hat]
  refine ⟨_, hget, ?_, hv.2.get hfaithful hr hf hget⟩
  rw [← hname] at hf
  exact fieldAt_eq_some_iff.mpr ⟨f, ⟨r, hr, hf⟩, hname, hat⟩

theorem Instance.of_bare? {r : RecordType} {t : ValueType} (hr : schema.recordOf? t = some r)
    (hv : v.type = t.type) (htyped : schema.Typed v) (h : v.bare? = some w) :
    schema.Instance r w := by
  obtain ⟨name, hname, hrecord⟩ := Option.bind_eq_some_iff.mp hr
  obtain ⟨hopen, hcanonical⟩ := ValueType.recordName?_eq_some_iff.mp hname
  refine ⟨?_, htyped.bare? h⟩
  rw [Value.type_of_bare? h, hv, ← ValueType.canonical_of_open hopen, hcanonical, RecordType.type,
    name_of_record? hrecord]

/-! ### Absent containers -/

/-- One of the names leads to a value that is absent at one of its option layers. -/
def AbsentAlong (schema : Schema) (v : Value) (names : List String) : Prop :=
  ∃ outer w, outer ≠ [] ∧ outer <+: names ∧ schema.valueAt v outer = some w ∧ ¬ w.Full

@[simp] theorem absentAlong_nil : ¬ schema.AbsentAlong v [] := by
  rintro ⟨outer, w, hne, hprefix, -⟩
  exact hne (List.prefix_nil.mp hprefix)

theorem absentAlong_cons {names : List String} (h : schema.fieldAt v name = some w) :
    schema.AbsentAlong v (name :: names) ↔ ¬ w.Full ∨ schema.AbsentAlong w names := by
  have hat : ∀ outer, schema.valueAt v (name :: outer) = schema.valueAt w outer := by
    intro outer
    rw [valueAt, h]
  constructor
  · rintro ⟨outer, u, hne, hprefix, hu, habsent⟩
    cases outer with
    | nil => exact absurd rfl hne
    | cons first outer =>
      obtain ⟨rfl, hmore⟩ := List.cons_prefix_cons.mp hprefix
      rw [hat] at hu
      cases outer with
      | nil =>
        obtain rfl := Option.some.inj hu
        exact .inl habsent
      | cons next outer => exact .inr ⟨next :: outer, u, List.cons_ne_nil _ _, hmore, hu, habsent⟩
  · rintro (habsent | ⟨outer, u, -, hprefix, hu, habsent⟩)
    · exact ⟨[name], w, List.cons_ne_nil _ _, List.cons_prefix_cons.mpr ⟨rfl, List.nil_prefix⟩,
        hat [], habsent⟩
    · exact ⟨name :: outer, u, List.cons_ne_nil _ _, List.cons_prefix_cons.mpr ⟨rfl, hprefix⟩,
        (hat outer).trans hu, habsent⟩

theorem absentAlong_of_bare? {names : List String} (h : v.bare? = w.bare?) :
    schema.AbsentAlong v names ↔ schema.AbsentAlong w names := by
  have hat : ∀ outer, outer ≠ [] → schema.valueAt v outer = schema.valueAt w outer := by
    intro outer hne
    cases outer with
    | nil => exact absurd rfl hne
    | cons name rest => rw [valueAt, valueAt, fieldAt, fieldAt, h]
  unfold AbsentAlong
  apply exists_congr
  intro outer
  apply exists_congr
  intro u
  apply and_congr_right
  intro hne
  rw [hat outer hne]

/-! ### Lost paths -/

/-- Along a trail an instance is lost exactly behind a container under two option layers or at an
    absent one. -/
theorem Trail.walk_eq_none_iff {r : RecordType} {names : List String} {fields : List BoundField}
    {last : Option RecordType} (h : schema.Trail (some r) names fields last) (hne : fields ≠ [])
    (hfaithful : schema.Faithful) (hr : schema.Declares r) (hv : schema.Instance r v) :
    ReadStep.walk (fields.map ReadStep.ofField) v = none ↔
      (∃ f ∈ fields.dropLast, 2 ≤ f.field.type.type.layers) ∨
        schema.AbsentAlong v names.dropLast := by
  induction fields generalizing r names v with
  | nil => exact absurd rfl hne
  | cons f rest ih =>
    cases h with
    | @cons _ _ name names _ _ hfield hrest =>
      obtain ⟨w, hget, hat, htype, htyped⟩ := hv.exists_get hfaithful hr hfield
      generalize hreached : schema.recordOf? f.field.type = reached at hrest
      cases hrest with
      | nil =>
        have hread : ReadStep.walk [ReadStep.ofField f] v = some w := hget
        simp [hread]
      | @cons r' next second names rest _ hnext hmore =>
        obtain ⟨owner, howner, -⟩ := Option.bind_eq_some_iff.mp hreached
        rw [ReadStep.walk_cons_cons, BoundField.map_content_inner, hget, Option.bind_some,
          List.dropLast_cons_cons, List.dropLast_cons_cons, List.exists_mem_cons_iff,
          absentAlong_cons hat]
        by_cases hlayers : 2 ≤ f.field.type.type.layers
        · -- the next field is looked for in an option
          have hlost : (f.field.type.enter w).bind
              (ReadStep.walk ((next :: rest).map ReadStep.ofField)) = none := by
            rw [Option.bind_eq_none_iff]
            intro inner hinner
            obtain ⟨u, hu⟩ := ValueType.exists_option_of_enter hlayers hinner
            apply walk_eq_none_of_type
            rw [hu]
            exact Ty.noConfusion
          simp only [hlost, hlayers, true_or]
        · -- what is entered is an instance of the next record, if it is there
          rw [ValueType.enter_eq_bare? howner (Nat.lt_of_not_le hlayers) htype]
          cases hbare : w.bare? with
          | none =>
            have habsent : ¬ w.Full := by simp [Value.Full, hbare]
            simp only [Option.bind_none, habsent, not_false_eq_true, true_or, or_true]
          | some inner =>
            have hfull : w.Full := by simp [Value.Full, hbare]
            have hinner := Instance.of_bare? hreached htype htyped hbare
            have hsame : w.bare? = inner.bare? := by
              rw [hbare, Value.bare?_eq_self]
              rw [hinner.1]
              rfl
            have hbehind := ih (.cons hnext hmore) (List.cons_ne_nil _ _)
              (declares_of_recordOf? hreached) hinner
            rw [Option.bind_some, hbehind, absentAlong_of_bare? hsame]
            simp only [hlayers, hfull, not_true_eq_false, false_or]

theorem writeWith_eq_missingContainer_iff {p : WritePath} {store : Value → Value → Stored} :
    p.writeWith store v w = .missingContainer ↔ ReadPath.read ⟨p.toResolvedPath⟩ v = none := by
  rw [WritePath.read_slot, WritePath.writeWith, WritePath.storeWith, WritePath.slot_eq_slotAlong]
  cases slotAlong p.fields v with
  | none => simp [WriteOutcome.of]
  | some place => cases htaken : (store place.content w).taken <;> simp [WriteOutcome.of, htaken]

/-- On an instance a path is lost, for reading as for writing, exactly where one of its containers
    is absent or declared under more than one option layer. -/
theorem missingContainer_iff {root : RecordType} {path : FieldPath} {v : Value}
    (hfaithful : schema.Faithful) (hroot : schema.Declares root) (hv : schema.Instance root v) :
    (∀ p, schema.resolveRead root path = .ok p →
      (p.read v = none ↔ (∃ f ∈ p.containers, 2 ≤ f.field.type.type.layers) ∨
        schema.AbsentAlong v path.containers)) ∧
    ∀ p, schema.resolveWrite root path = .ok p → ∀ store w,
      (p.writeWith store v w = .missingContainer ↔
        (∃ f ∈ p.containers, 2 ≤ f.field.type.type.layers) ∨
          schema.AbsentAlong v path.containers) := by
  have hlost : ∀ p : ReadPath, schema.resolveRead root path = .ok p →
      (p.read v = none ↔ (∃ f ∈ p.containers, 2 ≤ f.field.type.type.layers) ∨
        schema.AbsentAlong v path.containers) := by
    intro p hp
    obtain ⟨⟨last, htrail⟩, -⟩ := readable_of_resolveRead hp
    have hfields : p.fields.dropLast = p.containers := List.dropLast_concat
    have hwalk := htrail.walk_eq_none_iff (by simp [ResolvedPath.fields]) hfaithful hroot hv
    rw [hfields] at hwalk
    exact hwalk
  refine ⟨hlost, ?_⟩
  intro p hp store w
  rw [writeWith_eq_missingContainer_iff]
  exact hlost _ (resolveRead_of_resolveWrite hp)

end Schema

/-! ### An envelope around a letter

On a card without a place the city is lost because the place is absent.  The letter is not: it is
there, at both layers, and its text is lost all the same. -/

namespace Sample

def unplaced : Value := .record "Card" [.absent text, .absent address.type, written ""]

theorem instance_unplaced : schema.Instance card unplaced := by
  refine ⟨rfl, .record (r := card) rfl rfl ?_⟩
  simp only [List.forall_mem_cons]
  exact ⟨.absent _, .absent _, .scalar _, by simp⟩

def cityOfPlace : ResolvedPath :=
  ⟨"Card", ⟨"place", ["city"]⟩, [⟨"Card", 1, field "place" (.option address.type)⟩],
    ⟨"Address", 0, field "city" text⟩⟩

def letter : RecordType := ⟨"Letter", [field "text" text], [], [], none⟩

def envelope : RecordType :=
  ⟨"Envelope", [field "letter" (.option (.option letter.type))], [], [], none⟩

def post : Schema := ⟨[letter, envelope]⟩

theorem faithful_post : post.Faithful := by
  simp [Schema.Faithful, RecordType.Faithful, Field.Faithful, post, letter, envelope, field,
    Ty.valueType]

def textOfLetter : ResolvedPath :=
  ⟨"Envelope", ⟨"letter", ["text"]⟩,
    [⟨"Envelope", 0, field "letter" (.option (.option letter.type))⟩],
    ⟨"Letter", 0, field "text" text⟩⟩

def posted : Value :=
  .record "Envelope" [.present (.present (.record "Letter" [written "Dear Ada"]))]

theorem instance_posted : post.Instance envelope posted := by
  refine ⟨rfl, .record (r := envelope) rfl rfl ?_⟩
  simp only [List.forall_mem_singleton]
  refine .present (.present (.record (r := letter) rfl rfl ?_))
  simp only [List.forall_mem_singleton]
  exact .scalar _

end Sample

theorem Schema.missingContainer_unplaced : Sample.schema.Faithful ∧
    Sample.schema.Declares Sample.card ∧ Sample.schema.Instance Sample.card Sample.unplaced ∧
    Sample.schema.resolveRead Sample.card ⟨"place", ["city"]⟩ = .ok ⟨Sample.cityOfPlace⟩ ∧
    Sample.schema.resolveWrite Sample.card ⟨"place", ["city"]⟩ = .ok ⟨Sample.cityOfPlace⟩ ∧
    ReadPath.read ⟨Sample.cityOfPlace⟩ Sample.unplaced = none ∧
    ∀ v, WritePath.write ⟨Sample.cityOfPlace⟩ Sample.unplaced v = .missingContainer := by
  have habsent : Sample.schema.AbsentAlong Sample.unplaced ["place"] :=
    ⟨["place"], .absent Sample.address.type, List.cons_ne_nil _ _, List.prefix_rfl, rfl, by decide⟩
  obtain ⟨hread, hwrite⟩ := @Schema.missingContainer_iff Sample.schema Sample.card
    ⟨"place", ["city"]⟩ Sample.unplaced Sample.faithful rfl Sample.instance_unplaced
  exact ⟨Sample.faithful, rfl, Sample.instance_unplaced, rfl, rfl,
    (hread _ rfl).mpr (.inr habsent), fun v => (hwrite _ rfl _ v).mpr (.inr habsent)⟩

/-- A path that is lost though every container on it is there. -/
theorem Schema.missingContainer_posted : Sample.post.Faithful ∧
    Sample.post.Declares Sample.envelope ∧
    Sample.post.Instance Sample.envelope Sample.posted ∧
    Sample.post.resolveRead Sample.envelope ⟨"letter", ["text"]⟩ = .ok ⟨Sample.textOfLetter⟩ ∧
    Sample.post.resolveWrite Sample.envelope ⟨"letter", ["text"]⟩ = .ok ⟨Sample.textOfLetter⟩ ∧
    ReadPath.read ⟨Sample.textOfLetter⟩ Sample.posted = none ∧
    (∀ v, WritePath.write ⟨Sample.textOfLetter⟩ Sample.posted v = .missingContainer) ∧
    ¬ Sample.post.AbsentAlong Sample.posted ["letter"] := by
  refine ⟨Sample.faithful_post, rfl, Sample.instance_posted, rfl, rfl, rfl, fun _ => rfl, ?_⟩
  have hletter : Sample.post.fieldAt Sample.posted "letter" =
      some (.present (.present (.record "Letter" [Sample.written "Dear Ada"]))) := rfl
  rw [Schema.absentAlong_cons hletter]
  simp [Value.Full, Value.bare?]

end RecordCopy

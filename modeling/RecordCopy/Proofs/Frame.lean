import RecordCopy.Position
import RecordCopy.Proofs.Delivery

/-!
# What a plan leaves alone

A plan writes at the paths of its instructions and nowhere else.  A position whose path
neither leads to one of them nor lies inside one holds afterwards what it held before, or
still nothing, whichever of the instructions failed and however their paths overlap.

`valueAlong` follows declared fields: bound or not, of any access, behind any option
layers, and also those that share their name with a field before them.  Looking a name up
finds the first field that has it, so `Schema.valueAt` is a special case.

What is put into a slot goes through the fields of its path.  A list of fields that is
`Parted` from these differs from them in some field before either list ends, and from there
on it lies in a part of the record that is not replaced.
-/

namespace RecordCopy

/-! ### Declared fields and what lies there -/

namespace BoundField

def site (f : BoundField) : String × Nat := (f.owner, f.position)

/-- What a value stores for a field, behind option layers and bound or not. -/
def storedIn (f : BoundField) (v : Value) : Option Value :=
  v.bare?.bind (Value.field? f.owner f.position)

theorem storedIn_of_place {f g : BoundField} {v : Value} {p : Place} (h : f.place v = some p)
    (hsite : f.site = g.site) : g.storedIn v = some p.content := by
  obtain ⟨-, fields, old, rfl, hold, rfl⟩ := place_eq_some h
  obtain ⟨howner, hposition⟩ := Prod.mk.inj hsite
  simp only [storedIn, Value.bare?, Option.bind_some, Value.field?, howner, if_true]
  rw [← hposition]
  exact hold

theorem storedIn_replace_of_ne {f g : BoundField} {v : Value} {p : Place}
    (h : f.place v = some p) (hsite : f.site ≠ g.site) (w : Value) :
    g.storedIn (p.replace w) = g.storedIn v := by
  obtain ⟨-, fields, old, rfl, -, rfl⟩ := place_eq_some h
  simp only [storedIn, Value.bare?, Option.bind_some, Value.field?]
  by_cases howner : f.owner = g.owner
  · have hposition : f.position ≠ g.position := fun hp => hsite (Prod.ext howner hp)
    simp only [howner, if_true, List.getElem?_set_ne hposition]
  · simp only [howner, if_false]

end BoundField

def valueAlong : List BoundField → Value → Option Value
  | [], v => some v
  | f :: rest, v => (f.storedIn v).bind (valueAlong rest)

theorem valueAlong_of_bare? {v w : Value} (h : v.bare? = w.bare?) {fields : List BoundField}
    (hfields : fields ≠ []) : valueAlong fields v = valueAlong fields w := by
  cases fields with
  | nil => exact absurd rfl hfields
  | cons f rest => simp only [valueAlong, BoundField.storedIn, h]

/-- Entering a container takes off option layers and nothing else. -/
theorem ValueType.bare?_of_enterPlace {t : ValueType} {v : Value} {held : Place}
    (h : t.enterPlace v = some held) :
    v.bare? = held.content.bare? ∧ ∀ w, (held.replace w).bare? = w.bare? := by
  unfold enterPlace at h
  split at h
  · obtain ⟨u, hu, rfl⟩ := Option.map_eq_some_iff.mp h
    obtain ⟨-, rfl⟩ := Value.as?_eq_some_iff.mp hu
    exact ⟨rfl, fun _ => rfl⟩
  · cases v with
    | present inner =>
      obtain ⟨u, hu, rfl⟩ := Option.map_eq_some_iff.mp h
      obtain ⟨-, rfl⟩ := Value.as?_eq_some_iff.mp hu
      exact ⟨rfl, fun _ => rfl⟩
    | _ => cases h
  all_goals cases h

/-! ### Fields that part -/

/-- Two lists of fields that differ in a field before either of them ends. -/
inductive Parted : List BoundField → List BoundField → Prop where
  | here {f g : BoundField} {fs gs : List BoundField} :
    f.site ≠ g.site → Parted (f :: fs) (g :: gs)
  | there {f g : BoundField} {fs gs : List BoundField} :
    f.site = g.site → Parted fs gs → Parted (f :: fs) (g :: gs)

theorem Parted.ne_nil {fs gs : List BoundField} (h : Parted fs gs) : fs ≠ [] ∧ gs ≠ [] := by
  cases h <;> simp

theorem valueAlong_replace_of_parted {fs gs : List BoundField} (hparted : Parted fs gs)
    {v : Value} {p : Place} (h : slotAlong fs v = some p) (w : Value) :
    valueAlong gs (p.replace w) = valueAlong gs v := by
  induction hparted generalizing v p with
  | @here f g fs gs hsite =>
    obtain ⟨field, hplace, hreplace⟩ := exists_place_of_slotAlong h
    obtain ⟨content, hcontent⟩ := hreplace w
    rw [hcontent]
    simp only [valueAlong, BoundField.storedIn_replace_of_ne hplace hsite]
  | @there f g fs gs hsite hrest ih =>
    cases fs with
    | nil => exact absurd rfl hrest.ne_nil.1
    | cons next rest =>
      obtain ⟨inner, slot, hinner, hslot, rfl⟩ := slotAlong_cons_eq_some_iff.mp h
      obtain ⟨field, held, hplace, hheld, rfl⟩ := BoundField.inner_eq_some_iff.mp hinner
      obtain ⟨hbefore, hafter⟩ := ValueType.bare?_of_enterPlace hheld
      have hnow : g.storedIn (field.replace (held.replace (slot.replace w))) =
          some (held.replace (slot.replace w)) :=
        BoundField.storedIn_of_place (BoundField.place_replace hplace _) hsite
      have hsame : valueAlong gs (held.replace (slot.replace w)) = valueAlong gs field.content := by
        rw [valueAlong_of_bare? (hafter _) hrest.ne_nil.2, ih hslot,
          valueAlong_of_bare? hbefore hrest.ne_nil.2]
        rfl
      change (g.storedIn (field.replace (held.replace (slot.replace w)))).bind _ =
        (g.storedIn v).bind _
      rw [hnow, BoundField.storedIn_of_place hplace hsite]
      exact hsame

namespace Schema

variable {schema : Schema}

/-- The schema declares the field where it is said to stand. -/
def Has (schema : Schema) (f : BoundField) : Prop :=
  ∃ r, schema.Declares r ∧ f.owner = r.name ∧ r.fields[f.position]? = some f.field

/-- The field is the one that its name stands for. -/
def Finds (schema : Schema) (f : BoundField) : Prop :=
  ∃ r, schema.Declares r ∧ r.field? f.field.name = some f

theorem Finds.has {f : BoundField} (h : schema.Finds f) : schema.Has f := by
  obtain ⟨r, hr, hfield⟩ := h
  obtain ⟨howner, hposition, -⟩ := RecordType.field?_eq_some hfield
  exact ⟨r, hr, howner, hposition⟩

theorem Has.field_eq {f g : BoundField} (hf : schema.Has f) (hg : schema.Has g)
    (hsite : f.site = g.site) : f.field = g.field := by
  obtain ⟨r, hr, howner, hposition⟩ := hf
  obtain ⟨r', hr', howner', hposition'⟩ := hg
  obtain ⟨hsameOwner, hsamePosition⟩ := Prod.mk.inj hsite
  have hname : r.name = r'.name := by rw [← howner, ← howner', hsameOwner]
  have hrecord : r = r' := hr.eq_of_name hr' hname
  subst hrecord
  rw [hsamePosition, hposition'] at hposition
  exact (Option.some.inj hposition).symm

/-- A trail parts from declared fields when neither list of names leads to the other. -/
theorem Trail.parted {owner last : Option RecordType} {names : List String}
    {fs gs : List BoundField} (h : schema.Trail owner names fs last)
    (howner : ∀ r, owner = some r → schema.Declares r) (hgs : ∀ g ∈ gs, schema.Has g)
    (hnot : ¬ names <+: gs.map (·.field.name)) (hnot' : ¬ gs.map (·.field.name) <+: names) :
    Parted fs gs := by
  induction h generalizing gs with
  | nil owner => exact absurd List.nil_prefix hnot
  | @cons r f name names fields last hfield _ ih =>
    cases gs with
    | nil => exact absurd List.nil_prefix hnot'
    | cons g gs =>
      obtain ⟨hg, hrest⟩ := List.forall_mem_cons.mp hgs
      by_cases hsite : f.site = g.site
      · have hf : schema.Has f := by
          obtain ⟨hof, hposition, -⟩ := RecordType.field?_eq_some hfield
          exact ⟨r, howner r rfl, hof, hposition⟩
        have hname : g.field.name = name := by
          rw [← hf.field_eq hg hsite]
          exact (RecordType.field?_eq_some hfield).2.2
        rw [List.map_cons, hname] at hnot hnot'
        refine .there hsite (ih ?_ hrest ?_ ?_)
        · intro r' hr'
          exact declares_of_recordOf? hr'
        · exact fun hp => hnot (List.cons_prefix_cons.mpr ⟨rfl, hp⟩)
        · exact fun hp => hnot' (List.cons_prefix_cons.mpr ⟨rfl, hp⟩)
      · exact .here hsite

/-! ### Names -/

theorem fieldAt_eq_some_iff {v w : Value} {name : String} : schema.fieldAt v name = some w ↔
    ∃ f, schema.Finds f ∧ f.field.name = name ∧ f.storedIn v = some w := by
  unfold fieldAt
  constructor
  · intro h
    split at h
    · rename_i record fields hbare
      split at h
      · rename_i f hf
        obtain ⟨r, hr, hfield⟩ := Option.bind_eq_some_iff.mp hf
        obtain ⟨howner, -, hname⟩ := RecordType.field?_eq_some hfield
        have hrecord : r.name = record := name_of_record? hr
        refine ⟨f, ⟨r, ?_, ?_⟩, hname, ?_⟩
        · rw [Declares, hrecord, hr]
        · rw [hname, hfield]
        · simp only [BoundField.storedIn, hbare, Option.bind_some, Value.field?, howner, hrecord,
            if_true, h]
      · cases h
    · cases h
  · rintro ⟨f, ⟨r, hr, hfield⟩, rfl, hstored⟩
    obtain ⟨howner, -, -⟩ := RecordType.field?_eq_some hfield
    obtain ⟨bare, hbare, hat⟩ := Option.bind_eq_some_iff.mp hstored
    cases bare with
    | record record fields =>
      simp only [Value.field?, howner] at hat
      split at hat
      · rename_i hname
        have hfound : (schema.record? record).bind (·.field? f.field.name) = some f := by
          rw [hname, hr]
          exact hfield
        simp only [hbare, hfound, hat]
      · cases hat
    | _ => cases hat

/-- Names lead where the fields lead that they stand for. -/
theorem valueAt_eq_some_iff {v w : Value} {names : List String} :
    schema.valueAt v names = some w ↔ ∃ fields : List BoundField, (∀ f ∈ fields, schema.Finds f) ∧
      fields.map (·.field.name) = names ∧ valueAlong fields v = some w := by
  induction names generalizing v with
  | nil =>
    simp only [valueAt, List.map_eq_nil_iff]
    constructor
    · intro h
      exact ⟨[], by simp, rfl, h⟩
    · rintro ⟨fields, -, rfl, h⟩
      exact h
  | cons name names ih =>
    rw [valueAt]
    constructor
    · intro h
      split at h
      · rename_i inner hinner
        obtain ⟨f, hf, hname, hstored⟩ := fieldAt_eq_some_iff.mp hinner
        obtain ⟨fields, hfields, hnames, hvalue⟩ := ih.mp h
        refine ⟨f :: fields, List.forall_mem_cons.mpr ⟨hf, hfields⟩, ?_, ?_⟩
        · rw [List.map_cons, hname, hnames]
        · rw [valueAlong, hstored, Option.bind_some, hvalue]
      · cases h
    · rintro ⟨fields, hfields, hnames, hvalue⟩
      cases fields with
      | nil => cases hnames
      | cons f fields =>
        obtain ⟨hf, hrest⟩ := List.forall_mem_cons.mp hfields
        obtain ⟨hname, hnames⟩ := List.cons.inj hnames
        obtain ⟨inner, hstored, hvalue⟩ := Option.bind_eq_some_iff.mp hvalue
        rw [fieldAt_eq_some_iff.mpr ⟨f, hf, hname, hstored⟩]
        exact ih.mpr ⟨fields, hrest, hnames, hvalue⟩

/-! ### Plans -/

theorem valueAlong_runAll_copy (schema : Schema) (source : Value) {instructions : List Instruction}
    {fields : List BoundField} (hparted : ∀ i ∈ instructions, Parted i.destination.fields fields)
    (target : Target) :
    valueAlong fields (Composition.runAll schema.copy source instructions target).1.value =
      valueAlong fields target.value := by
  apply runAll_copy_preserves (valueAlong fields)
  intro i hi v place hplace content
  exact valueAlong_replace_of_parted (hparted i hi) hplace content

/-- Whether a plan fails or not, a position whose path is unrelated to the paths it writes at
    keeps what lies there, or stays empty.  This holds of the position that a path of names
    leads to and of every position at the end of declared fields with these names. -/
theorem execute_frame {s d : RecordType} {instructions : List Instruction}
    (hd : schema.Declares d)
    (hinto : ∀ i ∈ instructions, schema.resolveWrite d i.destination.path = .ok i.destination)
    (source : Value) (target : Target) (path : FieldPath)
    (hunrelated : ∀ i ∈ instructions, i.destination.path.Unrelated path) :
    let after := (schema.execute (Plan.compile s d instructions) source target).1.value
    schema.valueAt after path.segments = schema.valueAt target.value path.segments ∧
    ∀ fields : List BoundField, (∀ f ∈ fields, schema.Has f) →
      fields.map (·.field.name) = path.segments →
      valueAlong fields after = valueAlong fields target.value := by
  intro after
  have hfields : ∀ fields : List BoundField, (∀ f ∈ fields, schema.Has f) →
      fields.map (·.field.name) = path.segments →
      valueAlong fields after = valueAlong fields target.value := by
    intro fields hhas hnames
    change valueAlong fields (schema.execute _ source target).1.value = _
    rw [execute_compile]
    apply valueAlong_runAll_copy
    intro i hi
    obtain ⟨-, -, ⟨_, htrail⟩, -⟩ :=
      resolveFor_eq_ok_iff.mp (resolveWrite_eq_ok_iff.mp (hinto i hi))
    have hd' : ∀ r, some d = some r → schema.Declares r := by
      rintro r ⟨⟩
      exact hd
    obtain ⟨hnot, hnot'⟩ := hunrelated i hi
    apply htrail.parted hd' hhas
    · rw [hnames]
      exact hnot
    · rw [hnames]
      exact hnot'
  refine ⟨?_, hfields⟩
  -- the fields that names stand for are declared ones, before the run and after it
  ext w
  rw [valueAt_eq_some_iff, valueAt_eq_some_iff]
  apply exists_congr
  intro fields
  apply and_congr_right
  intro hfinds
  apply and_congr_right
  intro hnames
  rw [hfields fields (fun f hf => (hfinds f hf).has) hnames]

end Schema

/-! ### A chart for a patient

The ward is written twice, inside the place and as a whole.  The first write finds no place
to go to and fails; the hidden code, the seal and the title stay what they are. -/

namespace Sample

def sealedField (name : String) (access : Access) (type : Ty) : Field :=
  ⟨name, access, .sealedOf type, type, true⟩

def ward : RecordType :=
  ⟨"Ward", [field "room" text, ⟨"door", .readOnly, text.valueType, text, true⟩], [], [], none⟩

def patient : RecordType :=
  ⟨"Patient", [field "name" text, field "ward" ward.type, sealedField "code" .hidden ward.type,
    ⟨"seal", .readOnly, text.valueType, text, true⟩], [], [], none⟩

def chart : RecordType :=
  ⟨"Chart", [field "title" text, field "place" (.option ward.type),
    ⟨"seal", .readOnly, text.valueType, text, true⟩, sealedField "code" .hidden ward.type,
    field "name" .wildcard],
    [⟨"place.room", [⟨patient.type, "room", some "ward"⟩]⟩,
      ⟨"title", [⟨patient.type, "name", none⟩]⟩],
    [], none⟩

def clinic : Schema := ⟨[ward, patient, chart]⟩

def admission : List Instruction :=
  [⟨⟨"Patient", ⟨"ward", ["room"]⟩, [⟨"Patient", 1, field "ward" ward.type⟩],
      ⟨"Ward", 0, field "room" text⟩⟩,
    ⟨"Chart", ⟨"place", ["room"]⟩, [⟨"Chart", 1, field "place" (.option ward.type)⟩],
      ⟨"Ward", 0, field "room" text⟩⟩⟩,
   ⟨⟨"Patient", ⟨"ward", []⟩, [], ⟨"Patient", 1, field "ward" ward.type⟩⟩,
    ⟨"Chart", ⟨"place", []⟩, [], ⟨"Chart", 1, field "place" (.option ward.type)⟩⟩⟩,
   ⟨⟨"Patient", ⟨"name", []⟩, [], ⟨"Patient", 0, field "name" text⟩⟩,
    ⟨"Chart", ⟨"name", []⟩, [], ⟨"Chart", 4, field "name" .wildcard⟩⟩⟩]

def room (number door : String) : Value := .record "Ward" [written number, written door]

def grace : Value :=
  .record "Patient" [written "Grace", room "12" "left", room "7" "locked", written "wax"]

def emptyChart : Value :=
  .record "Chart" [written "", .absent ward.type, written "lead", room "3" "shut", .empty]

theorem admission_into_chart : ∀ i ∈ admission,
    clinic.resolveWrite chart i.destination.path = .ok i.destination := by
  simp only [admission, List.forall_mem_cons]
  exact ⟨rfl, rfl, rfl, by simp⟩

def hiddenRoom : List BoundField :=
  [⟨"Chart", 3, sealedField "code" .hidden ward.type⟩, ⟨"Ward", 0, field "room" text⟩]

theorem clinic_has_hiddenRoom : ∀ f ∈ hiddenRoom, clinic.Has f := by
  simp only [hiddenRoom, List.forall_mem_cons]
  exact ⟨⟨chart, rfl, rfl, rfl⟩, ⟨ward, rfl, rfl, rfl⟩, by simp⟩

end Sample

/-- The plan fails, and the room behind the hidden code is the one it was. -/
theorem Schema.execute_frame_sample :
    let done := Sample.clinic.execute (Plan.compile Sample.patient Sample.chart Sample.admission)
      Sample.grace ⟨Sample.emptyChart, 0⟩
    Sample.clinic.Declares Sample.chart ∧
    (∀ i ∈ Sample.admission,
      Sample.clinic.resolveWrite Sample.chart i.destination.path = .ok i.destination) ∧
    (∀ i ∈ Sample.admission, i.destination.path.Unrelated ⟨"code", ["room"]⟩) ∧
    (∀ f ∈ Sample.hiddenRoom, Sample.clinic.Has f) ∧
    (∃ report, done.2 = .error report) ∧
    Sample.clinic.valueAt done.1.value ["code", "room"] = some (Sample.written "3") ∧
    valueAlong Sample.hiddenRoom done.1.value = some (Sample.written "3") := by
  intro done
  have hunrelated : ∀ i ∈ Sample.admission, i.destination.path.Unrelated ⟨"code", ["room"]⟩ := by
    simp [Sample.admission, FieldPath.Unrelated, FieldPath.Leads, FieldPath.segments]
  have hdeclared : Sample.clinic.Declares Sample.chart := rfl
  obtain ⟨hnames, hfields⟩ := @Schema.execute_frame Sample.clinic Sample.patient Sample.chart
    Sample.admission hdeclared Sample.admission_into_chart Sample.grace ⟨Sample.emptyChart, 0⟩
    ⟨"code", ["room"]⟩ hunrelated
  have hfailed : ∃ report, done.2 = .error report := by
    change ∃ report, (Sample.clinic.execute _ _ _).2 = _
    rw [Schema.execute_compile]
    exact ⟨_, rfl⟩
  refine ⟨hdeclared, Sample.admission_into_chart, hunrelated, Sample.clinic_has_hiddenRoom,
    hfailed, hnames, ?_⟩
  exact hfields Sample.hiddenRoom Sample.clinic_has_hiddenRoom rfl

end RecordCopy

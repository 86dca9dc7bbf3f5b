import RecordCopy.Proofs.Resolution
import RecordCopy.Proofs.Run
import RecordCopy.Proofs.ShortestRoute

/-!
# A copy arrives

After a plan whose slots do not touch was executed without a failure, every slot holds
what its instruction read from the source: the value itself, the value made present, or
what the value held, as the two types say.  A later instruction can neither reach the
slot of an earlier one nor take away a container on the way to it.

The destination is any value at all.  Of the source it matters that it is well typed,
for a value of another type than declared would not be the one the types speak of.
-/

namespace RecordCopy

/-! ### What a slot accepts -/

theorem Ty.ne_option_self (t : Ty) : t ≠ .option t := by
  intro h
  have := congrArg sizeOf h
  simp at this

namespace Value

/-- Only a wildcard, under option layers or not, is asked for what it holds. -/
theorem wildcard?_eq_none {v : Value} (h : v.type.canonical ≠ .wildcard) :
    v.wildcard? = none := by
  cases v with
  | empty => exact absurd rfl h
  | holding allocation held => exact absurd rfl h
  | absent inner =>
    cases inner with
    | wildcard => exact absurd rfl h
    | _ => rfl
  | present inner =>
    cases inner with
    | empty => exact absurd rfl h
    | holding allocation held => exact absurd rfl h
    | _ => rfl
  | _ => rfl

theorem held?_eq_none {v : Value} (h : v.type.canonical ≠ .wildcard) (t : Ty) :
    v.held? t = none := by
  simp only [held?, wildcard?_eq_none h]

theorem as?_eq_none {t : Ty} {v : Value} (h : v.type ≠ t) : v.as? t = none := if_neg h

theorem type_of_payload? {t : Ty} {v w : Value} (h : v.payload? t = some w) : w.type = t := by
  cases v with
  | present inner =>
    obtain ⟨htype, rfl⟩ := as?_eq_some_iff.mp h
    exact htype
  | _ => cases h

theorem type_of_held? {t : Ty} {v w : Value} (h : v.held? t = some w) : w.type = t := by
  unfold held? at h
  split at h
  · obtain ⟨htype, rfl⟩ := as?_eq_some_iff.mp h
    exact htype
  · cases h

end Value

namespace Ty

theorem accept?_of_type (v : Value) : v.type.accept? v = some v := by
  cases v with
  | absent inner => simp [Value.type, accept?]
  | present inner => simp [Value.type, accept?]
  | empty => rfl
  | holding allocation held => rfl
  | _ => simp [Value.type, accept?, Value.as?]

/-- An option takes a value of its inner type and makes it present. -/
theorem accept?_option_of_type {v : Value} (h : v.type.canonical ≠ .wildcard) :
    (Ty.option v.type).accept? v = some (.present v) := by
  simp only [accept?, if_neg v.type.ne_option_self, Value.wildcard?_eq_none h, Value.as?_type]
  rfl

theorem type_of_accept? {t : Ty} {v w : Value} (h : t.accept? v = some w) : w.type = t := by
  -- any other type takes values only that are of this type
  have hown : ∀ {u : Ty}, (v.as? u <|> v.payload? u <|> v.held? u) = some w → w.type = u := by
    intro u hu
    simp only [Option.orElse_eq_orElse, Option.orElse_eq_or, Option.or_eq_some_iff] at hu
    rcases hu with has | ⟨-, hpayload | ⟨-, hheld⟩⟩
    · obtain ⟨htype, rfl⟩ := Value.as?_eq_some_iff.mp has
      exact htype
    · exact Value.type_of_payload? hpayload
    · exact Value.type_of_held? hheld
  cases t with
  | wildcard =>
    obtain ⟨held, -, rfl⟩ := Option.map_eq_some_iff.mp h
    cases held <;> rfl
  | option inner =>
    simp only [accept?] at h
    split at h
    · rename_i htype
      rw [← Option.some.inj h]
      exact htype
    · split at h
      · rw [← Option.some.inj h]
        rfl
      · obtain ⟨content, hcontent, rfl⟩ := Option.map_eq_some_iff.mp h
        simp only [Option.orElse_eq_orElse, Option.orElse_eq_or, Option.or_eq_some_iff] at hcontent
        rcases hcontent with has | ⟨-, hheld⟩
        · obtain ⟨htype, rfl⟩ := Value.as?_eq_some_iff.mp has
          exact congrArg Ty.option htype
        · exact congrArg Ty.option (Value.type_of_held? hheld)
  | _ => exact hown h

/-- A type without option layers takes a present option of it, and what that holds. -/
theorem eq_present_of_accept? {t : Ty} {v w : Value} (hv : v.type = .option t)
    (hoption : ∀ u, t ≠ .option u) (hwildcard : t ≠ .wildcard) (h : t.accept? v = some w) :
    v = .present w := by
  have haccept : t.accept? v = (v.as? t <|> v.payload? t <|> v.held? t) := by
    cases t with
    | wildcard => exact absurd rfl hwildcard
    | option u => exact absurd rfl (hoption u)
    | _ => rfl
  have hcanonical : v.type.canonical ≠ .wildcard := by
    rw [hv, canonical_option]
    cases t with
    | option u => exact absurd rfl (hoption u)
    | wildcard => exact absurd rfl hwildcard
    | _ => intro hc; cases hc
  have hne : v.type ≠ t := fun ht => t.ne_option_self (ht.symm.trans hv)
  rw [haccept, Value.as?_eq_none hne, Value.held?_eq_none hcanonical] at h
  cases v with
  | present inner =>
    obtain rfl : inner.type = t := by simpa [Value.type] using hv
    simpa [Value.payload?] using h
  | _ => simp [Value.payload?] at h

end Ty

/-! ### What is put into a slot -/

namespace ValueType

theorem closed_eq_false_of_kind {t : ValueType} (h : t.kind ≠ .closed) : t.closed = false := by
  obtain ⟨type, closed⟩ := t
  cases closed with
  | false => rfl
  | true => exact absurd rfl h

theorem canonical_of_record {t : ValueType} {name : String} (h : t.canonical = .record name) :
    t.type.canonical = .record name := by
  unfold canonical at h
  split at h
  · -- a closed type that is a record's has no option layers
    rw [h]
    rfl
  · exact h

theorem isOptional_of_type {t : ValueType} {inner : Ty} (h : t.closed = false)
    (ht : t.type = .option inner) : t.isOptional = true := by
  obtain ⟨type, closed⟩ := t
  cases h
  cases ht
  rfl

theorem assign_eq_some {t : ValueType} {slot v w : Value} (h : t.assign slot v = some w) :
    t.closed = false ∧ t.type.accept? v = some w := by
  rw [assign_eq] at h
  split at h
  · cases h
  · rename_i hkind
    split at h
    · exact ⟨closed_eq_false_of_kind hkind, h⟩
    · cases h

theorem assign_of_open {t : ValueType} {slot : Value} (hopen : t.kind ≠ .closed)
    (hslot : slot.type = t.type) (v : Value) : t.assign slot v = t.type.accept? v := by
  rw [assign_eq]
  split
  · rename_i hkind
    exact absurd hkind hopen
  · exact if_pos hslot

theorem type_of_assign {t : ValueType} {slot v w : Value} (h : t.assign slot v = some w) :
    w.type = slot.type := by
  rw [assign_eq] at h
  split at h
  · cases h
  · split at h
    · rename_i hslot
      rw [hslot]
      exact Ty.type_of_accept? h
    · cases h

theorem closed_eq_false_of_erase {t : ValueType} {fresh : Allocation} {v w : Value}
    (h : t.erase fresh v = some w) : t.closed = false := by
  apply closed_eq_false_of_kind
  intro hkind
  simp [erase, hkind] at h

end ValueType

theorem Step.type_of_assign {s : Step} {slot v w : Value} (h : s.assign slot v = some w) :
    w.type = slot.type := by
  rw [assign_eq] at h
  split at h
  · cases h
  · split at h
    · rename_i hslot
      rw [hslot]
      split at h
      · rw [← Option.some.inj h]
        rfl
      · rw [← Option.some.inj h]
        exact congrArg Ty.option (s.supertype.convert_type _)
    · split at h
      · rename_i hslot
        obtain ⟨u, -, rfl⟩ := Option.map_eq_some_iff.mp h
        rw [hslot]
        exact s.supertype.convert_type u
      · cases h

namespace Schema

variable {schema : Schema}

theorem type_of_put? {i : Instruction} {fresh : Allocation} {old v content : Value}
    (h : schema.put? i fresh old v = some content) : content.type = old.type := by
  unfold put? at h
  split at h
  · exact ValueType.type_of_assign h
  · obtain ⟨wildcard, -, hassign⟩ := Option.bind_eq_some_iff.mp h
    exact ValueType.type_of_assign hassign
  · obtain ⟨lead, -, hassign⟩ := Option.bind_eq_some_iff.mp h
    exact Step.type_of_assign hassign

/-- Between types of one canonical type a value is put into the slot as it is, and what
    goes into a wildcard comes out of one. -/
theorem assign_of_put? {i : Instruction} {fresh : Allocation} {old v content : Value}
    (hcanonical : i.source.terminal.type.canonical = i.destination.terminal.type.canonical)
    (h : schema.put? i fresh old v = some content) :
    i.destination.terminal.assign old v = some content ∧
      (i.destination.terminal.isWildcard = true → i.source.terminal.isWildcard = true) := by
  unfold put? transfer at h
  by_cases hdestination : i.destination.terminal.isWildcard = true
  · by_cases hsource : i.source.terminal.isWildcard = true
    · simp only [hdestination, hsource, if_true] at h
      exact ⟨h, fun _ => hsource⟩
    · simp only [hdestination, hsource, if_true] at h
      obtain ⟨wildcard, herase, hassign⟩ := Option.bind_eq_some_iff.mp h
      have hopen := ValueType.closed_eq_false_of_erase herase
      have hopen' := (ValueType.assign_eq_some hassign).1
      refine absurd ?_ hsource
      simpa only [ValueType.isWildcard, ValueType.canonical_of_open hopen,
        ValueType.canonical_of_open hopen', hcanonical] using hdestination
  · simp only [hdestination] at h
    cases hupcast : schema.upcast? i.source.terminal i.destination.terminal with
    | none =>
      simp only [hupcast] at h
      exact ⟨h, fun hd => absurd hd hdestination⟩
    | some upcast =>
      -- a conversion leads to another canonical type, which there is none of here
      obtain ⟨hne, hopen, -, name, -, hname, -⟩ := upcast?_eq_some hupcast
      refine absurd ?_ hne
      rw [ValueType.canonical_of_open hopen, hcanonical, ValueType.canonical_of_record hname, hname]

end Schema

/-- What an instruction leaves in its slot for a value read from its source, where the two
    types differ at most by one option layer. -/
structure Instruction.Delivers (i : Instruction) (read found : Value) : Prop where
  same : i.source.terminal.type = i.destination.terminal.type → found = read
  wrapped : i.destination.terminal.type = .option i.source.terminal.type →
    i.source.terminal.isWildcard = false → found = .present read
  unwrapped : i.source.terminal.type = .option i.destination.terminal.type →
    i.destination.terminal.isOptional = false → i.destination.terminal.isWildcard = false →
    read = .present found

namespace Schema

variable {schema : Schema}

theorem delivers_of_put? {i : Instruction} {fresh : Allocation} {old v content : Value}
    (hv : v.type = i.source.terminal.type) (h : schema.put? i fresh old v = some content) :
    i.Delivers v content := by
  constructor
  · intro hsame
    obtain ⟨hassign, -⟩ := assign_of_put? (congrArg Ty.canonical hsame) h
    have haccept := (ValueType.assign_eq_some hassign).2
    rw [← hsame, ← hv, Ty.accept?_of_type] at haccept
    exact (Option.some.inj haccept).symm
  · intro hwrapped hsource
    have hcanonical : i.source.terminal.type.canonical = i.destination.terminal.type.canonical := by
      rw [hwrapped, Ty.canonical_option]
    obtain ⟨hassign, hwildcard⟩ := assign_of_put? hcanonical h
    obtain ⟨hopen, haccept⟩ := ValueType.assign_eq_some hassign
    have hne : v.type.canonical ≠ .wildcard := by
      rw [hv, hcanonical, ← ValueType.canonical_of_open hopen]
      intro hc
      rw [hwildcard (decide_eq_true hc)] at hsource
      cases hsource
    rw [hwrapped, ← hv, Ty.accept?_option_of_type hne] at haccept
    exact (Option.some.inj haccept).symm
  · intro hunwrapped hoptional hwildcard
    have hcanonical : i.source.terminal.type.canonical = i.destination.terminal.type.canonical := by
      rw [hunwrapped, Ty.canonical_option]
    obtain ⟨hopen, haccept⟩ := ValueType.assign_eq_some (assign_of_put? hcanonical h).1
    refine Ty.eq_present_of_accept? (hv.trans hunwrapped) ?_ ?_ haccept
    · intro u hu
      rw [ValueType.isOptional_of_type hopen hu] at hoptional
      cases hoptional
    · intro hw
      simp [ValueType.isWildcard, ValueType.canonical_of_open hopen, hw, Ty.canonical] at hwildcard

/-! ### Plans -/

/-- An instruction made out of a path of the source and a path of the destination. -/
structure Made (schema : Schema) (s d : RecordType) (i : Instruction) : Prop where
  source : schema.resolveRead s i.source.path = .ok i.source
  destination : schema.resolveWrite d i.destination.path = .ok i.destination
  paired : schema.pair i.source i.destination = .ok i

theorem Made.apart {s d : RecordType} {i j : Instruction} (hi : schema.Made s d i)
    (hj : schema.Made s d j) (h : i.destination.path.Unrelated j.destination.path) :
    Apart i.destination.fields j.destination.fields := by
  obtain ⟨-, -, ⟨_, hi'⟩, -⟩ := resolveFor_eq_ok_iff.mp (resolveWrite_eq_ok_iff.mp hi.destination)
  obtain ⟨-, -, ⟨_, hj'⟩, -⟩ := resolveFor_eq_ok_iff.mp (resolveWrite_eq_ok_iff.mp hj.destination)
  exact hi'.apart hj' h.1 h.2

/-- Instructions with slots that do not touch, all of them carried out: what each one
    put into its slot is found there in the end. -/
theorem runAll_copy_delivers {s d : RecordType} {instructions : List Instruction}
    {source : Value} (hfaithful : schema.Faithful) (hs : schema.Declares s)
    (hmade : ∀ i ∈ instructions, schema.Made s d i)
    (hunrelated : instructions.Pairwise fun i j =>
      i.destination.path.Unrelated j.destination.path)
    (hsource : schema.Typed source) {target : Target}
    (hok : (Composition.runAll schema.copy source instructions target).2 = .ok ()) :
    ∀ i ∈ instructions, ∃ v w, i.source.read source = some v ∧
      ReadStep.walk (i.destination.fields.map ReadStep.ofField)
        (Composition.runAll schema.copy source instructions target).1.value = some w ∧
      i.Delivers v w := by
  induction instructions generalizing target with
  | nil => simp
  | cons first rest ih =>
    obtain ⟨hfirst, hrest⟩ := List.forall_mem_cons.mp hmade
    obtain ⟨hfar, hpairwise⟩ := List.pairwise_cons.mp hunrelated
    rw [Composition.runAll] at hok ⊢
    obtain ⟨hdone, hokRest⟩ := Composition.firstFailure_eq_ok_iff.mp hok
    refine List.forall_mem_cons.mpr ⟨?_, ih hrest hpairwise hokRest⟩
    rcases schema.copy_cases first source target with
      ⟨report, hcopy⟩ | ⟨v, place, content, hread, hplace, hput, hcopy⟩
    · rw [hcopy] at hdone
      cases hdone
    · have hv := (typed_read hfirst.source hfaithful hs hsource hread).1
      refine ⟨v, content, hread, ?_, delivers_of_put? hv hput⟩
      have hapart : ∀ j ∈ rest, Apart j.destination.fields first.destination.fields :=
        fun j hj => (hfirst.apart (hrest j hj) (hfar j hj)).symm
      rw [walk_runAll_copy schema source hapart, hcopy, walk_eq_content,
        slotAlong_replace hplace content]
      rfl

/-- A plan whose destination paths are unrelated delivers what it reads: if it does not
    fail, the path of every instruction can be read back, and what is found there is what
    was read from the source. -/
theorem execute_delivers {s d : RecordType} {instructions : List Instruction} {source : Value}
    {target : Target} (hfaithful : schema.Faithful) (hs : schema.Declares s)
    (hmade : ∀ i ∈ instructions, schema.Made s d i)
    (hunrelated : instructions.Pairwise fun i j =>
      i.destination.path.Unrelated j.destination.path)
    (hsource : schema.Instance s source)
    (hok : (schema.execute (Plan.compile s d instructions) source target).2 = .ok ()) :
    ∀ i ∈ instructions, ∃ (back : ReadPath) (v w : Value),
      schema.resolveRead d i.destination.path = .ok back ∧ i.source.read source = some v ∧
      back.read (schema.execute (Plan.compile s d instructions) source target).1.value = some w ∧
      i.Delivers v w := by
  intro i hi
  rw [execute_compile] at hok ⊢
  obtain ⟨v, w, hread, hfound, hdelivers⟩ :=
    runAll_copy_delivers hfaithful hs hmade hunrelated hsource.2 hok i hi
  exact ⟨_, v, w, resolveRead_of_resolveWrite (hmade i hi).destination, hread, hfound, hdelivers⟩

end Schema

/-! ### A card for a person

Three instructions: one goes through an optional container, one makes a value present,
and one takes a value out of an option. -/

namespace Sample

def text : Ty := .scalar .string

def written (content : String) : Value := .scalar (.string content)

def field (name : String) (type : Ty) : Field := ⟨name, .readWrite, type.valueType, type, true⟩

def address : RecordType := ⟨"Address", [field "city" text], [], [], none⟩

def person : RecordType :=
  ⟨"Person", [field "name" text, field "home" address.type, field "nick" (.option text)], [], [],
    none⟩

def card : RecordType :=
  ⟨"Card", [field "label" (.option text), field "place" (.option address.type),
    field "short" text], [], [], none⟩

def schema : Schema := ⟨[address, person, card]⟩

/-- The city of the home goes into the place, the name into the label, and the nickname
    into the short name. -/
def instructions : List Instruction :=
  [⟨⟨"Person", ⟨"home", ["city"]⟩, [⟨"Person", 1, field "home" address.type⟩],
      ⟨"Address", 0, field "city" text⟩⟩,
    ⟨"Card", ⟨"place", ["city"]⟩, [⟨"Card", 1, field "place" (.option address.type)⟩],
      ⟨"Address", 0, field "city" text⟩⟩⟩,
   ⟨⟨"Person", ⟨"name", []⟩, [], ⟨"Person", 0, field "name" text⟩⟩,
    ⟨"Card", ⟨"label", []⟩, [], ⟨"Card", 0, field "label" (.option text)⟩⟩⟩,
   ⟨⟨"Person", ⟨"nick", []⟩, [], ⟨"Person", 2, field "nick" (.option text)⟩⟩,
    ⟨"Card", ⟨"short", []⟩, [], ⟨"Card", 2, field "short" text⟩⟩⟩]

def ada : Value :=
  .record "Person" [written "Ada", .record "Address" [written "Turin"], .present (written "A")]

def blank : Value :=
  .record "Card" [.absent text, .present (.record "Address" [written ""]), written ""]

theorem faithful : schema.Faithful := by
  simp [Schema.Faithful, RecordType.Faithful, Field.Faithful, schema, address, person, card, field,
    Ty.valueType]

theorem made : ∀ i ∈ instructions, schema.Made person card i := by
  simp only [instructions, List.forall_mem_cons]
  refine ⟨⟨rfl, rfl, rfl⟩, ⟨rfl, rfl, rfl⟩, ⟨rfl, rfl, rfl⟩, by simp⟩

theorem unrelated : instructions.Pairwise fun i j =>
    i.destination.path.Unrelated j.destination.path := by
  simp [instructions, FieldPath.Unrelated, FieldPath.Leads, FieldPath.segments]

theorem instance_ada : schema.Instance person ada := by
  refine ⟨rfl, .record (r := person) rfl rfl ?_⟩
  simp only [List.forall_mem_cons]
  refine ⟨.scalar _, .record (r := address) rfl rfl ?_, .present (.scalar _), by simp⟩
  simp only [List.forall_mem_cons]
  exact ⟨.scalar _, by simp⟩

theorem instance_blank : schema.Instance card blank := by
  refine ⟨rfl, .record (r := card) rfl rfl ?_⟩
  simp only [List.forall_mem_cons]
  refine ⟨.absent _, .present (.record (r := address) rfl rfl ?_), .scalar _, by simp⟩
  simp only [List.forall_mem_singleton]
  exact .scalar _

theorem execute_ok :
    (schema.execute (Plan.compile person card instructions) ada ⟨blank, 0⟩).2 = .ok () := by
  rw [Schema.execute_compile]
  rfl

end Sample

/-- The three values arrive on the card. -/
theorem Schema.execute_delivers_sample : Sample.schema.Faithful ∧
    Sample.schema.Declares Sample.person ∧
    (∀ i ∈ Sample.instructions, Sample.schema.Made Sample.person Sample.card i) ∧
    (Sample.instructions.Pairwise fun i j =>
      i.destination.path.Unrelated j.destination.path) ∧
    Sample.schema.Instance Sample.person Sample.ada ∧
    (Sample.schema.execute (Plan.compile Sample.person Sample.card Sample.instructions)
      Sample.ada ⟨Sample.blank, 0⟩).2 = .ok () ∧
    ∀ i ∈ Sample.instructions, ∃ (back : ReadPath) (v w : Value),
      Sample.schema.resolveRead Sample.card i.destination.path = .ok back ∧
      i.source.read Sample.ada = some v ∧
      back.read (Sample.schema.execute (Plan.compile Sample.person Sample.card
        Sample.instructions) Sample.ada ⟨Sample.blank, 0⟩).1.value = some w ∧
      i.Delivers v w :=
  ⟨Sample.faithful, rfl, Sample.made, Sample.unrelated, Sample.instance_ada, Sample.execute_ok,
    Schema.execute_delivers Sample.faithful rfl Sample.made Sample.unrelated Sample.instance_ada
      Sample.execute_ok⟩

end RecordCopy

import RecordCopy.Proofs.LayerFit

/-!
# Copies into a supertype

A value gets into a slot for a supertype by the conversions that are declared on the way, one after
the other.  All of them but the last make a value of their own; the last one ends in the slot.

What each conversion is handed is a record of its lower type, an option holding one, or an absent
option (`Value.Gives`), and it hands on the same of its upper type.  The search leads along a route,
on which the upper type of one step is the lower type of the next, so by induction along the route
no conversion refuses what it gets.  What arrives in the slot is the record that the conversions
make of the one given, and the layer is the slot's own: an option of the supertype takes what is
absent as well, while the supertype alone refuses it.
-/

namespace RecordCopy

/-- A record of the name, by itself or in an option, or none in an option: what the value gives to
    a conversion. -/
inductive Value.Gives (name : String) : Option Value → Value → Prop where
  | record {v : Value} : v.type = .record name → Gives name (some v) v
  | present {v : Value} : v.type = .record name → Gives name (some v) (.present v)
  | absent : Gives name none (.absent (.record name))

namespace Step

variable {s : Step} {content : Option Value} {slot v : Value}

theorem source?_of_gives (h : v.Gives s.sub content) : s.source? v = some content := by
  cases h with
  | record hv => simp [source?, Value.as?, hv]
  | present hv => simp [source?, Value.as?, Value.payload?, Value.type, hv]
  | absent => simp [source?, Value.as?, Value.payload?, Value.type]

theorem convert_gives (h : v.Gives s.sub content) : ∃ w, s.convert v = some w ∧
    w.Gives s.supertype.record (content.map s.supertype.convert) := by
  have hsource := source?_of_gives h
  cases h with
  | record hv =>
    refine ⟨s.supertype.convert v, ?_, .record (s.supertype.convert_type v)⟩
    rw [convert, Value.as?, if_pos hv]
  | @present v hv =>
    refine ⟨.present (s.supertype.convert v), ?_, .present (s.supertype.convert_type v)⟩
    simp [convert, hsource, Value.as?, Value.type]
  | absent =>
    refine ⟨.absent (.record s.supertype.record), ?_, .absent⟩
    simp [convert, hsource, Value.as?, Value.type]

theorem assign_record (h : v.Gives s.sub content) (hslot : slot.type = .record s.supertype.record) :
    s.assign slot v = content.map s.supertype.convert := by
  simp [assign_eq, source?_of_gives h, hslot]

theorem assign_option (h : v.Gives s.sub content)
    (hslot : slot.type = .option (.record s.supertype.record)) : s.assign slot v =
      some ((content.map s.supertype.convert).elim (.absent (.record s.supertype.record))
        .present) := by
  cases content <;> simp [assign_eq, source?_of_gives h, hslot]

def convertAll (steps : List Step) (v : Value) : Value :=
  steps.foldl (fun w s => s.supertype.convert w) v

theorem convertAll_concat (steps : List Step) (last : Step) :
    convertAll (steps ++ [last]) = last.supertype.convert ∘ convertAll steps := by
  funext v
  rw [convertAll, List.foldl_concat]
  rfl

end Step

def Upcast.steps (u : Upcast) : List Step := u.leading ++ [u.last]

namespace Schema

variable {schema : Schema} {a c : String} {content : Option Value} {old v : Value}

/-! ### Along a route -/

theorem Route.of_ne {steps : List Step} (h : schema.Route a steps c) (hne : a ≠ c) :
    ∃ s position rest, steps = ⟨a, position, s⟩ :: rest ∧
      (schema.supertypes a)[position]? = some s ∧ schema.Route s.record rest c := by
  cases h with
  | nil => exact absurd rfl hne
  | cons hfirst hrest => exact ⟨_, _, _, rfl, hfirst, hrest⟩

/-- No conversion on a route refuses what the one before it makes. -/
theorem Route.convert_gives {steps : List Step} (h : schema.Route a steps c)
    (hv : v.Gives a content) : ∃ w, steps.foldlM (fun u s => s.convert u) v = some w ∧
      w.Gives c (content.map (Step.convertAll steps)) := by
  induction h generalizing v content with
  | nil a =>
    have hnone : content.map (Step.convertAll []) = content := congrFun Option.map_id content
    rw [hnone]
    exact ⟨v, rfl, hv⟩
  | @cons a c s position steps _ _ ih =>
    obtain ⟨u, hu, hgives⟩ := Step.convert_gives (s := ⟨a, position, s⟩) hv
    obtain ⟨w, hw, hrest⟩ := ih hgives
    refine ⟨w, ?_, ?_⟩
    · rw [List.foldlM_cons, hu]
      exact hw
    · rw [Option.map_map] at hrest
      exact hrest

/-- The last conversion of an upcast makes what the slot is for. -/
theorem Route.assign_lead {u : Upcast} (h : schema.Route a u.steps c) (hv : v.Gives a content) :
    (old.type = .record c →
      (u.lead v).bind (u.last.assign old) = content.map (Step.convertAll u.steps)) ∧
    (old.type = .option (.record c) → (u.lead v).bind (u.last.assign old) =
      some ((content.map (Step.convertAll u.steps)).elim (.absent (.record c)) .present)) := by
  obtain ⟨leading, last⟩ := u
  obtain ⟨hleading, rfl⟩ := h.of_snoc
  obtain ⟨w, hlead, hgives⟩ := hleading.convert_gives hv
  rw [Upcast.lead, hlead, Option.bind_some, Upcast.steps, Step.convertAll_concat, ← Option.map_map]
  exact ⟨Step.assign_record hgives, Step.assign_option hgives⟩

/-! ### Instructions -/

theorem exists_upcastFrom (hreach : schema.Reaches a c) (hne : c ≠ a) : ∃ u,
    schema.upcastFrom? a (.record c) = some u ∧ schema.Route a u.steps c := by
  obtain ⟨found, hfound, rfl⟩ := mem_ancestors_of_reaches hreach hne
  obtain ⟨u, hu⟩ := Option.isSome_iff_exists.mp (upcastFrom?_isSome_iff.mpr ⟨found, hfound, rfl⟩)
  obtain ⟨ancestor, hancestor, hname, hroute⟩ := upcastFrom?_eq_some hu
  refine ⟨u, hu, ?_⟩
  rw [← Ty.record.inj hname, Upcast.steps, ← hroute]
  exact (of_mem_ancestors hancestor).2.2.1

/-- From a field of a record, under option layers or not, into a slot of a proper supertype a value
    is converted along the route that the search finds. -/
theorem transfer_of_reaches {x y : ValueType} {u : Upcast} (hreach : schema.Reaches a c)
    (hne : c ≠ a) (hu : schema.upcastFrom? a (.record c) = some u) (hx : x.recordName? = some a)
    (hy : y.canonical = .record c) : schema.transfer x y = .converted u := by
  obtain ⟨-, hcanonical⟩ := ValueType.recordName?_eq_some_iff.mp hx
  have hother : x.canonical ≠ y.canonical := by
    rw [hcanonical, hy]
    intro hsame
    exact hne (Ty.record.inj hsame).symm
  have hwild := ValueType.isWildcard_of_record hy
  cases hr : schema.record? a with
  | none => exact absurd (hreach.eq_of_undeclared hr).symm hne
  | some r =>
    have hname := name_of_record? hr
    have hupcast : schema.upcast? x y = some u := by
      rw [upcast?, if_neg hother, recordOf?, hx, Option.bind_some, hr, Option.bind_some, hname, hy]
      exact hu
    simp only [transfer, hwild, hupcast]
    rfl

theorem put?_of_gives {i : Instruction} {u : Upcast} {fresh : Allocation}
    (hreach : schema.Reaches a c) (hne : c ≠ a) (hu : schema.upcastFrom? a (.record c) = some u)
    (hroute : schema.Route a u.steps c) (hsource : i.source.terminal.recordName? = some a)
    (hold : old.type = i.destination.terminal.type) (hv : v.Gives a content) :
    (i.destination.terminal = (Ty.record c).valueType →
      schema.put? i fresh old v = content.map (Step.convertAll u.steps)) ∧
    (i.destination.terminal = (Ty.option (.record c)).valueType → schema.put? i fresh old v =
      some ((content.map (Step.convertAll u.steps)).elim (.absent (.record c)) .present)) := by
  have hput : i.destination.terminal.canonical = .record c →
      schema.put? i fresh old v = (u.lead v).bind (u.last.assign old) := by
    intro hc
    rw [put?, transfer_of_reaches hreach hne hu hsource hc]
  obtain ⟨hrecord, hoption⟩ := @Route.assign_lead schema a c content old v u hroute hv
  constructor
  · intro hterminal
    rw [hterminal] at hput hold
    rw [hput rfl, hrecord hold]
  · intro hterminal
    rw [hterminal] at hput hold
    rw [hput rfl, hoption hold]

/-- The instruction succeeds with the given value in its slot, where it is read again, and with the
    rest of the destination as it was. -/
def Puts (schema : Schema) (i : Instruction) (source : Value) (target : Target) (w : Value) :
    Prop :=
  ∃ place, i.destination.slot target.value = some place ∧
    schema.copy i source target = (⟨place.replace w, target.fresh + 1⟩, .ok ()) ∧
    ReadPath.read ⟨i.destination.toResolvedPath⟩ (place.replace w) = some w

theorem puts_of_put? {i : Instruction} {source w : Value} {target : Target} {place : Place}
    (hread : i.source.read source = some v)
    (hplace : slotAlong i.destination.fields target.value = some place)
    (hput : schema.put? i target.fresh place.content v = some w) :
    schema.Puts i source target w := by
  refine ⟨place, ?_, schema.copy_eq_of_put? target hread hplace hput, ?_⟩
  · rw [WritePath.slot_eq_slotAlong, hplace]
  · rw [WritePath.read_slot, slotAlong_replace hplace]
    rfl

/-- Into a slot for a proper supertype a copy puts what the declared conversions make of the record,
    each of them applied to what the one before it made, and present where the slot is for an
    option.  An absent record leaves an option absent, and does not go into anything else. -/
theorem copy_converts {s d : RecordType} {i : Instruction} {source : Value} {target : Target}
    (hfaithful : schema.Faithful) (hd : schema.Declares d) (hmade : schema.Made s d i)
    (hinto : schema.Instance d target.value) (hreach : schema.Reaches a c) (hne : c ≠ a)
    (hsource : i.source.terminal = (Ty.record a).valueType ∨
      i.source.terminal = (Ty.option (.record a)).valueType)
    (hslot : (i.destination.slot target.value).isSome = true) :
    ∃ u, schema.upcastFrom? a (.record c) = some u ∧ schema.Route a u.steps c ∧
      (∀ v, v.type = .record a →
        i.source.read source = some v ∨ i.source.read source = some (.present v) →
        (i.destination.terminal = (Ty.record c).valueType →
          schema.Puts i source target (Step.convertAll u.steps v)) ∧
        (i.destination.terminal = (Ty.option (.record c)).valueType →
          schema.Puts i source target (.present (Step.convertAll u.steps v)))) ∧
      (i.source.read source = some (.absent (.record a)) →
        (i.destination.terminal = (Ty.option (.record c)).valueType →
          schema.Puts i source target (.absent (.record c))) ∧
        (i.destination.terminal = (Ty.record c).valueType →
          schema.copy i source target = (target, .error i.unassignable))) := by
  obtain ⟨u, hu, hroute⟩ := exists_upcastFrom hreach hne
  obtain ⟨place, hplace⟩ := Option.isSome_iff_exists.mp hslot
  rw [WritePath.slot_eq_slotAlong] at hplace
  have hold := type_of_slot hmade.destination hfaithful hd hinto hplace
  have hname : i.source.terminal.recordName? = some a := by
    rcases hsource with hsource | hsource <;> rw [hsource] <;> rfl
  refine ⟨u, hu, hroute, ?_, ?_⟩
  · intro v hv hread
    have hgiven : ∃ w, i.source.read source = some w ∧ w.Gives a (some v) := by
      rcases hread with hread | hread
      · exact ⟨v, hread, .record hv⟩
      · exact ⟨.present v, hread, .present hv⟩
    obtain ⟨w, hread, hgives⟩ := hgiven
    obtain ⟨hrecord, hoption⟩ := put?_of_gives hreach hne hu hroute hname hold hgives
    constructor
    · intro hterminal
      exact puts_of_put? hread hplace (hrecord hterminal)
    · intro hterminal
      exact puts_of_put? hread hplace (hoption hterminal)
  · intro hread
    obtain ⟨hrecord, hoption⟩ := put?_of_gives hreach hne hu hroute hname hold .absent
    constructor
    · intro hterminal
      exact puts_of_put? hread hplace (hoption hterminal)
    · intro hterminal
      exact copy_of_put?_eq_none hread hplace (hrecord hterminal)

end Schema

/-! ### A puppy for the shelter

A puppy is a dog, and a dog is an animal.  Each conversion leaves out what the next type does not
know, so of the puppy only its name arrives. -/

namespace Sample

def keeping (count : Nat) (record : String) : Supertype :=
  ⟨record, fun
    | .record _ fields => .record record (fields.take count)
    | _ => .record record [], fun v => by cases v <;> rfl⟩

def animal : RecordType := ⟨"Animal", [field "name" text], [], [], none⟩

def dog : RecordType :=
  ⟨"Dog", [field "name" text, field "breed" text], [], [keeping 1 "Animal"], none⟩

def puppy : RecordType :=
  ⟨"Puppy", [field "name" text, field "breed" text, field "litter" text], [], [keeping 2 "Dog"],
    none⟩

def kennel : RecordType := ⟨"Kennel", [field "rescue" (.option puppy.type)], [], [], none⟩

def shelter : RecordType := ⟨"Shelter", [field "pet" animal.type], [], [], none⟩

def shelters : Schema := ⟨[animal, dog, puppy, kennel, shelter]⟩

theorem faithful_shelters : shelters.Faithful := by
  simp [Schema.Faithful, RecordType.Faithful, Field.Faithful, shelters, animal, dog, puppy, kennel,
    shelter, field, Ty.valueType]

theorem puppy_reaches_animal : shelters.Reaches "Puppy" "Animal" :=
  ⟨[⟨"Puppy", 0, keeping 2 "Dog"⟩, ⟨"Dog", 0, keeping 1 "Animal"⟩],
    .cons rfl (.cons rfl (.nil _))⟩

def adoption : Instruction :=
  ⟨(pathTo "Kennel" 0 (field "rescue" (.option puppy.type))).back,
    pathTo "Shelter" 0 (field "pet" animal.type)⟩

theorem made_adoption : shelters.Made kennel shelter adoption := by
  refine ⟨rfl, rfl, if_pos (Schema.compatible_iff.mpr ?_)⟩
  exact .inr (.inr (.inr (.inl ⟨rfl, .inr ⟨_, _, rfl, rfl, puppy_reaches_animal⟩⟩)))

def rex : Value := .record "Puppy" [written "Rex", written "Collie", written "B"]

def lodged : Value := .record "Kennel" [.present rex]

def shelterFor (pet : Value) : Value := .record "Shelter" [pet]

def nameless : Value := .record "Animal" [written ""]

theorem instance_shelter : shelters.Instance shelter (shelterFor nameless) := by
  refine ⟨rfl, .record (r := shelter) rfl rfl ?_⟩
  simp only [List.forall_mem_singleton]
  refine .record (r := animal) rfl rfl ?_
  simp only [List.forall_mem_singleton]
  exact .scalar _

/-- There is one route from puppies to animals. -/
theorem convertAll_rex {steps : List Step} (h : shelters.Route "Puppy" steps "Animal") :
    Step.convertAll steps rex = .record "Animal" [written "Rex"] := by
  obtain ⟨s, position, rest, rfl, hfirst, hrest⟩ := h.of_ne (by decide)
  obtain rfl : s = keeping 2 "Dog" := List.mem_singleton.mp (List.mem_of_getElem? hfirst)
  obtain ⟨s, position, rest, rfl, hsecond, hrest⟩ := hrest.of_ne (by decide)
  obtain rfl : s = keeping 1 "Animal" := List.mem_singleton.mp (List.mem_of_getElem? hsecond)
  cases hrest with
  | nil => rfl
  | cons hthird _ => exact absurd (List.mem_of_getElem? hthird) List.not_mem_nil

end Sample

theorem Schema.copy_converts_adoption : Sample.shelters.Faithful ∧
    Sample.shelters.Declares Sample.shelter ∧
    Sample.shelters.Made Sample.kennel Sample.shelter Sample.adoption ∧
    Sample.shelters.Instance Sample.shelter (Sample.shelterFor Sample.nameless) ∧
    Sample.shelters.Reaches "Puppy" "Animal" ∧
    Sample.adoption.source.read Sample.lodged = some (.present Sample.rex) ∧
    Sample.shelters.Puts Sample.adoption Sample.lodged ⟨Sample.shelterFor Sample.nameless, 0⟩
      (.record "Animal" [Sample.written "Rex"]) := by
  have hdeclared : Sample.shelters.Declares Sample.shelter := rfl
  have hread : Sample.adoption.source.read Sample.lodged = some (.present Sample.rex) := rfl
  obtain ⟨u, -, hroute, hgiven, -⟩ := @Schema.copy_converts Sample.shelters "Puppy" "Animal"
    Sample.kennel Sample.shelter Sample.adoption Sample.lodged
    ⟨Sample.shelterFor Sample.nameless, 0⟩ Sample.faithful_shelters hdeclared Sample.made_adoption
    Sample.instance_shelter Sample.puppy_reaches_animal (by decide) (.inr rfl) rfl
  obtain ⟨hputs, -⟩ := hgiven Sample.rex rfl (.inr hread)
  have harrives := hputs rfl
  rw [Sample.convertAll_rex hroute] at harrives
  exact ⟨Sample.faithful_shelters, hdeclared, Sample.made_adoption, Sample.instance_shelter,
    Sample.puppy_reaches_animal, hread, harrives⟩

end RecordCopy

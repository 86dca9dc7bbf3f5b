import RecordCopy.Proofs.SupertypeCopy

/-!
# Copies into a subtype

Two records are compatible when either is a supertype of the other, so an instruction may be made
that leads from a record to one of its subtypes.  It is in the plan, and it cannot do anything.

There is no conversion downwards, so the value goes into the slot as it is.  But outside wildcards a
slot only takes what is of its own canonical type, whatever the option layers are: of a record of
another name it takes nothing, and not even its absence.
-/

namespace RecordCopy

/-! ### What a slot takes -/

/-- Outside wildcards a slot takes nothing but what is of its canonical type. -/
theorem Ty.canonical_of_accept? {t : Ty} {v w : Value} (h : t.accept? v = some w)
    (hv : v.type.canonical ≠ .wildcard) (ht : t.canonical ≠ .wildcard) :
    v.type.canonical = t.canonical := by
  have hown : ∀ {u : Ty}, (v.as? u <|> v.payload? u <|> v.held? u) = some w →
      v.type.canonical = u.canonical := by
    intro u hu
    rw [Value.held?_eq_none hv] at hu
    simp only [Option.orElse_eq_orElse, Option.orElse_eq_or, Option.or_none,
      Option.or_eq_some_iff] at hu
    rcases hu with has | ⟨-, hpayload⟩
    · obtain ⟨htype, -⟩ := Value.as?_eq_some_iff.mp has
      rw [htype]
    · cases v with
      | present inner =>
        obtain ⟨htype, -⟩ := Value.as?_eq_some_iff.mp hpayload
        rw [Value.type, canonical_option, htype]
      | _ => cases hpayload
  cases t with
  | wildcard => exact absurd rfl ht
  | option inner =>
    simp only [accept?, Value.wildcard?_eq_none hv, Value.held?_eq_none hv] at h
    split at h
    · rename_i htype
      rw [htype]
    · obtain ⟨content, hcontent, -⟩ := Option.map_eq_some_iff.mp h
      simp only [Option.orElse_eq_orElse, Option.orElse_eq_or, Option.or_none] at hcontent
      obtain ⟨htype, -⟩ := Value.as?_eq_some_iff.mp hcontent
      rw [htype, canonical_option]
  | _ => exact hown h

/-! ### Instructions that narrow -/

/-- The instruction leads from a record to a proper subtype of it: the destination's record reaches
    the source's, and not the other way round. -/
def Instruction.Narrows (schema : Schema) (i : Instruction) : Prop :=
  ∃ a c, i.source.terminal.canonical = .record a ∧ i.destination.terminal.canonical = .record c ∧
    schema.Reaches c a ∧ ¬ schema.Reaches a c

namespace Schema

variable {schema : Schema} {s d : RecordType} {i : Instruction} {source : Value} {target : Target}

theorem put?_of_narrows {v : Value} (h : i.Narrows schema)
    (hv : v.type = i.source.terminal.type) (fresh : Allocation) (old : Value) :
    schema.put? i fresh old v = none := by
  obtain ⟨a, c, ha, hc, -, hnot⟩ := h
  have hwild := ValueType.isWildcard_of_record hc
  have hupcast : schema.upcast? i.source.terminal i.destination.terminal = none := by
    rw [Option.eq_none_iff_forall_ne_some]
    intro u hu
    obtain ⟨-, -, m, n, hm, hn, hroute⟩ := upcast?_eq_some hu
    obtain rfl := Ty.record.inj (ha.symm.trans hm)
    obtain rfl := Ty.record.inj (hc.symm.trans hn)
    exact hnot ⟨_, hroute⟩
  -- nothing leads down, so the value goes to the slot as it is
  have hput : schema.put? i fresh old v = i.destination.terminal.assign old v := by
    simp only [put?, transfer, hwild, hupcast]
    rfl
  rw [hput, Option.eq_none_iff_forall_ne_some]
  intro w hw
  obtain ⟨-, haccept⟩ := ValueType.assign_eq_some hw
  have hsource : v.type.canonical = .record a := by
    rw [hv]
    exact ValueType.canonical_of_record ha
  have hdestination := ValueType.canonical_of_record hc
  have hsame := Ty.canonical_of_accept? haccept (by simp [hsource]) (by simp [hdestination])
  rw [hsource, hdestination] at hsame
  obtain rfl := Ty.record.inj hsame
  exact hnot ⟨[], .nil a⟩

/-- Whatever comes of it, an instruction that narrows leaves the destination alone. -/
theorem copy_fst_of_narrows (hfaithful : schema.Faithful) (hs : schema.Declares s)
    (hmade : schema.Made s d i) (h : i.Narrows schema) (hfrom : schema.Instance s source)
    (target : Target) : (schema.copy i source target).1 = target := by
  rcases schema.copy_cases i source target with
    ⟨report, hcopy⟩ | ⟨v, place, content, hread, -, hput, -⟩
  · rw [hcopy]
  · have hv := (typed_read hmade.source hfaithful hs hfrom.2 hread).1
    rw [put?_of_narrows h hv] at hput
    cases hput

/-- An instruction that narrows never writes: where it finds its value and its slot, the value is
    unassignable, also as an absent one, and under however many option layers on either side. -/
theorem copy_narrowing (hfaithful : schema.Faithful) (hs : schema.Declares s)
    (hmade : schema.Made s d i) (hnarrows : i.Narrows schema) (hfrom : schema.Instance s source) :
    (schema.copy i source target).1 = target ∧
      ∀ v, i.source.read source = some v → (i.destination.slot target.value).isSome = true →
        schema.copy i source target = (target, .error i.unassignable) := by
  refine ⟨copy_fst_of_narrows hfaithful hs hmade hnarrows hfrom target, ?_⟩
  intro v hread hslot
  obtain ⟨place, hplace⟩ := Option.isSome_iff_exists.mp hslot
  rw [WritePath.slot_eq_slotAlong] at hplace
  have hv := (typed_read hmade.source hfaithful hs hfrom.2 hread).1
  exact copy_of_put?_eq_none hread hplace (put?_of_narrows hnarrows hv _ _)

end Schema

/-! ### A puppy wanted

The household may have any animal, and the kennel only takes puppies.  There is no animal in the
household; not even that can be said to the kennel, which keeps the puppy it has. -/

namespace Sample

def household : RecordType := ⟨"Household", [field "pet" (.option animal.type)], [], [], none⟩

def households : Schema := ⟨[animal, dog, puppy, kennel, household]⟩

theorem faithful_households : households.Faithful := by
  simp [Schema.Faithful, RecordType.Faithful, Field.Faithful, households, animal, dog, puppy,
    kennel, household, field, Ty.valueType]

def surrender : Instruction :=
  ⟨(pathTo "Household" 0 (field "pet" (.option animal.type))).back,
    pathTo "Kennel" 0 (field "rescue" (.option puppy.type))⟩

theorem narrows_surrender : surrender.Narrows households := by
  refine ⟨"Animal", "Puppy", rfl, rfl, ?_, ?_⟩
  · exact ⟨[⟨"Puppy", 0, keeping 2 "Dog"⟩, ⟨"Dog", 0, keeping 1 "Animal"⟩],
      .cons rfl (.cons rfl (.nil _))⟩
  · rintro ⟨steps, hroute⟩
    obtain ⟨s, position, rest, -, hfirst, -⟩ := hroute.of_ne (by decide)
    exact absurd (List.mem_of_getElem? hfirst) List.not_mem_nil

theorem made_surrender : households.Made household kennel surrender := by
  obtain ⟨a, c, ha, hc, hreach, -⟩ := narrows_surrender
  refine ⟨rfl, rfl, if_pos (Schema.compatible_iff.mpr ?_)⟩
  exact .inr (.inr (.inr (.inr ⟨rfl, .inr ⟨c, a, hc, ha, hreach⟩⟩)))

def petless : Value := .record "Household" [.absent animal.type]

theorem instance_petless : households.Instance household petless := by
  refine ⟨rfl, .record (r := household) rfl rfl ?_⟩
  simp only [List.forall_mem_singleton]
  exact .absent _

end Sample

theorem Schema.copy_narrowing_surrender : Sample.households.Faithful ∧
    Sample.households.Declares Sample.household ∧
    Sample.households.Made Sample.household Sample.kennel Sample.surrender ∧
    Sample.surrender.Narrows Sample.households ∧
    Sample.households.Instance Sample.household Sample.petless ∧
    Sample.surrender.source.read Sample.petless = some (.absent Sample.animal.type) ∧
    Sample.households.copy Sample.surrender Sample.petless ⟨Sample.lodged, 0⟩ =
      (⟨Sample.lodged, 0⟩, .error Sample.surrender.unassignable) := by
  have hdeclared : Sample.households.Declares Sample.household := rfl
  have hread : Sample.surrender.source.read Sample.petless =
      some (.absent Sample.animal.type) := rfl
  obtain ⟨-, hreached⟩ := @Schema.copy_narrowing Sample.households Sample.household Sample.kennel
    Sample.surrender Sample.petless ⟨Sample.lodged, 0⟩ Sample.faithful_households hdeclared
    Sample.made_surrender Sample.narrows_surrender Sample.instance_petless
  exact ⟨Sample.faithful_households, hdeclared, Sample.made_surrender, Sample.narrows_surrender,
    Sample.instance_petless, hread, hreached _ hread rfl⟩

end RecordCopy

import RecordCopy.Proofs.Delivery

/-!
# Values survive the wildcard

A value that is copied into a wildcard, from there into another one, and so on, and in the end
into a slot of the type it came from, is the value it was in the beginning.

Into the first wildcard it goes erased, and erasing takes one option layer off: what a wildcard
carries is the cargo of the value, `Value.cargo`.  Between wildcards the cargo moves along, though
an empty wildcard and an absent one turn into each other (`Value.Carries`).  The last slot knows
from its type which layer is missing and puts it back, so an option that holds an absent option
does not come out as an absent one.
-/

namespace RecordCopy

/-! ### What a wildcard carries -/

namespace Value

/-- What erasing leaves of a value to be held: an option gives up one layer, and an absent one
    leaves nothing. -/
def cargo : Value → Option Value
  | .absent _ => none
  | .present inner => some inner
  | v => some v

/-- A wildcard, or an option of one, with a cargo in an allocation. -/
inductive Carries (allocation : Allocation) : Option Value → Value → Prop where
  | empty : Carries allocation none .empty
  | absent : Carries allocation none (.absent .wildcard)
  | holding (held : Value) : Carries allocation (some held) (.holding allocation held)
  | present (held : Value) :
    Carries allocation (some held) (.present (.holding allocation held))

/-- A wildcard that holds nothing, or an absent one. -/
def Vacant (v : Value) : Prop := v = .empty ∨ v = .absent .wildcard

theorem cargo_eq_none_iff {v : Value} : v.cargo = none ↔ ∃ inner, v = .absent inner := by
  cases v with
  | absent inner => exact ⟨fun _ => ⟨inner, rfl⟩, fun _ => rfl⟩
  | _ =>
    constructor
    · intro h
      cases h
    · rintro ⟨inner, h⟩
      cases h

namespace Carries

variable {allocation : Allocation} {cargo : Option Value} {w : Value}

theorem vacant_iff (h : Carries allocation cargo w) : w.Vacant ↔ cargo = none := by
  cases h <;> simp [Vacant]

theorem holds (h : Carries allocation cargo w) (hfull : ¬ w.Vacant) :
    ∃ held, w = .holding allocation held ∨ w = .present (.holding allocation held) := by
  cases h with
  | empty => exact absurd (.inl rfl) hfull
  | absent => exact absurd (.inr rfl) hfull
  | holding held => exact ⟨held, .inl rfl⟩
  | present held => exact ⟨held, .inr rfl⟩

/-- What carries a cargo has the wildcard behind its option layers. -/
theorem type_ne {t : Ty} (h : Carries allocation cargo w) (hplain : t.canonical ≠ .wildcard) :
    w.type ≠ t := by
  intro htype
  rw [← htype] at hplain
  cases h <;> exact hplain rfl

end Carries

end Value

namespace Ty

variable {allocation : Allocation} {cargo : Option Value} {v w : Value}

/-- Wildcards take the cargo of wildcards, whichever of the two types either has. -/
theorem accept?_wild {t : Ty} (ht : t = .wildcard ∨ t = .option .wildcard)
    (h : Value.Carries allocation cargo w) :
    ∃ u, t.accept? w = some u ∧ Value.Carries allocation cargo u := by
  rcases ht with rfl | rfl
  · cases h with
    | empty | absent => exact ⟨.empty, rfl, .empty⟩
    | holding held | present held => exact ⟨.holding allocation held, rfl, .holding held⟩
  · cases h with
    | empty | absent => exact ⟨.absent .wildcard, rfl, .absent⟩
    | holding held | present held =>
      exact ⟨.present (.holding allocation held), rfl, .present held⟩

/-- A type that a present option or a wildcard gives up takes what a wildcard holds. -/
theorem takes_held (hplain : v.type.canonical ≠ .wildcard)
    (h : Value.Carries allocation (some v) w) :
    (w.as? v.type <|> w.payload? v.type <|> w.held? v.type) = some v := by
  have hown : w.as? v.type = none := by
    apply Value.as?_eq_none
    exact h.type_ne hplain
  have hheld : w.held? v.type = some v := by
    cases h <;> exact Value.as?_type v
  have hpayload : w.payload? v.type = none := by
    cases h with
    | holding => rfl
    | present =>
      apply Value.as?_eq_none
      intro htype
      exact hplain (congrArg canonical htype).symm
  rw [hown, hpayload, hheld]
  rfl

/-- Out of a wildcard a slot takes back the value whose cargo it is, with the layer that erasing
    took off. -/
theorem accept?_back (hplain : v.type.canonical ≠ .wildcard)
    (h : Value.Carries allocation v.cargo w) : v.type.accept? w = some v := by
  have hne := h.type_ne hplain
  cases v with
  | empty => exact absurd rfl hplain
  | holding a held => exact absurd rfl hplain
  | absent inner =>
    have hempty : w.wildcard? = some none := by
      cases h <;> rfl
    simp only [Value.type] at hne ⊢
    simp only [accept?, if_neg hne, hempty]
  | present inner =>
    have hheld : w.wildcard? = some (some (allocation, inner)) := by
      cases h <;> rfl
    have hinner : w.type ≠ inner.type := h.type_ne hplain
    simp only [Value.type] at hne ⊢
    simp only [accept?, if_neg hne, hheld, Value.as?_eq_none hinner, Value.held?, Value.as?_type]
    rfl
  | scalar content => exact takes_held hplain h
  | bytes content => exact takes_held hplain h
  | record name fields => exact takes_held hplain h

end Ty

/-! ### Into and out of a wildcard -/

namespace ValueType

/-- A wildcard or an option of one, open to copying. -/
def Wild (t : ValueType) : Prop :=
  t = Ty.wildcard.valueType ∨ t = (Ty.option .wildcard).valueType

theorem Wild.isWildcard {t : ValueType} (h : t.Wild) : t.isWildcard = true := by
  rcases h with rfl | rfl <;> rfl

theorem Wild.kind_ne {t : ValueType} (h : t.Wild) : t.kind ≠ .closed := by
  rcases h with rfl | rfl <;> exact Kind.noConfusion

theorem Wild.type_eq {t : ValueType} (h : t.Wild) :
    t.type = .wildcard ∨ t.type = .option .wildcard := by
  rcases h with rfl | rfl
  · exact .inl rfl
  · exact .inr rfl

theorem canonical_ne_of_plain {t : ValueType} (hopen : t.kind ≠ .closed)
    (hplain : t.isWildcard = false) : t.type.canonical ≠ .wildcard := by
  rw [← canonical_of_open (closed_eq_false_of_kind hopen)]
  exact of_decide_eq_false hplain

theorem exists_erase {t : ValueType} {v : Value} (hopen : t.kind ≠ .closed)
    (hplain : t.type.canonical ≠ .wildcard) (hv : v.type = t.type) (fresh : Allocation) :
    ∃ w, t.erase fresh v = some w ∧ Value.Carries fresh v.cargo w := by
  obtain ⟨type, closed⟩ := t
  obtain rfl : closed = false := closed_eq_false_of_kind hopen
  dsimp only at hplain hv
  subst hv
  cases v with
  | empty => exact absurd rfl hplain
  | holding a held => exact absurd rfl hplain
  | bytes content => exact absurd rfl hopen
  | absent inner => exact ⟨.empty, by simp [erase, kind, Value.type], .empty⟩
  | present inner =>
    exact ⟨.holding fresh inner, by simp [erase, kind, Value.type], .holding inner⟩
  | scalar content =>
    exact ⟨.holding fresh (.scalar content), by simp [erase, kind, Value.type, Value.as?],
      .holding _⟩
  | record name fields =>
    exact ⟨.holding fresh (.record name fields), by simp [erase, kind, Value.type, Value.as?],
      .holding _⟩

end ValueType

namespace Schema

variable (schema : Schema) {i : Instruction} {allocation : Allocation} {old v w : Value}

theorem upcast?_of_wild {a : ValueType} (h : a.Wild) (b : ValueType) :
    schema.upcast? a b = none := by
  have hrecord : a.recordName? = none := by
    rcases h with rfl | rfl <;> rfl
  simp [upcast?, recordOf?, hrecord]

theorem put?_into_wild (fresh : Allocation) (hopen : i.source.terminal.kind ≠ .closed)
    (hplain : i.source.terminal.isWildcard = false) (hwild : i.destination.terminal.Wild)
    (hold : old.type = i.destination.terminal.type) (hv : v.type = i.source.terminal.type) :
    ∃ content, schema.put? i fresh old v = some content ∧
      Value.Carries fresh v.cargo content := by
  have hcanonical := ValueType.canonical_ne_of_plain hopen hplain
  obtain ⟨erased, herase, hcarries⟩ := ValueType.exists_erase hopen hcanonical hv fresh
  obtain ⟨content, haccept, hcontent⟩ := Ty.accept?_wild hwild.type_eq hcarries
  refine ⟨content, ?_, hcontent⟩
  simp only [put?, transfer, hwild.isWildcard, hplain, if_true, Bool.false_eq_true, if_false]
  rw [herase, Option.bind_some, ValueType.assign_of_open hwild.kind_ne hold, haccept]

theorem put?_between_wild (fresh : Allocation) (hsource : i.source.terminal.Wild)
    (hwild : i.destination.terminal.Wild) (hold : old.type = i.destination.terminal.type)
    {cargo : Option Value} (hcarries : Value.Carries allocation cargo w) :
    ∃ content, schema.put? i fresh old w = some content ∧
      Value.Carries allocation cargo content := by
  obtain ⟨content, haccept, hcontent⟩ := Ty.accept?_wild hwild.type_eq hcarries
  refine ⟨content, ?_, hcontent⟩
  simp only [put?, transfer, hwild.isWildcard, hsource.isWildcard, if_true]
  rw [ValueType.assign_of_open hwild.kind_ne hold, haccept]

theorem put?_out_of_wild (fresh : Allocation) (hsource : i.source.terminal.Wild)
    (hopen : i.destination.terminal.kind ≠ .closed)
    (hplain : i.destination.terminal.isWildcard = false)
    (hold : old.type = i.destination.terminal.type) (hv : v.type = i.destination.terminal.type)
    (hcarries : Value.Carries allocation v.cargo w) : schema.put? i fresh old w = some v := by
  have hcanonical := ValueType.canonical_ne_of_plain hopen hplain
  rw [← hv] at hcanonical
  have haccept := Ty.accept?_back hcanonical hcarries
  simp only [put?, transfer, hplain, schema.upcast?_of_wild hsource]
  rw [ValueType.assign_of_open hopen hold, ← hv]
  exact haccept

end Schema

/-! ### From slot to slot -/

def WritePath.back (p : WritePath) : ReadPath := ⟨p.toResolvedPath⟩

/-- A value to copy into, and the path of the slot in it. -/
structure Station where
  value : Value
  path : WritePath

/-- The slot is there, and what it holds so far is of its type. -/
def Station.Ready (s : Station) : Prop :=
  ∃ old, s.path.back.read s.value = some old ∧ old.type = s.path.terminal.type

/-- One copy of many: what it made of the value copied into, and its result. -/
structure Hop where
  instruction : Instruction
  after : Value
  result : Except Report Unit

namespace Hop

def slot (hop : Hop) : WritePath := hop.instruction.destination

def found? (hop : Hop) : Option Value := hop.slot.back.read hop.after

def Done (schema : Schema) (hop : Hop) : Prop :=
  schema.pair hop.instruction.source hop.instruction.destination = .ok hop.instruction ∧
    hop.result = .ok ()

end Hop

namespace Schema

/-- Copy from a path of a source into the first slot, and from every slot into the next one. -/
def relay (schema : Schema) (reading : ReadPath) (source : Value) (fresh : Allocation) :
    List Station → List Hop
  | [] => []
  | next :: rest =>
    let copied := schema.copy ⟨reading, next.path⟩ source ⟨next.value, fresh⟩
    ⟨⟨reading, next.path⟩, copied.1.value, copied.2⟩ ::
      relay schema next.path.back copied.1.value copied.1.fresh rest

theorem slots_relay (schema : Schema) (reading : ReadPath) (source : Value) (fresh : Allocation)
    (stations : List Station) :
    (schema.relay reading source fresh stations).map Hop.slot = stations.map Station.path := by
  induction stations generalizing reading source fresh with
  | nil => rfl
  | cons next rest ih => exact congrArg (next.path :: ·) (ih _ _ _)

variable {schema : Schema} {reading : ReadPath} {source v w : Value}
  {fresh allocation : Allocation}

/-- A hop whose slot takes what it reads leaves it there for the next hop. -/
theorem relay_cons {next : Station} {old content : Value} (rest : List Station)
    (hread : reading.read source = some v) (hold : next.path.back.read next.value = some old)
    (hput : schema.put? ⟨reading, next.path⟩ fresh old v = some content) :
    ∃ after, next.path.back.read after = some content ∧
      schema.relay reading source fresh (next :: rest) =
        ⟨⟨reading, next.path⟩, after, .ok ()⟩ ::
          schema.relay next.path.back after (fresh + 1) rest := by
  have hslot := next.path.read_slot next.value
  obtain ⟨place, hplace, rfl⟩ := Option.map_eq_some_iff.mp (hslot.symm.trans hold)
  refine ⟨place.replace content, ?_, ?_⟩
  · have hafter := next.path.read_slot (place.replace content)
    rw [slotAlong_replace hplace content] at hafter
    exact hafter
  · have hcopy := schema.copy_eq_of_put? ⟨next.value, fresh⟩ hread hplace hput
    rw [relay, hcopy]

theorem pair_of_isWildcard {destination : WritePath}
    (h : reading.terminal.isWildcard = true ∨ destination.terminal.isWildcard = true) :
    schema.pair reading destination = .ok ⟨reading, destination⟩ := by
  have hcompatible :
      schema.compatible (some reading.terminal) (some destination.terminal) = true := by
    rcases h with h | h
    · simp [compatible, h]
    · simp [compatible, h]
  exact if_pos hcompatible

/-- All hops are carried out, every slot on the way carries the cargo of a value in one
    allocation, and the value itself arrives. -/
structure Relayed (schema : Schema) (allocation : Allocation) (v : Value) (onTheWay : List Hop)
    (arrival : Hop) : Prop where
  done : ∀ hop ∈ onTheWay ++ [arrival], hop.Done schema
  carried : ∀ hop ∈ onTheWay, ∃ w, hop.found? = some w ∧ Value.Carries allocation v.cargo w
  arrived : arrival.found? = some v

theorem Relayed.cons {hop arrival : Hop} {onTheWay : List Hop}
    (h : schema.Relayed allocation v onTheWay arrival) (hdone : hop.Done schema)
    (hfound : hop.found? = some w) (hcarries : Value.Carries allocation v.cargo w) :
    schema.Relayed allocation v (hop :: onTheWay) arrival := by
  obtain ⟨hall, hcarried, harrived⟩ := h
  refine ⟨?_, ?_, harrived⟩
  · exact List.forall_mem_cons.mpr ⟨hdone, hall⟩
  · exact List.forall_mem_cons.mpr ⟨⟨w, hfound, hcarries⟩, hcarried⟩

/-- From one wildcard over others into a slot of the type that the cargo came from. -/
theorem relayed_from_wild (fresh : Allocation) {slots : List Station} {last : Station}
    (hread : reading.read source = some w) (hcarries : Value.Carries allocation v.cargo w)
    (hwild : reading.terminal.Wild) (hslots : ∀ s ∈ slots, s.path.terminal.Wild ∧ s.Ready)
    (hlast : last.Ready) (hopen : last.path.terminal.kind ≠ .closed)
    (hplain : last.path.terminal.isWildcard = false) (hv : v.type = last.path.terminal.type) :
    ∃ onTheWay arrival, schema.relay reading source fresh (slots ++ [last]) =
      onTheWay ++ [arrival] ∧ schema.Relayed allocation v onTheWay arrival := by
  -- each hop leaves the same cargo in the same allocation, where the next one reads
  induction slots generalizing reading source w fresh with
  | nil =>
    obtain ⟨old, hold, htype⟩ := hlast
    have hput : schema.put? ⟨reading, last.path⟩ fresh old w = some v :=
      schema.put?_out_of_wild fresh hwild hopen hplain htype hv hcarries
    obtain ⟨after, hfound, hrelay⟩ := relay_cons [] hread hold hput
    refine ⟨[], _, hrelay, ?_, by simp, hfound⟩
    intro hop hhop
    obtain rfl := List.mem_singleton.mp hhop
    exact ⟨pair_of_isWildcard (.inl hwild.isWildcard), rfl⟩
  | cons next rest ih =>
    obtain ⟨⟨hnext, old, hold, htype⟩, hrest⟩ := List.forall_mem_cons.mp hslots
    obtain ⟨content, hput, hcontent⟩ :=
      schema.put?_between_wild (i := ⟨reading, next.path⟩) fresh hwild hnext htype hcarries
    obtain ⟨after, hfound, hrelay⟩ := relay_cons (rest ++ [last]) hread hold hput
    obtain ⟨onTheWay, arrival, hmore, hrelayed⟩ := ih (fresh + 1) hfound hcontent hnext hrest
    have hdone : Hop.Done schema ⟨⟨reading, next.path⟩, after, .ok ()⟩ :=
      ⟨pair_of_isWildcard (.inl hwild.isWildcard), rfl⟩
    refine ⟨_ :: onTheWay, arrival, ?_, hrelayed.cons hdone hfound hcontent⟩
    rw [List.cons_append, hrelay, hmore]
    rfl

/-- A value copied into a wildcard, on through any number of wildcards and optional wildcards,
    and back into a slot of its own type arrives as it was.  On the way a slot is empty exactly
    for an absent value, and all others share the allocation that the first copy made. -/
theorem relay_survives {first last : Station} {slots : List Station}
    (hread : reading.read source = some v) (hv : v.type = reading.terminal.type)
    (hopen : reading.terminal.kind ≠ .closed) (hplain : reading.terminal.isWildcard = false)
    (hslots : ∀ s ∈ first :: slots, s.path.terminal.Wild ∧ s.Ready)
    (hlast : last.Ready) (hsame : last.path.terminal = reading.terminal) (fresh : Allocation) :
    ∃ onTheWay arrival,
      schema.relay reading source fresh (first :: slots ++ [last]) = onTheWay ++ [arrival] ∧
      onTheWay.map Hop.slot = (first :: slots).map Station.path ∧ arrival.slot = last.path ∧
      (∀ hop ∈ onTheWay ++ [arrival], hop.Done schema) ∧
      arrival.found? = some v ∧
      ∀ hop ∈ onTheWay, ∃ w, hop.found? = some w ∧
        (w.Vacant ↔ ∃ inner, v = .absent inner) ∧
        (¬ w.Vacant → ∃ held, w = .holding fresh held ∨ w = .present (.holding fresh held)) := by
  obtain ⟨⟨hfirst, old, hold, htype⟩, hrest⟩ := List.forall_mem_cons.mp hslots
  obtain ⟨content, hput, hcontent⟩ :=
    schema.put?_into_wild (i := ⟨reading, first.path⟩) fresh hopen hplain hfirst htype hv
  obtain ⟨after, hfound, hrelay⟩ := relay_cons (slots ++ [last]) hread hold hput
  rw [← hsame] at hv hopen hplain
  obtain ⟨rest, arrival, hmore, hrelayed⟩ := relayed_from_wild (fresh + 1) hfound hcontent hfirst
    hrest hlast hopen hplain hv
  have hdone : Hop.Done schema ⟨⟨reading, first.path⟩, after, .ok ()⟩ :=
    ⟨pair_of_isWildcard (.inr hfirst.isWildcard), rfl⟩
  obtain ⟨hall, hcarried, harrived⟩ := hrelayed.cons hdone hfound hcontent
  have hhops : schema.relay reading source fresh (first :: slots ++ [last]) =
      (⟨⟨reading, first.path⟩, after, .ok ()⟩ :: rest) ++ [arrival] := by
    rw [List.cons_append, hrelay, hmore]
    rfl
  have hpaths := schema.slots_relay reading source fresh (first :: slots ++ [last])
  rw [hhops, List.map_append, List.map_append] at hpaths
  obtain ⟨honTheWay, harrival⟩ := List.append_inj' hpaths rfl
  refine ⟨_, arrival, hhops, honTheWay, List.singleton_inj.mp harrival, hall, harrived, ?_⟩
  intro hop hhop
  obtain ⟨w, hw, hcarries⟩ := hcarried hop hhop
  exact ⟨w, hw, hcarries.vacant_iff.trans Value.cargo_eq_none_iff, hcarries.holds⟩

end Schema

namespace Sample

def doubtful : Field := field "doubtful" (.option (.option text))

def pathTo (record : String) (position : Nat) (f : Field) : WritePath :=
  ⟨⟨record, ⟨f.name, []⟩, [], ⟨record, position, f⟩⟩⟩

def emptyTray : Value := .record "Tray" [.empty, .absent .wildcard]

def onTray : Station := ⟨emptyTray, pathTo "Tray" 0 (field "item" .wildcard)⟩

def maybeOnTray : Station := ⟨emptyTray, pathTo "Tray" 1 (field "extra" (.option .wildcard))⟩

def backInForm : Station :=
  ⟨.record "Form" [.absent (.option text)], pathTo "Form" 0 doubtful⟩

end Sample

/-- A present option of an absent one goes over a wildcard, an optional one and a wildcard again,
    and does not come back as an absent one. -/
theorem Schema.relay_survives_sample :
    let reading := (Sample.pathTo "Form" 0 Sample.doubtful).back
    let source : Value := .record "Form" [.present (.absent Sample.text)]
    let v : Value := .present (.absent Sample.text)
    let slots := [Sample.onTray, Sample.maybeOnTray, Sample.onTray]
    reading.read source = some v ∧ v.type = reading.terminal.type ∧
    reading.terminal.kind ≠ .closed ∧ reading.terminal.isWildcard = false ∧
    (∀ s ∈ slots, s.path.terminal.Wild ∧ s.Ready) ∧ Sample.backInForm.Ready ∧
    Sample.backInForm.path.terminal = reading.terminal ∧
    ∃ onTheWay arrival, Sample.schema.relay reading source 0 (slots ++ [Sample.backInForm]) =
        onTheWay ++ [arrival] ∧
      onTheWay.map Hop.slot = slots.map Station.path ∧ arrival.slot = Sample.backInForm.path ∧
      (∀ hop ∈ onTheWay ++ [arrival], hop.Done Sample.schema) ∧
      arrival.found? = some v ∧
      ∀ hop ∈ onTheWay, ∃ w, hop.found? = some w ∧
        (w.Vacant ↔ ∃ inner, v = .absent inner) ∧
        (¬ w.Vacant → ∃ held, w = .holding 0 held ∨ w = .present (.holding 0 held)) := by
  intro reading source v slots
  have hread : reading.read source = some v := rfl
  have hopen : reading.terminal.kind ≠ .closed := Kind.noConfusion
  have hslots : ∀ s ∈ slots, s.path.terminal.Wild ∧ s.Ready := by
    have hitem : Sample.onTray.path.terminal.Wild ∧ Sample.onTray.Ready :=
      ⟨.inl rfl, .empty, rfl, rfl⟩
    have hextra : Sample.maybeOnTray.path.terminal.Wild ∧ Sample.maybeOnTray.Ready :=
      ⟨.inr rfl, .absent .wildcard, rfl, rfl⟩
    simp only [slots, List.forall_mem_cons]
    exact ⟨hitem, hextra, hitem, by simp⟩
  have hlast : Sample.backInForm.Ready := ⟨.absent (.option Sample.text), rfl, rfl⟩
  exact ⟨hread, rfl, hopen, rfl, hslots, hlast, rfl,
    Schema.relay_survives hread rfl hopen rfl hslots hlast rfl 0⟩

end RecordCopy

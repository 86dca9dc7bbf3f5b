import RecordCopy.Proofs.Containers
import RecordCopy.Proofs.WildcardRelay

/-!
# Option layers that fit

Whether two types are compatible is decided under all their option layers, but a slot takes a value
across one layer at most.  For types of one canonical type the layers fit when they are equal, when
the slot has one more, and when a single layer around the value is to be given up
(`Ty.accept?_isSome_iff`).  A conversion into a supertype takes a record or an option of one and
makes a record or an option of one, at each of its steps (`Step.assign_isSome_iff`).

So an instruction between such types that finds its value and its slot fails for one of two reasons.
Its layers do not fit, and then it fails for every value.  Or the slot has fewer layers than the
value, and the value is absent.
-/

namespace RecordCopy

/-! ### Types of one canonical type -/

theorem Ty.eq_of_layers {t u : Ty} (hcanonical : t.canonical = u.canonical)
    (hlayers : t.layers = u.layers) : t = u := by
  induction t generalizing u with
  | option inner ih =>
    cases u with
    | option other => exact congrArg option (ih hcanonical (Nat.succ.inj hlayers))
    | _ => cases hlayers
  | _ =>
    rw [canonical_eq_self hlayers.symm] at hcanonical
    exact hcanonical

theorem Ty.eq_iff_layers {t u : Ty} (h : t.canonical = u.canonical) :
    t = u ↔ t.layers = u.layers :=
  ⟨fun hsame => congrArg layers hsame, eq_of_layers h⟩

theorem Ty.eq_record_iff {t : Ty} {name : String} (h : t.canonical = .record name) :
    t = .record name ↔ t.layers = 0 :=
  eq_iff_layers h

theorem Ty.eq_option_record_iff {t : Ty} {name : String} (h : t.canonical = .record name) :
    t = .option (.record name) ↔ t.layers = 1 :=
  eq_iff_layers h

theorem Value.full_of_layers {v : Value} (h : v.type.layers = 0) : v.Full := by
  rw [Full, bare?_eq_self h]
  rfl

theorem Value.full_present {v : Value} : (Value.present v).Full ↔ v.Full := Iff.rfl

/-- A type without layers takes a value without layers, or out of a present option. -/
theorem Ty.takes_isSome_iff {t : Ty} {v : Value} (hcanonical : v.type.canonical = t.canonical)
    (hplain : v.type.canonical ≠ .wildcard) (hlayers : t.layers = 0) :
    (v.as? t <|> v.payload? t <|> v.held? t).isSome ↔
      v.type.layers = 0 ∨ v.type.layers = 1 ∧ v.Full := by
  have hown : ∀ w : Value, w.type.canonical = t.canonical →
      ((w.as? t).isSome ↔ w.type.layers = 0) := by
    intro w hw
    rw [← hlayers, Value.as?, Option.isSome_ite]
    exact eq_iff_layers hw
  have htakes : (v.as? t <|> v.payload? t <|> v.held? t).isSome ↔
      (v.as? t).isSome ∨ (v.payload? t).isSome := by
    simp [Value.held?_eq_none hplain]
  rw [htakes, hown v hcanonical]
  cases v with
  | absent inner => simp [Value.type, Value.payload?, Value.Full, Value.bare?]
  | present inner =>
    have hinner : ((Value.present inner).payload? t).isSome ↔ inner.type.layers = 0 :=
      hown inner hcanonical
    have hfull : inner.type.layers = 0 → (Value.present inner).Full := Value.full_of_layers
    rw [hinner, Value.type, layers_option]
    grind
  | _ => simp [Value.type, Value.payload?, layers]

/-- A slot takes a value of its canonical type when the layers fit, and only a present one where
    a layer is given up. -/
theorem Ty.accept?_isSome_iff {t : Ty} {v : Value} (hcanonical : v.type.canonical = t.canonical)
    (hplain : v.type.canonical ≠ .wildcard) : (t.accept? v).isSome ↔
      (t.layers = v.type.layers ∨ t.layers = v.type.layers + 1 ∨
        v.type.layers = 1 ∧ t.layers = 0) ∧
      (t.layers < v.type.layers → v.Full) := by
  -- what a type without layers takes, in the terms of both layers
  have hflat : v.type.layers = 0 ∨ v.type.layers = 1 ∧ v.Full ↔
      (0 = v.type.layers ∨ 0 = v.type.layers + 1 ∨ v.type.layers = 1 ∧ 0 = 0) ∧
      (0 < v.type.layers → v.Full) := by
    grind
  cases t with
  | option inner =>
    have hown : v.type = .option inner ↔ v.type.layers = inner.layers + 1 :=
      eq_iff_layers hcanonical
    have hinner : v.type = inner ↔ v.type.layers = inner.layers := eq_iff_layers hcanonical
    have haccept : ((Ty.option inner).accept? v).isSome ↔
        v.type = .option inner ∨ v.type = inner := by
      simp only [accept?, Value.wildcard?_eq_none hplain, Value.held?_eq_none hplain, Value.as?]
      by_cases hsame : v.type = .option inner
      · simp [hsame]
      · by_cases hunder : v.type = inner
        · simp [hunder, inner.ne_option_self]
        · simp [hsame, hunder]
    rw [haccept, hown, hinner, layers_option]
    omega
  | wildcard => exact absurd hcanonical hplain
  | _ => exact (takes_isSome_iff hcanonical hplain rfl).trans hflat

/-! ### Conversions -/

/-- What converting a value leads to: a value of the record in question, under as many layers, and
    an absent one for an absent one. -/
structure Value.ConvertedTo (name : String) (v w : Value) : Prop where
  canonical : w.type.canonical = .record name
  layers : w.type.layers = v.type.layers
  full_iff : w.Full ↔ v.Full

theorem Value.ConvertedTo.trans {name other : String} {u v w : Value} (h : u.ConvertedTo name v)
    (hrest : v.ConvertedTo other w) : u.ConvertedTo other w :=
  ⟨hrest.canonical, hrest.layers.trans h.layers, hrest.full_iff.trans h.full_iff⟩

namespace Step

variable {s : Step} {slot v : Value}

theorem source?_eq (hv : v.type.canonical = .record s.sub) :
    s.source? v = if v.type.layers ≤ 1 then some v.bare? else none := by
  have hown := Ty.eq_record_iff hv
  have hoption := Ty.eq_option_record_iff hv
  unfold source?
  by_cases hnone : v.type.layers = 0
  · rw [Value.as?, if_pos (hown.mpr hnone), if_pos (hnone.trans_le (Nat.zero_le 1)),
      Value.bare?_eq_self hnone]
  · rw [Value.as?, if_neg (mt hown.mp hnone)]
    by_cases hone : v.type.layers = 1
    · have htype := hoption.mpr hone
      rw [if_pos htype, if_pos hone.le]
      cases v with
      | absent inner => rfl
      | present inner =>
        have hinner : inner.type = .record s.sub := Ty.option.inj htype
        have hbare : inner.bare? = some inner := by
          apply Value.bare?_eq_self
          rw [hinner]
          rfl
        rw [Value.bare?, hbare, Value.payload?, Value.as?, if_pos hinner]
      | _ => cases htype
    · have hmore : ¬ v.type.layers ≤ 1 := by omega
      rw [if_neg (mt hoption.mp hone), if_neg hmore]

theorem exists_convert (hv : v.type.canonical = .record s.sub) (hlayers : v.type.layers ≤ 1) :
    ∃ w, s.convert v = some w ∧ v.ConvertedTo s.supertype.record w := by
  have hsource := source?_eq hv
  rw [if_pos hlayers] at hsource
  have hmade : ∀ u, (s.supertype.convert u).type = .record s.supertype.record :=
    s.supertype.convert_type
  have hflat : ∀ u, (s.supertype.convert u).type.layers = 0 := by
    intro u
    rw [hmade]
    rfl
  by_cases hnone : v.type.layers = 0
  · refine ⟨s.supertype.convert v, ?_, congrArg Ty.canonical (hmade v),
      (hflat v).trans hnone.symm, ?_⟩
    · rw [convert, Value.as?, if_pos ((Ty.eq_record_iff hv).mpr hnone)]
    · exact iff_of_true (Value.full_of_layers (hflat v)) (Value.full_of_layers hnone)
  · have hone : v.type.layers = 1 := by omega
    have hne : v.type ≠ .record s.sub := fun h => hnone (congrArg Ty.layers h)
    rw [convert, Value.as?_eq_none hne]
    simp only [hsource]
    cases hbare : v.bare? with
    | none =>
      refine ⟨_, rfl, rfl, hone.symm, ?_⟩
      simp [Value.Full, Value.bare?, hbare]
    | some content =>
      have hpresent : (Value.present (s.supertype.convert content)).Full :=
        Value.full_present.mpr (Value.full_of_layers (hflat content))
      refine ⟨_, rfl, congrArg Ty.canonical (hmade content),
        (congrArg (· + 1) (hflat content)).trans hone.symm, iff_of_true hpresent ?_⟩
      rw [Value.Full, hbare]
      rfl

theorem convert_eq_none (hv : v.type.canonical = .record s.sub) (hlayers : 1 < v.type.layers) :
    s.convert v = none := by
  have hsource := source?_eq hv
  rw [if_neg (Nat.not_le.mpr hlayers)] at hsource
  have hne : v.type ≠ .record s.sub := by
    intro h
    rw [h] at hlayers
    exact absurd hlayers (Nat.not_lt_zero 1)
  rw [convert, Value.as?_eq_none hne]
  simp only [hsource]

/-- A step ends in a slot for its upper type, or for an option of it. -/
theorem assign_isSome_iff (hv : v.type.canonical = .record s.sub)
    (hslot : slot.type.canonical = .record s.supertype.record) :
    (s.assign slot v).isSome ↔ (v.type.layers ≤ 1 ∧ slot.type.layers ≤ 1) ∧
      (slot.type.layers < v.type.layers → v.Full) := by
  have hown := Ty.eq_record_iff hslot
  have hoption := Ty.eq_option_record_iff hslot
  rw [assign_eq, source?_eq hv]
  by_cases hlayers : v.type.layers ≤ 1
  · rw [if_pos hlayers]
    dsimp only
    by_cases hone : slot.type.layers = 1
    · rw [if_pos (hoption.mpr hone)]
      have hfits : (v.type.layers ≤ 1 ∧ slot.type.layers ≤ 1) ∧
          (slot.type.layers < v.type.layers → v.Full) :=
        ⟨⟨hlayers, hone.le⟩, fun hless => absurd hless (by omega)⟩
      rw [iff_true_right hfits]
      cases v.bare? <;> rfl
    · rw [if_neg (mt hoption.mp hone)]
      by_cases hnone : slot.type.layers = 0
      · have hflat : v.type.layers = 0 → v.Full := Value.full_of_layers
        rw [if_pos (hown.mpr hnone), Option.isSome_map, hnone]
        change v.Full ↔ _
        grind
      · rw [if_neg (mt hown.mp hnone)]
        simp only [Option.isSome_none, Bool.false_eq_true, false_iff]
        omega
  · rw [if_neg hlayers]
    simp [hlayers]

end Step

namespace Schema

variable {schema : Schema} {v w old : Value}

theorem Route.of_snoc {a c : String} {steps : List Step} {last : Step}
    (h : schema.Route a (steps ++ [last]) c) :
    schema.Route a steps last.sub ∧ last.supertype.record = c := by
  induction steps generalizing a with
  | nil =>
    cases h with
    | cons _ hrest => exact ⟨.nil a, hrest.eq_of_nil⟩
  | cons step steps ih =>
    cases h with
    | cons hstep hrest =>
      obtain ⟨hleading, hlast⟩ := ih hrest
      exact ⟨.cons hstep hleading, hlast⟩

/-- Conversions follow a route from record to record. -/
theorem Route.exists_convert {a c : String} {steps : List Step} (h : schema.Route a steps c)
    (hv : v.type.canonical = .record a) (hlayers : v.type.layers ≤ 1) :
    ∃ w, steps.foldlM (fun u s => s.convert u) v = some w ∧ v.ConvertedTo c w := by
  induction h generalizing v with
  | nil a => exact ⟨v, rfl, hv, rfl, Iff.rfl⟩
  | @cons a c s position steps _ _ ih =>
    obtain ⟨u, hu, hconverted⟩ :=
      Step.exists_convert (s := ⟨a, position, s⟩) hv hlayers
    obtain ⟨w, hw, hrest⟩ := ih hconverted.canonical (hconverted.layers.trans_le hlayers)
    refine ⟨w, ?_, hconverted.trans hrest⟩
    rw [List.foldlM_cons, hu]
    exact hw

/-- A conversion along a route takes a record or an option of one into a slot of either kind, but
    an absent one only where the slot has the layer, too. -/
theorem Route.convert_isSome_iff {a c : String} {upcast : Upcast}
    (h : schema.Route a (upcast.leading ++ [upcast.last]) c) (hv : v.type.canonical = .record a)
    (hold : old.type.canonical = .record c) :
    ((upcast.lead v).bind (upcast.last.assign old)).isSome ↔
      (v.type.layers ≤ 1 ∧ old.type.layers ≤ 1) ∧
        (old.type.layers < v.type.layers → v.Full) := by
  obtain ⟨leading, last⟩ := upcast
  obtain ⟨hleading, rfl⟩ := h.of_snoc
  by_cases hlayers : v.type.layers ≤ 1
  · obtain ⟨w, hlead, hconverted⟩ := hleading.exists_convert hv hlayers
    rw [Upcast.lead, hlead, Option.bind_some, Step.assign_isSome_iff hconverted.canonical hold,
      hconverted.layers, hconverted.full_iff]
  · -- the first step, or else the last one, refuses the value
    have hnone : (Upcast.lead ⟨leading, last⟩ v).bind (last.assign old) = none := by
      cases hleading with
      | nil =>
        have hsource := Step.source?_eq hv
        rw [if_neg hlayers] at hsource
        simp [Upcast.lead, Step.assign_eq, hsource]
      | @cons _ _ s position _ _ _ =>
        have hfirst : Step.convert ⟨a, position, s⟩ v = none :=
          Step.convert_eq_none hv (Nat.lt_of_not_le hlayers)
        simp [Upcast.lead, hfirst]
    simp [hnone, hlayers]

theorem exists_upcast {a b : ValueType} (hkin : schema.isA a b = true)
    (hne : a.canonical ≠ b.canonical) : ∃ m n upcast, a.canonical = .record m ∧
      b.canonical = .record n ∧ schema.upcast? a b = some upcast ∧
      schema.Route m (upcast.leading ++ [upcast.last]) n := by
  have hsome : (schema.upcast? a b).isSome = true := by
    rw [isA, decide_eq_false hne, Bool.false_or] at hkin
    rw [upcast?, if_neg hne]
    cases hr : schema.recordOf? a with
    | none =>
      rw [hr] at hkin
      cases hkin
    | some r =>
      rw [hr] at hkin
      change schema.isSubtype r.name b.canonical = true at hkin
      obtain ⟨name, hname, hrecord⟩ := Option.bind_eq_some_iff.mp hr
      obtain rfl := name_of_record? hrecord
      obtain ⟨-, hcanonical⟩ := ValueType.recordName?_eq_some_iff.mp hname
      rw [hcanonical] at hne
      rw [isSubtype, decide_eq_false hne, Bool.false_or] at hkin
      exact hkin
  obtain ⟨upcast, hupcast⟩ := Option.isSome_iff_exists.mp hsome
  obtain ⟨-, -, m, n, hm, hn, hroute⟩ := upcast?_eq_some hupcast
  exact ⟨m, n, upcast, hm, hn, hupcast, hroute⟩

end Schema

/-! ### Instructions -/

/-- The option layers on both sides are ones that a value can be moved between: for one canonical
    type equally many, one more, or one given up; for a conversion at most one on either side. -/
def Instruction.LayersFit (i : Instruction) : Prop :=
  if i.source.terminal.canonical = i.destination.terminal.canonical then
    i.destination.terminal.type.layers = i.source.terminal.type.layers ∨
      i.destination.terminal.type.layers = i.source.terminal.type.layers + 1 ∨
      i.source.terminal.type.layers = 1 ∧ i.destination.terminal.type.layers = 0
  else i.source.terminal.type.layers ≤ 1 ∧ i.destination.terminal.type.layers ≤ 1

/-- The slot has fewer layers than the value, so there has to be a value. -/
def Instruction.Unwraps (i : Instruction) : Prop :=
  i.destination.terminal.type.layers < i.source.terminal.type.layers

namespace Schema

variable {schema : Schema} {i : Instruction} {source v old : Value} {target : Target}

theorem put?_isSome_iff (hsource : i.source.terminal.kind ≠ .closed)
    (hdestination : i.destination.terminal.kind ≠ .closed)
    (hplain : i.source.terminal.isWildcard = false)
    (hkin : schema.isA i.source.terminal i.destination.terminal = true)
    (hv : v.type = i.source.terminal.type) (hold : old.type = i.destination.terminal.type)
    (fresh : Allocation) :
    (schema.put? i fresh old v).isSome ↔ i.LayersFit ∧ (i.Unwraps → v.Full) := by
  have hopen := ValueType.canonical_of_open (ValueType.closed_eq_false_of_kind hsource)
  have hopen' := ValueType.canonical_of_open (ValueType.closed_eq_false_of_kind hdestination)
  rw [Instruction.LayersFit, Instruction.Unwraps, ← hv, ← hold]
  by_cases hsame : i.source.terminal.canonical = i.destination.terminal.canonical
  · -- no supertype is proper here, so the slot itself decides
    have hcanonical : v.type.canonical = i.destination.terminal.type.canonical := by
      rw [hv, ← hopen, hsame, hopen']
    have hwild : i.destination.terminal.isWildcard = false := by
      rw [ValueType.isWildcard, ← hsame]
      exact hplain
    have hne : v.type.canonical ≠ .wildcard := by
      rw [hv]
      exact ValueType.canonical_ne_of_plain hsource hplain
    have hput : schema.put? i fresh old v = i.destination.terminal.type.accept? v := by
      simp only [put?, transfer, hwild, upcast?, if_pos hsame]
      exact ValueType.assign_of_open hdestination hold v
    rw [if_pos hsame, hput, ← hold]
    rw [← hold] at hcanonical
    exact Ty.accept?_isSome_iff hcanonical hne
  · obtain ⟨m, n, upcast, hm, hn, hupcast, hroute⟩ := exists_upcast hkin hsame
    have hwild := ValueType.isWildcard_of_record hn
    have hput : schema.put? i fresh old v = (upcast.lead v).bind (upcast.last.assign old) := by
      simp only [put?, transfer, hwild, hupcast]
      rfl
    rw [if_neg hsame, hput]
    rw [hopen, ← hv] at hm
    rw [hopen', ← hold] at hn
    exact hroute.convert_isSome_iff hm hn

/-- An instruction whose source is, or is a subtype of, what its destination takes, and which finds
    its value and its slot, succeeds exactly if the option layers of the two fit and, where layers
    have to be given up, the value is there.  Otherwise the value is unassignable and nothing
    changes. -/
theorem copy_ok_iff_layersFit {s d : RecordType} (hfaithful : schema.Faithful)
    (hs : schema.Declares s) (hd : schema.Declares d) (hmade : schema.Made s d i)
    (hsource : i.source.terminal.kind ≠ .closed)
    (hdestination : i.destination.terminal.kind ≠ .closed)
    (hplain : i.source.terminal.isWildcard = false)
    (hkin : schema.isA i.source.terminal i.destination.terminal = true)
    (hfrom : schema.Instance s source) (hinto : schema.Instance d target.value)
    (hread : i.source.read source = some v)
    (hslot : (i.destination.slot target.value).isSome = true) :
    ((schema.copy i source target).2 = .ok () ↔ i.LayersFit ∧ (i.Unwraps → v.Full)) ∧
      (¬ (i.LayersFit ∧ (i.Unwraps → v.Full)) →
        schema.copy i source target = (target, .error i.unassignable)) := by
  obtain ⟨place, hplace⟩ := Option.isSome_iff_exists.mp hslot
  rw [WritePath.slot_eq_slotAlong] at hplace
  have hv := (typed_read hmade.source hfaithful hs hfrom.2 hread).1
  have hback : ReadPath.read ⟨i.destination.toResolvedPath⟩ target.value = some place.content := by
    rw [WritePath.read_slot, hplace]
    rfl
  have hold := (typed_read (resolveRead_of_resolveWrite hmade.destination) hfaithful hd hinto.2
    hback).1
  rw [← put?_isSome_iff hsource hdestination hplain hkin hv hold target.fresh]
  cases hput : schema.put? i target.fresh place.content v with
  | none =>
    have hcopy := copy_of_put?_eq_none hread hplace hput
    simp [hcopy]
  | some content =>
    have hcopy := schema.copy_eq_of_put? target hread hplace hput
    simp [hcopy]

end Schema

/-! ### A nickname and a doubt

The nickname is taken out of its option.  A text never gets under two layers at once: the form
may leave open whether there is a text and also whether that is known, but a text that is there
does not say which of the two it means. -/

namespace Sample

def nickname : Instruction :=
  ⟨⟨"Person", ⟨"nick", []⟩, [], ⟨"Person", 2, field "nick" (.option text)⟩⟩,
    ⟨"Card", ⟨"short", []⟩, [], ⟨"Card", 2, field "short" text⟩⟩⟩

def remark : RecordType := ⟨"Remark", [field "content" text], [], [], none⟩

def form : RecordType := ⟨"Form", [doubtful], [], [], none⟩

def office : Schema := ⟨[remark, form]⟩

theorem faithful_office : office.Faithful := by
  simp [Schema.Faithful, RecordType.Faithful, Field.Faithful, office, remark, form, doubtful, field,
    Ty.valueType]

def doubt : Instruction :=
  ⟨(pathTo "Remark" 0 (field "content" text)).back, pathTo "Form" 0 doubtful⟩

def remarked : Value := .record "Remark" [written "late"]

def unfilled : Value := .record "Form" [.absent (.option text)]

theorem instance_remarked : office.Instance remark remarked := by
  refine ⟨rfl, .record (r := remark) rfl rfl ?_⟩
  simp only [List.forall_mem_singleton]
  exact .scalar _

theorem instance_unfilled : office.Instance form unfilled := by
  refine ⟨rfl, .record (r := form) rfl rfl ?_⟩
  simp only [List.forall_mem_singleton]
  exact .absent _

end Sample

theorem Schema.copy_nickname : Sample.schema.Faithful ∧ Sample.schema.Declares Sample.person ∧
    Sample.schema.Declares Sample.card ∧
    Sample.schema.Made Sample.person Sample.card Sample.nickname ∧
    Sample.nickname.source.terminal.kind ≠ .closed ∧
    Sample.nickname.destination.terminal.kind ≠ .closed ∧
    Sample.nickname.source.terminal.isWildcard = false ∧
    Sample.schema.isA Sample.nickname.source.terminal Sample.nickname.destination.terminal = true ∧
    Sample.schema.Instance Sample.person Sample.ada ∧
    Sample.schema.Instance Sample.card Sample.blank ∧
    Sample.nickname.source.read Sample.ada = some (.present (Sample.written "A")) ∧
    (Sample.nickname.destination.slot Sample.blank).isSome = true ∧
    (Sample.schema.copy Sample.nickname Sample.ada ⟨Sample.blank, 0⟩).2 = .ok () := by
  have hmade : Sample.schema.Made Sample.person Sample.card Sample.nickname := ⟨rfl, rfl, rfl⟩
  have hkind : Sample.nickname.source.terminal.kind ≠ .closed := Kind.noConfusion
  have hkind' : Sample.nickname.destination.terminal.kind ≠ .closed := Kind.noConfusion
  have hread : Sample.nickname.source.read Sample.ada =
      some (.present (Sample.written "A")) := rfl
  have hfits : Sample.nickname.LayersFit := by
    have hsame : Sample.nickname.source.terminal.canonical =
        Sample.nickname.destination.terminal.canonical := rfl
    rw [Instruction.LayersFit, if_pos hsame]
    exact .inr (.inr ⟨rfl, rfl⟩)
  obtain ⟨hok, -⟩ := @Schema.copy_ok_iff_layersFit Sample.schema Sample.nickname Sample.ada
    (.present (Sample.written "A")) ⟨Sample.blank, 0⟩ Sample.person Sample.card Sample.faithful
    rfl rfl hmade hkind hkind' rfl rfl Sample.instance_ada Sample.instance_blank hread rfl
  exact ⟨Sample.faithful, rfl, rfl, hmade, hkind, hkind', rfl, rfl, Sample.instance_ada,
    Sample.instance_blank, hread, rfl, hok.mpr ⟨hfits, fun _ => rfl⟩⟩

/-- An instruction between types of one canonical type that finds its value, which is there, and
    its slot, and cannot assign the one to the other. -/
theorem Schema.copy_doubt : Sample.office.Faithful ∧ Sample.office.Declares Sample.remark ∧
    Sample.office.Declares Sample.form ∧
    Sample.office.Made Sample.remark Sample.form Sample.doubt ∧
    Sample.doubt.source.terminal.kind ≠ .closed ∧
    Sample.doubt.destination.terminal.kind ≠ .closed ∧
    Sample.doubt.source.terminal.isWildcard = false ∧
    Sample.office.isA Sample.doubt.source.terminal Sample.doubt.destination.terminal = true ∧
    Sample.office.Instance Sample.remark Sample.remarked ∧
    Sample.office.Instance Sample.form Sample.unfilled ∧
    Sample.doubt.source.read Sample.remarked = some (Sample.written "late") ∧
    (Sample.doubt.destination.slot Sample.unfilled).isSome = true ∧
    (Sample.written "late").Full ∧
    (Sample.office.copy Sample.doubt Sample.remarked ⟨Sample.unfilled, 0⟩).2 =
      .error Sample.doubt.unassignable :=
  ⟨Sample.faithful_office, rfl, rfl, ⟨rfl, rfl, rfl⟩, Kind.noConfusion, Kind.noConfusion, rfl, rfl,
    Sample.instance_remarked, Sample.instance_unfilled, rfl, rfl, rfl, rfl⟩

end RecordCopy

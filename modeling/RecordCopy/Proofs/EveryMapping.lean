import RecordCopy.Proofs.ModePlan
import RecordCopy.Proofs.ShortestRoute

/-!
# Every mapping once

The mappings of a record type are looked up field by field, each time among all of them, by the
field their target is rooted at.  Where every target is rooted at some field and no two fields
share a name, these parts make up the whole: every mapping is come to once, in the order of the
fields and, for one field, in the order in which mappings are declared.

What a mapping comes to is either an instruction or, where no candidate is compatible with the
source, nothing, and it is logged in both cases.  So when a resolution by declared mappings
succeeds, its instructions and its log are told mapping by mapping (`resolve_every_mapping`).
-/

namespace RecordCopy

/-! ### The order of the mappings -/

namespace RecordType

variable {r : RecordType}

/-- The position of the field that the target of a mapping is rooted at. -/
def rootIndex (r : RecordType) (m : FieldMapping) : Nat :=
  r.fields.findIdx fun f => decide (m.targetRoot? = some f.name)

/-- Of two mappings with their positions the one is come to before the other: it is for an earlier
    field, or for the same field and declared earlier. -/
def ComesBefore (r : RecordType) (a b : FieldMapping × Nat) : Prop :=
  r.rootIndex a.1 < r.rootIndex b.1 ∨ r.rootIndex a.1 = r.rootIndex b.1 ∧ a.2 < b.2

def numberedFor (r : RecordType) (f : Field) : List (FieldMapping × Nat) :=
  r.mappings.zipIdx.filter fun m => decide (m.1.targetRoot? = some f.name)

theorem mem_numberedFor {f : Field} {m : FieldMapping × Nat} :
    m ∈ r.numberedFor f ↔ m ∈ r.mappings.zipIdx ∧ m.1.targetRoot? = some f.name := by
  rw [numberedFor, List.mem_filter, decide_eq_true_eq]

theorem map_fst_numberedFor (f : Field) :
    (r.numberedFor f).map Prod.fst = r.mappingsFor f.name := by
  have hall : r.mappings.zipIdx.map Prod.fst = r.mappings := List.zipIdx_map_fst 0 _
  conv_rhs => rw [mappingsFor, ← hall, List.filter_map]
  rfl

theorem rootIndex_lt {m : FieldMapping} {f : Field} (hf : f ∈ r.fields)
    (hm : m.targetRoot? = some f.name) : r.rootIndex m < r.fields.length :=
  List.findIdx_lt_length_of_exists ⟨f, hf, decide_eq_true hm⟩

theorem rootIndex_eq (hnames : (r.fields.map Field.name).Nodup) {m : FieldMapping} {k : Nat}
    (hk : k < r.fields.length) (hm : m.targetRoot? = some r.fields[k].name) :
    r.rootIndex m = k := by
  refine (List.findIdx_eq hk).mpr ⟨decide_eq_true hm, ?_⟩
  intro j hj
  refine decide_eq_false ?_
  intro hsame
  have hnames' : r.fields.Pairwise fun f g => f.name ≠ g.name := List.pairwise_map.mp hnames
  exact List.pairwise_iff_getElem.mp hnames' j k (hj.trans hk) hk hj
    (Option.some.inj (hsame.symm.trans hm))

theorem comesBefore_sorted (hnames : (r.fields.map Field.name).Nodup) :
    (r.fields.flatMap r.numberedFor).Pairwise r.ComesBefore := by
  rw [List.pairwise_flatMap]
  constructor
  · intro f hf
    obtain ⟨k, hk, rfl⟩ := List.getElem_of_mem hf
    refine ((zipIdx_sorted r.mappings).filter _).imp_of_mem ?_
    intro a b ha hb hlt
    refine .inr ⟨?_, hlt⟩
    rw [rootIndex_eq hnames hk (mem_numberedFor.mp ha).2,
      rootIndex_eq hnames hk (mem_numberedFor.mp hb).2]
  · rw [List.pairwise_iff_getElem]
    intro j k hj hk hlt a ha b hb
    refine .inl ?_
    rw [rootIndex_eq hnames hj (mem_numberedFor.mp ha).2,
      rootIndex_eq hnames hk (mem_numberedFor.mp hb).2]
    exact hlt

theorem ComesBefore.ne {a b : FieldMapping × Nat} (h : r.ComesBefore a b) : a ≠ b := by
  rintro rfl
  rcases h with h | ⟨-, h⟩
  · exact lt_irrefl _ h
  · exact lt_irrefl _ h

/-- Gathered by field, all mappings are there and none is there twice. -/
theorem numberedFor_perm (hnames : (r.fields.map Field.name).Nodup)
    (hroots : ∀ m ∈ r.mappings, ∃ f ∈ r.fields, m.targetRoot? = some f.name) :
    (r.fields.flatMap r.numberedFor).Perm r.mappings.zipIdx := by
  have hgathered : (r.fields.flatMap r.numberedFor).Nodup :=
    (comesBefore_sorted hnames).imp ComesBefore.ne
  have hdeclared : r.mappings.zipIdx.Nodup := by
    refine (zipIdx_sorted r.mappings).imp ?_
    rintro a b hlt rfl
    exact lt_irrefl _ hlt
  rw [List.perm_ext_iff_of_nodup hgathered hdeclared]
  intro m
  constructor
  · intro hm
    obtain ⟨f, -, hf⟩ := List.mem_flatMap.mp hm
    exact (mem_numberedFor.mp hf).1
  · intro hm
    obtain ⟨f, hf, hroot⟩ := hroots m.1 (List.fst_mem_of_mem_zipIdx hm)
    exact List.mem_flatMap.mpr ⟨f, hf, mem_numberedFor.mpr ⟨hm, hroot⟩⟩

end RecordType

/-! ### What findings add up to -/

namespace Finding

/-- What a finding that is no failure adds to the instructions and to the log. -/
def outcome? : Finding → Option (Option Instruction × Event)
  | .resolved i => some (some i, .instructionResolved i.source.root i.source.path.display
      i.destination.root i.destination.path.display)
  | .unmapped source destination target => some (none, .fieldUnmapped source destination target)
  | .failed _ => none

theorem collect_eq_ok {found : List Finding} {list : List Instruction}
    (h : (collect found).result = .ok list) :
    ∃ entries, List.Forall₂ (fun finding entry => finding.outcome? = some entry) found entries ∧
      list = entries.filterMap Prod.fst ∧ (collect found).events = entries.map Prod.snd := by
  induction found generalizing list with
  | nil =>
    obtain rfl := Except.ok.inj h
    exact ⟨[], .nil, rfl, rfl⟩
  | cons finding rest ih =>
    cases finding with
    | failed report => cases h
    | unmapped source destination target =>
      obtain ⟨entries, hentries, hlist, hevents⟩ := ih h
      refine ⟨_ :: entries, .cons rfl hentries, hlist, ?_⟩
      rw [collect, hevents, List.map_cons]
    | resolved i =>
      obtain ⟨others, hothers, hcons⟩ := exists_eq_ok_of_map h
      obtain ⟨entries, hentries, rfl, hevents⟩ := ih hothers
      refine ⟨_ :: entries, .cons rfl hentries, hcons.symm, ?_⟩
      rw [collect, hevents, List.map_cons]

end Finding

namespace Schema

variable {schema : Schema} {source destination : RecordType}

/-! ### What a mapping comes to -/

/-- The type that a candidate is declared for is compatible with the source type. -/
def Admits (schema : Schema) (source : RecordType) (c : Candidate) : Prop :=
  schema.compatible (some c.source.valueType) (some source.valueType) = true

/-- What a mapping comes to, and how it is logged.  The first candidate that the source admits
    says where to read, and the target where to write; without such a candidate there is no
    instruction. -/
inductive ComesTo (schema : Schema) (source destination : RecordType) (m : FieldMapping) :
    Option Instruction → Event → Prop
  | resolved {passed rest : List Candidate} {c : Candidate} {i : Instruction}
      (candidates : m.candidates = passed ++ c :: rest)
      (passedOver : ∀ other ∈ passed, ¬ schema.Admits source other)
      (admitted : schema.Admits source c)
      (reads : c.sourcePath? = some i.source.path)
      (writes : FieldPath.parse? m.target = some i.destination.path)
      (made : schema.Made source destination i) :
      ComesTo schema source destination m (some i) (.instructionResolved source.name
        i.source.path.display destination.name i.destination.path.display)
  | unmapped (noneAdmitted : ∀ c ∈ m.candidates, ¬ schema.Admits source c) :
      ComesTo schema source destination m none
        (.fieldUnmapped source.name destination.name m.target)

theorem candidateFor?_eq_some {m : FieldMapping} {c : Candidate}
    (h : schema.candidateFor? source m = some c) : schema.Admits source c ∧
      ∃ passed rest, m.candidates = passed ++ c :: rest ∧
        ∀ other ∈ passed, ¬ schema.Admits source other := by
  obtain ⟨hadmitted, passed, rest, hcandidates, hpassed⟩ := List.find?_eq_some_iff_append.mp h
  refine ⟨hadmitted, passed, rest, hcandidates, ?_⟩
  intro other hother hadmits
  have hnot := hpassed other hother
  rw [hadmits] at hnot
  cases hnot

theorem comesTo_of_findMapping {m : FieldMapping} {entry : Option Instruction × Event}
    (h : (schema.findMapping source destination m).outcome? = some entry) :
    schema.ComesTo source destination m entry.1 entry.2 := by
  rcases findMapping_cases schema source destination m with ⟨hnone, hfound⟩ |
    ⟨c, hcandidate, ⟨-, hfound⟩ | ⟨sourcePath, hreads, ⟨-, hfound⟩ | ⟨target, hwrites, hfound⟩⟩⟩
  all_goals rw [hfound] at h
  · obtain rfl := Option.some.inj h
    exact .unmapped (List.find?_eq_none.mp hnone)
  · cases h
  · cases h
  · cases hinstruction : schema.instruction source sourcePath destination target with
    | error report =>
      rw [hinstruction] at h
      cases h
    | ok i =>
      rw [hinstruction] at h
      obtain rfl := Option.some.inj h
      obtain ⟨hadmitted, passed, rest, hcandidates, hpassed⟩ := candidateFor?_eq_some hcandidate
      obtain ⟨hreading, hwriting, -⟩ := instruction_eq_ok hinstruction
      obtain ⟨hsource, rfl, -⟩ := resolveFor_eq_ok_iff.mp (resolveRead_eq_ok_iff.mp hreading)
      obtain ⟨hdestination, rfl, -⟩ :=
        resolveFor_eq_ok_iff.mp (resolveWrite_eq_ok_iff.mp hwriting)
      rw [hsource, hdestination]
      exact .resolved hcandidates hpassed hadmitted hreads hwrites
        (made_of_instruction hinstruction)

theorem ComesTo.message {m : FieldMapping} {found : Option Instruction} {event : Event}
    (h : schema.ComesTo source destination m found event) : event.message =
      if found.isSome then "Resolved mapping instruction"
      else "No candidate matches the source type, field left unmapped" := by
  cases h <;> rfl

/-! ### All mappings -/

theorem findDeclared_eq (f : Field) : schema.findDeclared source destination f =
    (destination.numberedFor f).map fun m => schema.findMapping source destination m.1 := by
  rw [findDeclared, ← RecordType.map_fst_numberedFor, List.map_map]
  rfl

/-- When the resolution by declared mappings succeeds, no mapping is lost and none counts twice.
    In the order of the fields they are rooted at, and of their declaration, the mappings come to
    the instructions that are returned, each at most to one, and to one event of the log each. -/
theorem resolve_every_mapping (schema : Schema) (source destination : RecordType)
    (hnames : (destination.fields.map Field.name).Nodup) {list : List Instruction}
    (h : (schema.resolve .annotationDriven source destination).result = .ok list) :
    ∃ (order : List (FieldMapping × Nat)) (entries : List (Option Instruction × Event)),
      order.Perm destination.mappings.zipIdx ∧
      (∀ m ∈ order, destination.rootIndex m.1 < destination.fields.length) ∧
      order.Pairwise destination.ComesBefore ∧
      List.Forall₂ (fun m entry => schema.ComesTo source destination m.1 entry.1 entry.2 ∧
        entry.2.message = if entry.1.isSome then "Resolved mapping instruction"
          else "No candidate matches the source type, field left unmapped") order entries ∧
      list = entries.filterMap Prod.fst ∧
      (schema.resolve .annotationDriven source destination).events = entries.map Prod.snd := by
  cases hstray : strayMapping? destination with
  | some m =>
    rw [(resolve_of_stray schema source hstray).1] at h
    cases h
  | none =>
    have hroots := strayMapping?_eq_none_iff.mp hstray
    have hfindings : destination.fields.flatMap
        (schema.findField .annotationDriven source destination) =
          (destination.fields.flatMap destination.numberedFor).map fun m =>
            schema.findMapping source destination m.1 := by
      rw [List.map_flatMap]
      exact List.flatMap_congr fun f _ => findDeclared_eq f
    rw [resolve_of_no_stray hstray, hfindings] at h ⊢
    obtain ⟨entries, hentries, hlist, hevents⟩ := Finding.collect_eq_ok h
    have hperm := RecordType.numberedFor_perm hnames hroots
    refine ⟨_, entries, hperm, ?_, RecordType.comesBefore_sorted hnames, ?_, hlist, hevents⟩
    · intro m hm
      obtain ⟨f, hf, hroot⟩ := hroots m.1 (List.fst_mem_of_mem_zipIdx (hperm.mem_iff.mp hm))
      exact RecordType.rootIndex_lt hf hroot
    · refine (List.forall₂_map_left_iff.mp hentries).imp ?_
      intro m entry hentry
      have hcomes := comesTo_of_findMapping hentry
      exact ⟨hcomes, hcomes.message⟩

end Schema

/-! ### A badge

Its mappings are not declared in the order of its fields: the first one is for a field of the
second field, the second one has no candidate for a person, and the last one only its second. -/

namespace Sample

def placeMapping : FieldMapping := ⟨"place.city", [.ofPath person.type "home.city"]⟩

def shortMapping : FieldMapping := ⟨"short", [.ofPath text "value"]⟩

def labelMapping : FieldMapping :=
  ⟨" label", [.ofPath text "value", .ofPath person.type "name"]⟩

def badge : RecordType := { card with
  name := "Badge", mappings := [placeMapping, shortMapping, labelMapping] }

def labelInstruction : Instruction :=
  ⟨⟨"Person", ⟨"name", []⟩, [], ⟨"Person", 0, field "name" text⟩⟩,
    ⟨"Badge", ⟨"label", []⟩, [], ⟨"Badge", 0, field "label" (.option text)⟩⟩⟩

def placeInstruction : Instruction :=
  ⟨⟨"Person", ⟨"home", ["city"]⟩, [⟨"Person", 1, field "home" address.type⟩],
      ⟨"Address", 0, field "city" text⟩⟩,
    ⟨"Badge", ⟨"place", ["city"]⟩, [⟨"Badge", 1, field "place" (.option address.type)⟩],
      ⟨"Address", 0, field "city" text⟩⟩⟩

theorem text_incompatible :
    schema.compatible (some text.valueType) (some person.valueType) = false := by
  rw [Bool.eq_false_iff]
  intro h
  -- a text is no wildcard and no record, and neither is a person a text
  rcases Schema.compatible_valueType_iff.mp h with
    h | h | (h | ⟨_, _, h, -, -⟩) | h | ⟨_, _, -, h, -⟩
  all_goals cases h

theorem candidate_label : schema.candidateFor? person labelMapping =
    some (.ofPath person.type "name") := by
  have hpassed : schema.compatible (some text.valueType) (some person.valueType) = false :=
    text_incompatible
  simp only [Schema.candidateFor?, labelMapping, Candidate.ofPath, List.find?_cons, hpassed]
  rfl

theorem candidate_short : schema.candidateFor? person shortMapping = none := by
  simp only [Schema.candidateFor?, shortMapping, Candidate.ofPath, List.find?_cons,
    text_incompatible, List.find?_nil]

theorem resolve_badge : (schema.resolve .annotationDriven person badge).result =
    .ok [labelInstruction, placeInstruction] := by
  have hfound : schema.findings .annotationDriven person badge =
      [schema.findMapping person badge labelMapping, schema.findMapping person badge placeMapping,
        schema.findMapping person badge shortMapping] := rfl
  have hshort : schema.findMapping person badge shortMapping =
      .unmapped "Person" "Badge" "short" := by
    rw [Schema.findMapping, candidate_short]
    rfl
  have hlabel : schema.findMapping person badge labelMapping =
      .resolved labelInstruction := by
    rw [Schema.findMapping, candidate_label]
    rfl
  rw [Schema.resolve, hfound, hshort, hlabel]
  rfl

end Sample

theorem Schema.resolve_every_mapping_sample : (Sample.badge.fields.map Field.name).Nodup ∧
    (Sample.schema.resolve .annotationDriven Sample.person Sample.badge).result =
      .ok [Sample.labelInstruction, Sample.placeInstruction] ∧
    ∃ (order : List (FieldMapping × Nat)) (entries : List (Option Instruction × Event)),
      order.Perm Sample.badge.mappings.zipIdx ∧ order.Pairwise Sample.badge.ComesBefore ∧
      [Sample.labelInstruction, Sample.placeInstruction] = entries.filterMap Prod.fst ∧
      entries.length = 3 := by
  have hnames : (Sample.badge.fields.map Field.name).Nodup := by decide
  obtain ⟨order, entries, hperm, -, hsorted, hcome, hlist, -⟩ :=
    Schema.resolve_every_mapping Sample.schema Sample.person Sample.badge hnames
      Sample.resolve_badge
  have hlength : entries.length = 3 := hcome.length_eq.symm.trans hperm.length_eq
  exact ⟨hnames, Sample.resolve_badge, order, entries, hperm, hsorted, hlist, hlength⟩

end RecordCopy

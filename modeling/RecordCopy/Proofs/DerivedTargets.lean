import RecordCopy.Derive.Struct
import RecordCopy.Proofs.OwnTargets
import RecordCopy.Proofs.Traversals

/-!
# What is derived from a struct has no dangling mappings

A struct that is accepted describes exactly its fields, in order, and has one mapping for each
field with an attribute that names a source type.  The settings of a field come out of two loops,
over its attributes and over the items of each; what they come to is said here without either, by
filtering (`candidateOf?`, `mappingOf?`), and the loops are shown to come to that.

The target of a mapping is the name of its field, and so is a path of one segment that the type
itself declares.  What follows from that for resolutions is a matter of such types in general
(`RecordType.OwnTargets`).
-/

namespace RecordCopy.Derive

/-! ### Candidates -/

namespace FieldItem

def source? : FieldItem → Option String
  | .source text => some text
  | _ => none

def path? : FieldItem → Option String
  | .path text => some text
  | _ => none

def container? : FieldItem → Option String
  | .container text => some text
  | _ => none

end FieldItem

/-- The candidate that the items of an attribute declare for a field, if they name a source type.
    Of several items of a kind the last one counts; without a path it is the name of the field. -/
def candidateOf? (field : String) (items : List FieldItem) : Option DerivedCandidate :=
  (items.filterMap FieldItem.source?).getLast?.map fun source =>
    ⟨source, (items.filterMap FieldItem.path?).getLast?.getD field,
      (items.filterMap FieldItem.container?).getLast?⟩

/-- The mapping of a field whose attributes have the given items: one candidate for each of those
    that name a source type, if there are any. -/
def mappingOf? (field : String) (attributes : List (List FieldItem)) : Option DerivedMapping :=
  let candidates := attributes.filterMap (candidateOf? field)
  if candidates = [] then none else some ⟨field, candidates⟩

theorem foldl_addItem (p : CandidateParts) (items : List FieldItem) :
    items.foldl CandidateParts.addItem p =
      ⟨(items.filterMap FieldItem.source?).getLast?.or p.source,
        (items.filterMap FieldItem.path?).getLast?.or p.path,
        (items.filterMap FieldItem.container?).getLast?.or p.container⟩ := by
  induction items generalizing p with
  | nil => rfl
  | cons item rest ih =>
    rw [List.foldl_cons, ih]
    cases item with
    | skip | readOnly => rfl
    | source text | path text | container text =>
      simp [CandidateParts.addItem, FieldItem.source?, FieldItem.path?, FieldItem.container?,
        List.getLast?_cons, Option.or_some]

theorem candidates_addAttribute {s t : FieldSettings} {items : List FieldItem}
    (h : s.addAttribute items = .ok t) (field : String) :
    t.candidates.map (CandidateText.derived field) =
      s.candidates.map (CandidateText.derived field) ++ (candidateOf? field items).toList := by
  simp only [FieldSettings.addAttribute, foldl_addItem, Option.or_none] at h
  unfold candidateOf?
  cases hsource : (items.filterMap FieldItem.source?).getLast? with
  | some source =>
    rw [hsource] at h
    obtain rfl := Except.ok.inj h
    simp [CandidateText.derived]
  | none =>
    rw [hsource] at h
    dsimp only at h
    -- an attribute that is accepted without a source type adds nothing
    split at h
    · cases h
    · obtain rfl := Except.ok.inj h
      simp

theorem candidates_foldlM {s t : FieldSettings} {attributes : List (List FieldItem)}
    (h : attributes.foldlM FieldSettings.addAttribute s = .ok t) (field : String) :
    t.candidates.map (CandidateText.derived field) =
      s.candidates.map (CandidateText.derived field) ++
        attributes.filterMap (candidateOf? field) := by
  rw [List.filterMap_eq_flatMap_toList, List.flatMap_def, ← List.foldl_append_eq_append]
  apply view_foldlM (fun s : FieldSettings => s.candidates.map (CandidateText.derived field)) _ _ h
  intro before after items hadd
  exact candidates_addAttribute hadd field

/-! ### Fields -/

def FieldText.items (f : FieldText) : Except DeriveFault (List (List FieldItem)) :=
  (f.attributes.filter AttributeText.isMapping).mapM (AttributeText.read FieldItem.read)

theorem exists_items_of_ofAttributes {attributes : List AttributeText} {s : FieldSettings}
    (h : FieldSettings.ofAttributes attributes = .ok s) :
    ∃ items, (attributes.filter AttributeText.isMapping).mapM (AttributeText.read FieldItem.read) =
        .ok items ∧
      items.foldlM FieldSettings.addAttribute FieldSettings.none = .ok s ∧
      (s.access = .hidden → s.candidates = []) := by
  unfold FieldSettings.ofAttributes at h
  cases hloop : (attributes.filter AttributeText.isMapping).foldlM
      (fun s (a : AttributeText) => (a.read FieldItem.read).bind s.addAttribute)
      FieldSettings.none with
  | error fault =>
    rw [hloop] at h
    cases h
  | ok settings =>
    rw [hloop] at h
    change settings.checked = .ok s at h
    unfold FieldSettings.checked at h
    split at h
    · cases h
    · rename_i hchecked
      obtain rfl := Except.ok.inj h
      obtain ⟨items, hitems, hfold⟩ := exists_mapM_of_foldlM hloop
      refine ⟨items, hitems, hfold, ?_⟩
      intro hhidden
      by_contra hcandidates
      exact hchecked ⟨hhidden, hcandidates⟩

theorem exists_items_of_part {f : FieldText} {part : FieldPart} (h : f.part = .ok part) :
    ∃ items, f.items = .ok items ∧ (part.field.name, part.field.type) = (f.name, f.type) ∧
      part.mapping = mappingOf? f.name items := by
  obtain ⟨settings, hsettings, rfl⟩ := exists_eq_ok_of_map h
  obtain ⟨items, hitems, hfold, -⟩ := exists_items_of_ofAttributes hsettings
  have hcandidates : settings.candidates.map (CandidateText.derived f.name) =
      items.filterMap (candidateOf? f.name) := candidates_foldlM hfold f.name
  refine ⟨items, hitems, rfl, ?_⟩
  simp only [FieldPart.of, mappingOf?, ← hcandidates, List.map_eq_nil_iff]

/-- The parts of a list of fields, in their order. -/
theorem exists_items_of_parts {fields : List FieldText} {parts : List FieldPart}
    (h : fields.mapM FieldText.part = .ok parts) :
    ∃ items, fields.mapM FieldText.items = .ok items ∧
      parts.map (fun p => (p.field.name, p.field.type)) = fields.map (fun f => (f.name, f.type)) ∧
      parts.filterMap FieldPart.mapping =
        (fields.zip items).filterMap fun f => mappingOf? f.1.name f.2 := by
  induction mapM_eq_ok_iff.mp h with
  | nil => exact ⟨[], rfl, rfl, rfl⟩
  | @cons f part rest more hfirst hrest ih =>
    obtain ⟨items, hitems, hfield, hmapping⟩ := exists_items_of_part hfirst
    obtain ⟨others, hothers, hfields, hmappings⟩ := ih (mapM_eq_ok_iff.mpr hrest)
    refine ⟨items :: others, ?_, ?_, ?_⟩
    · exact mapM_eq_ok_iff.mpr (.cons hitems (mapM_eq_ok_iff.mp hothers))
    · rw [List.map_cons, List.map_cons, hfield, hfields]
    · rw [List.zip_cons_cons, List.filterMap_cons, List.filterMap_cons, hmapping, hmappings]

/-! ### Structs -/

theorem exists_fields_of_normal? {d normal : ItemDecl} {number : Nat}
    (h : d.normal? = some (normal, number)) :
    normal.kind = d.kind ∧ normal.attributes = d.attributes ∧
      d.fields.mapM (FieldText.normal? (d.kind = .struct)) = some normal.fields := by
  simp only [ItemDecl.normal?, Option.bind_eq_bind, Option.bind_eq_some_iff] at h
  obtain ⟨name, -, parameters, -, fields, hfields, hwritten⟩ := h
  split at hwritten
  · obtain ⟨rfl, -⟩ := Prod.mk.inj (Option.some.inj hwritten)
    exact ⟨rfl, rfl, hfields⟩
  · cases hwritten

theorem exists_parts_of_derived {d : ItemDecl} {derived : Derived} (h : d.derived = .ok derived) :
    d.kind = .struct ∧ ∃ settings parts, d.fields.mapM FieldText.part = .ok parts ∧
      derived = Derived.of d.name settings parts := by
  unfold ItemDecl.derived at h
  split at h
  · cases h
  · cases h
  · cases h
  · rename_i hkind
    split at h
    · cases h
    · rename_i settings hsettings
      obtain ⟨parts, hparts, rfl⟩ := exists_eq_ok_of_map h
      exact ⟨hkind, settings, parts, hparts, rfl⟩

theorem exists_parts_of_derive {d : ItemDecl} {derived : Derived} (h : derive d = .ok derived) :
    ∃ fields parts name settings, d.fields.mapM (FieldText.normal? true) = some fields ∧
      fields.mapM FieldText.part = .ok parts ∧ derived = Derived.of name settings parts := by
  unfold derive at h
  split at h
  · cases h
  · rename_i normal number hnormal
    split at h
    · cases h
    · obtain ⟨hsame, -, hfields⟩ := exists_fields_of_normal? hnormal
      obtain ⟨hkind, settings, parts, hparts, rfl⟩ := exists_parts_of_derived h
      rw [← hsame, hkind] at hfields
      exact ⟨normal.fields, parts, normal.name, settings, hfields, hparts, rfl⟩

theorem canonicalSegment_of_normal? {f g : FieldText} (h : f.normal? true = some g) :
    FieldPath.CanonicalSegment g.name := by
  simp only [FieldText.normal?, if_true, Option.bind_eq_bind, Option.bind_eq_some_iff] at h
  obtain ⟨name, hname, type, -, hwritten⟩ := h
  split at hwritten
  · obtain rfl := Option.some.inj hwritten
    exact Grammar.canonicalSegment_of_givenName hname
  · cases hwritten

theorem target_of_mappingOf? {field : String} {attributes : List (List FieldItem)}
    {mapping : DerivedMapping} (h : mappingOf? field attributes = some mapping) :
    mapping.target = field := by
  simp only [mappingOf?] at h
  split at h
  · cases h
  · rw [← Option.some.inj h]

/-- The record type of a struct, field by field. -/
structure Describes (meaning : Meaning) (fields : List FieldText)
    (items : List (List (List FieldItem))) (r : RecordType) : Prop where
  fields_eq : r.fields.map (fun f => (f.name, f.stored)) =
    fields.map fun f => (f.name, meaning.type f.type)
  mappings_eq : r.mappings = (fields.zip items).filterMap fun f =>
    (mappingOf? f.1.name f.2).map (DerivedMapping.mapping meaning)

theorem Describes.of_parts (meaning : Meaning) {fields : List FieldText}
    {items : List (List (List FieldItem))} {parts : List FieldPart}
    (hfields : parts.map (fun p => (p.field.name, p.field.type)) =
      fields.map fun f => (f.name, f.type))
    (hmappings : parts.filterMap FieldPart.mapping =
      (fields.zip items).filterMap fun f => mappingOf? f.1.name f.2)
    (name : String) (settings : TypeSettings) :
    Describes meaning fields items ((Derived.of name settings parts).recordType meaning) := by
  constructor
  · have hmeant := congrArg (List.map fun f => (f.1, meaning.type f.2)) hfields
    rw [List.map_map, List.map_map] at hmeant
    simp only [Derived.recordType, Derived.of, List.map_map]
    exact hmeant
  · simp only [Derived.recordType, Derived.of, hmappings, List.map_filterMap]

theorem Describes.ownTargets {meaning : Meaning} {fields : List FieldText}
    {items : List (List (List FieldItem))} {r : RecordType}
    (h : Describes meaning fields items r)
    (hnames : ∀ f ∈ fields, FieldPath.CanonicalSegment f.name) : r.OwnTargets := by
  obtain ⟨hfields, hmappings⟩ := h
  constructor
  · intro f hf
    have hmem : (f.name, f.stored) ∈ fields.map fun g => (g.name, meaning.type g.type) := by
      rw [← hfields]
      exact List.mem_map_of_mem hf
    obtain ⟨g, hg, hsame⟩ := List.mem_map.mp hmem
    obtain ⟨hname, -⟩ := Prod.mk.inj hsame
    rw [← hname]
    exact hnames g hg
  · intro mapping hmapping
    rw [hmappings] at hmapping
    obtain ⟨⟨g, attributes⟩, hzip, hmap⟩ := List.mem_filterMap.mp hmapping
    obtain ⟨derived, hderived, rfl⟩ := Option.map_eq_some_iff.mp hmap
    have hmem : (g.name, meaning.type g.type) ∈ r.fields.map fun f => (f.name, f.stored) := by
      rw [hfields]
      exact List.mem_map.mpr ⟨g, (List.of_mem_zip hzip).1, rfl⟩
    obtain ⟨f, hf, hsame⟩ := List.mem_map.mp hmem
    obtain ⟨hname, -⟩ := Prod.mk.inj hsame
    have htarget : derived.target = g.name := target_of_mappingOf? hderived
    exact ⟨f, hf, htarget.trans hname.symm⟩

/-- What a struct that is accepted describes, whatever its types mean, has exactly its fields in
    order.  It has one mapping for each field with an attribute that names a source type, with a
    candidate for each such attribute in order.  The target of each mapping is the name of a field
    and a path of one segment.  So no resolution into the type fails for a target: a field that is
    not found is one that a candidate looks for in the source. -/
theorem derive_no_dangling {d : ItemDecl} {derived : Derived} (h : derive d = .ok derived) :
    ∃ fields items, d.fields.mapM (FieldText.normal? true) = some fields ∧
      fields.mapM FieldText.items = .ok items ∧
      ∀ meaning : Meaning, let r := derived.recordType meaning
        r.fields.map (fun f => (f.name, f.stored)) =
          fields.map (fun f => (f.name, meaning.type f.type)) ∧
        r.mappings = (fields.zip items).filterMap (fun f =>
          (mappingOf? f.1.name f.2).map (DerivedMapping.mapping meaning)) ∧
        (∀ m ∈ r.mappings, ∃ f ∈ r.fields, m.target = f.name ∧
          FieldPath.parse? m.target = some ⟨f.name, []⟩ ∧ m.targetRoot? = some f.name) ∧
        ∀ (schema : Schema) (source : RecordType) (mode : CopyMode),
          Schema.strayMapping? r = none ∧
          (∀ f ∈ r.fields, FieldPath.parse? f.name = some ⟨f.name, []⟩ ∧
            ∀ report record text, schema.resolveWrite r ⟨f.name, []⟩ = .error report →
              report.fault ≠ .fieldNotFound record text) ∧
          ∀ report record text, (schema.resolve mode source r).result = .error report →
            report.fault = .fieldNotFound record text →
              record = source.name ∧
                ∃ m ∈ r.mappings, ∃ c ∈ m.candidates, c.Misses schema source report := by
  obtain ⟨fields, parts, name, settings, hfields, hparts, rfl⟩ := exists_parts_of_derive h
  obtain ⟨items, hitems, hnames, hmappings⟩ := exists_items_of_parts hparts
  refine ⟨fields, items, hfields, hitems, ?_⟩
  intro meaning r
  have hdescribes : Describes meaning fields items r :=
    .of_parts meaning hnames hmappings name settings
  have hown : r.OwnTargets := by
    apply hdescribes.ownTargets
    intro f hf
    obtain ⟨written, -, hnormal⟩ := exists_of_mem_mapM hfields f hf
    exact canonicalSegment_of_normal? hnormal
  refine ⟨hdescribes.fields_eq, hdescribes.mappings_eq, fun m hm => hown.target hm, ?_⟩
  intro schema source mode
  refine ⟨hown.no_stray, ?_, ?_⟩
  · intro f hf
    refine ⟨(hown.names f hf).parse?, ?_⟩
    intro report record text hwrite
    exact RecordType.OwnTargets.found_for_writing hf hwrite record text
  · intro report record text hfailed hfault
    obtain ⟨m, hm, c, hc, hmisses⟩ := hown.misses_of_resolve hfailed hfault
    exact ⟨hmisses.record_eq hfault, m, hm, c, hc, hmisses⟩

namespace Sample

/-- A field with a raw name and two candidates, and one without any. -/
def visitDecl : ItemDecl :=
  { kind := .struct
    name := "Visit"
    generics := none
    attributes := []
    fields :=
      [⟨"r#type", "String",
        [⟨"mapping", some [⟨"from", .source "Patient"⟩]⟩, ⟨"serde", none⟩,
          ⟨"mapping", some [⟨"path", .text "door"⟩, ⟨"from", .source "Ward"⟩]⟩]⟩,
       ⟨"note", "Option < String >", []⟩] }

def visit : Derived :=
  { name := "Visit"
    fields := [⟨"r#type", "String", .readWrite⟩, ⟨"note", "Option<String>", .readWrite⟩]
    mappings := [⟨"r#type", [⟨"Patient", "r#type", none⟩, ⟨"Ward", "door", none⟩]⟩]
    supertypes := []
    maker := .none }

end Sample

/-- Both attributes of the field add a candidate, and whatever it is copied from, a field that is
    not found is one of the source. -/
theorem derive_no_dangling_sample : derive Sample.visitDecl = .ok Sample.visit ∧
    ∀ (meaning : Meaning) (schema : Schema) (source : RecordType) (mode : CopyMode),
      let r := Sample.visit.recordType meaning
      r.mappings.map FieldMapping.targetRoot? = [some "r#type"] ∧
      Schema.strayMapping? r = none ∧
      ∀ report record text, (schema.resolve mode source r).result = .error report →
        report.fault = .fieldNotFound record text → record = source.name := by
  have hderive : derive Sample.visitDecl = .ok Sample.visit := by decide +kernel
  refine ⟨hderive, ?_⟩
  intro meaning schema source mode r
  obtain ⟨fields, items, -, -, hall⟩ := derive_no_dangling hderive
  obtain ⟨-, -, htargets, hresolve⟩ := hall meaning
  obtain ⟨hstray, -, hfailed⟩ := hresolve schema source mode
  refine ⟨?_, hstray, ?_⟩
  · obtain ⟨f, -, htarget, -, hroot⟩ := htargets _ List.mem_cons_self
    rw [← htarget] at hroot
    exact congrArg (fun root => [root]) hroot
  · intro report record text hreport hfault
    exact (hfailed report record text hreport hfault).1

end RecordCopy.Derive

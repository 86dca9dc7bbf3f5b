import Mathlib.Data.List.Basic
import RecordCopy.Proofs.Frame
import RecordCopy.Proofs.Modes
import RecordCopy.Proofs.Names

/-!
# Copying by equal names

A field of the destination is copied by its name when it may be written and the source has a field
of that name that may be read.  Which fields these are is told from the declarations alone
(`namesakes`).  The instruction, however, is not made of the two fields: the name is read as a path,
and the path is resolved anew on either side.

For distinct names that are single segments, as identifiers are (`Derive.Word.canonicalSegment`),
the detour leads back to the same two fields.  None of its steps can fail then, and all that is left
to fail is that the types do not fit.
-/

namespace RecordCopy

/-! ### Fields at their positions -/

namespace RecordType

def boundFields (r : RecordType) : List BoundField :=
  r.fields.zipIdx.map fun f => ⟨r.name, f.2, f.1⟩

theorem map_field_boundFields (r : RecordType) : r.boundFields.map BoundField.field = r.fields := by
  rw [boundFields, List.map_map]
  exact List.zipIdx_map_fst 0 _

/-- Among distinct names every field is found by its own. -/
theorem field?_of_mem_boundFields {r : RecordType} (hdistinct : (r.fields.map Field.name).Nodup)
    {f : BoundField} (hf : f ∈ r.boundFields) : r.field? f.field.name = some f := by
  obtain ⟨⟨field, position⟩, hmem, rfl⟩ := List.mem_map.mp hf
  have hfield : r.fields[position]? = some field := List.mem_zipIdx_iff_getElem?.mp hmem
  obtain ⟨⟨owner, other, found⟩, hfound⟩ := exists_field? (List.mem_of_getElem? hfield)
  obtain ⟨rfl, hother, hname⟩ := field?_eq_some hfound
  -- two positions with one name are one position
  have hbound : other < (r.fields.map Field.name).length := by
    rw [List.length_map]
    exact (List.getElem?_eq_some_iff.mp hother).1
  have hsame : other = position := by
    apply (List.getElem?_inj hbound hdistinct).mp
    rw [List.getElem?_map, List.getElem?_map, hother, hfield]
    exact congrArg some hname
  subst hsame
  obtain rfl : found = field := Option.some.inj (hother.symm.trans hfield)
  exact hfound

end RecordType

/-! ### Namesakes -/

/-- A field of a source and a field of a destination that have one name. -/
structure Namesakes where
  source : BoundField
  destination : BoundField
deriving DecidableEq, Repr

namespace Namesakes

def name (p : Namesakes) : String := p.destination.field.name

def fit (schema : Schema) (p : Namesakes) : Bool :=
  schema.compatible (some p.source.field.type) (some p.destination.field.type)

def instruction (source destination : RecordType) (p : Namesakes) : Instruction :=
  ⟨⟨source.name, ⟨p.name, []⟩, [], p.source⟩, ⟨destination.name, ⟨p.name, []⟩, [], p.destination⟩⟩

def misfit (source destination : RecordType) (p : Namesakes) : Report :=
  ⟨.incompatibleFieldTypes source.name p.name destination.name p.name,
    ["Source field type: " ++ p.source.field.type.type.fullName ++ ", destination field type: " ++
      p.destination.field.type.type.fullName]⟩

def finding (schema : Schema) (source destination : RecordType) (p : Namesakes) : Finding :=
  if p.fit schema then .resolved (p.instruction source destination)
  else .failed (p.misfit source destination)

/-- Pairs come to their instructions, or to the failure of the first one that does not fit. -/
theorem result_collect_finding (schema : Schema) (source destination : RecordType)
    (pairs : List Namesakes) :
    (Finding.collect (pairs.map (finding schema source destination))).result =
      match pairs.find? fun p => !p.fit schema with
      | none => .ok (pairs.map (instruction source destination))
      | some p => .error (p.misfit source destination) := by
  induction pairs with
  | nil => rfl
  | cons p rest ih =>
    rw [List.map_cons, finding]
    cases hp : p.fit schema with
    | false => simp [hp, Finding.collect]
    | true =>
      simp only [if_true, Finding.collect, ih, List.find?_cons, hp, Bool.not_true]
      cases rest.find? fun p => !p.fit schema <;> rfl

end Namesakes

/-- A field of the destination with the one it is copied from by its name.  It has to be for
    writing, and the first field of that name in the source must not be hidden. -/
def namesake? (source : RecordType) (f : BoundField) : Option Namesakes :=
  if f.field.access = .readWrite then
    match source.field? f.field.name with
    | none => none
    | some g => if g.field.access = .hidden then none else some ⟨g, f⟩
  else none

/-- What is copied by equal names, in the order in which the destination declares its fields. -/
def namesakes (source destination : RecordType) : List Namesakes :=
  destination.boundFields.filterMap (namesake? source)

namespace Schema

variable {schema : Schema} {source destination : RecordType}

theorem resolveFor_name {through last : Use} {root : RecordType} {name : String} {f : BoundField}
    (hf : root.field? name = some f) (hpermitted : last.permittedBy f.field.access = true) :
    schema.resolveFor through last root ⟨name, []⟩ = .ok ⟨root.name, ⟨name, []⟩, [], f⟩ :=
  resolveFor_eq_ok_iff.mpr ⟨rfl, rfl, ⟨_, .cons hf (.nil _)⟩, by simp, hpermitted⟩

/-- The path of a common name is resolved on both sides, so the types decide. -/
theorem instruction_namesakes {p : Namesakes} (hsource : source.field? p.name = some p.source)
    (hreadable : Use.read.permittedBy p.source.field.access = true)
    (hdestination : destination.field? p.name = some p.destination)
    (hwritable : Use.write.permittedBy p.destination.field.access = true) :
    Finding.ofExcept (schema.instruction source ⟨p.name, []⟩ destination ⟨p.name, []⟩) =
      p.finding schema source destination := by
  have hread : schema.resolveFor .read .read source ⟨p.name, []⟩ = _ :=
    resolveFor_name hsource hreadable
  have hwrite : schema.resolveFor .navigate .write destination ⟨p.name, []⟩ = _ :=
    resolveFor_name hdestination hwritable
  simp only [instruction, resolveRead_eq, resolveWrite, hread, hwrite, Except.map, Namesakes.finding]
  by_cases hfit : p.fit schema = true
  · rw [if_pos hfit]
    exact congrArg Finding.ofExcept (if_pos hfit)
  · rw [if_neg hfit]
    exact congrArg Finding.ofExcept (if_neg hfit)

theorem findSameName_of_mem (hdistinct : (destination.fields.map Field.name).Nodup)
    (hnames : ∀ f ∈ destination.fields, FieldPath.CanonicalSegment f.name) {f : BoundField}
    (hf : f ∈ destination.boundFields) :
    schema.findSameName source destination f.field =
      ((namesake? source f).map (Namesakes.finding schema source destination)).toList := by
  have hdestination := RecordType.field?_of_mem_boundFields hdistinct hf
  have hdeclared : f.field ∈ destination.fields := by
    rw [← destination.map_field_boundFields]
    exact List.mem_map_of_mem hf
  have hpath := (hnames f.field hdeclared).parse?
  -- what is not for writing, or not there to be read, is left out on both sides
  unfold findSameName namesake? offers
  cases haccess : f.field.access with
  | readOnly | hidden => rfl
  | readWrite =>
    cases hsource : source.field? f.field.name with
    | none => rfl
    | some g =>
      have hwritable : Use.write.permittedBy f.field.access = true := by rw [haccess]; rfl
      cases hg : g.field.access with
      | hidden => simp [hg, Access.readable]
      | readWrite | readOnly =>
        have hreadable : Use.read.permittedBy g.field.access = true := by rw [hg]; rfl
        have hfound := @instruction_namesakes schema source destination ⟨g, f⟩ hsource hreadable
          hdestination hwritable
        simp only [Access.readable, Access.writable, Bool.and_true, if_true, hpath, hg]
        exact congrArg (fun found => [found]) hfound

/-- The findings of all fields are those of the namesakes, one after the other. -/
theorem resolve_namesakes (hdistinct : (destination.fields.map Field.name).Nodup)
    (hnames : ∀ f ∈ destination.fields, FieldPath.CanonicalSegment f.name) :
    schema.resolve .directCopy source destination = Finding.collect
      ((namesakes source destination).map (Namesakes.finding schema source destination)) := by
  have hfields : destination.fields.flatMap (schema.findField .directCopy source destination) =
      destination.boundFields.flatMap fun f =>
        schema.findField .directCopy source destination f.field := by
    rw [← List.flatMap_map BoundField.field, destination.map_field_boundFields]
  rw [resolve_directCopy, hfields, namesakes, List.map_filterMap, List.filterMap_eq_flatMap_toList]
  congr 1
  apply List.flatMap_congr
  intro f hf
  simp only [findField]
  exact findSameName_of_mem hdistinct hnames hf

/-- Copying by equal names fails for want of compatible types only.  For a destination whose field
    names are distinct segments, it finds instructions exactly if the types of all namesakes fit;
    these are then one for each pair of them, in order.  Otherwise the first pair whose types do not
    fit is reported. -/
theorem resolve_same_names (hdistinct : (destination.fields.map Field.name).Nodup)
    (hnames : ∀ f ∈ destination.fields, FieldPath.CanonicalSegment f.name) :
    let result := (schema.resolve .directCopy source destination).result
    ((∃ list, result = .ok list) ↔ ∀ p ∈ namesakes source destination, p.fit schema = true) ∧
    (∀ list, result = .ok list →
      list = (namesakes source destination).map (Namesakes.instruction source destination)) ∧
    ∀ report, result = .error report →
      ∃ before p after, namesakes source destination = before ++ p :: after ∧
        (∀ q ∈ before, q.fit schema = true) ∧ p.fit schema = false ∧
        report = p.misfit source destination := by
  intro result
  have hresult : result = _ :=
    (congrArg Resolution.result (resolve_namesakes hdistinct hnames)).trans
      (Namesakes.result_collect_finding schema source destination _)
  cases hfirst : (namesakes source destination).find? fun p => !p.fit schema with
  | none =>
    rw [hfirst] at hresult
    have hall : ∀ p ∈ namesakes source destination, p.fit schema = true := by
      simpa using List.find?_eq_none.mp hfirst
    refine ⟨iff_of_true ⟨_, hresult⟩ hall, ?_, ?_⟩
    · intro list hlist
      exact Except.ok.inj (hlist.symm.trans hresult)
    · intro report hreport
      cases hreport.symm.trans hresult
  | some p =>
    rw [hfirst] at hresult
    obtain ⟨hp, before, after, hsplit, hbefore⟩ := List.find?_eq_some_iff_append.mp hfirst
    have hunfit : p.fit schema = false := by simpa using hp
    refine ⟨iff_of_false ?_ ?_, ?_, ?_⟩
    · rintro ⟨list, hlist⟩
      cases hlist.symm.trans hresult
    · intro hall
      have hmem : p ∈ namesakes source destination := List.mem_of_find?_eq_some hfirst
      rw [hall p hmem] at hunfit
      cases hunfit
    · intro list hlist
      cases hlist.symm.trans hresult
    · intro report hreport
      exact ⟨before, p, after, hsplit, by simpa using hbefore, hunfit,
        Except.error.inj (hreport.symm.trans hresult)⟩

end Schema

/-! ### A register of patients

Of the four names the patient has in common with the register, the code is hidden in the one and
the ward not for writing in the other.  The seal cannot be copied, since the register has a number
for it. -/

namespace Sample

def register : RecordType :=
  ⟨"Register", [field "name" (.option text), field "code" ward.type,
    ⟨"ward", .readOnly, ward.valueType, ward.type, true⟩, field "seal" (.scalar (.integer .i32))],
    [], [], none⟩

def sameName : Namesakes :=
  ⟨⟨"Patient", 0, field "name" text⟩, ⟨"Register", 0, field "name" (.option text)⟩⟩

def sameSeal : Namesakes :=
  ⟨⟨"Patient", 3, ⟨"seal", .readOnly, text.valueType, text, true⟩⟩,
    ⟨"Register", 3, field "seal" (.scalar (.integer .i32))⟩⟩

end Sample

theorem Schema.resolve_same_names_sample :
    (Sample.register.fields.map Field.name).Nodup ∧
    (∀ f ∈ Sample.register.fields, FieldPath.CanonicalSegment f.name) ∧
    namesakes Sample.patient Sample.register = [Sample.sameName, Sample.sameSeal] ∧
    (Sample.clinic.resolve .directCopy Sample.patient Sample.register).result =
      .error ⟨.incompatibleFieldTypes "Patient" "seal" "Register" "seal",
        ["Source field type: alloc::string::String, destination field type: i32"]⟩ := by
  have hdistinct : (Sample.register.fields.map Field.name).Nodup := by decide
  have hnames : ∀ f ∈ Sample.register.fields, FieldPath.CanonicalSegment f.name := by
    unfold FieldPath.CanonicalSegment
    decide
  have hpairs : namesakes Sample.patient Sample.register = [Sample.sameName, Sample.sameSeal] := rfl
  obtain ⟨hok, -, hfailed⟩ := @Schema.resolve_same_names Sample.clinic Sample.patient
    Sample.register hdistinct hnames
  rw [hpairs] at hok hfailed
  refine ⟨hdistinct, hnames, hpairs, ?_⟩
  have hname : Sample.sameName.fit Sample.clinic = true := rfl
  have hseal : Sample.sameSeal.fit Sample.clinic = false := rfl
  cases hresult : (Sample.clinic.resolve .directCopy Sample.patient Sample.register).result with
  | ok list =>
    have hall := hok.mp ⟨list, hresult⟩ Sample.sameSeal (by simp)
    cases hall.symm.trans hseal
  | error report =>
    obtain ⟨before, p, after, hsplit, -, hp, rfl⟩ := hfailed report hresult
    have hmem : p ∈ [Sample.sameName, Sample.sameSeal] := by simp [hsplit]
    rcases List.mem_pair.mp hmem with rfl | rfl
    · cases hname.symm.trans hp
    · rfl

end RecordCopy

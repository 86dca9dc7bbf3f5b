import RecordCopy.Proofs.Resolution

/-!
# The leftmost problem on a path

Resolving a path follows its trail up to the first segment that stops it.  The record reached there
may have no field of the name, there may be no record to look in, or the field may not grant the
use it is wanted for.  What comes after that segment is not looked at, and what comes before it
only says which record was reached.

Reading and writing ask for different access and otherwise do the same.  They look different: for
reading all segments are followed in one go, for writing the containers first and then the last
field by itself.  As the first way comes to the same as the second (`Schema.resolveRead_eq`), this
makes no difference to which problem is reported.
-/

namespace RecordCopy

/-! ### A segment that stops a path -/

/-- The segment stops the path at the record reached, with a report: there is no record, or no field
    of the name, or no access to the field. -/
inductive RecordType.Stops (root : RecordType) (path : FieldPath) (use : Use) :
    Option RecordType → String → Report → Prop where
  | noRecord (segment : String) :
    Stops root path use none segment ⟨.fieldNotFound root.name path.display, []⟩
  | undeclared {r : RecordType} {segment : String} : (∀ f ∈ r.fields, f.name ≠ segment) →
    Stops root path use (some r) segment ⟨.fieldNotFound root.name path.display, []⟩
  | denied {r : RecordType} {segment : String} {f : BoundField} : r.field? segment = some f →
    use.permittedBy f.field.access = false →
    Stops root path use (some r) segment
      ⟨.cannotBind r.name segment
          ("field is " ++ f.field.access.display ++ ", cannot " ++ use.verb),
        ["Requested path: " ++ root.name ++ "." ++ path.display]⟩

namespace RecordType

variable {root : RecordType} {path : FieldPath} {use : Use} {owner : Option RecordType}
  {segment : String} {report : Report}

theorem field?_eq_none_iff {r : RecordType} :
    r.field? segment = none ↔ ∀ f ∈ r.fields, f.name ≠ segment := by
  constructor
  · intro h f hf hname
    obtain ⟨g, hg⟩ := exists_field? hf
    rw [hname, h] at hg
    cases hg
  · intro h
    rw [Option.eq_none_iff_forall_ne_some]
    intro f hf
    obtain ⟨-, hposition, hname⟩ := field?_eq_some hf
    exact h f.field (List.mem_of_getElem? hposition) hname

theorem fieldFor_eq_error_iff :
    root.fieldFor path use owner segment = .error report ↔
      root.Stops path use owner segment report := by
  constructor
  · intro h
    unfold fieldFor at h
    split at h
    · rename_i hnone
      obtain rfl := Except.error.inj h
      cases owner with
      | none => exact .noRecord segment
      | some r => exact .undeclared (field?_eq_none_iff.mp hnone)
    · rename_i f hf
      split at h
      · cases h
      · rename_i hdenied
        obtain rfl := Except.error.inj h
        obtain ⟨r, rfl, hfield⟩ := Option.bind_eq_some_iff.mp hf
        obtain ⟨howner, -, hname⟩ := field?_eq_some hfield
        have hstops : root.Stops path use (some r) segment _ :=
          .denied hfield (Bool.eq_false_iff.mpr hdenied)
        rw [← howner, ← hname] at hstops
        rw [← hname]
        exact hstops
  · intro h
    cases h with
    | noRecord => rfl
    | undeclared hnone =>
      rw [fieldFor, Option.bind_some, field?_eq_none_iff.mpr hnone]
      rfl
    | denied hfield hdenied =>
      obtain ⟨howner, -, hname⟩ := field?_eq_some hfield
      rw [fieldFor, Option.bind_some, hfield]
      simp [hdenied, noAccess, howner, hname, Report.of, Report.note]

end RecordType

namespace Schema

variable {schema : Schema} {root : RecordType} {path : FieldPath} {report : Report}

/-! ### The first one on a path -/

/-- A path that is followed with one use and ends with another is stopped by its leftmost segment
    that cannot be followed. -/
def StoppedBy (schema : Schema) (through last : Use) (root : RecordType) (path : FieldPath)
    (report : Report) : Prop :=
  ∃ before segment after fields reached, path.segments = before ++ segment :: after ∧
    schema.Trail (some root) before fields reached ∧
    (∀ f ∈ fields, through.permittedBy f.field.access = true) ∧
    root.Stops path (if after = [] then last else through) reached segment report

theorem fieldsAlong_eq_error_iff {use : Use} {owner : Option RecordType} {names : List String} :
    schema.fieldsAlong root path use owner names = .error report ↔
      ∃ before segment after fields reached, names = before ++ segment :: after ∧
        schema.Trail owner before fields reached ∧
        (∀ f ∈ fields, use.permittedBy f.field.access = true) ∧
        root.Stops path use reached segment report := by
  induction names generalizing owner with
  | nil => simp [fieldsAlong]
  | cons name rest ih =>
    rw [fieldsAlong]
    constructor
    · intro h
      split at h
      · rename_i raised hfirst
        obtain rfl := Except.error.inj h
        exact ⟨[], name, rest, [], owner, rfl, .nil owner, by simp,
          RecordType.fieldFor_eq_error_iff.mp hfirst⟩
      · rename_i f hf
        obtain ⟨hfield, hpermitted⟩ := RecordType.fieldFor_eq_ok_iff.mp hf
        obtain ⟨r, rfl, hfield⟩ := Option.bind_eq_some_iff.mp hfield
        split at h
        · rename_i raised hrest
          obtain rfl := Except.error.inj h
          obtain ⟨before, segment, after, fields, reached, rfl, htrail, hall, hstops⟩ :=
            ih.mp hrest
          exact ⟨name :: before, segment, after, f :: fields, reached, rfl, .cons hfield htrail,
            List.forall_mem_cons.mpr ⟨hpermitted, hall⟩, hstops⟩
        · cases h
    · rintro ⟨before, segment, after, fields, reached, hnames, htrail, hall, hstops⟩
      cases htrail with
      | nil =>
        obtain ⟨rfl, rfl⟩ := List.cons.inj hnames
        rw [RecordType.fieldFor_eq_error_iff.mpr hstops]
      | @cons r f _ names fields _ hfield htrail =>
        obtain ⟨rfl, hrest⟩ := List.cons.inj hnames
        obtain ⟨hpermitted, hall⟩ := List.forall_mem_cons.mp hall
        have hf : root.fieldFor path use (some r) name = .ok f :=
          RecordType.fieldFor_eq_ok_iff.mpr ⟨hfield, hpermitted⟩
        have hfailed : schema.fieldsAlong root path use (schema.recordOf? f.field.type) rest =
            .error report :=
          ih.mpr ⟨names, segment, after, fields, reached, hrest, htrail, hall, hstops⟩
        simp only [hf, hfailed]

theorem resolveFor_eq_error_iff {through last : Use} :
    schema.resolveFor through last root path = .error report ↔
      schema.StoppedBy through last root path report := by
  unfold resolveFor
  constructor
  · intro h
    split at h
    · rename_i raised hcontainers
      obtain rfl := Except.error.inj h
      obtain ⟨before, segment, after, fields, reached, hnames, htrail, hall, hstops⟩ :=
        fieldsAlong_eq_error_iff.mp hcontainers
      refine ⟨before, segment, after ++ [path.leaf], fields, reached, ?_, htrail, hall, ?_⟩
      · rw [← path.containers_append_leaf, hnames, List.append_assoc, List.cons_append]
      · rw [if_neg (by simp)]
        exact hstops
    · rename_i containers hcontainers
      obtain ⟨htrail, hall⟩ := fieldsAlong_eq_ok_iff.mp hcontainers
      refine ⟨path.containers, path.leaf, [], containers, _, path.containers_append_leaf.symm,
        htrail, hall, ?_⟩
      rw [if_pos rfl]
      exact RecordType.fieldFor_eq_error_iff.mp (map_eq_error_iff.mp h)
  · rintro ⟨before, segment, after, fields, reached, hsegments, htrail, hall, hstops⟩
    rw [← path.containers_append_leaf] at hsegments
    rcases after.eq_nil_or_concat with rfl | ⟨after, name, rfl⟩
    · -- the containers are passed, and the last field is the problem
      obtain ⟨hbefore, hsegment⟩ := List.append_inj' hsegments rfl
      obtain ⟨rfl, -⟩ := List.cons.inj hsegment
      have hreached := htrail.last_eq
      subst hreached
      subst hbefore
      have hcontainers : schema.fieldsAlong root path through (some root) path.containers =
          .ok fields := fieldsAlong_eq_ok_iff.mpr ⟨htrail, hall⟩
      rw [if_pos rfl] at hstops
      have hleaf : root.fieldFor path last (schema.reached root fields) path.leaf =
          .error report := RecordType.fieldFor_eq_error_iff.mpr hstops
      simp only [hcontainers, hleaf]
      rfl
    · -- one of the containers is the problem
      rw [List.concat_eq_append, ← List.cons_append, ← List.append_assoc] at hsegments
      obtain ⟨hcontainers, -⟩ := List.append_inj' hsegments rfl
      rw [if_neg (by simp)] at hstops
      have hfailed : schema.fieldsAlong root path through (some root) path.containers =
          .error report := by
        rw [hcontainers]
        exact fieldsAlong_eq_error_iff.mpr
          ⟨before, segment, after, fields, reached, rfl, htrail, hall, hstops⟩
      simp only [hfailed]

/-- A path that is not found is one of the type it was looked for in. -/
theorem notFound_of_resolveFor {through last : Use}
    (h : schema.resolveFor through last root path = .error report) {record text : String}
    (hfault : report.fault = .fieldNotFound record text) :
    record = root.name ∧ text = path.display := by
  obtain ⟨before, segment, after, fields, reached, -, -, -, hstops⟩ :=
    resolveFor_eq_error_iff.mp h
  cases hstops with
  | noRecord | undeclared =>
    obtain ⟨hrecord, htext⟩ := Fault.fieldNotFound.inj hfault
    exact ⟨hrecord.symm, htext.symm⟩
  | denied => cases hfault

/-- The name of a field is found, whether there is access to the field or not. -/
theorem found_of_field? {through last : Use} {name : String} {f : BoundField}
    (hf : root.field? name = some f)
    (h : schema.resolveFor through last root ⟨name, []⟩ = .error report) (record text : String) :
    report.fault ≠ .fieldNotFound record text := by
  obtain ⟨before, segment, after, fields, reached, hsegments, htrail, -, hstops⟩ :=
    resolveFor_eq_error_iff.mp h
  -- nothing leads to a path of one name, so all there is to fail is the field itself
  obtain ⟨rfl, hsegment⟩ := List.append_eq_singleton_iff.mp hsegments.symm |>.resolve_right
    fun hnone => List.cons_ne_nil _ _ hnone.2
  obtain ⟨rfl, -⟩ := List.cons.inj hsegment
  obtain ⟨-, rfl⟩ := htrail.of_nil
  cases hstops with
  | undeclared hnone =>
    rw [RecordType.field?_eq_none_iff.mpr hnone] at hf
    cases hf
  | denied => exact Fault.noConfusion

/-! ### Reading against writing -/

theorem resolveWrite_of_resolveRead {p : ReadPath} (h : schema.resolveRead root path = .ok p)
    (hall : ∀ f ∈ p.fields, f.field.access = .readWrite) :
    schema.resolveWrite root path = .ok ⟨p.toResolvedPath⟩ := by
  obtain ⟨hroot, hpath, htrail, -, -⟩ := resolveFor_eq_ok_iff.mp (resolveRead_eq_ok_iff.mp h)
  obtain ⟨hcontainers, hleaf⟩ := ResolvedPath.forall_mem_fields.mp hall
  refine resolveWrite_eq_ok_iff.mpr (resolveFor_eq_ok_iff.mpr ⟨hroot, hpath, htrail, ?_, ?_⟩)
  · intro f hf
    rw [hcontainers f hf]
    rfl
  · rw [hleaf]
    rfl

theorem exists_resolveRead {fields : List BoundField} {last : Option RecordType}
    (htrail : schema.Trail (some root) path.segments fields last)
    (hall : ∀ f ∈ fields, f.field.access.readable = true) :
    ∃ p, schema.resolveRead root path = .ok p := by
  rcases fields.eq_nil_or_concat with rfl | ⟨containers, leaf, rfl⟩
  · cases htrail
  · rw [List.concat_eq_append] at htrail hall
    obtain ⟨hcontainers, hleaf⟩ := List.forall_mem_append.mp hall
    refine ⟨⟨⟨root.name, path, containers, leaf⟩⟩, ?_⟩
    exact resolveRead_eq_ok_iff.mpr (resolveFor_eq_ok_iff.mpr
      ⟨rfl, rfl, ⟨last, htrail⟩, hcontainers, hleaf leaf List.mem_cons_self⟩)

theorem Trail.length_eq {owner last : Option RecordType} {names : List String}
    {fields : List BoundField} (h : schema.Trail owner names fields last) :
    names.length = fields.length := by
  induction h with
  | nil => rfl
  | cons _ _ ih => rw [List.length_cons, List.length_cons, ih]

/-- A path is read exactly along a trail without a hidden field, and written exactly if it is read
    and all of its fields are for reading and writing; then both end in the same type, and as many
    fields lead to the last one as there are segments before it.  Whatever else becomes of it is
    decided by its leftmost problem. -/
theorem resolve_leftmost (schema : Schema) (root : RecordType) (path : FieldPath) :
    ((∃ p, schema.resolveRead root path = .ok p) ↔
      ∃ fields last, schema.Trail (some root) path.segments fields last ∧
        ∀ f ∈ fields, f.field.access ≠ .hidden) ∧
    ((∃ q, schema.resolveWrite root path = .ok q) ↔
      ∃ p last, schema.resolveRead root path = .ok p ∧
        schema.Trail (some root) path.segments p.fields last ∧
        ∀ f ∈ p.fields, f.field.access = .readWrite) ∧
    (∀ q, schema.resolveWrite root path = .ok q →
      ∃ p, schema.resolveRead root path = .ok p ∧ p.terminal = q.terminal ∧
        q.depth + 1 = path.length) ∧
    (∀ report, schema.resolveRead root path = .error report ↔
      schema.StoppedBy .read .read root path report) ∧
    ∀ report, schema.resolveWrite root path = .error report ↔
      schema.StoppedBy .navigate .write root path report := by
  have hreadable : ∀ access : Access, access.readable = true ↔ access ≠ .hidden := by
    intro access
    cases access <;> simp [Access.readable]
  refine ⟨?read, ?write, ?same, fun _ => resolveRead_eq_error_iff.trans resolveFor_eq_error_iff,
    fun _ => resolveWrite_eq_error_iff.trans resolveFor_eq_error_iff⟩
  case read =>
    simp only [← hreadable]
    constructor
    · rintro ⟨p, hp⟩
      obtain ⟨⟨last, htrail⟩, hall⟩ := readable_of_resolveRead hp
      exact ⟨p.fields, last, htrail, hall⟩
    · rintro ⟨fields, last, htrail, hall⟩
      exact exists_resolveRead htrail hall
  case write =>
    constructor
    · rintro ⟨q, hq⟩
      obtain ⟨⟨last, htrail⟩, hall⟩ := readWrite_of_resolveWrite hq
      exact ⟨⟨q.toResolvedPath⟩, last, resolveRead_of_resolveWrite hq, htrail, hall⟩
    · rintro ⟨p, last, hp, -, hall⟩
      exact ⟨_, resolveWrite_of_resolveRead hp hall⟩
  case same =>
    intro q hq
    obtain ⟨⟨last, htrail⟩, -⟩ := readWrite_of_resolveWrite hq
    refine ⟨⟨q.toResolvedPath⟩, resolveRead_of_resolveWrite hq, rfl, ?_⟩
    rw [FieldPath.length, htrail.length_eq, ResolvedPath.fields, List.length_append]
    rfl

end Schema

end RecordCopy

import RecordCopy.Proofs.Slot
import RecordCopy.Typing

/-!
# What resolution finds

A path is resolved exactly along a `Trail`, with every field granting the use it is
wanted for.  Since whatever may be written may be read, a path that is resolved for
writing is resolved for reading, with the same fields.

Two facts about trails carry over to values.  Trails of unrelated paths part at two
positions of one record.  And what is read along a trail out of a well-typed value is
well typed, of the type the last field is declared with.
-/

namespace RecordCopy

/-! ### Results that are mapped -/

theorem map_eq_error_iff {α β ε : Type} {f : α → β} {result : Except ε α} {e : ε} :
    result.map f = .error e ↔ result = .error e := by
  cases result <;> simp [Except.map]

theorem exists_eq_ok_of_map {α β ε : Type} {f : α → β} {result : Except ε α} {b : β}
    (h : result.map f = .ok b) : ∃ a, result = .ok a ∧ f a = b := by
  cases result with
  | error e => cases h
  | ok a => exact ⟨a, rfl, Except.ok.inj h⟩

/-! ### Fields of a record type -/

theorem RecordType.field?_eq_some {r : RecordType} {name : String} {f : BoundField}
    (h : r.field? name = some f) :
    f.owner = r.name ∧ r.fields[f.position]? = some f.field ∧ f.field.name = name := by
  obtain ⟨⟨field, position⟩, hfind, rfl⟩ := Option.map_eq_some_iff.mp h
  have hmem := List.mem_of_find?_eq_some hfind
  refine ⟨rfl, ?_, by simpa using List.find?_some hfind⟩
  exact List.mem_zipIdx_iff_getElem?.mp hmem

theorem RecordType.exists_field? {r : RecordType} {f : Field} (hf : f ∈ r.fields) :
    ∃ g, r.field? f.name = some g := by
  obtain ⟨position, hposition⟩ := List.mem_iff_getElem?.mp hf
  have hmem : (f, position) ∈ r.fields.zipIdx := List.mem_zipIdx_iff_getElem?.mpr hposition
  have hsome : (r.fields.zipIdx.find? fun g => decide (g.1.name = f.name)).isSome = true :=
    List.find?_isSome.mpr ⟨(f, position), hmem, decide_eq_true rfl⟩
  obtain ⟨found, hfound⟩ := Option.isSome_iff_exists.mp hsome
  exact ⟨⟨r.name, found.2, found.1⟩, by rw [field?, hfound, Option.map_some]⟩

/-- Whatever may be used in any way may be read. -/
theorem Use.permittedBy_read {use : Use} {access : Access} (h : use.permittedBy access = true) :
    Use.read.permittedBy access = true := by
  cases use <;> cases access <;> first | rfl | cases h

theorem Use.readWrite_of_navigate {access : Access} (h : Use.navigate.permittedBy access = true) :
    access = .readWrite := by
  cases access <;> first | rfl | cases h

theorem Use.readWrite_of_write {access : Access} (h : Use.write.permittedBy access = true) :
    access = .readWrite := by
  cases access <;> first | rfl | cases h

theorem ResolvedPath.forall_mem_fields {p : ResolvedPath} {P : BoundField → Prop} :
    (∀ f ∈ p.fields, P f) ↔ (∀ f ∈ p.containers, P f) ∧ P p.leaf := by
  rw [fields, List.forall_mem_append, List.forall_mem_singleton]

theorem RecordType.fieldFor_eq_ok_iff {root : RecordType} {path : FieldPath} {use : Use}
    {owner : Option RecordType} {segment : String} {f : BoundField} :
    root.fieldFor path use owner segment = .ok f ↔
      owner.bind (·.field? segment) = some f ∧ use.permittedBy f.field.access = true := by
  unfold fieldFor
  cases owner.bind (·.field? segment) with
  | none => simp
  | some g =>
    by_cases hg : use.permittedBy g.field.access = true
    · simp only [hg, if_true, Except.ok.injEq, Option.some.injEq]
      constructor
      · rintro rfl
        exact ⟨rfl, hg⟩
      · exact And.left
    · simp only [hg, Option.some.injEq]
      constructor
      · intro h
        cases h
      · rintro ⟨rfl, hf⟩
        exact absurd hf hg

namespace Schema

variable {schema : Schema}

/-! ### Trails -/

def endOf (schema : Schema) (owner : Option RecordType) (fields : List BoundField) :
    Option RecordType :=
  match fields.getLast? with
  | none => owner
  | some f => schema.recordOf? f.field.type

theorem endOf_cons (owner : Option RecordType) (f : BoundField) (fields : List BoundField) :
    schema.endOf owner (f :: fields) = schema.endOf (schema.recordOf? f.field.type) fields := by
  unfold endOf
  cases fields with
  | nil => rfl
  | cons g gs =>
    rw [List.getLast?_cons_cons]
    cases h : (g :: gs).getLast? with
    | none => simp at h
    | some last => rfl

theorem Trail.last_eq {owner last : Option RecordType} {names : List String}
    {fields : List BoundField} (h : schema.Trail owner names fields last) :
    last = schema.endOf owner fields := by
  induction h with
  | nil owner => rfl
  | cons _ _ ih => rw [endOf_cons]; exact ih

theorem Trail.append {owner middle last : Option RecordType} {names more : List String}
    {fs gs : List BoundField} (h : schema.Trail owner names fs middle)
    (hmore : schema.Trail middle more gs last) :
    schema.Trail owner (names ++ more) (fs ++ gs) last := by
  induction h with
  | nil owner => exact hmore
  | cons hfield _ ih => exact .cons hfield (ih hmore)

theorem Trail.split {owner last : Option RecordType} {names more : List String}
    {fields : List BoundField} (h : schema.Trail owner (names ++ more) fields last) :
    ∃ fs gs middle, fields = fs ++ gs ∧ schema.Trail owner names fs middle ∧
      schema.Trail middle more gs last := by
  induction names generalizing owner fields with
  | nil => exact ⟨[], fields, owner, rfl, .nil owner, h⟩
  | cons name names ih =>
    cases h with
    | @cons r f _ _ fields _ hfield hrest =>
      obtain ⟨fs, gs, middle, rfl, hfs, hgs⟩ := ih hrest
      exact ⟨f :: fs, gs, middle, rfl, .cons hfield hfs, hgs⟩

theorem Trail.of_nil {owner last : Option RecordType} {fields : List BoundField}
    (h : schema.Trail owner [] fields last) : fields = [] ∧ last = owner := by
  cases h
  exact ⟨rfl, rfl⟩

theorem trail_singleton_iff {owner last : Option RecordType} {name : String}
    {fields : List BoundField} : schema.Trail owner [name] fields last ↔
      ∃ f, owner.bind (·.field? name) = some f ∧ fields = [f] ∧
        last = schema.recordOf? f.field.type := by
  constructor
  · intro h
    cases h with
    | cons hfield hrest =>
      obtain ⟨rfl, rfl⟩ := hrest.of_nil
      exact ⟨_, hfield, rfl, rfl⟩
  · rintro ⟨f, hf, rfl, rfl⟩
    obtain ⟨r, rfl, hfield⟩ := Option.bind_eq_some_iff.mp hf
    exact .cons hfield (.nil _)

/-- Trails along names neither of which leads to the other part at two positions of one
    record: up to there they pass the same fields. -/
theorem Trail.apart {owner last last' : Option RecordType} {names names' : List String}
    {fs gs : List BoundField} (h : schema.Trail owner names fs last)
    (h' : schema.Trail owner names' gs last') (hnot : ¬ names <+: names')
    (hnot' : ¬ names' <+: names) : Apart fs gs := by
  induction h generalizing names' gs with
  | nil owner => exact absurd (List.nil_prefix) hnot
  | @cons r f name names fields last hfield _ ih =>
    cases h' with
    | nil => exact absurd (List.nil_prefix) hnot'
    | @cons _ g name' names' fields' _ hfield' hrest' =>
      obtain ⟨howner, hposition, hname⟩ := RecordType.field?_eq_some hfield
      obtain ⟨howner', hposition', hname'⟩ := RecordType.field?_eq_some hfield'
      by_cases hsame : name = name'
      · subst hsame
        obtain rfl : f = g := Option.some.inj (hfield.symm.trans hfield')
        refine .there (ih hrest' ?_ ?_)
        · exact fun hp => hnot (List.cons_prefix_cons.mpr ⟨rfl, hp⟩)
        · exact fun hp => hnot' (List.cons_prefix_cons.mpr ⟨rfl, hp⟩)
      · refine .here (howner.trans howner'.symm) fun hpos => hsame ?_
        rw [hpos, hposition'] at hposition
        rw [← hname, ← hname', Option.some.inj hposition]

/-- A trail along more names begins with the fields of the trail along fewer. -/
theorem Trail.fields_prefix {owner last last' : Option RecordType} {names names' : List String}
    {fs gs : List BoundField} (h : schema.Trail owner names fs last)
    (h' : schema.Trail owner names' gs last') (hnames : names <+: names') : fs <+: gs := by
  induction h generalizing names' gs with
  | nil owner => exact List.nil_prefix
  | @cons r f name names fields last hfield _ ih =>
    cases h' with
    | nil => exact absurd (List.prefix_nil.mp hnames) (List.cons_ne_nil _ _)
    | @cons _ g name' names' fields' _ hfield' hrest' =>
      obtain ⟨rfl, hmore⟩ := List.cons_prefix_cons.mp hnames
      obtain rfl : f = g := Option.some.inj (hfield.symm.trans hfield')
      exact List.cons_prefix_cons.mpr ⟨rfl, ih hrest' hmore⟩

/-! ### Resolution along trails -/

theorem fieldsAlong_eq_ok_iff {root : RecordType} {path : FieldPath} {use : Use}
    {owner : Option RecordType} {segments : List String} {fields : List BoundField} :
    schema.fieldsAlong root path use owner segments = .ok fields ↔
      schema.Trail owner segments fields (schema.endOf owner fields) ∧
        ∀ f ∈ fields, use.permittedBy f.field.access = true := by
  induction segments generalizing owner fields with
  | nil =>
    simp only [fieldsAlong, Except.ok.injEq]
    constructor
    · rintro rfl
      exact ⟨.nil owner, by simp⟩
    · rintro ⟨h, -⟩
      cases h
      rfl
  | cons segment rest ih =>
    rw [fieldsAlong]
    constructor
    · intro h
      split at h
      · cases h
      · rename_i f hf
        obtain ⟨hfield, hpermitted⟩ := RecordType.fieldFor_eq_ok_iff.mp hf
        obtain ⟨r, rfl, hfield⟩ := Option.bind_eq_some_iff.mp hfield
        split at h
        · cases h
        · rename_i fs hfs
          cases h
          obtain ⟨htrail, hall⟩ := ih.mp hfs
          rw [endOf_cons]
          exact ⟨.cons hfield htrail, List.forall_mem_cons.mpr ⟨hpermitted, hall⟩⟩
    · rintro ⟨htrail, hall⟩
      rw [htrail.last_eq] at htrail
      cases htrail with
      | @cons r f _ _ fs _ hfield hrest =>
        obtain ⟨hpermitted, hall⟩ := List.forall_mem_cons.mp hall
        have hf : root.fieldFor path use (some r) segment = .ok f :=
          RecordType.fieldFor_eq_ok_iff.mpr ⟨hfield, hpermitted⟩
        rw [endOf_cons] at hrest
        have hfs : schema.fieldsAlong root path use (schema.recordOf? f.field.type) rest = .ok fs :=
          ih.mpr ⟨hrest, hall⟩
        simp only [hf, hfs]

/-- One segment more is looked up where the ones before it lead. -/
theorem fieldsAlong_concat (root : RecordType) (path : FieldPath) (use : Use)
    (owner : Option RecordType) (segments : List String) (segment : String) :
    schema.fieldsAlong root path use owner (segments ++ [segment]) =
      match schema.fieldsAlong root path use owner segments with
      | .error report => .error report
      | .ok fields => (root.fieldFor path use (schema.endOf owner fields) segment).map
          fun f => fields ++ [f] := by
  induction segments generalizing owner with
  | nil =>
    simp only [List.nil_append, fieldsAlong, endOf, List.getLast?_nil]
    cases root.fieldFor path use owner segment <;> rfl
  | cons first rest ih =>
    simp only [List.cons_append, fieldsAlong]
    cases root.fieldFor path use owner first with
    | error report => rfl
    | ok f =>
      simp only [ih]
      cases schema.fieldsAlong root path use (schema.recordOf? f.field.type) rest with
      | error report => rfl
      | ok fs =>
        simp only [endOf_cons]
        cases root.fieldFor path use _ segment <;> rfl

/-- Following all segments in one go comes to the same as following the containers and looking
    for the last field behind them. -/
theorem resolveRead_eq (schema : Schema) (root : RecordType) (path : FieldPath) :
    schema.resolveRead root path = (schema.resolveFor .read .read root path).map ReadPath.mk := by
  unfold resolveRead resolveFor
  rw [← path.containers_append_leaf, fieldsAlong_concat]
  cases schema.fieldsAlong root path .read (some root) path.containers with
  | error report => rfl
  | ok containers =>
    have hreached : schema.reached root containers = schema.endOf (some root) containers := rfl
    simp only [hreached]
    cases root.fieldFor path .read (schema.endOf (some root) containers) path.leaf with
    | error report => rfl
    | ok leaf => simp only [Except.map, List.getLast?_concat, List.dropLast_concat]

/-- A path is resolved along a trail whose fields all grant the use they are wanted for. -/
theorem resolveFor_eq_ok_iff {through last : Use} {root : RecordType} {path : FieldPath}
    {p : ResolvedPath} : schema.resolveFor through last root path = .ok p ↔
      p.root = root.name ∧ p.path = path ∧
        (∃ reached, schema.Trail (some root) path.segments p.fields reached) ∧
        (∀ f ∈ p.containers, through.permittedBy f.field.access = true) ∧
        last.permittedBy p.leaf.field.access = true := by
  have hreached : ∀ fields, schema.reached root fields = schema.endOf (some root) fields :=
    fun _ => rfl
  unfold resolveFor
  constructor
  · intro h
    split at h
    · cases h
    · rename_i containers hcontainers
      obtain ⟨htrail, hall⟩ := fieldsAlong_eq_ok_iff.mp hcontainers
      cases hleaf : root.fieldFor path last (schema.reached root containers) path.leaf with
      | error report => rw [hleaf] at h; cases h
      | ok leaf =>
        rw [hleaf] at h
        cases h
        obtain ⟨hfield, hpermitted⟩ := RecordType.fieldFor_eq_ok_iff.mp hleaf
        rw [hreached] at hfield
        have hlast : schema.Trail (schema.endOf (some root) containers) [path.leaf] [leaf]
            (schema.recordOf? leaf.field.type) :=
          trail_singleton_iff.mpr ⟨leaf, hfield, rfl, rfl⟩
        have hwhole := htrail.append hlast
        rw [FieldPath.containers_append_leaf] at hwhole
        exact ⟨rfl, rfl, ⟨_, hwhole⟩, hall, hpermitted⟩
  · obtain ⟨name, pathOf, containers, leaf⟩ := p
    rintro ⟨rfl, rfl, ⟨reached, htrail⟩, hall, hpermitted⟩
    rw [← FieldPath.containers_append_leaf] at htrail
    obtain ⟨fs, gs, middle, hfields, hfs, hgs⟩ := htrail.split
    obtain ⟨g, hg, rfl, -⟩ := trail_singleton_iff.mp hgs
    obtain ⟨rfl, hlast⟩ := List.append_inj' hfields rfl
    obtain rfl : leaf = g := (List.cons.inj hlast).1
    have hmiddle := hfs.last_eq
    subst hmiddle
    have hcontainers : schema.fieldsAlong root pathOf through (some root) pathOf.containers =
        .ok containers := fieldsAlong_eq_ok_iff.mpr ⟨hfs, hall⟩
    have hleaf : root.fieldFor pathOf last (schema.reached root containers) pathOf.leaf =
        .ok leaf := RecordType.fieldFor_eq_ok_iff.mpr ⟨hg, hpermitted⟩
    simp only [hcontainers, hleaf]
    rfl

theorem resolveRead_eq_ok_iff {root : RecordType} {path : FieldPath} {p : ReadPath} :
    schema.resolveRead root path = .ok p ↔
      schema.resolveFor .read .read root path = .ok p.toResolvedPath := by
  rw [resolveRead_eq]
  cases schema.resolveFor .read .read root path with
  | error report => simp [Except.map]
  | ok q => cases p; simp [Except.map]

theorem resolveWrite_eq_ok_iff {root : RecordType} {path : FieldPath} {p : WritePath} :
    schema.resolveWrite root path = .ok p ↔
      schema.resolveFor .navigate .write root path = .ok p.toResolvedPath := by
  unfold resolveWrite
  cases schema.resolveFor .navigate .write root path with
  | error report => simp [Except.map]
  | ok q => cases p; simp [Except.map]

theorem resolveRead_eq_error_iff {root : RecordType} {path : FieldPath} {report : Report} :
    schema.resolveRead root path = .error report ↔
      schema.resolveFor .read .read root path = .error report := by
  rw [resolveRead_eq]
  exact map_eq_error_iff

theorem resolveWrite_eq_error_iff {root : RecordType} {path : FieldPath} {report : Report} :
    schema.resolveWrite root path = .error report ↔
      schema.resolveFor .navigate .write root path = .error report :=
  map_eq_error_iff

/-- A path that is resolved for writing is resolved for reading, with the same fields. -/
theorem resolveRead_of_resolveWrite {root : RecordType} {path : FieldPath} {p : WritePath}
    (h : schema.resolveWrite root path = .ok p) :
    schema.resolveRead root path = .ok ⟨p.toResolvedPath⟩ := by
  obtain ⟨hroot, hpath, htrail, hall, hleaf⟩ :=
    resolveFor_eq_ok_iff.mp (resolveWrite_eq_ok_iff.mp h)
  exact resolveRead_eq_ok_iff.mpr (resolveFor_eq_ok_iff.mpr
    ⟨hroot, hpath, htrail, fun f hf => Use.permittedBy_read (hall f hf),
      Use.permittedBy_read hleaf⟩)

/-- A path resolved for reading goes through fields that may be read, and no others. -/
theorem readable_of_resolveRead {root : RecordType} {path : FieldPath} {p : ReadPath}
    (h : schema.resolveRead root path = .ok p) :
    (∃ last, schema.Trail (some root) path.segments p.fields last) ∧
      ∀ f ∈ p.fields, f.field.access.readable = true := by
  obtain ⟨-, -, htrail, hcontainers, hleaf⟩ := resolveFor_eq_ok_iff.mp (resolveRead_eq_ok_iff.mp h)
  exact ⟨htrail, ResolvedPath.forall_mem_fields.mpr ⟨hcontainers, hleaf⟩⟩

/-- A path resolved for writing goes through fields that may be written, and no others. -/
theorem readWrite_of_resolveWrite {root : RecordType} {path : FieldPath} {p : WritePath}
    (h : schema.resolveWrite root path = .ok p) :
    (∃ last, schema.Trail (some root) path.segments p.fields last) ∧
      ∀ f ∈ p.fields, f.field.access = .readWrite := by
  obtain ⟨-, -, htrail, hcontainers, hleaf⟩ :=
    resolveFor_eq_ok_iff.mp (resolveWrite_eq_ok_iff.mp h)
  refine ⟨htrail, ResolvedPath.forall_mem_fields.mpr ⟨?_, Use.readWrite_of_write hleaf⟩⟩
  intro f hf
  exact Use.readWrite_of_navigate (hcontainers f hf)

/-! ### Reading well-typed values -/

theorem declares_of_recordOf? {t : ValueType} {r : RecordType} (h : schema.recordOf? t = some r) :
    schema.Declares r := by
  obtain ⟨name, -, hr⟩ := Option.bind_eq_some_iff.mp h
  unfold Declares
  rw [name_of_record? hr, hr]

/-- What a well-typed record stores for a field is well typed, of the declared type. -/
theorem Typed.get {r : RecordType} {name : String} {f : BoundField} {v w : Value}
    (hv : schema.Typed v) (hfaithful : schema.Faithful) (hr : schema.Declares r)
    (hf : r.field? name = some f) (hget : f.get v = some w) :
    w.type = f.field.type.type ∧ schema.Typed w := by
  obtain ⟨howner, hposition, -⟩ := RecordType.field?_eq_some hf
  have hfield := hfaithful r (mem_of_record? hr) f.field (List.mem_of_getElem? hposition)
  rw [BoundField.get, if_pos hfield.1] at hget
  cases hv with
  | @record q fields hq hfields hall =>
    simp only [Value.field?] at hget
    split at hget
    · rename_i hname
      rw [hname, howner, hr] at hq
      obtain rfl := Option.some.inj hq
      have htype : some w.type = some f.field.stored := by
        have := congrArg (·[f.position]?) hfields
        simpa only [List.getElem?_map, hget, hposition, Option.map_some] using this
      refine ⟨?_, hall w (List.mem_of_getElem? hget)⟩
      rw [← hfield.2]
      exact Option.some.inj htype
    · cases hget
  | _ => cases hget

theorem Typed.enter {t : ValueType} {v w : Value} (hv : schema.Typed v)
    (h : t.enter v = some w) : schema.Typed w := by
  unfold ValueType.enter at h
  split at h
  · rw [← (Value.as?_eq_some_iff.mp h).2]
    exact hv
  · cases hv with
    | present hinner =>
      rw [← (Value.as?_eq_some_iff.mp h).2]
      exact hinner
    | _ => cases h
  all_goals cases h

/-- What is read along a trail out of a well-typed value is well typed, of the type the
    last field is declared with. -/
theorem Trail.typed_walk {r : RecordType} {names : List String} {fields : List BoundField}
    {last : Option RecordType} (h : schema.Trail (some r) names fields last)
    (hfaithful : schema.Faithful) (hr : schema.Declares r) {v w : Value} (hv : schema.Typed v)
    (hw : ReadStep.walk (fields.map ReadStep.ofField) v = some w) :
    ∃ leaf, fields.getLast? = some leaf ∧ w.type = leaf.field.type.type ∧ schema.Typed w := by
  induction fields generalizing r names v with
  | nil => cases hw
  | cons f rest ih =>
    cases h with
    | cons hfield hrest =>
      cases rest with
      | nil => exact ⟨f, rfl, hv.get hfaithful hr hfield hw⟩
      | cons next rest =>
        rw [ReadStep.walk_cons_cons, BoundField.map_content_inner] at hw
        obtain ⟨inner, hinner, hw⟩ := Option.bind_eq_some_iff.mp hw
        obtain ⟨stored, hget, henter⟩ := Option.bind_eq_some_iff.mp hinner
        have hstored := (hv.get hfaithful hr hfield hget).2
        cases hnext : schema.recordOf? f.field.type with
        | none => rw [hnext] at hrest; cases hrest
        | some r' =>
          rw [hnext] at hrest
          rw [List.getLast?_cons_cons]
          exact ih hrest (declares_of_recordOf? hnext) (hstored.enter henter) hw

theorem typed_read {root : RecordType} {path : FieldPath} {p : ReadPath}
    (h : schema.resolveRead root path = .ok p) (hfaithful : schema.Faithful)
    (hroot : schema.Declares root) {v w : Value} (hv : schema.Typed v) (hw : p.read v = some w) :
    w.type = p.terminal.type ∧ schema.Typed w := by
  obtain ⟨-, -, ⟨reached, htrail⟩, -⟩ := resolveFor_eq_ok_iff.mp (resolveRead_eq_ok_iff.mp h)
  obtain ⟨leaf, hleaf, htyped⟩ := htrail.typed_walk hfaithful hroot hv hw
  rw [ResolvedPath.fields, List.getLast?_concat, Option.some.injEq] at hleaf
  subst hleaf
  exact htyped

/-- The slot of an instance holds a value of the type that its path ends in. -/
theorem type_of_slot {root : RecordType} {path : FieldPath} {q : WritePath}
    (h : schema.resolveWrite root path = .ok q) (hfaithful : schema.Faithful)
    (hroot : schema.Declares root) {v : Value} (hv : schema.Instance root v) {place : Place}
    (hplace : slotAlong q.fields v = some place) : place.content.type = q.terminal.type := by
  have hread : ReadPath.read ⟨q.toResolvedPath⟩ v = some place.content := by
    rw [WritePath.read_slot, hplace]
    rfl
  exact (typed_read (resolveRead_of_resolveWrite h) hfaithful hroot hv.2 hread).1

end Schema

end RecordCopy

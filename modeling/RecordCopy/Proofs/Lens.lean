import RecordCopy.Proofs.Containers

/-!
# Reading and writing along one path

A path that may be written is a lens on the instances of its record type.  Where nothing is read,
nothing can be written, whatever the value.  Elsewhere what is written is read again, writing back
what was read changes nothing, and a second write makes the first one forgotten.

The laws are those of the slot at the end of the path (`slotAlong_replace`,
`slotAlong_replace_content`).  What is left is that the slot takes every value of the declared type
as it is.  A slot asks for its own type before it looks into options and wildcards, so this holds
also of a slot for options or wildcards; but it has to hold a value of that type already, and that
an instance sees to.
-/

namespace RecordCopy

/-- A slot of the type that the path ends in takes a value of that type as it is. -/
theorem WritePath.write_of_type {q : WritePath} {v w : Value} {place : Place}
    (hopen : q.terminal.kind ≠ .closed) (hplace : slotAlong q.fields v = some place)
    (hold : place.content.type = q.terminal.type) (hw : w.type = q.terminal.type) :
    q.write v w = .written (place.replace w) := by
  apply writeWith_eq_written_iff.mpr
  refine ⟨place, w, hplace, ?_, rfl⟩
  have haccept := Ty.accept?_of_type w
  rw [hw] at haccept
  exact (ValueType.assign_of_open hopen hold w).trans haccept

namespace Schema

variable {schema : Schema} {root : RecordType} {path : FieldPath} {q : WritePath} {v : Value}

/-- A path that may be written is read the same step by step and as a single function.  It reads
    nothing out of an instance exactly where a container is missing for writing.  Otherwise what it
    reads can be written back and leaves the instance as it is; a value of the type that the path
    ends in can be written, is read afterwards, and leaves no trace once another one is written. -/
theorem read_write_lens (hfaithful : schema.Faithful) (hroot : schema.Declares root)
    (hv : schema.Instance root v) (hq : schema.resolveWrite root path = .ok q)
    (hopen : q.terminal.kind ≠ .closed) :
    ∃ p : ReadPath, schema.resolveRead root path = .ok p ∧ p.terminal = q.terminal ∧
      p.compile = p.read ∧ (∀ w, p.read v = none ↔ q.write v w = .missingContainer) ∧
      ∀ old, p.read v = some old →
        q.write v old = .written v ∧
        ∀ w, w.type = q.terminal.type → ∃ after, q.write v w = .written after ∧
          p.read after = some w ∧
          ∀ u, u.type = q.terminal.type → q.write after u = q.write v u := by
  refine ⟨⟨q.toResolvedPath⟩, resolveRead_of_resolveWrite hq, rfl, ReadPath.compile_eq_read _,
    ?_, ?_⟩
  · intro w
    exact writeWith_eq_missingContainer_iff.symm
  · intro old hread
    rw [WritePath.read_slot] at hread
    obtain ⟨place, hplace, rfl⟩ := Option.map_eq_some_iff.mp hread
    have hold := type_of_slot hq hfaithful hroot hv hplace
    constructor
    · rw [WritePath.write_of_type hopen hplace hold hold, slotAlong_replace_content hplace]
    · intro w hw
      have hagain := slotAlong_replace hplace w
      refine ⟨place.replace w, WritePath.write_of_type hopen hplace hold hw, ?_, ?_⟩
      · rw [WritePath.read_slot, hagain]
        rfl
      · intro u hu
        rw [WritePath.write_of_type hopen hplace hold hu,
          WritePath.write_of_type hopen hagain hw hu]

end Schema

/-- The city of a place that is there can be written. -/
theorem Schema.read_write_lens_sample : Sample.schema.Faithful ∧
    Sample.schema.Declares Sample.card ∧ Sample.schema.Instance Sample.card Sample.blank ∧
    Sample.schema.resolveWrite Sample.card ⟨"place", ["city"]⟩ = .ok ⟨Sample.cityOfPlace⟩ ∧
    Sample.cityOfPlace.terminal.kind ≠ .closed ∧
    ReadPath.read ⟨Sample.cityOfPlace⟩ Sample.blank = some (Sample.written "") ∧
    ∃ after, WritePath.write ⟨Sample.cityOfPlace⟩ Sample.blank (Sample.written "Turin") =
        .written after ∧
      ReadPath.read ⟨Sample.cityOfPlace⟩ after = some (Sample.written "Turin") ∧
      WritePath.write ⟨Sample.cityOfPlace⟩ after (Sample.written "") = .written Sample.blank := by
  have hdeclared : Sample.schema.Declares Sample.card := rfl
  have hresolved : Sample.schema.resolveWrite Sample.card ⟨"place", ["city"]⟩ =
      .ok ⟨Sample.cityOfPlace⟩ := rfl
  have hkind : Sample.cityOfPlace.terminal.kind ≠ .closed := Kind.noConfusion
  obtain ⟨p, hp, -, -, -, hlens⟩ := Schema.read_write_lens Sample.faithful hdeclared
    Sample.instance_blank hresolved hkind
  obtain rfl : ⟨Sample.cityOfPlace⟩ = p := Except.ok.inj hp
  have hread : ReadPath.read ⟨Sample.cityOfPlace⟩ Sample.blank = some (Sample.written "") := rfl
  obtain ⟨hback, hwritten⟩ := hlens _ hread
  obtain ⟨after, hafter, hfound, hforgotten⟩ := hwritten (Sample.written "Turin") rfl
  refine ⟨Sample.faithful, hdeclared, Sample.instance_blank, hresolved, hkind, hread, after, hafter,
    hfound, ?_⟩
  rw [hforgotten _ rfl]
  exact hback

end RecordCopy

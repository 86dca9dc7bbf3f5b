import RecordCopy.Proofs.DerivedTargets

/-!
# The access of derived fields

Items that skip a field and items that make it read-only may stand in any of its attributes, in any
order and any number of times, also together.  There is one access for all of them, and each of
them sets it anew.  So a field has the access that the last such item asks for (`accessOf`), and
may be read and written if there is none.

An item that skips a field therefore hides it unless a later one makes it read-only.  A field that
is skipped first and made read-only later can be read, and as candidates are refused for the access
that a field has in the end, it keeps its candidates, too.  Whatever the order, a field with an
item of either kind is never written.
-/

namespace RecordCopy.Derive

/-- The access that an item asks for. -/
def FieldItem.access? : FieldItem → Option Access
  | .skip => some .hidden
  | .readOnly => some .readOnly
  | _ => none

/-- What the last item that says something on access asks for, looked for from the end. -/
def lastAccess? (items : List FieldItem) : Option Access :=
  items.reverse.findSome? FieldItem.access?

def accessOf (attributes : List (List FieldItem)) : Access :=
  (lastAccess? attributes.flatten).getD .readWrite

theorem lastAccess?_append (items more : List FieldItem) :
    lastAccess? (items ++ more) = (lastAccess? more).or (lastAccess? items) := by
  simp [lastAccess?, List.findSome?_append]

theorem lastAccess?_cons (item : FieldItem) (rest : List FieldItem) :
    lastAccess? (item :: rest) = (lastAccess? rest).or item.access? := by
  rw [← List.singleton_append, lastAccess?_append]
  cases item <;> rfl

/-! ### The loops over items and attributes -/

theorem foldl_accessAfter (access : Access) (items : List FieldItem) :
    items.foldl FieldSettings.accessAfter access = (lastAccess? items).getD access := by
  induction items generalizing access with
  | nil => rfl
  | cons item rest ih =>
    rw [List.foldl_cons, ih, lastAccess?_cons]
    cases lastAccess? rest with
    | some later => rfl
    | none => cases item <;> rfl

theorem access_addAttribute {s t : FieldSettings} {items : List FieldItem}
    (h : s.addAttribute items = .ok t) :
    t.access = items.foldl FieldSettings.accessAfter s.access := by
  simp only [FieldSettings.addAttribute] at h
  split at h
  · rw [← Except.ok.inj h]
  · split at h
    · cases h
    · rw [← Except.ok.inj h]

theorem access_foldlM {s t : FieldSettings} {attributes : List (List FieldItem)}
    (h : attributes.foldlM FieldSettings.addAttribute s = .ok t) :
    t.access = attributes.flatten.foldl FieldSettings.accessAfter s.access := by
  rw [List.foldl_flatten]
  apply view_foldlM FieldSettings.access _ _ h
  intro before after items hadd
  exact access_addAttribute hadd

/-! ### Fields -/

theorem access_of_part {f : FieldText} {part : FieldPart} {items : List (List FieldItem)}
    (h : f.part = .ok part) (hitems : f.items = .ok items) :
    part.field = ⟨f.name, f.type, accessOf items⟩ ∧
      (accessOf items = .hidden → mappingOf? f.name items = none) := by
  obtain ⟨others, hothers, -, hmapping⟩ := exists_items_of_part h
  obtain rfl := Except.ok.inj (hothers.symm.trans hitems)
  obtain ⟨settings, hsettings, rfl⟩ := exists_eq_ok_of_map h
  obtain ⟨read, hread, hfold, hchecked⟩ := exists_items_of_ofAttributes hsettings
  obtain rfl := Except.ok.inj (hread.symm.trans hothers)
  have haccess : settings.access = accessOf read := by
    rw [access_foldlM hfold, foldl_accessAfter]
    rfl
  rw [← haccess, ← hmapping]
  refine ⟨rfl, ?_⟩
  intro hhidden
  simp only [FieldPart.of, hchecked hhidden, if_true]

theorem access_of_parts {fields : List FieldText} {parts : List FieldPart}
    {items : List (List (List FieldItem))} (h : fields.mapM FieldText.part = .ok parts)
    (hitems : fields.mapM FieldText.items = .ok items) :
    parts.map FieldPart.field =
        (fields.zip items).map (fun f => ⟨f.1.name, f.1.type, accessOf f.2⟩) ∧
      ∀ f ∈ fields.zip items, accessOf f.2 = .hidden → mappingOf? f.1.name f.2 = none := by
  induction mapM_eq_ok_iff.mp h generalizing items with
  | nil => simp
  | @cons f part rest more hfirst hrest ih =>
    rcases mapM_eq_ok_iff.mp hitems with - | ⟨hattributes, hothers⟩
    obtain ⟨hfield, hhidden⟩ := access_of_part hfirst hattributes
    obtain ⟨hfields, hall⟩ := ih (mapM_eq_ok_iff.mpr hrest) (mapM_eq_ok_iff.mpr hothers)
    rw [List.zip_cons_cons, List.map_cons, List.map_cons, hfield, hfields, List.forall_mem_cons]
    exact ⟨rfl, hhidden, hall⟩

/-! ### The last item that counts -/

theorem FieldItem.access?_eq_none_iff {item : FieldItem} :
    item.access? = none ↔ item ≠ .skip ∧ item ≠ .readOnly := by
  cases item <;> simp [access?]

theorem FieldItem.access?_eq_some {item : FieldItem} {access : Access}
    (h : item.access? = some access) :
    item = .skip ∧ access = .hidden ∨ item = .readOnly ∧ access = .readOnly := by
  cases item <;> simp_all [access?]

theorem accessOf_eq_hidden_iff {attributes : List (List FieldItem)} :
    accessOf attributes = .hidden ↔
      ∃ before after, attributes.flatten = before ++ .skip :: after ∧ .readOnly ∉ after := by
  unfold accessOf
  constructor
  · intro hhidden
    cases hlast : lastAccess? attributes.flatten with
    | none =>
      rw [hlast] at hhidden
      cases hhidden
    | some access =>
      rw [hlast] at hhidden
      obtain rfl : access = .hidden := hhidden
      obtain ⟨after, item, before, hreverse, hitem, hafter⟩ := List.findSome?_eq_some_iff.mp hlast
      rcases FieldItem.access?_eq_some hitem with ⟨rfl, -⟩ | ⟨-, hother⟩
      · refine ⟨before.reverse, after.reverse, ?_, ?_⟩
        · have hflatten := congrArg List.reverse hreverse
          simpa using hflatten
        · intro hreadOnly
          have hnone := hafter .readOnly (List.mem_reverse.mp hreadOnly)
          exact (FieldItem.access?_eq_none_iff.mp hnone).2 rfl
      · cases hother
  · rintro ⟨before, after, hflatten, hreadOnly⟩
    have hskip : lastAccess? (.skip :: after) = some .hidden := by
      rw [lastAccess?_cons]
      cases hlast : lastAccess? after with
      | none => rfl
      | some access =>
        -- an item behind it that counts skips the field once more
        obtain ⟨item, hmem, hitem⟩ := List.exists_of_findSome?_eq_some hlast
        rcases FieldItem.access?_eq_some hitem with ⟨-, rfl⟩ | ⟨rfl, -⟩
        · rfl
        · exact absurd (List.mem_reverse.mp hmem) hreadOnly
    rw [hflatten, lastAccess?_append, hskip]
    rfl

theorem accessOf_eq_readWrite_iff {attributes : List (List FieldItem)} :
    accessOf attributes = .readWrite ↔
      .skip ∉ attributes.flatten ∧ .readOnly ∉ attributes.flatten := by
  have hnone : accessOf attributes = .readWrite ↔ lastAccess? attributes.flatten = none := by
    unfold accessOf
    cases hlast : lastAccess? attributes.flatten with
    | none => simp
    | some access =>
      obtain ⟨item, -, hitem⟩ := List.exists_of_findSome?_eq_some hlast
      rcases FieldItem.access?_eq_some hitem with ⟨-, rfl⟩ | ⟨-, rfl⟩
      · simp
      · simp
  rw [hnone, lastAccess?, List.findSome?_eq_none_iff]
  simp only [List.mem_reverse, FieldItem.access?_eq_none_iff]
  constructor
  · intro hall
    exact ⟨fun hskip => (hall _ hskip).1 rfl, fun hreadOnly => (hall _ hreadOnly).2 rfl⟩
  · rintro ⟨hskip, hreadOnly⟩ item hitem
    exact ⟨fun heq => hskip (heq ▸ hitem), fun heq => hreadOnly (heq ▸ hitem)⟩

/-! ### Structs -/

/-- The fields of a struct that is accepted have the access that the last item on access in any of
    their attributes asks for.  A field is hidden exactly if no item makes it read-only after the
    last one that skips it, and then it has no mapping; and it is writable exactly if no item
    skips it or makes it read-only. -/
theorem derive_access {d : ItemDecl} {derived : Derived} (h : derive d = .ok derived) :
    ∃ fields items, d.fields.mapM (FieldText.normal? true) = some fields ∧
      fields.mapM FieldText.items = .ok items ∧
      derived.fields = (fields.zip items).map (fun f => ⟨f.1.name, f.1.type, accessOf f.2⟩) ∧
      derived.mappings = (fields.zip items).filterMap (fun f => mappingOf? f.1.name f.2) ∧
      ∀ f ∈ fields.zip items,
        (accessOf f.2 = .hidden ↔
          ∃ before after, f.2.flatten = before ++ .skip :: after ∧ .readOnly ∉ after) ∧
        (accessOf f.2 = .hidden → mappingOf? f.1.name f.2 = none) ∧
        (accessOf f.2 = .readWrite ↔ .skip ∉ f.2.flatten ∧ .readOnly ∉ f.2.flatten) := by
  obtain ⟨fields, parts, name, settings, hfields, hparts, rfl⟩ := exists_parts_of_derive h
  obtain ⟨items, hitems, -, hmappings⟩ := exists_items_of_parts hparts
  obtain ⟨haccess, hhidden⟩ := access_of_parts hparts hitems
  refine ⟨fields, items, hfields, hitems, haccess, hmappings, ?_⟩
  intro f hf
  exact ⟨accessOf_eq_hidden_iff, hhidden f hf, accessOf_eq_readWrite_iff⟩

namespace Sample

/-- The first field is skipped after it was made read-only, and the second one before. -/
def parcelDecl : ItemDecl :=
  { kind := .struct
    name := "Parcel"
    generics := none
    attributes := []
    fields :=
      [⟨"weight", "u32",
        [⟨"mapping", some [⟨"read_only", .none⟩]⟩, ⟨"mapping", some [⟨"skip", .none⟩]⟩]⟩,
       ⟨"sender", "String",
        [⟨"mapping", some [⟨"skip", .none⟩, ⟨"from", .source "Order"⟩]⟩,
          ⟨"mapping", some [⟨"read_only", .none⟩]⟩]⟩] }

def parcel : Derived :=
  { name := "Parcel"
    fields := [⟨"weight", "u32", .hidden⟩, ⟨"sender", "String", .readOnly⟩]
    mappings := [⟨"sender", [⟨"Order", "sender", none⟩]⟩]
    supertypes := []
    maker := .none }

/-- One field, which is skipped and then made read-only. -/
def orderDecl : ItemDecl :=
  { kind := .struct
    name := "Order"
    generics := none
    attributes := []
    fields :=
      [⟨"field", "String",
        [⟨"mapping", some [⟨"skip", .none⟩]⟩, ⟨"mapping", some [⟨"read_only", .none⟩]⟩]⟩] }

end Sample

/-- Of the two fields only the first is hidden, and the candidate of the second is kept. -/
theorem derive_access_parcel : derive Sample.parcelDecl = .ok Sample.parcel ∧
    ∃ fields items, Sample.parcelDecl.fields.mapM (FieldText.normal? true) = some fields ∧
      fields.mapM FieldText.items = .ok items ∧
      Sample.parcel.fields =
        (fields.zip items).map (fun f => ⟨f.1.name, f.1.type, accessOf f.2⟩) ∧
      ∀ f ∈ fields.zip items, accessOf f.2 = .hidden ↔
        ∃ before after, f.2.flatten = before ++ .skip :: after ∧ .readOnly ∉ after := by
  have hderive : derive Sample.parcelDecl = .ok Sample.parcel := by decide +kernel
  obtain ⟨fields, items, hfields, hitems, haccess, -, hall⟩ := derive_access hderive
  exact ⟨hderive, fields, items, hfields, hitems, haccess, fun f hf => (hall f hf).1⟩

/-- A field can be read although one of its attributes skips it. -/
theorem derive_readable_skipped : ∃ derived, derive Sample.orderDecl = .ok derived ∧
    ∃ f ∈ Sample.orderDecl.fields, ∃ items, f.items = .ok items ∧ [.skip] ∈ items ∧
      ∃ g ∈ derived.fields, g.name = f.name ∧ g.access ≠ .hidden := by
  refine ⟨⟨"Order", [⟨"field", "String", .readOnly⟩], [], [], .none⟩, by decide +kernel, ?_⟩
  refine ⟨_, List.mem_cons_self, [[.skip], [.readOnly]], by decide +kernel, List.mem_cons_self, ?_⟩
  exact ⟨_, List.mem_cons_self, rfl, by decide⟩

end RecordCopy.Derive

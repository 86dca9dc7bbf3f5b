import RecordCopy.Proofs.DerivedTargets

/-!
# The settings of a struct

The attributes of a struct say which supertypes it has and how to make an instance.  They are taken
in one after the other, and after each of them it is checked that there is at most one way to make
an instance.  What an item says is never taken back, so two ways to make an instance stay two
whatever follows, and the checks on the way find what one check in the end would find
(`TypeSettings.foldlM_addAttribute`).

So all that counts is the sequence of the items (`TypeSettings.saying`), however they are spread
over attributes, and whether it is refused does not even hang on their order.
-/

namespace RecordCopy.Derive

namespace TypeItem

def constructor? : TypeItem → Option String
  | .constructor path => some path
  | _ => none

def isA? : TypeItem → Option String
  | .isA type => some type
  | _ => none

end TypeItem

namespace TypeSettings

def saying (items : List TypeItem) : TypeSettings :=
  ⟨decide (.default ∈ items), (items.filterMap TypeItem.constructor?).getLast?,
    items.filterMap TypeItem.isA?⟩

/-- There are two ways to make an instance. -/
def Clashes (s : TypeSettings) : Prop := s.default = true ∧ s.constructor.isSome = true

instance (s : TypeSettings) : Decidable s.Clashes := inferInstanceAs (Decidable (_ ∧ _))

/-! ### The loops over items and attributes -/

theorem foldl_addItem (s : TypeSettings) (items : List TypeItem) :
    items.foldl addItem s =
      ⟨s.default || decide (.default ∈ items),
        (items.filterMap TypeItem.constructor?).getLast?.or s.constructor,
        s.supertypes ++ items.filterMap TypeItem.isA?⟩ := by
  induction items generalizing s with
  | nil => simp
  | cons item rest ih =>
    rw [List.foldl_cons, ih]
    cases item with
    | default => simp [addItem, TypeItem.constructor?, TypeItem.isA?, List.filterMap_cons]
    | constructor path =>
      simp [addItem, TypeItem.constructor?, TypeItem.isA?, List.filterMap_cons,
        List.getLast?_cons, Option.or_some]
    | isA type => simp [addItem, TypeItem.constructor?, TypeItem.isA?, List.filterMap_cons]

theorem foldl_addItem_none (items : List TypeItem) : items.foldl addItem none = saying items := by
  rw [foldl_addItem, none, saying, Bool.false_or, Option.or_none, List.nil_append]

/-- What was said is not taken back. -/
theorem Clashes.foldl_addItem {s : TypeSettings} (h : s.Clashes) (items : List TypeItem) :
    (items.foldl addItem s).Clashes := by
  obtain ⟨hdefault, hconstructor⟩ := h
  rw [TypeSettings.foldl_addItem]
  refine ⟨by simp [hdefault], ?_⟩
  rw [Option.isSome_or, hconstructor, Bool.or_true]

theorem addAttribute_eq (s : TypeSettings) (items : List TypeItem) :
    s.addAttribute items = if (items.foldl addItem s).Clashes then .error (.refused .twoMakers)
      else .ok (items.foldl addItem s) := by
  simp only [addAttribute, Bool.and_eq_true]
  rfl

/-- Checking after each attribute is checking in the end. -/
theorem foldlM_addAttribute {s : TypeSettings} (h : ¬ s.Clashes)
    (attributes : List (List TypeItem)) :
    attributes.foldlM addAttribute s =
      if (attributes.flatten.foldl addItem s).Clashes then .error (.refused .twoMakers)
      else .ok (attributes.flatten.foldl addItem s) := by
  induction attributes generalizing s with
  | nil => exact (if_neg h).symm
  | cons items rest ih =>
    rw [List.foldlM_cons, List.flatten_cons, List.foldl_append, addAttribute_eq]
    by_cases hclash : (items.foldl addItem s).Clashes
    · rw [if_pos hclash, if_pos (hclash.foldl_addItem _)]
      rfl
    · rw [if_neg hclash]
      exact ih hclash

theorem clashes_saying_iff {items : List TypeItem} :
    (saying items).Clashes ↔ .default ∈ items ∧ ∃ path, .constructor path ∈ items := by
  have hsome : (items.filterMap TypeItem.constructor?).getLast?.isSome = true ↔
      ∃ path, .constructor path ∈ items := by
    rw [List.getLast?_isSome]
    constructor
    · intro hcalls
      obtain ⟨path, hpath⟩ := List.exists_mem_of_ne_nil _ hcalls
      obtain ⟨item, hitem, hsays⟩ := List.mem_filterMap.mp hpath
      cases item with
      | constructor other => exact ⟨other, hitem⟩
      | default | isA type => cases hsays
    · rintro ⟨path, hpath⟩
      exact List.ne_nil_of_mem (List.mem_filterMap.mpr ⟨_, hpath, rfl⟩)
  rw [Clashes, saying, hsome, decide_eq_true_iff]

/-- The settings of attributes with the given items, whichever way they are spread. -/
theorem ofItems_eq (items : List (List TypeItem)) : ofItems items =
    if (saying items.flatten).Clashes then .error (.refused .twoMakers)
    else .ok (saying items.flatten) := by
  have hnone : ¬ none.Clashes := fun h => Bool.noConfusion h.1
  rw [ofItems, foldlM_addAttribute hnone, foldl_addItem_none]

end TypeSettings

theorem Maker.of_saying (items : List TypeItem) : Maker.of (.saying items) =
    if .default ∈ items then .default else
      (items.filterMap TypeItem.constructor?).getLast?.elim .none .call := by
  simp only [Maker.of, TypeSettings.saying, decide_eq_true_iff]
  cases (items.filterMap TypeItem.constructor?).getLast? with
  | none => rfl
  | some path => rfl

/-- Attributes that are written as attributes are, and that have the given items where they are
    looked at. -/
structure Carries (attributes : List AttributeText) (items : List (List TypeItem)) : Prop where
  written : attributes.all AttributeText.isWritten = true
  items : (attributes.filter AttributeText.isMapping).mapM (AttributeText.read TypeItem.read) =
    .ok items

theorem Carries.ofAttributes {attributes : List AttributeText} {items : List (List TypeItem)}
    (h : Carries attributes items) :
    TypeSettings.ofAttributes attributes = TypeSettings.ofItems items :=
  foldlM_of_mapM TypeSettings.addAttribute h.items TypeSettings.none

/-! ### Structs -/

theorem normal?_with_attributes {d : ItemDecl} {others : List AttributeText}
    (h : d.attributes.all AttributeText.isWritten = true)
    (hothers : others.all AttributeText.isWritten = true) :
    { d with attributes := others }.normal? =
      d.normal?.map fun n => ({ n.1 with attributes := others }, n.2) := by
  have hparameters : { d with attributes := others }.parameters? = d.parameters? := rfl
  simp only [ItemDecl.normal?, hparameters, h, hothers, if_true, Option.bind_eq_bind,
    Option.map_bind, Function.comp_def, Option.map_some]

theorem derived_with_attributes {d : ItemDecl} {others : List AttributeText}
    (h : TypeSettings.ofAttributes others = TypeSettings.ofAttributes d.attributes) :
    { d with attributes := others }.derived = d.derived := by
  simp only [ItemDecl.derived, h]

/-- Attributes count through what they are put together to. -/
theorem derive_with_attributes {d : ItemDecl} {others : List AttributeText}
    (h : d.attributes.all AttributeText.isWritten = true)
    (hothers : others.all AttributeText.isWritten = true)
    (hsettings : TypeSettings.ofAttributes others = TypeSettings.ofAttributes d.attributes) :
    derive { d with attributes := others } = derive d := by
  simp only [derive, normal?_with_attributes h hothers]
  cases hnormal : d.normal? with
  | none => rfl
  | some found =>
    obtain ⟨normal, number⟩ := found
    obtain ⟨-, hattributes, -⟩ := exists_fields_of_normal? hnormal
    rw [← hattributes] at hsettings
    simp only [Option.map_some, derived_with_attributes hsettings]

theorem derive_of_struct {d normal : ItemDecl} (hnormal : d.normal? = some (normal, 0))
    (hstruct : d.kind = .struct) : derive d = (TypeSettings.ofAttributes d.attributes).bind fun s =>
      (normal.fields.mapM FieldText.part).map (Derived.of normal.name s) := by
  obtain ⟨hkind, hattributes, -⟩ := exists_fields_of_normal? hnormal
  rw [hstruct] at hkind
  simp only [derive, hnormal, ItemDecl.derived, hkind, hattributes]
  cases TypeSettings.ofAttributes d.attributes with
  | error fault => rfl
  | ok settings => rfl

/-- However the items of a struct are spread over its attributes, its settings are accepted exactly
    if the items do not say both that instances start from the default and that they come from a
    call.  If they are, the record type has all supertypes that the items say, in their order, and
    an instance is made from the default, else by the last call that is said, else not at all.
    The same items in other attributes come to the same settings and to the same record type. -/
theorem derive_regrouped {d : ItemDecl} {items : List (List TypeItem)}
    (h : Carries d.attributes items) :
    let all := items.flatten
    let clash := .default ∈ all ∧ ∃ path, .constructor path ∈ all
    ((∃ settings, TypeSettings.ofAttributes d.attributes = .ok settings) ↔ ¬ clash) ∧
    (∀ normal, d.normal? = some (normal, 0) → d.kind = .struct →
      (clash → derive d = .error (.refused .twoMakers)) ∧
      (¬ clash → derive d = (normal.fields.mapM FieldText.part).map fun parts =>
        { name := normal.name
          fields := parts.map FieldPart.field
          mappings := parts.filterMap FieldPart.mapping
          supertypes := all.filterMap TypeItem.isA?
          maker := if .default ∈ all then .default else
            (all.filterMap TypeItem.constructor?).getLast?.elim .none .call })) ∧
    ∀ others more, Carries others more → more.flatten = all →
      TypeSettings.ofAttributes others = TypeSettings.ofAttributes d.attributes ∧
      derive { d with attributes := others } = derive d := by
  intro all clash
  have hsettings : TypeSettings.ofAttributes d.attributes =
      if (TypeSettings.saying all).Clashes then .error (.refused .twoMakers)
      else .ok (TypeSettings.saying all) := by
    rw [h.ofAttributes, TypeSettings.ofItems_eq]
  have hclash : (TypeSettings.saying all).Clashes ↔ clash := TypeSettings.clashes_saying_iff
  refine ⟨?accepted, ?described, ?regrouped⟩
  case accepted =>
    rw [← hclash, hsettings]
    by_cases hboth : (TypeSettings.saying all).Clashes
    · simp [hboth]
    · simp [hboth]
  case described =>
    intro normal hnormal hstruct
    rw [derive_of_struct hnormal hstruct, hsettings, ← hclash]
    refine ⟨fun hboth => ?_, fun hone => ?_⟩
    · rw [if_pos hboth]
      rfl
    · rw [if_neg hone]
      simp only [Except.bind, ← Maker.of_saying]
      rfl
  case regrouped =>
    intro others more hothers hsame
    have hsettled : TypeSettings.ofAttributes others = TypeSettings.ofAttributes d.attributes := by
      rw [hothers.ofAttributes, h.ofAttributes, TypeSettings.ofItems_eq, TypeSettings.ofItems_eq,
        hsame]
    exact ⟨hsettled, derive_with_attributes h.written hothers.written hsettled⟩

namespace Sample

/-- Two supertypes, and two calls to make an instance. -/
def kennelDecl : ItemDecl :=
  { kind := .struct
    name := "Kennel"
    generics := none
    attributes :=
      [⟨"mapping", some [⟨"is_a", .source "Shelter"⟩, ⟨"constructor", .source "build"⟩]⟩,
        ⟨"serde", none⟩,
        ⟨"mapping", some [⟨"is_a", .source "Vec < Dog >"⟩, ⟨"constructor", .source "yard::open"⟩]⟩]
    fields := [⟨"place", "String", []⟩] }

/-- The same items, the first in an attribute of its own. -/
def kennelAttributes : List AttributeText :=
  [⟨"mapping", some [⟨"is_a", .source "Shelter"⟩]⟩, ⟨"mapping", some []⟩,
    ⟨"mapping", some [⟨"constructor", .source "build"⟩, ⟨"is_a", .source "Vec < Dog >"⟩,
      ⟨"constructor", .source "yard::open"⟩]⟩]

def kennel : Derived :=
  { name := "Kennel"
    fields := [⟨"place", "String", .readWrite⟩]
    mappings := []
    supertypes := ["Shelter", "Vec<Dog>"]
    maker := .call "yard::open" }

end Sample

theorem derive_regrouped_kennel :
    let items : List (List TypeItem) :=
      [[.isA "Shelter", .constructor "build"], [.isA "Vec<Dog>", .constructor "yard::open"]]
    let more : List (List TypeItem) :=
      [[.isA "Shelter"], [], [.constructor "build", .isA "Vec<Dog>", .constructor "yard::open"]]
    Carries Sample.kennelDecl.attributes items ∧ Carries Sample.kennelAttributes more ∧
    more.flatten = items.flatten ∧
    derive Sample.kennelDecl = .ok Sample.kennel ∧
    derive { Sample.kennelDecl with attributes := Sample.kennelAttributes } = .ok Sample.kennel := by
  intro items more
  have hitems : Carries Sample.kennelDecl.attributes items :=
    ⟨by decide +kernel, by decide +kernel⟩
  have hmore : Carries Sample.kennelAttributes more := ⟨by decide +kernel, by decide +kernel⟩
  have hnormal : Sample.kennelDecl.normal? = some (Sample.kennelDecl, 0) := by decide +kernel
  obtain ⟨-, hdescribed, hregrouped⟩ := derive_regrouped hitems
  obtain ⟨-, hderive⟩ := hdescribed Sample.kennelDecl hnormal rfl
  have hdefault : .default ∉ items.flatten := by decide
  have hkennel : derive Sample.kennelDecl = .ok Sample.kennel :=
    (hderive fun hclash => hdefault hclash.1).trans rfl
  have hsame := (hregrouped Sample.kennelAttributes more hmore rfl).2
  exact ⟨hitems, hmore, rfl, hkennel, hsame.trans hkennel⟩

end RecordCopy.Derive

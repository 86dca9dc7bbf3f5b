import RecordCopy.Derive.Grammar
import RecordCopy.Schema
/-!
# Attributes

A struct and its fields carry attributes named `mapping`, each with a list of items.
Items are read from the left, and the first one that cannot be read decides how the
declaration fails.  What a value leaves over between brackets of its own counts only
after the last item.

What attributes mean is a fold over their items.  `TypeSettings` collects those of a
struct: how to make an instance, and the supertypes.  `FieldSettings` collects those of
a field: its access, and one candidate for each attribute that names a source type.
-/
namespace RecordCopy.Derive

inductive Refusal where
  | generic
  | notStruct
  | unnamedFields
  | unknownTypeItem
  | twoMakers
  | unknownFieldItem
  | noSourceType
  | hiddenCandidates
deriving DecidableEq, Repr

def Refusal.message : Refusal → String
  | .generic => "Mappable cannot be derived for generic types; describe them by hand"
  | .notStruct => "Mappable can only be derived for structs"
  | .unnamedFields => "Mappable can only be derived for structs with named fields"
  | .unknownTypeItem =>
    "unsupported mapping attribute, expected `default`, `constructor = path` or `is_a = Type`"
  | .twoMakers => "`default` and `constructor` are mutually exclusive"
  | .unknownFieldItem =>
    "unsupported mapping attribute, expected `from`, `path`, `container`, `skip` or `read_only`"
  | .noSourceType => "`path` and `container` need a source type: add `from = Type`"
  | .hiddenCandidates => "a skipped field cannot declare mapping candidates"

inductive DeriveFault where
  /-- An attribute that is not written as attributes are. -/
  | malformed
  | refused (refusal : Refusal)
deriving DecidableEq, Repr

/-! ### Attributes as written -/

inductive ItemValue where
  | none
  /-- A string literal with the given content. -/
  | text (content : String)
  | source (text : String)
deriving DecidableEq, Repr

structure ItemText where
  key : String
  value : ItemValue
deriving DecidableEq, Repr

structure AttributeText where
  name : String
  /-- The items between the parentheses; without parentheses there is no list. -/
  items : Option (List ItemText)
deriving DecidableEq, Repr

/-- The only attributes that are looked at. -/
def AttributeText.isMapping (a : AttributeText) : Bool := decide (a.name = "mapping")

def ItemText.source (i : ItemText) : String :=
  match i.value with
  | .none => i.key
  | .text content => i.key ++ " = " ++ Text.quoted content
  | .source text => i.key ++ " = " ++ text

/-- The tokens between the parentheses, with a comma between items. -/
def AttributeText.tokens? (a : AttributeText) : Option (List Token) :=
  a.items.bind fun items => Token.ofPart? (", ".intercalate (items.map ItemText.source))

/-- Whether an attribute is written as attributes are, whatever its items may be. -/
def AttributeText.isWritten (a : AttributeText) : Bool :=
  (Grammar.whole? Grammar.attributeName a.name).isSome && (a.items.isNone || a.tokens?.isSome)

/-! ### Items -/

/-- A reader of items, which may refuse them for a reason of its own. -/
abbrev ItemReader (ι : Type) := Source → Except DeriveFault (ι × Source)

/-- What a reader yields is malformed if it yields nothing. -/
def ItemReader.of {ι : Type} (r : Reader ι) : ItemReader ι := fun s =>
  match r.run s with
  | some found => .ok found
  | none => .error .malformed

def ItemReader.value {ι α : Type} (item : α → ι) (r : Reader α) : ItemReader ι :=
  .of do
    Reader.sign "="
    return item (← r)

/-- The key of an item, if it is one name; a longer path has no name. -/
def key : Reader (Option String) := do
  let rooted ← Reader.optionalSign "::"
  let first ← Reader.token fun t => startsAnyWord [t]
  let longer ← Reader.ahead (startsSign "::")
  Reader.again <| Reader.when (startsSign "::") do
    Reader.sign "::"
    Reader.anyWord
  return if rooted || longer then none else some first.spelling

/-- The items of an attribute.  `one` reads the rest of an item, given its key. -/
def readItems {ι : Type} (one : Option String → ItemReader ι) :
    Nat → Source → Except DeriveFault (List ι)
  | 0, _ => .error .malformed
  | fuel + 1, s =>
    if s.rest.isEmpty then if s.leftover then .error .malformed else .ok []
    else
      match key.run s with
      | none => .error .malformed
      | some (key, s) =>
        match one key s with
        | .error fault => .error fault
        | .ok (item, s) =>
          if s.rest.isEmpty || startsSign "," s.rest then
            (readItems one fuel { s with rest := s.rest.tail }).map (item :: ·)
          else .error .malformed

def AttributeText.read {ι : Type} (one : Option String → ItemReader ι) (a : AttributeText) :
    Except DeriveFault (List ι) :=
  match a.tokens? with
  | none => .error .malformed
  | some ts => readItems one (ts.length + 1) (.ofTokens ts)

/-! ### Attributes of a struct -/

inductive TypeItem where
  /-- Instances start from the default. -/
  | default
  /-- Instances come from a call of the function at a path. -/
  | constructor (path : String)
  | isA (type : String)
deriving DecidableEq, Repr

def TypeItem.read : Option String → ItemReader TypeItem
  | some "default" => .of (pure .default)
  | some "constructor" => .value .constructor Grammar.pathText
  | some "is_a" => .value .isA Grammar.typeText
  | _ => fun _ => .error (.refused .unknownTypeItem)

structure TypeSettings where
  default : Bool
  constructor : Option String
  supertypes : List String
deriving DecidableEq, Repr

namespace TypeSettings

def none : TypeSettings := ⟨false, .none, []⟩

def addItem (s : TypeSettings) : TypeItem → TypeSettings
  | .default => { s with default := true }
  | .constructor path => { s with constructor := some path }
  | .isA type => { s with supertypes := s.supertypes ++ [type] }

/-- One more attribute.  After each one, there may be at most one way to make an
    instance. -/
def addAttribute (s : TypeSettings) (items : List TypeItem) : Except DeriveFault TypeSettings :=
  let after := items.foldl addItem s
  if after.default && after.constructor.isSome then .error (.refused .twoMakers) else .ok after

def ofItems (attributes : List (List TypeItem)) : Except DeriveFault TypeSettings :=
  attributes.foldlM addAttribute none

/-- The settings of attributes as written; each is read after the ones before it were
    taken in. -/
def ofAttributes (attributes : List AttributeText) : Except DeriveFault TypeSettings :=
  (attributes.filter AttributeText.isMapping).foldlM
    (fun s (a : AttributeText) => (a.read TypeItem.read).bind s.addAttribute) none

end TypeSettings

/-! ### Attributes of a field -/

inductive FieldItem where
  | skip
  | readOnly
  | source (type : String)
  | path (path : String)
  | container (container : String)
deriving DecidableEq, Repr

def FieldItem.read : Option String → ItemReader FieldItem
  | some "skip" => .of (pure .skip)
  | some "read_only" => .of (pure .readOnly)
  | some "from" => .value .source Grammar.typeText
  | some "path" => .value .path Grammar.content
  | some "container" => .value .container Grammar.content
  | _ => fun _ => .error (.refused .unknownFieldItem)

structure CandidateText where
  source : String
  path : Option String
  container : Option String
deriving DecidableEq, Repr

structure FieldSettings where
  access : Access
  candidates : List CandidateText
deriving DecidableEq, Repr

structure CandidateParts where
  source : Option String
  path : Option String
  container : Option String
deriving DecidableEq, Repr

def CandidateParts.addItem (p : CandidateParts) : FieldItem → CandidateParts
  | .source type => { p with source := some type }
  | .path path => { p with path := some path }
  | .container container => { p with container := some container }
  | .skip | .readOnly => p

namespace FieldSettings

def none : FieldSettings := ⟨.readWrite, []⟩

/-- The access after an item; of several, the last one counts. -/
def accessAfter (access : Access) : FieldItem → Access
  | .skip => .hidden
  | .readOnly => .readOnly
  | _ => access

/-- One more attribute.  It adds a candidate if it names a source type, and must name
    one if it says where to read. -/
def addAttribute (s : FieldSettings) (items : List FieldItem) : Except DeriveFault FieldSettings :=
  let access := items.foldl accessAfter s.access
  let parts := items.foldl CandidateParts.addItem ⟨.none, .none, .none⟩
  match parts.source with
  | some source =>
    .ok ⟨access, s.candidates ++ [⟨source, parts.path, parts.container⟩]⟩
  | .none =>
    if parts.path.isSome || parts.container.isSome then .error (.refused .noSourceType)
    else .ok ⟨access, s.candidates⟩

/-- A hidden field has no candidates. -/
def checked (s : FieldSettings) : Except DeriveFault FieldSettings :=
  if s.access = .hidden ∧ s.candidates ≠ [] then .error (.refused .hiddenCandidates) else .ok s

/-- The settings of attributes as written; each is read after the ones before it were
    taken in. -/
def ofAttributes (attributes : List AttributeText) : Except DeriveFault FieldSettings :=
  ((attributes.filter AttributeText.isMapping).foldlM
    (fun s (a : AttributeText) => (a.read FieldItem.read).bind s.addAttribute) none).bind checked

end FieldSettings

end RecordCopy.Derive

import RecordCopy.CopyMode
import RecordCopy.Report
import RecordCopy.Text.Blank
/-!
# Settings

Settings hold one choice, the copy mode.  They are read from a structured document
or from an environment variable; where nothing is set, the default holds.
-/
namespace RecordCopy

/-- A structured document, as far as settings look into one. -/
inductive Document where
  | null
  | flag (value : Bool)
  | number
  | text (content : String)
  | list (items : List Document)
  | object (members : List (String × Document))

instance : Inhabited Document := ⟨.null⟩

/-- A mode is written as its exact name, or as an object whose only member has that
    name and holds nothing. -/
def CopyMode.ofDocument? : Document → Option CopyMode
  | .text name => ofName? name
  | .object [(name, .null)] => ofName? name
  | _ => none

structure Settings where
  copyMode : CopyMode
deriving DecidableEq, Repr

namespace Settings

instance : Inhabited Settings := ⟨⟨.all⟩⟩

def copyModeKey : String := "copy_mode"

/-- Settings are an object, of which other members are ignored, or the list of
    their values in order; what is left out takes its default. -/
def ofDocument? : Document → Option Settings
  | .object members =>
    match members.find? fun m => decide (m.1 = copyModeKey) with
    | none => some default
    | some m => (CopyMode.ofDocument? m.2).map Settings.mk
  | .list [] => some default
  | .list [mode] => (CopyMode.ofDocument? mode).map Settings.mk
  | _ => none

def copyModeVariable : String := "REFLECTMAP_COPY_MODE"

/-- Settings with the mode a text names, blanks around it not counting. -/
def ofModeText (text : String) : Except Report Settings :=
  match CopyMode.ofText? (Text.trimmed text) with
  | some mode => .ok ⟨mode⟩
  | none =>
    .error (((Report.of (Fault.unreadable copyModeVariable CopyMode.unknownName)).note
      ("Value: " ++ text)).note
      ("Expected one of: " ++ ", ".intercalate (CopyMode.modes.map CopyMode.display)))

/-- Settings from the content of the variable; content that is not UTF-8 counts as
    unset. -/
def ofVariable (content : Option ByteArray) : Except Report Settings :=
  match content.bind String.fromUTF8? with
  | none => .ok default
  | some text => ofModeText text

end Settings

end RecordCopy

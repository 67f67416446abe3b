/-!
# Faults

What can go wrong, and the text that is shown for it.

* `FileKind` : why a file could not be read
* `Note` : the hint and the code that may go with a fault
* `Fault` : a fault
* `Fault.message` : its text
-/

namespace Varsheet

/-- Why a file could not be read. Failures that only a host can report are kept by name. -/
inductive FileKind where
  | notFound
  | isDirectory
  | notDirectory
  | nameTooLong
  | nulInName
  | notText
  | other (name : String)
deriving DecidableEq, Repr

/-- The text of a read failure. -/
def FileKind.message : FileKind → String
  | .notFound => "No such file or directory (os error 2)"
  | .isDirectory => "Is a directory (os error 21)"
  | .notDirectory => "Not a directory (os error 20)"
  | .nameTooLong => "File name too long (os error 36)"
  | .nulInName => "file name contained an unexpected NUL byte"
  | .notText => "stream did not contain valid UTF-8"
  | .other name => name

/-- What is said about a fault beside its text. -/
structure Note where
  hint : Option String
  code : Option Nat
deriving DecidableEq, Repr

/-- The note as it stands after the text of a fault. -/
def Note.suffixText (note : Note) : String :=
  (match note.hint with
    | some hint => " Hint: " ++ hint
    | none => "") ++
  (match note.code with
    | some code => " Code: " ++ toString code
    | none => "")

/-- A fault, with all that is shown of it. -/
inductive Fault where
  /-- A line of a sheet that is neither blank nor a comment and has no colon. -/
  | badLine (line : Nat) (content : String) (note : Note)
  /-- A file that could not be read. -/
  | badFile (path : String) (message : String) (kind : FileKind) (note : Note)
  /-- Options that could not be read. -/
  | badOptions (message : String) (note : Note)
  /-- Anything else. -/
  | failed (message : String) (note : Note)
deriving DecidableEq, Repr

namespace Fault

def note : Fault → Note
  | .badLine _ _ note => note
  | .badFile _ _ _ note => note
  | .badOptions _ note => note
  | .failed _ note => note

def hint (fault : Fault) : Option String := fault.note.hint

def code (fault : Fault) : Option Nat := fault.note.code

/-- The text of a fault. -/
def message : Fault → String
  | .badLine line content note =>
    "[JESSY] Parse Error at line " ++ toString line ++ ": missing ':' in '" ++ content ++ "'" ++
      note.suffixText
  | .badFile path message _ note =>
    "[JESSY] File Error '" ++ path ++ "': " ++ message ++ note.suffixText
  | .badOptions message note => "[JESSY] Config Error: " ++ message ++ note.suffixText
  | .failed message note => "[JESSY] Runtime Error: " ++ message ++ note.suffixText

/-! ## The faults that reading a sheet or its options reports -/

/-- An entry line without a colon. -/
def missingColon (line : Nat) (content : String) : Fault :=
  .badLine line content ⟨some "Every entry needs a ':' between key and value", some 101⟩

/-- A read failure with the text that the host gave for it. -/
def unreadable (path : String) (kind : FileKind) (message : String) : Fault :=
  .badFile path message kind ⟨some "Check that the file exists and is readable", some 301⟩

/-- Options that could not be read, with what was wrong. -/
def invalidOptions (detail : String) : Fault :=
  .badOptions ("Invalid options: " ++ detail)
    ⟨some "Options must be a JSON object, e.g. \x7b\"target\": \"sass\"\x7d", some 310⟩

end Fault

end Varsheet

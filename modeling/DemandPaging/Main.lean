import DemandPaging.CommandLine.Program

/-!
# Command line

The outermost layer: real files, real streams, and a seed from the system.
-/

namespace DemandPaging.CommandLine

/-- The number of a system error. Some calls report it negated, in thirty-two bits. -/
def errorNumber (code : UInt32) : UInt32 := if code < 0x80000000 then code else 0 - code

/-- A system error in words: its text with a capital, and its number. -/
def systemReason (code : UInt32) (details : String) : String :=
  s!"{details.capitalize} (os error {errorNumber code})"

/-- The reason of a file error in the words of the system. -/
def fileErrorReason (error : IO.Error) : String :=
  match error with
  | .noFileOrDirectory _ code details
  | .permissionDenied _ code details
  | .inappropriateType _ code details
  | .resourceExhausted _ code details
  | .invalidArgument _ code details
  | .otherError code details => systemReason code details
  | other => toString other

def systemFiles : Files IO where
  read path := do
    try return .ok (← IO.FS.readBinFile path)
    catch error => return .error (fileErrorReason error)
  write path contents := do
    try return .ok (← IO.FS.writeFile path contents)
    catch error => return .error (fileErrorReason error)

/-- A seed from the system. -/
def systemEntropy : IO UInt64 := do
  let bytes ← IO.getRandomBytes 8
  return bytes.foldl (fun seed byte => (seed <<< 8) ||| byte.toUInt64) 0

/-- The least important level that is printed. -/
def shownRank (verbosity : Nat) : Nat := Log.Level.rank .info + verbosity

def verbosityOf (arguments : List String) : Nat :=
  match Options.ofArguments arguments with
  | .ok options => options.verbosity
  | .error _ => 0

end DemandPaging.CommandLine

open DemandPaging CommandLine in
def main (arguments : List String) : IO UInt32 := do
  let execution ← execute systemFiles arguments (← systemEntropy)
  for record in execution.records do
    if record.level.rank ≤ shownRank (verbosityOf arguments) then
      IO.eprintln s!"{record.level.name} {record.line}"
  IO.print execution.stdout
  IO.eprint execution.stderr
  return UInt32.ofNat execution.exitCode

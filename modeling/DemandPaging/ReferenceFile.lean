import DemandPaging.Client.Basic
import DemandPaging.Text.Integer
import DemandPaging.Text.Split

/-!
# Reference files

A reference file has one line for each process: its bound and then its
references. Lines without a word, and lines whose first word starts with a
number sign, are left out; the other lines are numbered as processes in order.
-/

namespace DemandPaging.ReferenceFile

/-- The words of a line that describes a process. -/
def content? (line : List Char) : Option (List (List Char)) :=
  match Text.words line with
  | [] => none
  | ('#' :: _) :: _ => none
  | words => some words

/-- Reads words as integers and stops at the first one that is none. -/
def integers (lineNumber : Nat) (words : List (List Char)) : Except Failure (List Int) :=
  words.mapM fun word =>
    match Text.signed64? word with
    | some number => .ok number
    | none => .error (.badInteger lineNumber (String.ofList word))

/-- Reads the lines from number `lineNumber` on; the first process among them is
`pid`. -/
def readLines (lineNumber pid : Nat) : List (List Char) → Except Failure (List Client)
  | [] => .ok []
  | line :: lines =>
    match content? line with
    | none => readLines (lineNumber + 1) pid lines
    | some words => do
      match ← integers lineNumber words with
      | [] => readLines (lineNumber + 1) pid lines
      | bound :: references =>
        let clients ← readLines (lineNumber + 1) (pid + 1) lines
        return ⟨pid, bound, references⟩ :: clients

/-- Reads the text of a reference file, which has to describe a process. -/
def parse (text : List Char) : Except Failure (List Client) := do
  match ← readLines 1 0 (Text.lines text) with
  | [] => throw (.settings .noReferences)
  | clients => return clients

/-- Reads the bytes of the reference file at `path`. -/
def ofBytes (path : String) (bytes : ByteArray) : Except Failure (List Client) :=
  match String.fromUTF8? bytes with
  | some text => parse text.toList
  | none => .error (.file path "stream did not contain valid UTF-8")

end DemandPaging.ReferenceFile

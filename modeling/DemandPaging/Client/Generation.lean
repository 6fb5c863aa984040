import DemandPaging.Client.Basic
import DemandPaging.Random.Draw
import DemandPaging.Settings

/-!
# Random reference strings

A generated process draws its bound first and then its references. A legal
reference lies below the bound; with the probability of the illegal rate a
reference is drawn from the pages that follow the bound instead, as many as the
page table has.
-/

namespace DemandPaging.Client

open DemandPaging.Random

/-- The largest signed 64-bit number. -/
def largestNumber : Int := halfWordCount - 1

/-- The number of pages to draw from, at least one, as a signed 64-bit word. -/
def pageSpan (pages : Nat) : Int := signedWord (max pages 1 : Nat)

/-- Draws one reference. A rate that is not above zero costs no random word. -/
def drawReference (span bound : Int) (rate : Binary64) (stream : Stream) :
    Except DrawFault (Int × Stream) :=
  let (illegal, stream) :=
    if Binary64.zero.lt rate then stream.chance rate else (false, stream)
  if illegal then
    if largestNumber < bound + span then .error .overflow
    else stream.between bound (bound + span - 1)
  else stream.between 0 (bound - 1)

/-- Draws the given number of references. -/
def drawReferences (span bound : Int) (rate : Binary64) :
    Nat → Stream → Except DrawFault (List Int × Stream)
  | 0, stream => .ok ([], stream)
  | count + 1, stream => do
    let (page, stream) ← drawReference span bound rate stream
    let (pages, stream) ← drawReferences span bound rate count stream
    return (page :: pages, stream)

/-- Draws a process whose page table has `pages` entries. -/
def draw (pid pages count : Nat) (rate : Binary64) (stream : Stream) :
    Except DrawFault (Client × Stream) := do
  let span := pageSpan pages
  let (bound, stream) ← stream.between 1 span
  let (references, stream) ←
    drawReferences span bound (rate.clamp .zero .one) count stream
  return (⟨pid, bound, references⟩, stream)

/-- Draws the processes `pid, pid + 1, …`, as many as asked for. -/
def drawFrom (settings : Settings) (pid : Nat) : Nat → Stream → Except DrawFault (List Client)
  | 0, _ => .ok []
  | count + 1, stream => do
    let (client, stream) ←
      draw pid settings.pages settings.referenceCount settings.illegalRate stream
    let clients ← drawFrom settings (pid + 1) count stream
    return client :: clients

/-- The processes that settings and a seed determine. -/
def generate (settings : Settings) (seed : UInt64) : Except DrawFault (List Client) :=
  drawFrom settings 0 settings.processes (Stream.ofSeed seed)

end DemandPaging.Client

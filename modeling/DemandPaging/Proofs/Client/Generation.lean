import DemandPaging.Client.Generation
import DemandPaging.Number.Reading
import DemandPaging.Proofs.Random.Draw

/-!
# Generated reference strings

Whatever the seed, a generated process has a bound in its page table, and each of its
references lies below the bound or among the pages that follow it. The rate decides which
of the two is possible.
-/

namespace DemandPaging.Client

open DemandPaging.Random

/-- Whether the next reference is drawn from the pages that follow the bound. -/
def strays (rate : Binary64) (stream : Stream) : Bool :=
  Binary64.zero.lt rate && (stream.chance rate).1

/-- The stream behind this choice. -/
def afterChoice (rate : Binary64) (stream : Stream) : Stream :=
  if Binary64.zero.lt rate then (stream.chance rate).2 else stream

/-- A page that can be drawn at this rate: below the bound unless the rate is one or more,
and among the `span` pages that follow it if the rate is above zero. -/
def CanDraw (rate : Binary64) (bound span page : Int) : Prop :=
  Binary64.one.le rate = false ∧ 0 ≤ page ∧ page < bound ∨
    Binary64.zero.lt rate = true ∧ bound ≤ page ∧ page < bound + span

/-- A process that can be drawn with so many references for a table of so many pages. -/
structure Drawn (client : Client) (pages count : Nat) (rate : Binary64) : Prop where
  one_le_bound : 1 ≤ client.bound
  bound_le : client.bound ≤ pageSpan pages
  length_eq : client.references.length = count
  canDraw : ∀ page ∈ client.references, CanDraw rate client.bound (pageSpan pages) page

/-- The ranges of a process that is drawn with so many references for a table of so many pages,
and of one page if the table has none. -/
structure InRange (client : Client) (pages count : Nat) (rate : Binary64) : Prop where
  one_le_bound : 1 ≤ client.bound
  bound_le : client.bound ≤ (max pages 1 : Nat)
  length_eq : client.references.length = count
  range : ∀ page ∈ client.references, 0 ≤ page ∧ page < client.bound + (max pages 1 : Nat)
  legal : Binary64.zero.lt rate = false → ∀ page ∈ client.references, page < client.bound
  illegal : Binary64.one.le rate = true → ∀ page ∈ client.references, client.bound ≤ page
  endMarker_notMem : endMarker ∉ client.references

variable {stream next : Stream} {span bound page : Int} {rate : Binary64} {pid pages count : Nat}
  {references : List Int} {client : Client} {clients : List Client} {settings : Settings}

theorem drawReference_eq (span bound : Int) (rate : Binary64) (stream : Stream) :
    drawReference span bound rate stream =
      if strays rate stream = true then
        if largestNumber < bound + span then .error .overflow
        else (afterChoice rate stream).between bound (bound + span - 1)
      else (afterChoice rate stream).between 0 (bound - 1) := by
  cases hpositive : Binary64.zero.lt rate <;>
    simp [drawReference, strays, afterChoice, hpositive]

theorem zero_lt_of_strays (hstrays : strays (rate.clamp .zero .one) stream = true) :
    Binary64.zero.lt rate = true := by
  rw [← Binary64.zero_lt_clamp]
  exact (Bool.and_eq_true_iff.mp hstrays).1

theorem strays_of_one_le (hcertain : Binary64.one.le rate = true) (stream : Stream) :
    strays (rate.clamp .zero .one) stream = true := by
  rw [strays, Binary64.zero_lt_clamp, Binary64.zero_lt_of_one_le hcertain,
    Binary64.clamp_of_one_le hcertain, Stream.chance, if_pos rfl]
  rfl

theorem drawReference_eq_ok
    (hdraw : drawReference span bound (rate.clamp .zero .one) stream = .ok (page, next)) :
    CanDraw rate bound span page := by
  rw [drawReference_eq] at hdraw
  split at hdraw
  next hstrays =>
    split at hdraw
    next => exact absurd hdraw (by simp)
    next =>
      have hpage := Stream.between_mem hdraw
      exact .inr ⟨zero_lt_of_strays hstrays, hpage.1, by omega⟩
  next hlegal =>
    have hpage := Stream.between_mem hdraw
    refine .inl ⟨Bool.eq_false_iff.mpr fun hcertain => ?_, hpage.1, by omega⟩
    exact hlegal (strays_of_one_le hcertain stream)

theorem drawReferences_eq_ok
    (hdraw : drawReferences span bound (rate.clamp .zero .one) count stream =
      .ok (references, next)) :
    references.length = count ∧ ∀ page ∈ references, CanDraw rate bound span page := by
  induction count generalizing stream next references with
  | zero =>
      obtain ⟨rfl, -⟩ := Prod.mk.inj (Except.ok.inj hdraw)
      exact ⟨rfl, by simp⟩
  | succ count ih =>
      obtain ⟨⟨page, middle⟩, hpage, hrest⟩ := exists_of_bind_eq_ok hdraw
      obtain ⟨⟨pages, last⟩, hpages, hresult⟩ := exists_of_bind_eq_ok hrest
      obtain ⟨rfl, -⟩ := Prod.mk.inj (Except.ok.inj hresult)
      obtain ⟨hlength, hmem⟩ := ih hpages
      exact ⟨congrArg (· + 1) hlength,
        List.forall_mem_cons.mpr ⟨drawReference_eq_ok hpage, hmem⟩⟩

theorem draw_eq_ok (hdraw : draw pid pages count rate stream = .ok (client, next)) :
    client.pid = pid ∧ client.Drawn pages count rate := by
  unfold draw at hdraw
  obtain ⟨⟨bound, middle⟩, hbound, hrest⟩ := exists_of_bind_eq_ok hdraw
  obtain ⟨⟨references, last⟩, hreferences, hresult⟩ := exists_of_bind_eq_ok hrest
  obtain ⟨rfl, -⟩ := Prod.mk.inj (Except.ok.inj hresult)
  obtain ⟨hone, hle⟩ := Stream.between_mem hbound
  obtain ⟨hlength, hpages⟩ := drawReferences_eq_ok hreferences
  exact ⟨rfl, hone, hle, hlength, hpages⟩

theorem pageSpan_le (pages : Nat) : pageSpan pages ≤ (max pages 1 : Nat) := by
  simp only [pageSpan, signedWord, Int.bmod, wordCount]
  omega

namespace Drawn

theorem nonneg (hdrawn : client.Drawn pages count rate) (hmem : page ∈ client.references) :
    0 ≤ page := by
  have hone := hdrawn.one_le_bound
  rcases hdrawn.canDraw page hmem with ⟨-, hpage, -⟩ | ⟨-, hpage, -⟩
  · exact hpage
  · omega

theorem endMarker_notMem (hdrawn : client.Drawn pages count rate) :
    endMarker ∉ client.references :=
  fun hmem => absurd (hdrawn.nonneg hmem) (by decide)

theorem inRange (hdrawn : client.Drawn pages count rate) : client.InRange pages count rate where
  one_le_bound := hdrawn.one_le_bound
  bound_le := Int.le_trans hdrawn.bound_le (pageSpan_le pages)
  length_eq := hdrawn.length_eq
  range := by
    intro page hmem
    have hspan := pageSpan_le pages
    refine ⟨hdrawn.nonneg hmem, ?_⟩
    rcases hdrawn.canDraw page hmem with ⟨-, -, hpage⟩ | ⟨-, -, hpage⟩ <;> omega
  legal := by
    intro hzero page hmem
    rcases hdrawn.canDraw page hmem with ⟨-, -, hpage⟩ | ⟨hpositive, -⟩
    · exact hpage
    · exact absurd (hzero.symm.trans hpositive) (by simp)
  illegal := by
    intro hcertain page hmem
    rcases hdrawn.canDraw page hmem with ⟨hbelow, -⟩ | ⟨-, hpage, -⟩
    · exact absurd (hbelow.symm.trans hcertain) (by simp)
    · exact hpage
  endMarker_notMem := hdrawn.endMarker_notMem

end Drawn

theorem drawFrom_eq_ok {first : Nat} (hdraw : drawFrom settings first count stream = .ok clients) :
    clients.map (·.pid) = List.range' first count ∧ ∀ client ∈ clients,
      client.Drawn settings.pages settings.referenceCount settings.illegalRate := by
  induction count generalizing first stream clients with
  | zero =>
      obtain rfl := Except.ok.inj hdraw
      exact ⟨rfl, by simp⟩
  | succ count ih =>
      obtain ⟨⟨client, middle⟩, hclient, hrest⟩ := exists_of_bind_eq_ok hdraw
      obtain ⟨others, hothers, hresult⟩ := exists_of_bind_eq_ok hrest
      obtain rfl := Except.ok.inj hresult
      obtain ⟨hpid, hdrawn⟩ := draw_eq_ok hclient
      obtain ⟨hpids, hclients⟩ := ih hothers
      refine ⟨?_, List.forall_mem_cons.mpr ⟨hdrawn, hclients⟩⟩
      rw [List.map_cons, hpids, hpid, List.range'_succ]

/-- Whatever the stream and the rate, each process that is drawn has its bound and its references
in range, and so have all processes that are drawn for some settings, which are numbered in
order. -/
theorem draws_are_in_range :
    (∀ (pid pages count : Nat) (rate : Binary64) (stream next : Stream) (client : Client),
      draw pid pages count rate stream = .ok (client, next) →
        client.pid = pid ∧ client.InRange pages count rate) ∧
    ∀ (settings : Settings) (stream : Stream) (clients : List Client),
      drawFrom settings 0 settings.processes stream = .ok clients →
        clients.map (·.pid) = List.range settings.processes ∧
          ∀ client ∈ clients,
            client.InRange settings.pages settings.referenceCount settings.illegalRate := by
  refine ⟨fun pid pages count rate stream next client hdraw => ?_,
    fun settings stream clients hdraw => ?_⟩
  · obtain ⟨hpid, hdrawn⟩ := draw_eq_ok hdraw
    exact ⟨hpid, hdrawn.inRange⟩
  · obtain ⟨hpids, hclients⟩ := drawFrom_eq_ok hdraw
    rw [← List.range_eq_range'] at hpids
    exact ⟨hpids, fun client hmem => (hclients client hmem).inRange⟩

/-- Two processes whose references are as likely illegal as legal. -/
def halfIllegal : Settings where
  processes := 2
  pages := 3
  frames := 1
  referenceCount := 2
  illegalRate := ⟨0x3fe0000000000000⟩

theorem two_draws_are_in_range :
    (∃ client next, draw 4 0 3 .nan (Stream.ofSeed 7) = .ok (client, next) ∧
      client.pid = 4 ∧ client.InRange 0 3 .nan) ∧
    ∃ clients, generate halfIllegal 7 = .ok clients ∧ clients.map (·.pid) = [0, 1] ∧
      ∀ client ∈ clients, client.InRange 3 2 halfIllegal.illegalRate := by
  constructor
  · obtain ⟨⟨client, next⟩, hdraw⟩ :=
      exists_of_isOk (show (draw 4 0 3 .nan (Stream.ofSeed 7)).isOk = true by decide +kernel)
    exact ⟨client, next, hdraw, draws_are_in_range.1 4 0 3 .nan _ next client hdraw⟩
  · obtain ⟨clients, hgenerate⟩ :=
      exists_of_isOk (show (generate halfIllegal 7).isOk = true by decide +kernel)
    exact ⟨clients, hgenerate, draws_are_in_range.2 halfIllegal _ clients hgenerate⟩

end DemandPaging.Client

import DemandPaging.Proofs.Client.Generation

/-!
# What a draw can fail with

Every range that a process is drawn from has a number in it. Only the pages that follow the
bound can reach past the signed numbers of 64 bits, and only in tables with two to the power 62
pages and more. The draw of a process then fails at its first reference that is to be illegal.
-/

namespace DemandPaging.Client

open DemandPaging.Random

variable {stream next start : Stream} {span bound page : Int} {rate : Binary64}
  {pid pages count : Nat} {references : List Int} {fault : DrawFault}

/-! ## One reference -/

/-- A range that is drawn from is never empty. -/
theorem drawReference_eq_error (hbound : 1 ≤ bound) (hspan : 1 ≤ span)
    (hdraw : drawReference span bound rate stream = .error fault) :
    fault = .exhausted ∨
      fault = .overflow ∧ largestNumber < bound + span ∧ strays rate stream = true := by
  rw [drawReference_eq] at hdraw
  split at hdraw
  next hstrays =>
    split at hdraw
    next hlarge => exact .inr ⟨(Except.error.inj hdraw).symm, hlarge, hstrays⟩
    next => exact .inl (Stream.between_eq_error (by omega) hdraw)
  next => exact .inl (Stream.between_eq_error (by omega) hdraw)

theorem drawReference_of_strays (hlarge : largestNumber < bound + span)
    (hstrays : strays rate stream = true) :
    drawReference span bound rate stream = .error .overflow := by
  rw [drawReference_eq, if_pos hstrays, if_pos hlarge]

/-! ## All references -/

/-- One of so many references is reached and strays. -/
def StraysWithin (span bound : Int) (rate : Binary64) (count : Nat) (stream : Stream) : Prop :=
  ∃ earlier < count, ∃ references last,
    drawReferences span bound rate earlier stream = .ok (references, last) ∧
      strays rate last = true

theorem drawReferences_succ_eq_ok {earlier : Nat} {middle : Stream}
    (hpage : drawReference span bound rate stream = .ok (page, middle))
    (hpages : drawReferences span bound rate earlier middle = .ok (references, next)) :
    drawReferences span bound rate (earlier + 1) stream = .ok (page :: references, next) := by
  rw [drawReferences, hpage]
  simp only [bind, Except.bind, hpages]
  rfl

theorem drawReferences_eq_error (hbound : 1 ≤ bound) (hspan : 1 ≤ span)
    (hdraw : drawReferences span bound rate count stream = .error fault) :
    fault = .exhausted ∨
      fault = .overflow ∧ largestNumber < bound + span ∧
        StraysWithin span bound rate count stream := by
  induction count generalizing stream with
  | zero => exact nomatch hdraw
  | succ count ih =>
      rcases bind_eq_error_iff.mp hdraw with hpage | ⟨⟨page, middle⟩, hpage, hrest⟩
      · rcases drawReference_eq_error hbound hspan hpage with hfault | ⟨hfault, hlarge, hstrays⟩
        · exact .inl hfault
        · exact .inr ⟨hfault, hlarge, 0, Nat.succ_pos count, [], stream, rfl, hstrays⟩
      · rcases bind_eq_error_iff.mp hrest with hpages | ⟨⟨pages, last⟩, -, hresult⟩
        · rcases ih hpages with hfault | ⟨hfault, hlarge, hwithin⟩
          · exact .inl hfault
          · obtain ⟨earlier, hearlier, references, last, hdrawn, hstrays⟩ := hwithin
            exact .inr ⟨hfault, hlarge, earlier + 1, Nat.succ_lt_succ hearlier,
              page :: references, last, drawReferences_succ_eq_ok hpage hdrawn, hstrays⟩
        · exact nomatch hresult

theorem drawReferences_of_straysWithin (hlarge : largestNumber < bound + span)
    (hwithin : StraysWithin span bound rate count stream) :
    drawReferences span bound rate count stream = .error .overflow := by
  obtain ⟨earlier, hearlier, references, last, hdrawn, hstrays⟩ := hwithin
  induction count generalizing stream earlier references with
  | zero => exact absurd hearlier (Nat.not_lt_zero earlier)
  | succ count ih =>
      rw [drawReferences, bind_eq_error_iff]
      -- The first reference strays itself, or it is drawn and the failure comes after it.
      cases earlier with
      | zero =>
          obtain ⟨-, rfl⟩ := Prod.mk.inj (Except.ok.inj hdrawn)
          exact .inl (drawReference_of_strays hlarge hstrays)
      | succ earlier =>
          obtain ⟨⟨page, middle⟩, hpage, hrest⟩ := exists_of_bind_eq_ok hdrawn
          obtain ⟨⟨pages, final⟩, hpages, hresult⟩ := exists_of_bind_eq_ok hrest
          obtain ⟨-, rfl⟩ := Prod.mk.inj (Except.ok.inj hresult)
          refine .inr ⟨(page, middle), hpage, bind_eq_error_iff.mpr (.inl ?_)⟩
          exact ih earlier (Nat.lt_of_succ_lt_succ hearlier) pages hpages

/-! ## A whole process -/

theorem pageSpan_of_lt (hpages : pages < halfWordCount) : pageSpan pages = (max pages 1 : Nat) :=
  signedWord_of_lt (Nat.max_lt.mpr ⟨hpages, by decide⟩)

/-- The numbers of the pages that follow the bound do not all fit, and a reference strays. -/
def RunsOver (pages count : Nat) (rate : Binary64) (stream : Stream) : Prop :=
  ∃ bound start, stream.between 1 (max pages 1 : Nat) = .ok (bound, start) ∧
    halfWordCount ≤ bound + (max pages 1 : Nat) ∧
    StraysWithin (max pages 1 : Nat) bound (rate.clamp .zero .one) count start

theorem draw_eq_error (hpages : pages < halfWordCount)
    (hdraw : draw pid pages count rate stream = .error fault) :
    fault = .exhausted ∨ fault = .overflow ∧ RunsOver pages count rate stream := by
  have hspan : (1 : Int) ≤ (max pages 1 : Nat) := by omega
  unfold draw at hdraw
  rw [pageSpan_of_lt hpages] at hdraw
  rcases bind_eq_error_iff.mp hdraw with hbound | ⟨⟨bound, start⟩, hbound, hrest⟩
  · exact .inl (Stream.between_eq_error hspan hbound)
  · have hpositive := (Stream.between_mem hbound).1
    rcases bind_eq_error_iff.mp hrest with hreferences | ⟨⟨references, last⟩, -, hresult⟩
    · rcases drawReferences_eq_error hpositive hspan hreferences with
        hfault | ⟨hfault, hlarge, hwithin⟩
      · exact .inl hfault
      · refine .inr ⟨hfault, bound, start, hbound, ?_, hwithin⟩
        unfold largestNumber at hlarge
        omega
    · exact nomatch hresult

theorem draw_of_runsOver (hpages : pages < halfWordCount)
    (hover : RunsOver pages count rate stream) :
    draw pid pages count rate stream = .error .overflow := by
  obtain ⟨bound, start, hbound, hlarge, hwithin⟩ := hover
  have hreferences := drawReferences_of_straysWithin (by unfold largestNumber; omega) hwithin
  unfold draw
  rw [pageSpan_of_lt hpages]
  refine bind_eq_error_iff.mpr (.inr ⟨(bound, start), hbound, ?_⟩)
  exact bind_eq_error_iff.mpr (.inl hreferences)

theorem RunsOver.large_table (hover : RunsOver pages count rate stream) :
    halfWordCount ≤ 2 * pages ∧ Binary64.zero.lt rate = true := by
  obtain ⟨bound, start, hbound, hlarge, earlier, -, references, last, -, hstrays⟩ := hover
  have hmem := Stream.between_mem hbound
  have hhalf : 2 < halfWordCount := by decide
  exact ⟨by omega, zero_lt_of_strays hstrays⟩

/-- A table whose length is a signed number of 64 bits is never drawn from an empty range. Its
draw overflows exactly if the pages that follow the bound run over and a reference strays there,
so a small table or a rate of zero always gives a process, unless the stream is exhausted. -/
theorem draw_overflows_iff (hpages : pages < halfWordCount) :
    (∀ fault, draw pid pages count rate stream = .error fault →
      fault = .exhausted ∨ fault = .overflow) ∧
    (draw pid pages count rate stream = .error .overflow ↔ RunsOver pages count rate stream) ∧
    (2 * pages < halfWordCount ∨ Binary64.zero.lt rate = false →
      (∃ drawn, draw pid pages count rate stream = .ok drawn) ∨
        draw pid pages count rate stream = .error .exhausted) := by
  refine ⟨fun fault hdraw => (draw_eq_error hpages hdraw).imp_right And.left,
    ⟨fun hdraw => ?_, draw_of_runsOver hpages⟩, fun hsmall => ?_⟩
  · rcases draw_eq_error hpages hdraw with hfault | ⟨-, hover⟩
    · exact nomatch hfault
    · exact hover
  · cases hdraw : draw pid pages count rate stream with
    | ok drawn => exact .inl ⟨drawn, rfl⟩
    | error fault =>
        rcases draw_eq_error hpages hdraw with rfl | ⟨-, hover⟩
        · exact .inr rfl
        · obtain ⟨hlarge, hpositive⟩ := hover.large_table
          rcases hsmall with hsmall | hzero
          · exact absurd hlarge (Nat.not_le_of_lt hsmall)
          · exact absurd (hzero.symm.trans hpositive) (by simp)

/-- With this seed the bound is 6739366250011560229. -/
theorem runsOver_of_seed_one : RunsOver 6917529027641081856 1 .one (Stream.ofSeed 1) := by
  have hvalue : ((Stream.ofSeed 1).between 1 6917529027641081856).toOption.map (·.1) =
      some 6739366250011560229 := by decide +kernel
  cases hbound : (Stream.ofSeed 1).between 1 6917529027641081856 with
  | error fault => exact absurd (hbound ▸ hvalue) (by simp [Except.toOption])
  | ok drawn =>
      obtain ⟨bound, start⟩ := drawn
      obtain rfl : bound = 6739366250011560229 := by
        rw [hbound] at hvalue
        exact Option.some.inj hvalue
      exact ⟨_, start, hbound, by decide, 0, Nat.one_pos, [], start, rfl, rfl⟩

theorem two_tables_overflow_or_not :
    ((∃ drawn, draw 3 5 4 .one (Stream.ofSeed 7) = .ok drawn) ∨
        draw 3 5 4 .one (Stream.ofSeed 7) = .error .exhausted) ∧
      draw 0 6917529027641081856 1 .one (Stream.ofSeed 1) = .error .overflow :=
  ⟨(draw_overflows_iff (by decide)).2.2 (.inl (by decide)),
    (draw_overflows_iff (by decide)).2.1.mpr runsOver_of_seed_one⟩

/-- Not every table whose length is a signed number of 64 bits gives a process at every
probability of illegal references. -/
theorem overflow_in_a_fitting_table :
    ¬∀ (pid pages count : Nat) (rate : Binary64) (stream : Stream),
      pages < halfWordCount → rate.isProbability = true →
        (∃ drawn, draw pid pages count rate stream = .ok drawn) ∨
          draw pid pages count rate stream = .error .exhausted := by
  intro hall
  have hfails : draw 0 6917529027641081856 1 .one (Stream.ofSeed 1) = .error .overflow :=
    draw_of_runsOver (by decide) runsOver_of_seed_one
  rcases hall 0 6917529027641081856 1 .one (Stream.ofSeed 1) (by decide) (by decide) with
    ⟨drawn, hdrawn⟩ | hexhausted
  · exact nomatch hfails.symm.trans hdrawn
  · exact nomatch hfails.symm.trans hexhausted

end DemandPaging.Client

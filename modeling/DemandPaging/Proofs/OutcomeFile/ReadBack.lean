import DemandPaging.OutcomeFile
import DemandPaging.Proofs.Text.Lexical

/-!
# Reading outcome files back

Every line of an outcome file is taken apart at its blanks and read as the codes of one
process, and every code of a frame with a number below two to the power 63 is the code of
nothing else. So a file tells all outcomes, and different outcomes give different files.
-/

namespace DemandPaging

/-- The outcome that a code stands for. -/
def Outcome.ofCode? : Int → Option Outcome
  | .ofNat number => some (.frame number)
  | -1 => some .starved
  | -2 => some .illegal
  | -9 => some .endOfStream
  | _ => none

theorem Outcome.ofCode?_code {outcome : Outcome}
    (hfits : ∀ number, outcome = .frame number → number < halfWordCount) :
    ofCode? outcome.code = some outcome := by
  cases outcome with
  | frame number =>
      rw [code, signedWord_of_lt (hfits number rfl)]
      rfl
  | illegal | starved | endOfStream => rfl

/-- A code is a signed word, whatever the number of a frame is. -/
theorem Outcome.denotes_code (outcome : Outcome) :
    Text.Denotes (toString outcome.code).toList outcome.code := by
  have hrange : -(halfWordCount : Int) ≤ outcome.code ∧ outcome.code < halfWordCount := by
    cases outcome with
    | frame number =>
        simp only [code, signedWord, Int.bmod, wordCount, halfWordCount]
        omega
    | illegal | starved | endOfStream => decide
  exact ⟨Text.numeral_toString outcome.code, hrange.1, hrange.2⟩

namespace OutcomeFile

open Text

/-- The integers on a line, one blank between them. -/
def codes? (line : List Char) : Option (List Int) :=
  -- An empty line has no codes, but `splitOn` finds one word in it, the empty one.
  if line = [] then some [] else (line.splitOn ' ').mapM signed64?

/-- The outcomes that a line tells. -/
def outcomes? (line : List Char) : Option (List Outcome) :=
  (codes? line).bind (·.mapM Outcome.ofCode?)

/-- All frames have numbers that are signed words. -/
def FramesFit (outcomes : List Outcome) : Prop :=
  ∀ number, .frame number ∈ outcomes → number < halfWordCount

variable {outcomes : List Outcome} {processes others : List (List Outcome)}

/-! ## One line -/

/-- How an outcome is written. -/
def word (outcome : Outcome) : List Char := (toString outcome.code).toList

theorem notMem_word_of_blank {c : Char} (hblank : isBlank c = true) (outcome : Outcome) :
    c ∉ word outcome :=
  outcome.denotes_code.numeral.notMem_of_blank hblank

theorem toList_line (outcomes : List Outcome) :
    (line outcomes).toList = [' '].intercalate (outcomes.map word) := by
  rw [line, String.toList_intercalate, List.map_map]
  rfl

/-- Only a process without outcomes has an empty line. -/
theorem toList_line_eq_nil_iff : (line outcomes).toList = [] ↔ outcomes = [] := by
  rw [toList_line]
  cases outcomes with
  | nil => simp
  | cons outcome outcomes =>
      have hword : word outcome ≠ [] := outcome.denotes_code.numeral.ne_nil
      cases outcomes with
      | nil => simpa using hword
      | cons => simp [hword]

theorem splitOn_line (hne : outcomes ≠ []) :
    (line outcomes).toList.splitOn ' ' = outcomes.map word := by
  rw [toList_line]
  refine List.splitOn_intercalate ' ' (fun text hmem => ?_) (by simpa using hne)
  obtain ⟨outcome, -, rfl⟩ := List.mem_map.mp hmem
  exact notMem_word_of_blank (by decide) outcome

theorem codes?_line (outcomes : List Outcome) :
    codes? (line outcomes).toList = some (outcomes.map Outcome.code) := by
  unfold codes?
  split
  next hnil => rw [toList_line_eq_nil_iff.mp hnil, List.map_nil]
  next hline =>
    have hread : signed64? ∘ word = fun outcome => some outcome.code :=
      funext fun outcome => signed64?_eq_some_iff.mpr outcome.denotes_code
    rw [splitOn_line (mt toList_line_eq_nil_iff.mpr hline), List.mapM_map, hread]
    exact List.mapM_pure

theorem mapM_ofCode?_codes (hfits : FramesFit outcomes) :
    (outcomes.map Outcome.code).mapM Outcome.ofCode? = some outcomes := by
  induction outcomes with
  | nil => rfl
  | cons outcome outcomes ih =>
      have hhead : Outcome.ofCode? outcome.code = some outcome :=
        Outcome.ofCode?_code fun number heq => hfits number (heq ▸ List.mem_cons_self)
      have htail := ih fun number hmem => hfits number (List.mem_cons_of_mem outcome hmem)
      rw [List.map_cons, List.mapM_cons, hhead, htail]
      rfl

theorem outcomes?_line (hfits : FramesFit outcomes) :
    outcomes? (line outcomes).toList = some outcomes := by
  rw [outcomes?, codes?_line]
  exact mapM_ofCode?_codes hfits

theorem lineFeed_notMem_line (outcomes : List Outcome) : '\n' ∉ (line outcomes).toList := by
  rw [toList_line]
  induction outcomes with
  | nil => simp
  | cons outcome outcomes ih =>
      have hword := notMem_word_of_blank (c := '\n') (by decide) outcome
      cases outcomes with
      | nil => simpa using hword
      | cons next outcomes =>
          rw [List.map_cons] at ih
          rw [List.map_cons, List.map_cons, List.intercalate_cons_cons]
          simp [hword, ih]

/-! ## Whole files -/

theorem toList_text (processes : List (List Outcome)) :
    (text processes).toList = ['\n'].intercalate (processes.map fun outcomes =>
      (line outcomes).toList) := by
  rw [text, String.toList_intercalate, List.map_map]
  rfl

theorem lines_text (hne : processes ≠ []) :
    lines (text processes).toList = processes.map fun outcomes => (line outcomes).toList := by
  rw [toList_text]
  refine List.splitOn_intercalate '\n' (fun line hmem => ?_) (by simpa using hne)
  obtain ⟨outcomes, -, rfl⟩ := List.mem_map.mp hmem
  exact lineFeed_notMem_line outcomes

/-- The end of the last line is followed by nothing. -/
theorem lines_contents (hne : processes ≠ []) :
    lines (contents processes).toList =
      (processes.map fun outcomes => (line outcomes).toList) ++ [[]] := by
  rw [contents, String.toList_append, ← lines_text hne]
  exact List.splitOn_append_cons_self (text processes).toList []

theorem text_injective (hne : processes ≠ []) (hothers : others ≠ [])
    (hfits : ∀ outcomes ∈ processes, FramesFit outcomes)
    (hotherFits : ∀ outcomes ∈ others, FramesFit outcomes) (htext : text others = text processes) :
    others = processes := by
  have hread {processes : List (List Outcome)}
      (hfits : ∀ outcomes ∈ processes, FramesFit outcomes) :
      (processes.map fun outcomes => (line outcomes).toList).map outcomes? =
        processes.map some := by
    rw [List.map_map]
    exact List.map_congr_left fun outcomes hmem => outcomes?_line (hfits outcomes hmem)
  have hlines := congrArg (fun text => (lines text.toList).map outcomes?) htext
  simp only [lines_text hne, lines_text hothers, hread hfits, hread hotherFits] at hlines
  exact List.map_injective_iff.mpr (fun _ _ => Option.some.inj) hlines

/-- Different outcomes with numbers of frames in range give different files. A file has a
line feed for each process, and each line, at its blanks, gives the codes of one process, from
which its outcomes are known. -/
theorem outcomes_are_read_back (hne : processes ≠ [])
    (hfits : ∀ outcomes ∈ processes, FramesFit outcomes) :
    (∀ others, others ≠ [] → (∀ outcomes ∈ others, FramesFit outcomes) →
      text others = text processes → others = processes) ∧
    (contents processes).toList.count '\n' = processes.length ∧
    ∀ (index : Nat) (outcomes : List Outcome), processes[index]? = some outcomes →
      ∃ line, (lines (contents processes).toList)[index]? = some line ∧
        (line = [] ↔ outcomes = []) ∧ codes? line = some (outcomes.map Outcome.code) ∧
        (outcomes.map Outcome.code).mapM Outcome.ofCode? = some outcomes := by
  refine ⟨fun others hothers hotherFits => text_injective hne hothers hfits hotherFits, ?_, ?_⟩
  · have hlength := length_lines (contents processes).toList
    rw [lines_contents hne, List.length_append, List.length_map] at hlength
    exact (Nat.succ.inj hlength).symm
  · intro index outcomes houtcomes
    have hindex := (List.getElem?_eq_some_iff.mp houtcomes).1
    refine ⟨(line outcomes).toList, ?_, toList_line_eq_nil_iff, codes?_line outcomes,
      mapM_ofCode?_codes (hfits outcomes (List.mem_of_getElem? houtcomes))⟩
    rw [lines_contents hne, List.getElem?_append_left (by simpa using hindex),
      List.getElem?_map, houtcomes]
    rfl

/-- A process with the largest frame, one without outcomes, and one that starves at once. -/
def threeProcesses : List (List Outcome) :=
  [[.frame 0, .frame 9223372036854775807, .illegal], [], [.starved]]

theorem three_processes_are_read_back :
    contents threeProcesses = "0 9223372036854775807 -2\n\n-1\n" ∧
      text [[.frame 0], [.starved]] ≠ text threeProcesses ∧
      (contents threeProcesses).toList.count '\n' = 3 ∧
      ∃ line, (lines (contents threeProcesses).toList)[0]? = some line ∧
        codes? line = some [0, 9223372036854775807, -2] := by
  have hfits : ∀ outcomes ∈ threeProcesses, FramesFit outcomes := by
    simp [threeProcesses, FramesFit, halfWordCount]
  have hotherFits : ∀ outcomes ∈ [[Outcome.frame 0], [.starved]], FramesFit outcomes := by
    simp [FramesFit, halfWordCount]
  obtain ⟨hinjective, hcount, hlines⟩ := outcomes_are_read_back (by decide) hfits
  obtain ⟨line, hline, -, hcodes, -⟩ := hlines 0 _ rfl
  refine ⟨by decide, fun htext => ?_, hcount, line, hline, hcodes⟩
  exact absurd (hinjective _ (by decide) hotherFits htext) (by decide)

end OutcomeFile

end DemandPaging

import Mathlib.Data.List.Forall2
import DemandPaging.Proofs.Text.Lexical
import DemandPaging.ReferenceFile

/-!
# The grammar of reference files

A reference file is accepted if it has a line that describes a process and all words of such
lines are integers. Otherwise the first word that is none is reported with the number of its
line, blank lines and comments counted.
-/

namespace DemandPaging.ReferenceFile

open Text

/-- Whether a line describes a process: without the blanks at its ends it is neither empty
nor a comment. -/
def IsSignificant (line : List Char) : Prop :=
  trim line ≠ [] ∧ (trim line).head? ≠ some '#'

instance : DecidablePred IsSignificant := fun _ => inferInstanceAs (Decidable (_ ∧ _))

/-- The significant lines with their numbers, if the first of all lines has this number. -/
def significantFrom (first : Nat) (lines : List (List Char)) : List (List Char × Nat) :=
  (lines.zipIdx first).filter (IsSignificant ·.1)

/-- The significant lines of a text, numbered from one on among all its lines. -/
def significantLines (text : List Char) : List (List Char × Nat) :=
  significantFrom 1 (text.splitOn '\n')

/-- The words of some lines, each with the number of its line. -/
def tokens (lines : List (List Char × Nat)) : List (Nat × List Char) :=
  lines.flatMap fun (line, number) => (words line).map (number, ·)

/-- The first word that is no integer, with the number of its line. -/
def firstBad? (lines : List (List Char × Nat)) : Option (Nat × List Char) :=
  (tokens lines).find? (¬ IsLiteral ·.2)

/-- Each line describes one process, and the processes are numbered in order. The first word
of a line denotes the bound and the other ones the references. -/
structure Describes (pid : Nat) (lines : List (List Char × Nat)) (clients : List Client) :
    Prop where
  pids : clients.map (·.pid) = List.range' pid clients.length
  values : List.Forall₂ (fun (line, _) client =>
    List.Forall₂ Denotes (words line) (client.bound :: client.references)) lines clients

variable {first pid number : Nat} {line : List Char} {lines : List (List Char)}
  {significant : List (List Char × Nat)}

/-! ## One line -/

theorem content?_cases (line : List Char) :
    ¬ IsSignificant line ∧ content? line = none ∨
      IsSignificant line ∧ words line ≠ [] ∧ content? line = some (words line) := by
  rcases trim_cases line with ⟨htrim, hwords⟩ | ⟨c, left, word, rest, htrim, hwords⟩
  · exact .inl ⟨fun hsignificant => hsignificant.1 htrim, by rw [content?, hwords]⟩
  · have hhead : (trim line).head? = some c := by rw [htrim, List.head?_cons]
    by_cases hsign : c = '#'
    · refine .inl ⟨fun hsignificant => hsignificant.2 (hsign ▸ hhead), ?_⟩
      rw [content?, hwords, hsign]
      rfl
    · refine .inr ⟨⟨by simp [htrim], by simp [hhead, hsign]⟩, by simp [hwords], ?_⟩
      rw [content?, hwords]
      split
      next heq => exact absurd heq (by simp)
      next heq => exact absurd (List.cons.inj (List.cons.inj heq).1).1 hsign
      next => rfl

/-- The words of a line are all read, or the first one that is no integer is reported. -/
theorem integers_eq (number : Nat) (texts : List (List Char)) :
    integers number texts =
      match texts.find? (¬ IsLiteral ·) with
      | some word => .error (.badInteger number (String.ofList word))
      | none => .ok (texts.filterMap signed64?) := by
  induction texts with
  | nil => rfl
  | cons word texts ih =>
      unfold integers at ih ⊢
      rw [List.mapM_cons, ih, List.find?_cons, List.filterMap_cons]
      cases hread : signed64? word with
      | none =>
          have hbad : ¬ IsLiteral word := by simp [isLiteral_iff, hread]
          simp only [hbad, not_false_eq_true, decide_true]
          rfl
      | some value =>
          have hgood : IsLiteral word := ⟨value, signed64?_eq_some_iff.mp hread⟩
          simp only [hgood, not_true_eq_false, decide_false, bind, Except.bind]
          cases texts.find? (¬ IsLiteral ·) <;> rfl

theorem forall₂_denotes {texts : List (List Char)} (hall : ∀ word ∈ texts, IsLiteral word) :
    List.Forall₂ Denotes texts (texts.filterMap signed64?) := by
  induction texts with
  | nil => exact .nil
  | cons word texts ih =>
      obtain ⟨value, hvalue⟩ := hall word List.mem_cons_self
      rw [List.filterMap_cons_some (signed64?_eq_some_iff.mpr hvalue)]
      exact .cons hvalue (ih fun other hother => hall other (List.mem_cons_of_mem word hother))

/-! ## All lines -/

theorem significantFrom_cons :
    significantFrom first (line :: lines) =
      if IsSignificant line then (line, first) :: significantFrom (first + 1) lines
      else significantFrom (first + 1) lines := by
  simp [significantFrom, List.zipIdx_cons, List.filter_cons]

theorem firstBad?_cons :
    firstBad? ((line, number) :: significant) =
      (((words line).find? (¬ IsLiteral ·)).map (number, ·)).or (firstBad? significant) := by
  simp only [firstBad?, tokens, List.flatMap_cons, List.find?_append, List.find?_map]
  rfl

theorem firstBad?_eq_none_iff :
    firstBad? significant = none ↔ ∀ token ∈ tokens significant, IsLiteral token.2 := by
  simp [firstBad?]

/-- The lines are all read, or the first word that is no integer is reported. -/
theorem readLines_cases (first pid : Nat) (lines : List (List Char)) :
    (firstBad? (significantFrom first lines) = none ∧
      ∃ clients, readLines first pid lines = .ok clients ∧
        Describes pid (significantFrom first lines) clients) ∨
    ∃ number word, firstBad? (significantFrom first lines) = some (number, word) ∧
      readLines first pid lines = .error (.badInteger number (String.ofList word)) := by
  induction lines generalizing first pid with
  | nil => exact .inl ⟨rfl, [], rfl, rfl, .nil⟩
  | cons line lines ih =>
      rw [significantFrom_cons, readLines]
      rcases content?_cases line with ⟨hnot, hcontent⟩ | ⟨hsignificant, hne, hcontent⟩
      · rw [if_neg hnot, hcontent]
        exact ih (first + 1) pid
      · rw [if_pos hsignificant, hcontent, firstBad?_cons]
        simp only [integers_eq]
        cases hbad : (words line).find? (¬ IsLiteral ·) with
        | some word => exact .inr ⟨first, word, rfl, rfl⟩
        | none =>
            have hall : ∀ word ∈ words line, IsLiteral word := by simpa using hbad
            have hdenotes := forall₂_denotes hall
            cases hvalues : (words line).filterMap signed64? with
            | nil =>
                rw [hvalues, List.forall₂_nil_right_iff] at hdenotes
                exact absurd hdenotes hne
            | cons bound references =>
                rw [hvalues] at hdenotes
                simp only [bind, Except.bind]
                rcases ih (first + 1) (pid + 1) with
                  ⟨hgood, clients, hclients, hpids, hrows⟩ | ⟨number, word, hfirst, herror⟩
                · refine .inl ⟨hgood, ⟨pid, bound, references⟩ :: clients, ?_, ?_, ?_⟩
                  · rw [hclients]
                    rfl
                  · rw [List.map_cons, hpids, List.length_cons, List.range'_succ]
                  · exact .cons hdenotes hrows
                · refine .inr ⟨number, word, hfirst, ?_⟩
                  rw [herror]

theorem Describes.eq_nil_iff {pid : Nat} {clients : List Client}
    (hdescribes : Describes pid significant clients) : clients = [] ↔ significant = [] := by
  have hlength := hdescribes.values.length_eq
  rw [← List.length_eq_zero_iff, ← hlength, List.length_eq_zero_iff]

theorem firstBad?_nil : firstBad? [] = none := rfl

/-- The three ways in which a text is read. -/
theorem parse_cases (text : List Char) :
    (significantLines text ≠ [] ∧ firstBad? (significantLines text) = none ∧
      ∃ clients, parse text = .ok clients ∧ Describes 0 (significantLines text) clients) ∨
    (∃ number word, firstBad? (significantLines text) = some (number, word) ∧
      parse text = .error (.badInteger number (String.ofList word))) ∨
    significantLines text = [] ∧ parse text = .error (.settings .noReferences) := by
  rcases readLines_cases 1 0 (Text.lines text) with
    ⟨hgood, clients, hclients, hdescribes⟩ | ⟨number, word, hbad, herror⟩
  · cases clients with
    | nil =>
        refine .inr (.inr ⟨hdescribes.eq_nil_iff.mp rfl, ?_⟩)
        rw [parse, hclients]
        rfl
    | cons client clients =>
        refine .inl ⟨?_, hgood, client :: clients, ?_, hdescribes⟩
        · exact fun hnone => List.cons_ne_nil _ _ (hdescribes.eq_nil_iff.mpr hnone)
        · rw [parse, hclients]
          rfl
  · refine .inr (.inl ⟨number, word, hbad, ?_⟩)
    rw [parse, herror]
    rfl

/-- A text is accepted exactly if it has a significant line and all words of such lines are
integers of 64 bits; the lines then describe the processes. Otherwise the first word that is
no integer is reported, or that there is no significant line. -/
theorem parse_accepts_its_grammar (text : List Char) :
    ((∃ clients, parse text = .ok clients) ↔
      significantLines text ≠ [] ∧ ∀ token ∈ tokens (significantLines text), IsLiteral token.2) ∧
    (∀ clients, parse text = .ok clients → Describes 0 (significantLines text) clients) ∧
    (∀ number word, firstBad? (significantLines text) = some (number, word) →
      parse text = .error (.badInteger number (String.ofList word))) ∧
    (significantLines text = [] → parse text = .error (.settings .noReferences)) := by
  rw [← firstBad?_eq_none_iff]
  rcases parse_cases text with ⟨hsome, hgood, clients, hparse, hdescribes⟩ |
    ⟨number, word, hbad, hparse⟩ | ⟨hnone, hparse⟩
  · rw [hparse, hgood]
    refine ⟨⟨fun _ => ⟨hsome, rfl⟩, fun _ => ⟨clients, rfl⟩⟩, fun others hothers => ?_, by simp,
      fun hnone => absurd hnone hsome⟩
    rwa [← Except.ok.inj hothers]
  · have hsome : significantLines text ≠ [] := by
      intro hnone
      rw [hnone, firstBad?_nil] at hbad
      exact absurd hbad (by simp)
    rw [hparse, hbad]
    refine ⟨by simp, by simp, fun found token hfound => ?_, fun hnone => absurd hnone hsome⟩
    obtain ⟨rfl, rfl⟩ := Prod.mk.inj (Option.some.inj hfound)
    rfl
  · rw [hparse, hnone, firstBad?_nil]
    exact ⟨by simp, by simp, by simp, fun _ => rfl⟩

end DemandPaging.ReferenceFile

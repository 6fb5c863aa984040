import DemandPaging.Proofs.ReferenceFile.Grammar
import DemandPaging.Proofs.Simulation.SequentialRun

/-!
# Sheets

A sheet is a reference file as it can be written for given processes: the numbers of each
process stand in plain notation on a line of their own, with any spacing before, between and
after them, and with blank lines and comments in any place. Its text is read as exactly these
processes, numbered in order, whatever the layout is.
-/

namespace DemandPaging.ReferenceFile

open Text

/-- Blanks on one line. -/
structure Spacing where
  text : List Char
  all_isBlank : text.all Text.isBlank = true
  lineFeed_notMem : '\n' ∉ text

theorem Spacing.isBlank (spacing : Spacing) : ∀ c ∈ spacing.text, Text.isBlank c = true :=
  List.all_eq_true.mp spacing.all_isBlank

def Spacing.none : Spacing := ⟨[], rfl, by decide⟩

/-- Spacing that keeps two numbers apart. -/
structure Gap extends Spacing where
  ne_nil : text ≠ []

def Gap.space : Gap := ⟨⟨[' '], by decide, by decide⟩, by decide⟩

/-- What a comment says, on one line. -/
structure Remark where
  text : List Char
  lineFeed_notMem : '\n' ∉ text

/-- One line of a sheet. -/
inductive SheetLine where
  | blank (spacing : Spacing)
  | comment (indent : Spacing) (remark : Remark)
  | process (indent : Spacing) (bound : Int64) (references : List (Gap × Int64))
      (trail : Spacing)

/-- How a line ends: with a line feed alone or behind a carriage return. -/
inductive LineEnd where
  | lineFeed
  | carriageReturn

/-- What stands before the line feed. -/
def LineEnd.lead : LineEnd → List Char
  | .lineFeed => []
  | .carriageReturn => ['\r']

/-- Lines with their ends, and a last line without one. A file in which all lines are ended
has an empty line there. -/
structure Sheet where
  lines : List (SheetLine × LineEnd)
  last : SheetLine

/-- A number in plain notation. -/
def numeral (number : Int64) : List Char := (toString number.toInt).toList

namespace SheetLine

/-- References, each behind its gap. -/
def referencesText (references : List (Gap × Int64)) : List Char :=
  references.flatMap fun (gap, number) => gap.text ++ numeral number

def text : SheetLine → List Char
  | .blank spacing => spacing.text
  | .comment indent remark => indent.text ++ '#' :: remark.text
  | .process indent bound references trail =>
    indent.text ++ numeral bound ++ referencesText references ++ trail.text

/-- The bound and the references that a line gives. -/
def row? : SheetLine → Option (Int64 × List Int64)
  | .blank _ | .comment _ _ => none
  | .process _ bound references _ => some (bound, references.map (·.2))

end SheetLine

namespace Sheet

def text (sheet : Sheet) : List Char :=
  (sheet.lines.flatMap fun (line, ending) => line.text ++ ending.lead ++ ['\n']) ++
    sheet.last.text

/-- The bounds and references of the processes, in order. -/
def rows (sheet : Sheet) : List (Int64 × List Int64) :=
  (sheet.lines.map (·.1) ++ [sheet.last]).filterMap SheetLine.row?

/-- The sheet of some rows with nothing but a space before each reference. -/
def plain (rows : List (Int64 × List Int64)) : Sheet where
  lines := rows.map fun (bound, references) =>
    (.process .none bound (references.map (.space, ·)) .none, .lineFeed)
  last := .blank .none

end Sheet

/-- The process `pid` with the bound and the references of a row. -/
def clientOf (pid : Nat) (row : Int64 × List Int64) : Client :=
  ⟨pid, row.1.toInt, row.2.map Int64.toInt⟩

/-- The processes of some rows, numbered from `first` on. -/
def clientsFrom (first : Nat) (rows : List (Int64 × List Int64)) : List Client :=
  (rows.zipIdx first).map fun (row, pid) => clientOf pid row

variable {value : Int64} {behind trail : List Char}

/-! ## Numbers on a line -/

theorem numeral_numeral (value : Int64) : Numeral (numeral value) value.toInt :=
  numeral_toString value.toInt

theorem signed64?_numeral (value : Int64) : signed64? (numeral value) = some value.toInt :=
  signed64?_eq_some_iff.mpr ⟨numeral_numeral value, value.le_toInt, value.toInt_lt⟩

theorem head?_numeral_ne (value : Int64) : (numeral value).head? ≠ some '#' := by
  intro hhead
  have hmem := (numeral_numeral value).mem_cases (List.mem_of_head? hhead)
  exact absurd hmem (by decide)

theorem words_numeral_append (hnext : ∀ c ∈ behind.head?, isBlank c = true) :
    words (numeral value ++ behind) = numeral value :: words behind :=
  words_append_of_word (numeral_numeral value).ne_nil
    (fun _ hmem => (numeral_numeral value).isBlank_eq_false hmem) hnext

theorem integers_numerals (number : Nat) (values : List Int64) :
    integers number (values.map numeral) = .ok (values.map Int64.toInt) := by
  have hgood : (values.map numeral).find? (¬ IsLiteral ·) = none := by
    simp [isLiteral_iff, signed64?_numeral]
  have hvalues : (values.map numeral).filterMap signed64? = values.map Int64.toInt := by
    rw [List.filterMap_map, ← List.filterMap_eq_map]
    exact List.filterMap_congr fun value _ => signed64?_numeral value
  rw [integers_eq, hgood, hvalues]

/-! ## Words on a line -/

namespace SheetLine

/-- A blank or nothing follows the number before the references. -/
theorem isBlank_head?_referencesText (references : List (Gap × Int64))
    (htrail : ∀ c ∈ trail, isBlank c = true) :
    ∀ c ∈ (referencesText references ++ trail).head?, isBlank c = true := by
  cases references with
  | nil => exact fun c hmem => htrail c (List.mem_of_head? hmem)
  | cons reference references =>
      obtain ⟨gap, number⟩ := reference
      obtain ⟨c, rest, hgap⟩ := List.exists_cons_of_ne_nil gap.ne_nil
      have hblank := gap.isBlank c (hgap ▸ List.mem_cons_self)
      simpa [referencesText, hgap] using hblank

theorem words_referencesText (references : List (Gap × Int64))
    (htrail : ∀ c ∈ trail, isBlank c = true) :
    words (referencesText references ++ trail) = (references.map (·.2)).map numeral := by
  induction references with
  | nil => exact words_of_blank htrail
  | cons reference references ih =>
      obtain ⟨gap, number⟩ := reference
      have hnext := isBlank_head?_referencesText references htrail
      rw [referencesText, List.flatMap_cons, ← referencesText, List.append_assoc,
        List.append_assoc, words_append_of_blank gap.isBlank, words_numeral_append hnext, ih]
      rfl

/-- Spacing behind a line does not change what the line gives. -/
theorem content?_text_append (line : SheetLine) (htrail : ∀ c ∈ trail, isBlank c = true) :
    content? (line.text ++ trail) =
      line.row?.map fun (bound, references) => (bound :: references).map numeral := by
  cases line with
  | blank spacing =>
      rw [content?, text, words_append_of_blank spacing.isBlank, words_of_blank htrail]
      rfl
  | comment indent remark =>
      obtain ⟨word, rest, hwords⟩ := exists_words_cons (c := '#') (by decide) (remark.text ++ trail)
      rw [content?, text, List.append_assoc, List.cons_append, words_append_of_blank indent.isBlank,
        hwords]
      rfl
  | process indent bound references spacing =>
      have hblank : ∀ c ∈ spacing.text ++ trail, isBlank c = true := by
        simpa [or_imp, forall_and] using And.intro spacing.isBlank htrail
      have hwords : words ((process indent bound references spacing).text ++ trail) =
          numeral bound :: (references.map (·.2)).map numeral := by
        simp only [text, List.append_assoc]
        rw [words_append_of_blank indent.isBlank,
          words_numeral_append (isBlank_head?_referencesText references hblank),
          words_referencesText references hblank]
      rw [content?, hwords]
      split
      next heq => exact absurd heq (by simp)
      next heq => exact absurd (congrArg List.head? (List.cons.inj heq).1) (head?_numeral_ne bound)
      next => rfl

theorem lineFeed_notMem (line : SheetLine) : '\n' ∉ line.text := by
  cases line with
  | blank spacing => exact spacing.lineFeed_notMem
  | comment indent remark =>
      simp [text, indent.lineFeed_notMem, remark.lineFeed_notMem]
  | process indent bound references trail =>
      have hnumeral (value : Int64) : '\n' ∉ numeral value :=
        (numeral_numeral value).notMem_of_blank (by decide)
      have hreferences : '\n' ∉ referencesText references := by
        simp only [referencesText, List.mem_flatMap, List.mem_append, not_exists, not_and, not_or]
        exact fun reference _ => ⟨reference.1.lineFeed_notMem, hnumeral reference.2⟩
      simp [text, indent.lineFeed_notMem, hnumeral, hreferences, trail.lineFeed_notMem]

end SheetLine

theorem LineEnd.isBlank_lead (ending : LineEnd) : ∀ c ∈ ending.lead, isBlank c = true := by
  refine List.all_eq_true.mp ?_
  cases ending <;> decide

theorem LineEnd.lineFeed_notMem (ending : LineEnd) : '\n' ∉ ending.lead := by
  cases ending <;> decide

/-! ## Whole sheets -/

theorem clientsFrom_cons (first : Nat) (row : Int64 × List Int64)
    (rows : List (Int64 × List Int64)) :
    clientsFrom first (row :: rows) = clientOf first row :: clientsFrom (first + 1) rows := rfl

theorem length_clientsFrom (first : Nat) (rows : List (Int64 × List Int64)) :
    (clientsFrom first rows).length = rows.length := by
  simp [clientsFrom]

theorem numbered_clientsFrom (first : Nat) (rows : List (Int64 × List Int64)) :
    Numbered first (clientsFrom first rows) := by
  intro index client hclient
  simp only [clientsFrom, List.getElem?_map, List.getElem?_zipIdx, Option.map_map,
    Option.map_eq_some_iff] at hclient
  obtain ⟨row, -, rfl⟩ := hclient
  rfl

/-- A line with a row is read as one more process, and another line is passed over. -/
theorem readLines_sheetLine (number pid : Nat) (line : SheetLine) (texts : List (List Char))
    (htrail : ∀ c ∈ trail, isBlank c = true) :
    readLines number pid ((line.text ++ trail) :: texts) =
      match line.row? with
      | none => readLines (number + 1) pid texts
      | some row => (clientOf pid row :: ·) <$> readLines (number + 1) (pid + 1) texts := by
  rw [readLines, line.content?_text_append htrail]
  cases line.row? with
  | none => rfl
  | some row =>
      simp only [Option.map_some, integers_numerals]
      rfl

namespace Sheet

variable {line last : SheetLine} {ending : LineEnd} {lines : List (SheetLine × LineEnd)}

theorem lines_text_nil : Text.lines (text ⟨[], last⟩) = [last.text] :=
  List.splitOn_eq_singleton last.lineFeed_notMem

theorem lines_text_cons :
    Text.lines (text ⟨(line, ending) :: lines, last⟩) =
      (line.text ++ ending.lead) :: Text.lines (text ⟨lines, last⟩) := by
  have hnotMem : '\n' ∉ line.text ++ ending.lead := by
    simp [line.lineFeed_notMem, ending.lineFeed_notMem]
  rw [text, List.flatMap_cons, List.append_assoc, List.append_assoc, List.singleton_append]
  exact List.splitOn_append_cons_self_of_not_mem hnotMem (text ⟨lines, last⟩)

theorem rows_cons :
    rows ⟨(line, ending) :: lines, last⟩ = line.row?.toList ++ rows ⟨lines, last⟩ := by
  simp only [rows, List.map_cons, List.cons_append, List.filterMap_cons]
  cases line.row? <;> rfl

theorem rows_plain (rows : List (Int64 × List Int64)) : (plain rows).rows = rows := by
  induction rows with
  | nil => rfl
  | cons row rows ih =>
      have hreferences : (row.2.map (Gap.space, ·)).map (·.2) = row.2 := by
        simp [Function.comp_def]
      rw [plain, List.map_cons, rows_cons, ← plain, ih]
      simp only [SheetLine.row?, hreferences]
      rfl

theorem readLines_text (sheet : Sheet) (number pid : Nat) :
    readLines number pid (Text.lines sheet.text) = .ok (clientsFrom pid sheet.rows) := by
  obtain ⟨lines, last⟩ := sheet
  induction lines generalizing number pid with
  | nil =>
      have hnothing : ∀ c ∈ [], isBlank c = true := by simp
      have hlast := readLines_sheetLine number pid last [] hnothing
      rw [List.append_nil] at hlast
      rw [lines_text_nil, hlast]
      cases hrow : last.row? <;> simp [rows, hrow, readLines, clientsFrom]
  | cons line lines ih =>
      obtain ⟨line, ending⟩ := line
      rw [lines_text_cons, readLines_sheetLine _ _ _ _ ending.isBlank_lead, rows_cons]
      cases line.row? with
      | none => exact ih (number + 1) pid
      | some row =>
          simp only [ih]
          rfl

end Sheet

/-- Every list of rows can be written, and however this is done, its text is read as exactly
the processes of these rows. A simulation of them is accepted for all good settings with their
number. -/
theorem written_rows_are_read_back {rows : List (Int64 × List Int64)} (hrows : rows ≠ []) :
    (∃ sheet : Sheet, sheet.rows = rows) ∧
    (∀ sheet : Sheet, sheet.rows = rows → parse sheet.text = .ok (clientsFrom 0 rows)) ∧
    ∀ settings : Settings, settings.check = .ok () → settings.processes = rows.length →
      Simulation.of settings (clientsFrom 0 rows) =
        .ok { settings, clients := clientsFrom 0 rows } := by
  refine ⟨⟨.plain rows, Sheet.rows_plain rows⟩, fun sheet hsheet => ?_,
    fun settings hcheck hprocesses => ?_⟩
  · obtain ⟨row, rest, hcons⟩ := List.exists_cons_of_ne_nil hrows
    rw [parse, sheet.readLines_text, hsheet, hcons, clientsFrom_cons]
    rfl
  · have hlength := length_clientsFrom 0 rows
    exact Simulation.of_numbered hcheck (hlength.trans hprocesses.symm)
      (numbered_clientsFrom 0 rows)

/-- A comment, a process between a tabulator and an unusual gap, an empty line, and a process
on a line without an end. -/
def Sheet.decorated : Sheet where
  lines :=
    [(.comment ⟨[' '], by decide, by decide⟩ ⟨"4 is a bound".toList, by decide⟩, .carriageReturn),
      (.process ⟨['\t'], by decide, by decide⟩ 4
        [(⟨⟨[' ', '\u00a0'], by decide, by decide⟩, by decide⟩, 3),
          (.space, -9223372036854775808)] .none, .lineFeed),
      (.blank .none, .lineFeed)]
  last := .process .none 7 [] ⟨['\u3000'], by decide, by decide⟩

theorem two_decorated_rows_are_read_back :
    String.ofList Sheet.decorated.text =
        " #4 is a bound\r\n\t4 \u00a03 -9223372036854775808\n\n7\u3000" ∧
      parse Sheet.decorated.text = .ok [⟨0, 4, [3, -9223372036854775808]⟩, ⟨1, 7, []⟩] ∧
      (Simulation.of { processes := 2, pages := 8, frames := 1 }
        [⟨0, 4, [3, -9223372036854775808]⟩, ⟨1, 7, []⟩]).isOk = true := by
  have hrows : [((4 : Int64), [(3 : Int64), -9223372036854775808]), (7, [])] ≠ [] := by simp
  obtain ⟨-, hparse, haccepts⟩ := written_rows_are_read_back hrows
  have haccepted := haccepts { processes := 2, pages := 8, frames := 1 } rfl rfl
  refine ⟨by decide, hparse Sheet.decorated rfl, ?_⟩
  exact congrArg Except.isOk haccepted

end DemandPaging.ReferenceFile

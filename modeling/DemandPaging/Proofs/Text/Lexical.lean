import Mathlib.Data.List.DropRight
import DemandPaging.Text.Integer
import DemandPaging.Text.Split

/-!
# Lines, words and numerals

A text has no words if nothing is left of it when its ends are trimmed, and otherwise its
first word starts where the trimmed text does. The words that are read as integers are those
that a grammar for numerals allows, with the values that it gives them; the plain notation of
an integer is one of them.
-/

namespace DemandPaging.Text

/-! ## Lines and words -/

/-- The text without the blanks at its two ends. -/
def trim (text : List Char) : List Char := (text.dropWhile isBlank).rdropWhile isBlank

variable {c : Char} {text digits word blank : List Char} {value : Int}

theorem length_lines (text : List Char) : (lines text).length = text.count '\n' + 1 := by
  unfold lines
  induction text with
  | nil => rfl
  | cons c text ih =>
      rw [List.splitOn_cons_eq_if_modifyHead, List.count_cons]
      split
      next => rw [List.length_cons, ih]
      next => rw [List.length_modifyHead, ih, Nat.add_zero]

/-- A blank takes a text apart into what stands before it and behind it. -/
theorem words_append_cons_of_blank (hblank : isBlank c = true) (before behind : List Char) :
    words (before ++ c :: behind) = words before ++ words behind := by
  unfold words
  rw [List.splitOnP_append_cons before behind hblank, List.filter_append]

theorem words_cons_of_blank (hblank : isBlank c = true) (text : List Char) :
    words (c :: text) = words text :=
  words_append_cons_of_blank hblank [] text

theorem words_of_word (hne : word ≠ []) (hword : ∀ c ∈ word, isBlank c = false) :
    words word = [word] := by
  simp [words, List.splitOnP_eq_singleton hword, hne]

theorem words_append_of_blank (hblank : ∀ c ∈ blank, isBlank c = true) (text : List Char) :
    words (blank ++ text) = words text := by
  induction blank with
  | nil => rfl
  | cons c blank ih =>
      obtain ⟨hhead, htail⟩ := List.forall_mem_cons.mp hblank
      rw [List.cons_append, words_cons_of_blank hhead, ih htail]

theorem words_of_blank (hblank : ∀ c ∈ blank, isBlank c = true) : words blank = [] := by
  rw [← List.append_nil blank, words_append_of_blank hblank]
  rfl

/-- A word reaches to the next blank, or to the end of the text. -/
theorem words_append_of_word (hne : word ≠ []) (hword : ∀ c ∈ word, isBlank c = false)
    (hnext : ∀ c ∈ text.head?, isBlank c = true) : words (word ++ text) = word :: words text := by
  have hsingle := words_of_word hne hword
  cases text with
  | nil => rw [List.append_nil, hsingle]; rfl
  | cons c text =>
      have hblank := hnext c rfl
      rw [words_append_cons_of_blank hblank, words_cons_of_blank hblank, hsingle,
        List.singleton_append]

/-- The first word of a text that starts with no blank starts with the text. -/
theorem exists_words_cons (hblank : isBlank c = false) (text : List Char) :
    ∃ word rest, words (c :: text) = (c :: word) :: rest := by
  obtain ⟨word, rest, hsplit⟩ := List.exists_cons_of_ne_nil (List.splitOnP_ne_nil isBlank text)
  refine ⟨word, rest.filter (!·.isEmpty), ?_⟩
  simp [words, List.splitOnP_cons_eq_if_modifyHead, hblank, hsplit]

theorem words_dropWhile_blank (text : List Char) :
    words (text.dropWhile isBlank) = words text := by
  have hblank : ∀ c ∈ text.takeWhile isBlank, isBlank c = true :=
    fun _ hmem => List.mem_takeWhile_imp hmem
  rw [← words_append_of_blank hblank (text.dropWhile isBlank), List.takeWhile_append_dropWhile]

/-- Either nothing is left of the text and it has no word, or its first word starts as what
is left does. -/
theorem trim_cases (text : List Char) :
    trim text = [] ∧ words text = [] ∨
      ∃ c left word rest, trim text = c :: left ∧ words text = (c :: word) :: rest := by
  rw [← words_dropWhile_blank, trim]
  cases hleft : text.dropWhile isBlank with
  | nil => exact .inl ⟨rfl, rfl⟩
  | cons c left =>
      have hblank : isBlank c = false := by
        have hhead := List.head?_dropWhile_not isBlank text
        rwa [hleft] at hhead
      obtain ⟨word, rest, hwords⟩ := exists_words_cons hblank left
      have hne : (c :: left).rdropWhile isBlank ≠ [] := by
        rw [ne_eq, List.rdropWhile_eq_nil_iff]
        intro hall
        simp [hall c List.mem_cons_self] at hblank
      obtain ⟨first, kept, hkept⟩ := List.exists_cons_of_ne_nil hne
      have hprefix := List.rdropWhile_prefix isBlank (c :: left)
      rw [hkept] at hprefix
      obtain ⟨rfl, -⟩ := List.cons_prefix_cons.mp hprefix
      exact .inr ⟨first, kept, word, rest, hkept, hwords⟩

/-! ## Numerals -/

/-- One or more ASCII digits. -/
def AreDigits (digits : List Char) : Prop := digits ≠ [] ∧ ∀ c ∈ digits, c.isDigit = true

/-- Digits with an optional sign, and the number that they stand for. -/
inductive Numeral : List Char → Int → Prop where
  | unsigned {digits : List Char} (hdigits : AreDigits digits) :
      Numeral digits (Nat.ofDigitChars 10 digits 0)
  | plus {digits : List Char} (hdigits : AreDigits digits) :
      Numeral ('+' :: digits) (Nat.ofDigitChars 10 digits 0)
  | minus {digits : List Char} (hdigits : AreDigits digits) :
      Numeral ('-' :: digits) (-(Nat.ofDigitChars 10 digits 0 : Int))

/-- A numeral whose number is a signed one of 64 bits. -/
structure Denotes (word : List Char) (value : Int) : Prop where
  numeral : Numeral word value
  le_value : -(halfWordCount : Int) ≤ value
  value_lt : value < halfWordCount

theorem digits?_eq_some_iff {number : Nat} :
    digits? text = some number ↔ AreDigits text ∧ number = Nat.ofDigitChars 10 text 0 := by
  simp only [digits?, AreDigits, List.all_eq_true]
  split
  next hdigits => rw [Option.some.injEq, eq_comm, and_iff_right hdigits]
  next hdigits => exact ⟨fun hnone => absurd hnone (by simp), fun heq => absurd heq.1 hdigits⟩

theorem AreDigits.not_sign (hdigits : AreDigits (c :: digits)) : c ≠ '-' ∧ c ≠ '+' := by
  have hdigit := hdigits.2 c List.mem_cons_self
  constructor <;> rintro rfl <;> exact absurd hdigit (by decide)

/-- A word is read as an integer if it is a numeral, and as its number. -/
theorem integer?_eq_some_iff : integer? word = some value ↔ Numeral word value := by
  constructor
  · intro hinteger
    unfold integer? at hinteger
    split at hinteger
    all_goals
      obtain ⟨_, hread, rfl⟩ := Option.map_eq_some_iff.mp hinteger
      obtain ⟨number, hnumber, hvalue⟩ := Option.bind_eq_some_iff.mp hread
      obtain rfl := Option.some.inj hvalue
      obtain ⟨hdigits, rfl⟩ := digits?_eq_some_iff.mp hnumber
    · exact .minus hdigits
    · exact .plus hdigits
    · exact .unsigned hdigits
  · intro hnumeral
    cases hnumeral with
    | plus hdigits | minus hdigits =>
        simp [integer?, digits?_eq_some_iff.mpr ⟨hdigits, rfl⟩]
    | unsigned hdigits =>
        unfold integer?
        split
        next => exact absurd rfl hdigits.not_sign.1
        next => exact absurd rfl hdigits.not_sign.2
        next => simp [digits?_eq_some_iff.mpr ⟨hdigits, rfl⟩]

/-- A word is read as a signed integer of 64 bits if it denotes one. -/
theorem signed64?_eq_some_iff : signed64? word = some value ↔ Denotes word value := by
  rw [signed64?, Option.filter_eq_some_iff, integer?_eq_some_iff, Bool.and_eq_true,
    decide_eq_true_eq, decide_eq_true_eq]
  exact ⟨fun ⟨hnumeral, hle, hlt⟩ => ⟨hnumeral, hle, hlt⟩,
    fun ⟨hnumeral, hle, hlt⟩ => ⟨hnumeral, hle, hlt⟩⟩

/-- A word that denotes an integer. -/
def IsLiteral (word : List Char) : Prop := ∃ value, Denotes word value

theorem isLiteral_iff : IsLiteral word ↔ (signed64? word).isSome = true := by
  simp [IsLiteral, Option.isSome_iff_exists, signed64?_eq_some_iff]

instance : DecidablePred IsLiteral := fun _ => decidable_of_iff _ isLiteral_iff.symm

theorem isBlank_eq_false_of_isDigit (hdigit : c.isDigit = true) : isBlank c = false := by
  have hrange : 48 ≤ c.toNat ∧ c.toNat ≤ 57 := by
    simpa [Char.isDigit, UInt32.le_iff_toNat_le] using hdigit
  simp only [isBlank, inRanges, blanks, List.any_cons, List.any_nil, Bool.or_false,
    Bool.or_eq_false_iff, Bool.and_eq_false_imp, decide_eq_true_eq, decide_eq_false_iff_not]
  omega

namespace Numeral

theorem ne_nil (hnumeral : Numeral word value) : word ≠ [] := by
  cases hnumeral with
  | unsigned hdigits => exact hdigits.1
  | plus | minus => exact List.cons_ne_nil _ _

theorem mem_cases (hnumeral : Numeral word value) (hmem : c ∈ word) :
    c.isDigit = true ∨ c = '+' ∨ c = '-' := by
  cases hnumeral with
  | unsigned hdigits => exact .inl (hdigits.2 c hmem)
  | plus hdigits =>
      rcases List.mem_cons.mp hmem with hsign | hmem
      · exact .inr (.inl hsign)
      · exact .inl (hdigits.2 c hmem)
  | minus hdigits =>
      rcases List.mem_cons.mp hmem with hsign | hmem
      · exact .inr (.inr hsign)
      · exact .inl (hdigits.2 c hmem)

/-- A numeral stays in one piece when a text is taken apart at blanks. -/
theorem isBlank_eq_false (hnumeral : Numeral word value) (hmem : c ∈ word) :
    isBlank c = false := by
  rcases hnumeral.mem_cases hmem with hdigit | rfl | rfl
  · exact isBlank_eq_false_of_isDigit hdigit
  · decide
  · decide

theorem notMem_of_blank (hnumeral : Numeral word value) (hblank : isBlank c = true) :
    c ∉ word := by
  intro hmem
  rw [hnumeral.isBlank_eq_false hmem] at hblank
  exact absurd hblank (by simp)

end Numeral

theorem areDigits_toDigits (number : Nat) : AreDigits (Nat.toDigits 10 number) :=
  ⟨Nat.toDigits_ne_nil, fun _ hmem => Nat.isDigit_of_mem_toDigits (by decide) (by decide) hmem⟩

/-- The plain notation of an integer is a numeral that stands for it. -/
theorem numeral_toString (value : Int) : Numeral (toString value).toList value := by
  rw [Int.toString_eq_repr]
  cases value with
  | ofNat number =>
      have hnumeral := Numeral.unsigned (areDigits_toDigits number)
      rw [Nat.ofDigitChars_ten_toDigits] at hnumeral
      simpa [Int.repr, Nat.repr] using hnumeral
  | negSucc number =>
      have hnumeral := Numeral.minus (areDigits_toDigits (number + 1))
      rw [Nat.ofDigitChars_ten_toDigits] at hnumeral
      simpa [Int.repr, Nat.repr, Int.negSucc_eq] using hnumeral

end DemandPaging.Text

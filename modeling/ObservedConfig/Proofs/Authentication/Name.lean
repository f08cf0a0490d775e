import Mathlib.Computability.RegularExpressions
import ObservedConfig.Authentication.Validation

/-! Names of resources. A name is a row of labels with dots between them, and a label holds letters,
digits and hyphens with no hyphen at an end. Cutting a text at its dots and testing each part finds
exactly the texts that match the regular expression of names. -/
namespace ObservedConfig

/-- The parts between the occurrences of a character are those that the library cuts. -/
theorem Text.splitOn_eq (sep : Char) (cs : List Char) : splitOn sep cs = cs.splitOn sep := by
  induction cs with
  | nil => simp [splitOn]
  | cons c cs ih =>
    rw [List.splitOn_eq_splitOnP] at ih ⊢
    rw [List.splitOnP_cons_eq_if_modifyHead, ← ih, splitOn]
    by_cases same : c = sep
    · simp [same]
    · cases parts : splitOn sep cs with
      | nil => exact absurd parts (splitOn_ne_nil sep cs)
      | cons part parts => simp [same]

/-- Joining puts the separator in front of every part but the first. -/
theorem Text.intercalate_cons (sep : Char) (part : List Char) (parts : List (List Char)) :
    List.intercalate [sep] (part :: parts) = part ++ (parts.map (sep :: ·)).flatten := by
  induction parts generalizing part with
  | nil => simp
  | cons next parts ih => simp [List.intercalate_cons_cons, ih]

namespace Authentication

/-- A part of a name: lower-case letters of ASCII, digits and hyphens, with no hyphen at an end. -/
structure Label (cs : List Char) : Prop where
  nonempty : cs ≠ []
  characters : ∀ c ∈ cs, ('a' ≤ c ∧ c ≤ 'z') ∨ ('0' ≤ c ∧ c ≤ '9') ∨ c = '-'
  first : cs.head? ≠ some '-'
  last : cs.getLast? ≠ some '-'

theorem Label.dotless {cs : List Char} (label : Label cs) : '.' ∉ cs := by
  intro member
  exact absurd (label.characters '.' member) (by decide)

/-- A text that may stand where a resource is named: nothing, or labels with dots between them. -/
def ValidName (name : String) : Prop :=
  name = "" ∨ (name.utf8ByteSize ≤ 253 ∧ ∀ part ∈ name.toList.splitOn '.', Label part)

theorem isNameChar_iff {c : Char} :
    isNameChar c = true ↔ ('a' ≤ c ∧ c ≤ 'z') ∨ ('0' ≤ c ∧ c ≤ '9') := by
  simp [isNameChar, Char.isDigit, Char.le_def]

theorem isLabel_iff {cs : List Char} : isLabel cs = true ↔ Label cs := by
  simp only [isLabel, Bool.and_eq_true, List.all_eq_true, Bool.or_eq_true, isNameChar_iff,
    beq_iff_eq, or_assoc, Option.any_eq_true, bne_iff_ne]
  constructor
  · rintro ⟨⟨characters, c, head, first⟩, d, end', last⟩
    refine ⟨?_, characters, ?_, ?_⟩
    · rintro rfl
      cases head
    · rwa [head, ne_eq, Option.some.injEq]
    · rwa [end', ne_eq, Option.some.injEq]
  · rintro ⟨nonempty, characters, first, last⟩
    refine ⟨⟨characters, cs.head nonempty, List.head?_eq_some_head nonempty, ?_⟩,
      cs.getLast nonempty, List.getLast?_eq_some_getLast nonempty, ?_⟩
    · rwa [List.head?_eq_some_head nonempty, ne_eq, Option.some.injEq] at first
    · rwa [List.getLast?_eq_some_getLast nonempty, ne_eq, Option.some.injEq] at last

theorem nameProblem?_eq_none {name : String} : nameProblem? name = none ↔ ValidName name := by
  have labels : (Text.splitOn '.' name.toList).all isLabel = true ↔
      ∀ part ∈ name.toList.splitOn '.', Label part := by
    simp only [Text.splitOn_eq, List.all_eq_true, isLabel_iff]
  rw [ValidName, ← labels, ← Nat.not_lt]
  unfold nameProblem? maxNameSize
  by_cases empty : name = ""
  · simp [empty]
  · by_cases long : name.utf8ByteSize > 253
    · simp [empty, long]
    · cases (Text.splitOn '.' name.toList).all isLabel <;> simp [empty, long]

/-! The regular expression `[a-z0-9]([-a-z0-9]*[a-z0-9])?(\.[a-z0-9]([-a-z0-9]*[a-z0-9])?)*`. -/

def oneOf (cs : List Char) : RegularExpression Char := (cs.map .char).foldr (· + ·) 0

def alphanumeric : RegularExpression Char := oneOf "abcdefghijklmnopqrstuvwxyz0123456789".toList

def labelPattern : RegularExpression Char :=
  alphanumeric * (1 + (.char '-' + alphanumeric).star * alphanumeric)

def namePattern : RegularExpression Char := labelPattern * (.char '.' * labelPattern).star

theorem mem_oneOf {cs word : List Char} :
    word ∈ (oneOf cs).matches' ↔ ∃ c ∈ cs, word = [c] := by
  induction cs with
  | nil => simp [oneOf]
  | cons c cs ih =>
    have step : oneOf (c :: cs) = .char c + oneOf cs := rfl
    have here : word ∈ (RegularExpression.char c).matches' ↔ word = [c] := Iff.rfl
    rw [step, RegularExpression.matches'_add, Language.mem_add, here, ih]
    simp

theorem mem_alphanumeric {word : List Char} :
    word ∈ alphanumeric.matches' ↔ ∃ c, isNameChar c = true ∧ word = [c] := by
  have members (c : Char) :
      c ∈ "abcdefghijklmnopqrstuvwxyz0123456789".toList ↔ isNameChar c = true := by
    constructor
    · have listed : "abcdefghijklmnopqrstuvwxyz0123456789".toList.all isNameChar = true := rfl
      exact List.all_eq_true.mp listed c
    · intro named
      have bound : c.toNat < 123 := by
        rcases isNameChar_iff.mp named with ⟨-, below⟩ | ⟨-, below⟩ <;>
          have := UInt32.le_iff_toNat_le.mp (Char.le_def.mp below) <;>
          exact Nat.lt_of_le_of_lt this (by decide)
      have small : ∀ n < 123, isNameChar (Char.ofNat n) = true →
          Char.ofNat n ∈ "abcdefghijklmnopqrstuvwxyz0123456789".toList := by
        decide +kernel
      have here := small c.toNat bound
      rw [Char.ofNat_toNat] at here
      exact here named
  simp only [alphanumeric, mem_oneOf, members]

/-- Repeating an expression of single characters gives the words of these characters. -/
theorem mem_star_of_single {r : RegularExpression Char} {p : Char → Prop}
    (single : ∀ word, word ∈ r.matches' ↔ ∃ c, p c ∧ word = [c]) {word : List Char} :
    word ∈ r.star.matches' ↔ ∀ c ∈ word, p c := by
  rw [RegularExpression.matches'_star, Language.mem_kstar]
  constructor
  · rintro ⟨words, rfl, each⟩ c member
    obtain ⟨part, listed, here⟩ := List.mem_flatten.mp member
    obtain ⟨d, holds, rfl⟩ := (single part).mp (each part listed)
    obtain rfl := List.mem_singleton.mp here
    exact holds
  · intro all
    refine ⟨word.map fun c => [c], by simp [← List.flatMap_def], ?_⟩
    intro part member
    obtain ⟨c, listed, rfl⟩ := List.mem_map.mp member
    exact (single [c]).mpr ⟨c, all c listed, rfl⟩

/-- A label runs from a letter or digit to a letter or digit. -/
theorem label_iff {cs : List Char} :
    Label cs ↔ (∀ c ∈ cs, c = '-' ∨ isNameChar c = true) ∧
      (∃ c, cs.head? = some c ∧ isNameChar c = true) ∧
      ∃ d, cs.getLast? = some d ∧ isNameChar d = true := by
  have character (c : Char) : (c = '-' ∨ isNameChar c = true) ↔
      ('a' ≤ c ∧ c ≤ 'z') ∨ ('0' ≤ c ∧ c ≤ '9') ∨ c = '-' := by
    rw [isNameChar_iff]
    tauto
  have hyphen {c : Char} (named : isNameChar c = true) : c ≠ '-' := by
    rintro rfl
    cases named
  constructor
  · rintro ⟨nonempty, characters, first, last⟩
    have inside := fun c member => (character c).mpr (characters c member)
    rw [List.head?_eq_some_head nonempty, ne_eq, Option.some.injEq] at first
    rw [List.getLast?_eq_some_getLast nonempty, ne_eq, Option.some.injEq] at last
    exact ⟨inside,
      ⟨_, List.head?_eq_some_head nonempty,
        (inside _ (List.head_mem nonempty)).resolve_left first⟩,
      ⟨_, List.getLast?_eq_some_getLast nonempty,
        (inside _ (List.getLast_mem nonempty)).resolve_left last⟩⟩
  · rintro ⟨inside, ⟨c, head, first⟩, d, final, last⟩
    refine ⟨?_, fun c member => (character c).mp (inside c member), ?_, ?_⟩
    · rintro rfl
      cases head
    · rw [head, ne_eq, Option.some.injEq]
      exact hyphen first
    · rw [final, ne_eq, Option.some.injEq]
      exact hyphen last

theorem mem_labelPattern {word : List Char} : word ∈ labelPattern.matches' ↔ Label word := by
  have inner (w : List Char) : w ∈ (RegularExpression.char '-' + alphanumeric).matches' ↔
      ∃ c, (c = '-' ∨ isNameChar c = true) ∧ w = [c] := by
    have hyphen : w ∈ (RegularExpression.char '-').matches' ↔ w = ['-'] := Iff.rfl
    rw [RegularExpression.matches'_add, Language.mem_add, hyphen, mem_alphanumeric]
    simp [or_and_right, exists_or]
  simp only [labelPattern, RegularExpression.matches'_mul, RegularExpression.matches'_add,
    RegularExpression.matches'_epsilon, Language.mem_mul, Language.mem_add, Language.mem_one,
    mem_alphanumeric, mem_star_of_single inner, label_iff]
  constructor
  · rintro ⟨_, ⟨c, first, rfl⟩, _, rfl | ⟨middle, inside, _, ⟨d, last, rfl⟩, rfl⟩, rfl⟩
    · simp [first]
    · refine ⟨?_, ⟨c, rfl, first⟩, d, List.getLast?_concat (l := c :: middle), last⟩
      intro e member
      simp only [List.cons_append, List.nil_append, List.mem_cons, List.mem_append,
        List.not_mem_nil, or_false] at member
      rcases member with rfl | between | rfl
      · exact .inr first
      · exact inside e between
      · exact .inr last
  · rintro ⟨inside, ⟨c, head, first⟩, d, final, last⟩
    obtain ⟨rest, rfl⟩ := List.head?_eq_some_iff.mp head
    refine ⟨[c], ⟨c, first, rfl⟩, rest, ?_, rfl⟩
    rcases List.eq_nil_or_concat rest with rfl | ⟨middle, e, rfl⟩
    · exact .inl rfl
    · rw [List.concat_eq_append] at final inside ⊢
      have concat : (c :: (middle ++ [e])).getLast? = some e :=
        List.getLast?_concat (l := c :: middle)
      obtain rfl : e = d := Option.some.inj (concat.symm.trans final)
      refine .inr ⟨middle, fun x member => ?_, [e], ⟨e, last, rfl⟩, by simp⟩
      exact inside x (by simp [member])

/-- Repeating a label behind a dot gives rows of labels, each behind a dot. -/
theorem mem_star_dotted {word : List Char} :
    word ∈ (RegularExpression.char '.' * labelPattern).star.matches' ↔
      ∃ parts : List (List Char), (∀ part ∈ parts, Label part) ∧
        (parts.map ('.' :: ·)).flatten = word := by
  have dot (w : List Char) : w ∈ (RegularExpression.char '.').matches' ↔ w = ['.'] := Iff.rfl
  have dotted (w : List Char) : w ∈ (RegularExpression.char '.' * labelPattern).matches' ↔
      ∃ part, Label part ∧ '.' :: part = w := by
    rw [RegularExpression.matches'_mul, Language.mem_mul]
    simp only [dot, mem_labelPattern, exists_eq_left, List.singleton_append]
  rw [RegularExpression.matches'_star, Language.mem_kstar]
  simp only [dotted]
  constructor
  · rintro ⟨words, rfl, each⟩
    choose! cut label joined using each
    refine ⟨words.map cut, ?_, ?_⟩
    · intro part member
      obtain ⟨w, listed, rfl⟩ := List.mem_map.mp member
      exact label w listed
    · rw [List.map_map]
      exact congrArg List.flatten ((List.map_congr_left joined).trans (List.map_id words))
  · rintro ⟨parts, labels, rfl⟩
    refine ⟨_, rfl, fun w member => ?_⟩
    obtain ⟨part, listed, rfl⟩ := List.mem_map.mp member
    exact ⟨part, labels part listed, rfl⟩

theorem mem_namePattern {word : List Char} :
    word ∈ namePattern.matches' ↔ ∀ part ∈ word.splitOn '.', Label part := by
  rw [namePattern, RegularExpression.matches'_mul, Language.mem_mul]
  simp only [mem_labelPattern, mem_star_dotted]
  constructor
  · rintro ⟨part, label, _, ⟨parts, labels, rfl⟩, rfl⟩
    have each := List.forall_mem_cons.mpr ⟨label, labels⟩
    rw [← Text.intercalate_cons,
      List.splitOn_intercalate '.' (fun part member => (each part member).dotless) (by simp)]
    exact each
  · intro each
    cases parts : word.splitOn '.' with
    | nil => exact absurd parts (List.splitOn_ne_nil _ _)
    | cons part rest =>
      rw [parts] at each
      obtain ⟨label, labels⟩ := List.forall_mem_cons.mp each
      refine ⟨part, label, _, ⟨rest, labels, rfl⟩, ?_⟩
      rw [← Text.intercalate_cons, ← parts, List.intercalate_splitOn]

end Authentication
end ObservedConfig

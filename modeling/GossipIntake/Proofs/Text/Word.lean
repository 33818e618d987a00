import GossipIntake.Text.Blank
import GossipIntake.Text.Word
import Mathlib.Data.List.TakeWhile

namespace GossipIntake.Text

/-- Blanks, one plus sign as an option, the decimal digits of a number, and blanks. -/
inductive Denotes : List Char → Nat → Prop where
  | intro {before sign digits after : List Char}
      (padding : ∀ c ∈ before ++ after, isBlank c = true)
      (optional : sign = [] ∨ sign = ['+'])
      (written : digits ≠ [])
      (decimal : ∀ c ∈ digits, c.isDigit = true) :
      Denotes (before ++ sign ++ digits ++ after) (Nat.ofDigitChars 10 digits 0)

theorem pushDigit?_eq_some_iff {word next : UInt64} {c : Char} :
    pushDigit? word c = some next ↔
      c.isDigit = true ∧ next.toNat = 10 * word.toNat + (c.toNat - '0'.toNat) := by
  unfold pushDigit?
  by_cases digit : c.isDigit = true
  · have bound := next.toNat_lt_size
    simp only [digit, if_true, true_and]
    split
    · rename_i fits
      rw [Option.some.injEq]
      constructor
      · intro same
        rw [← same, UInt64.toNat_ofNat_of_lt' fits]
      · intro same
        exact UInt64.toNat_inj.mp (by rw [UInt64.toNat_ofNat_of_lt' fits, same])
    · rename_i tooLarge
      constructor
      · intro none
        cases none
      · intro same
        omega
  · simp [digit]

theorem le_ofDigitChars (digits : List Char) (number : Nat) :
    number ≤ Nat.ofDigitChars 10 digits number := by
  induction digits generalizing number with
  | nil => exact Nat.le_refl _
  | cons c rest ih =>
    rw [Nat.ofDigitChars_cons]
    have later := ih (10 * number + (c.toNat - '0'.toNat))
    omega

/-- No digit lowers the number, so it is too large at the end if it was too large at any digit. -/
theorem foldlM_pushDigit?_eq_some_iff {digits : List Char} {start word : UInt64} :
    digits.foldlM pushDigit? start = some word ↔
      (∀ c ∈ digits, c.isDigit = true) ∧ word.toNat = Nat.ofDigitChars 10 digits start.toNat := by
  induction digits generalizing start with
  | nil =>
    show some start = some word ↔ _ ∧ word.toNat = start.toNat
    rw [Option.some.injEq, UInt64.toNat_inj, eq_comm]
    simp
  | cons c rest ih =>
    simp only [List.foldlM_cons, Option.bind_eq_bind, Option.bind_eq_some_iff, ih,
      pushDigit?_eq_some_iff, Nat.ofDigitChars_cons, List.forall_mem_cons]
    constructor
    · rintro ⟨next, ⟨digit, value⟩, others, total⟩
      exact ⟨⟨digit, others⟩, by rw [total, value]⟩
    · rintro ⟨⟨digit, others⟩, total⟩
      have bound := word.toNat_lt_size
      have below := le_ofDigitChars rest (10 * start.toNat + (c.toNat - '0'.toNat))
      have fits : 10 * start.toNat + (c.toNat - '0'.toNat) < UInt64.size := by omega
      refine ⟨UInt64.ofNat (10 * start.toNat + (c.toNat - '0'.toNat)), ⟨digit, ?_⟩, others, ?_⟩
      · exact UInt64.toNat_ofNat_of_lt' fits
      · rw [UInt64.toNat_ofNat_of_lt' fits, total]

theorem word?_eq_some_iff {text : List Char} {word : UInt64} :
    word? text = some word ↔
      withoutPlus text ≠ [] ∧ (∀ c ∈ withoutPlus text, c.isDigit = true) ∧
        word.toNat = Nat.ofDigitChars 10 (withoutPlus text) 0 := by
  unfold word?
  split
  · rename_i empty
    simp [empty]
  · rename_i first rest digits
    rw [foldlM_pushDigit?_eq_some_iff, digits]
    simp

theorem isBlank_of_isDigit {c : Char} (digit : c.isDigit = true) : isBlank c = false := by
  have range : 48 ≤ c.toNat ∧ c.toNat ≤ 57 := by
    simp only [Char.isDigit, Bool.and_eq_true, decide_eq_true_eq, ge_iff_le,
      UInt32.le_iff_toNat_le] at digit
    exact digit
  simp only [isBlank, Bool.or_eq_false_iff, Bool.and_eq_false_iff, decide_eq_false_iff_not,
    beq_eq_false_iff_ne]
  omega

theorem exists_trim (text : List Char) :
    ∃ before after, text = before ++ trim text ++ after ∧
      ∀ c ∈ before ++ after, isBlank c = true := by
  let rest := text.dropWhile isBlank
  have front : text.takeWhile isBlank ++ rest = text := List.takeWhile_append_dropWhile
  have back : trim text ++ (rest.reverse.takeWhile isBlank).reverse = rest := by
    have parts : rest.reverse.takeWhile isBlank ++ rest.reverse.dropWhile isBlank = rest.reverse :=
      List.takeWhile_append_dropWhile
    rw [trim, ← List.reverse_append, parts, List.reverse_reverse]
  refine ⟨text.takeWhile isBlank, (rest.reverse.takeWhile isBlank).reverse, ?_, ?_⟩
  · rw [List.append_assoc, back, front]
  · intro c member
    rcases List.mem_append.mp member with ahead | behind
    · exact List.mem_takeWhile_imp ahead
    · exact List.mem_takeWhile_imp (List.mem_reverse.mp behind)

theorem dropWhile_padded {before solid : List Char} (padding : ∀ c ∈ before, isBlank c = true)
    (first : ∀ c ∈ solid.head?, isBlank c = false) :
    (before ++ solid).dropWhile isBlank = solid := by
  rw [List.dropWhile_append_of_pos padding]
  cases solid with
  | nil => rfl
  | cons c rest => rw [List.dropWhile_cons_of_neg (by simp [first c rfl])]

theorem trim_padded {before solid after : List Char}
    (padding : ∀ c ∈ before ++ after, isBlank c = true)
    (written : solid ≠ []) (firm : ∀ c ∈ solid, isBlank c = false) :
    trim (before ++ solid ++ after) = solid := by
  obtain ⟨ahead, behind⟩ := List.forall_mem_append.mp padding
  obtain ⟨c, rest, rfl⟩ := List.exists_cons_of_ne_nil written
  have front : (before ++ (c :: rest) ++ after).dropWhile isBlank = (c :: rest) ++ after := by
    rw [List.append_assoc]
    exact dropWhile_padded ahead fun d member => firm d (by simp_all)
  have back : (((c :: rest) ++ after).reverse).dropWhile isBlank = (c :: rest).reverse := by
    rw [List.reverse_append]
    refine dropWhile_padded (fun d member => behind d (List.mem_reverse.mp member)) fun d member => ?_
    exact firm d (List.mem_reverse.mp (List.mem_of_head? member))
  rw [trim, front, back, List.reverse_reverse]

theorem withoutPlus_append {sign digits : List Char} (optional : sign = [] ∨ sign = ['+'])
    (decimal : ∀ c ∈ digits, c.isDigit = true) : withoutPlus (sign ++ digits) = digits := by
  rcases optional with rfl | rfl
  · rw [List.nil_append, withoutPlus]
    rintro rest rfl
    have digit := decimal '+' (by simp)
    exact absurd digit (by decide)
  · rfl

theorem exists_sign (text : List Char) :
    ∃ sign, (sign = [] ∨ sign = ['+']) ∧ sign ++ withoutPlus text = text := by
  unfold withoutPlus
  split
  · exact ⟨['+'], .inr rfl, rfl⟩
  · exact ⟨[], .inl rfl, rfl⟩

theorem denotes_iff {text : List Char} {number : Nat} :
    Denotes text number ↔
      withoutPlus (trim text) ≠ [] ∧ (∀ c ∈ withoutPlus (trim text), c.isDigit = true) ∧
        number = Nat.ofDigitChars 10 (withoutPlus (trim text)) 0 := by
  constructor
  · rintro ⟨padding, optional, written, decimal⟩
    rename_i before sign digits after
    have firm : ∀ c ∈ sign ++ digits, isBlank c = false := by
      intro c member
      rcases List.mem_append.mp member with inSign | inDigits
      · rcases optional with rfl | rfl
        · cases inSign
        · rw [List.mem_singleton.mp inSign]
          decide
      · exact isBlank_of_isDigit (decimal c inDigits)
    rw [List.append_assoc before, trim_padded padding (by simp [written]) firm,
      withoutPlus_append optional decimal]
    exact ⟨written, decimal, rfl⟩
  · rintro ⟨written, decimal, rfl⟩
    obtain ⟨before, after, split, padding⟩ := exists_trim text
    obtain ⟨sign, optional, signed⟩ := exists_sign (trim text)
    have denotes := Denotes.intro padding optional written decimal
    rwa [List.append_assoc before, signed, ← split] at denotes

instance (text : List Char) (number : Nat) : Decidable (Denotes text number) :=
  decidable_of_iff
    (withoutPlus (trim text) ≠ [] ∧ (withoutPlus (trim text)).all Char.isDigit = true ∧
      number = Nat.ofDigitChars 10 (withoutPlus (trim text)) 0)
    (by rw [denotes_iff, List.all_eq_true])

theorem Denotes.unique {text : List Char} {number other : Nat} (denotes : Denotes text number)
    (also : Denotes text other) : number = other := by
  rw [(denotes_iff.mp denotes).2.2, (denotes_iff.mp also).2.2]

theorem word?_trim_eq_some_iff {text : List Char} {word : UInt64} :
    word? (trim text) = some word ↔ Denotes text word.toNat :=
  word?_eq_some_iff.trans denotes_iff.symm

theorem denotes_rendering (number zeros : Nat) {before sign after : List Char}
    (padding : ∀ c ∈ before ++ after, isBlank c = true) (optional : sign = [] ∨ sign = ['+']) :
    Denotes (before ++ sign ++ (List.replicate zeros '0' ++ Nat.toDigits 10 number) ++ after)
      number := by
  have value : Nat.ofDigitChars 10 (List.replicate zeros '0' ++ Nat.toDigits 10 number) 0 =
      number := by
    have none : Nat.ofDigitChars 10 (List.replicate zeros '0') 0 = 0 := by
      induction zeros with
      | zero => rfl
      | succ zeros ih => exact ih
    rw [Nat.ofDigitChars_append, none, Nat.ofDigitChars_toDigits (by decide) (by decide)]
  have decimal : ∀ c ∈ List.replicate zeros '0' ++ Nat.toDigits 10 number, c.isDigit = true := by
    intro c member
    rcases List.mem_append.mp member with zero | digit
    · rw [List.eq_of_mem_replicate zero]
      decide
    · exact Nat.isDigit_of_mem_toDigits (by decide) (by decide) digit
  have denotes := Denotes.intro padding optional (by simp [Nat.toDigits_ne_nil]) decimal
  rwa [value] at denotes

end GossipIntake.Text

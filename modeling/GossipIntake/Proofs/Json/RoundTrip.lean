import GossipIntake.Json.Render
import GossipIntake.Proofs.Json.Grammar

namespace GossipIntake.Json

namespace Token

theorem lexAfter_space {first : Char} (space : isSpace first = true) (found : List Token)
    (rest : List Char) : lexAfter found (first :: rest) = lexAfter found rest := by
  rw [lexAfter, if_pos space]

theorem lexAfter_none {first : Char} {rest : List Char} (solid : isSpace first = false)
    (scanned : scan first rest = none) (found : List Token) :
    lexAfter found (first :: rest) = (broken :: found).reverse := by
  rw [lexAfter, if_neg (by simp [solid])]
  split
  · rfl
  · rename_i token after other
    rw [scanned] at other
    cases other

theorem lexAfter_some {first : Char} {rest after : List Char} {token : Token}
    (solid : isSpace first = false) (scanned : scan first rest = some (token, after))
    (found : List Token) :
    lexAfter found (first :: rest) = lexAfter (token :: found) after := by
  rw [lexAfter, if_neg (by simp [solid])]
  split
  · rename_i other
    rw [scanned] at other
    cases other
  · rename_i token after other
    rw [scanned] at other
    cases other
    rfl

theorem lexAfter_eq (found : List Token) (text : List Char) :
    lexAfter found text = found.reverse ++ lex text := by
  induction length : text.length using Nat.strongRecOn generalizing found text with
  | ind size ih =>
    subst length
    cases text with
    | nil => simp [lex, lexAfter]
    | cons first rest =>
      by_cases space : isSpace first = true
      · rw [lex, lexAfter_space space, lexAfter_space space]
        exact ih rest.length (by simp) found rest rfl
      · have solid : isSpace first = false := by simpa using space
        cases scanned : scan first rest with
        | none => rw [lex, lexAfter_none solid scanned, lexAfter_none solid scanned]; simp
        | some result =>
          obtain ⟨token, after⟩ := result
          have shorter : after.length < (first :: rest).length := by
            have bound := scan_length scanned
            rw [List.length_cons]
            omega
          rw [lex, lexAfter_some solid scanned, lexAfter_some solid scanned,
            ih after.length shorter _ after rfl, ih after.length shorter _ after rfl]
          simp

theorem lex_nil : lex [] = [] := by
  rw [lex, lexAfter]
  rfl

theorem lex_cons {first : Char} {rest after : List Char} {token : Token}
    (solid : isSpace first = false) (scanned : scan first rest = some (token, after)) :
    lex (first :: rest) = token :: lex after := by
  rw [lex, lexAfter_some solid scanned, lexAfter_eq]
  rfl

/-- What may follow a number without being part of it. -/
def Ends (rest : List Char) : Prop :=
  ∀ c ∈ rest.head?, c.isDigit = false ∧ c ≠ '.' ∧ c ≠ 'e' ∧ c ≠ 'E'

theorem takeDigits_append {digits rest : List Char} (all : ∀ c ∈ digits, c.isDigit = true)
    (stops : ∀ c ∈ rest.head?, c.isDigit = false) : takeDigits (digits ++ rest) = (digits, rest) := by
  have none : rest.takeWhile Char.isDigit = [] ∧ rest.dropWhile Char.isDigit = rest := by
    cases rest with
    | nil => exact ⟨rfl, rfl⟩
    | cons c rest =>
      have other : c.isDigit = false := stops c rfl
      simp [other]
  rw [takeDigits, List.takeWhile_append_of_pos all, List.dropWhile_append_of_pos all, none.1, none.2,
    List.append_nil]

theorem eq_zero_of_head_toDigits {n : Nat} (zero : (Nat.toDigits 10 n).head? = some '0') : n = 0 := by
  induction n using Nat.strongRecOn with
  | ind n ih =>
    rw [Nat.toDigits_eq_if (by decide)] at zero
    split at zero
    · rename_i small
      simp only [List.head?_cons, Option.some.injEq] at zero
      have value := congrArg (fun c : Char => c.toNat - 48) zero
      simpa [Nat.toNat_digitChar_sub_48_of_lt_ten small] using value
    · rename_i large
      obtain ⟨digit, digits, split⟩ := List.exists_cons_of_ne_nil (l := Nat.toDigits 10 (n / 10))
        Nat.toDigits_ne_nil
      have tenth := ih (n / 10) (by omega) (by rw [split] at zero ⊢; exact zero)
      omega

theorem scanWhole_toDigits (n : Nat) {rest : List Char}
    (stops : ∀ c ∈ rest.head?, c.isDigit = false) :
    scanWhole (Nat.toDigits 10 n ++ rest) = some (n, rest) := by
  have all : ∀ c ∈ Nat.toDigits 10 n, c.isDigit = true :=
    fun c member => Nat.isDigit_of_mem_toDigits (by decide) (by decide) member
  unfold scanWhole
  rw [takeDigits_append all stops]
  split
  · rename_i empty
    exact absurd (congrArg Prod.fst empty) Nat.toDigits_ne_nil
  · rename_i second more _ padded
    -- Only zero itself starts with a zero, and it has no second digit.
    have digits : Nat.toDigits 10 n = '0' :: second :: more := congrArg Prod.fst padded
    have zero := eq_zero_of_head_toDigits (by rw [digits]; rfl)
    rw [zero, Nat.toDigits_zero] at digits
    cases digits
  · rename_i digits after _ _ split
    cases split
    rw [Nat.ofDigitChars_ten_toDigits]

def fractionText (fraction : List Char) : List Char :=
  if fraction.isEmpty then [] else '.' :: fraction

def exponentText : Option Int → List Char
  | none => []
  | some power => Render.power power

theorem numeral_eq (n : Numeral) :
    Render.numeral n = (if n.negative then ['-'] else []) ++ (Nat.toDigits 10 n.whole ++
      (fractionText n.fraction ++ exponentText n.exponent)) := by
  rw [Render.numeral, ← List.append_assoc, ← List.append_assoc, fractionText]
  cases n.exponent <;> rfl

theorem scanFraction_append {fraction rest : List Char} (all : ∀ c ∈ fraction, c.isDigit = true)
    (stops : ∀ c ∈ rest.head?, c.isDigit = false ∧ c ≠ '.') :
    scanFraction (fractionText fraction ++ rest) = some (fraction, rest) := by
  cases fraction with
  | nil =>
    rw [fractionText, List.isEmpty_nil, if_pos rfl, List.nil_append]
    unfold scanFraction
    split
    · exact absurd rfl (stops '.' rfl).2
    · rfl
  | cons digit digits =>
    have taken := takeDigits_append all fun c member => (stops c member).1
    rw [fractionText, List.isEmpty_cons, if_neg Bool.false_ne_true, List.cons_append, scanFraction,
      taken]

theorem scanSign_toDigits (n : Nat) (rest : List Char) :
    scanSign (Nat.toDigits 10 n ++ rest) = (false, Nat.toDigits 10 n ++ rest) := by
  obtain ⟨digit, digits, split⟩ := List.exists_cons_of_ne_nil (l := Nat.toDigits 10 n)
    Nat.toDigits_ne_nil
  have isDigit : digit.isDigit = true :=
    Nat.isDigit_of_mem_toDigits (b := 10) (n := n) (by decide) (by decide) (by rw [split]; simp)
  rw [split, List.cons_append]
  unfold scanSign
  split
  · rename_i same
    cases same
    cases isDigit
  · rename_i same
    cases same
    cases isDigit
  · rfl

theorem scanExponent_append {exponent : Option Int} {rest : List Char} (ends : Ends rest) :
    scanExponent (exponentText exponent ++ rest) = some (exponent, rest) := by
  have digits (n : Nat) : takeDigits (Nat.toDigits 10 n ++ rest) = (Nat.toDigits 10 n, rest) :=
    takeDigits_append (fun c member => Nat.isDigit_of_mem_toDigits (by decide) (by decide) member)
      fun c member => (ends c member).1
  cases exponent with
  | none =>
    cases rest with
    | nil => rfl
    | cons c rest =>
      obtain ⟨-, -, lower, upper⟩ := ends c rfl
      simp [exponentText, scanExponent, lower, upper]
  | some power =>
    have signed : scanSign (((if power < 0 then ['-'] else []) ++ Nat.toDigits 10 power.natAbs) ++ rest)
        = (decide (power < 0), Nat.toDigits 10 power.natAbs ++ rest) := by
      by_cases negative : power < 0
      · simp [negative, scanSign]
      · simp [negative, scanSign_toDigits]
    rw [exponentText, Render.power, List.cons_append, List.cons_append]
    simp only [scanExponent, beq_self_eq_true, Bool.true_or, if_true, signed, digits]
    split
    · rename_i empty
      exact absurd (congrArg Prod.fst empty) Nat.toDigits_ne_nil
    · rename_i found after _ same
      cases same
      rw [Nat.ofDigitChars_ten_toDigits]
      have value : (if power < 0 then -(power.natAbs : Int) else power.natAbs) = power := by
        split <;> omega
      simp only [decide_eq_true_eq, value]

theorem scanNumber_append {n : Numeral} (digits : ∀ c ∈ n.fraction, c.isDigit = true)
    {rest : List Char} (ends : Ends rest) :
    scanNumber n.negative (Nat.toDigits 10 n.whole ++
      (fractionText n.fraction ++ (exponentText n.exponent ++ rest))) = some (n, rest) := by
  have afterFraction : ∀ c ∈ (exponentText n.exponent ++ rest).head?,
      c.isDigit = false ∧ c ≠ '.' := by
    intro c head
    cases exponent : n.exponent with
    | none =>
      rw [exponent, exponentText, List.nil_append] at head
      exact ⟨(ends c head).1, (ends c head).2.1⟩
    | some power =>
      rw [exponent] at head
      cases head
      decide
  have afterWhole : ∀ c ∈ (fractionText n.fraction ++ (exponentText n.exponent ++ rest)).head?,
      c.isDigit = false := by
    intro c head
    cases fraction : n.fraction with
    | nil =>
      rw [fraction] at head
      exact (afterFraction c head).1
    | cons digit digits =>
      rw [fraction] at head
      cases head
      decide
  rw [scanNumber, scanWhole_toDigits n.whole afterWhole]
  simp only [Option.bind_eq_bind, Option.bind_some, scanFraction_append digits afterFraction,
    scanExponent_append ends]
  rfl

theorem scan_digit {digit : Char} (isDigit : digit.isDigit = true) (rest : List Char) :
    scan digit rest =
      (scanNumber false (digit :: rest)).map fun found => (number found.1, found.2) := by
  unfold scan
  split <;> first | (exfalso; revert isDigit; decide) | rw [if_pos isDigit]

theorem isSpace_of_isDigit {digit : Char} (isDigit : digit.isDigit = true) :
    isSpace digit = false := by
  unfold isSpace
  by_contra space
  simp only [Bool.or_eq_false_iff, beq_eq_false_iff_ne, not_and_or, not_not] at space
  rcases space with ((rfl | rfl) | rfl) | rfl <;> cases isDigit

theorem lex_numeral {n : Numeral} (digits : ∀ c ∈ n.fraction, c.isDigit = true)
    {rest : List Char} (ends : Ends rest) :
    lex (Render.numeral n ++ rest) = number n :: lex rest := by
  have scanned := scanNumber_append digits ends
  rw [numeral_eq, List.append_assoc, List.append_assoc, List.append_assoc]
  cases sign : n.negative with
  | true =>
    rw [sign] at scanned
    rw [if_pos rfl, List.singleton_append]
    refine lex_cons rfl ?_
    show (scanNumber true _).map _ = _
    rw [scanned]
    rfl
  | false =>
    obtain ⟨digit, later, split⟩ := List.exists_cons_of_ne_nil (l := Nat.toDigits 10 n.whole)
      Nat.toDigits_ne_nil
    have isDigit : digit.isDigit = true :=
      Nat.isDigit_of_mem_toDigits (b := 10) (n := n.whole) (by decide) (by decide)
        (by rw [split]; simp)
    rw [sign, split, List.cons_append] at scanned
    rw [if_neg Bool.false_ne_true, List.nil_append, split, List.cons_append]
    refine lex_cons (isSpace_of_isDigit isDigit) ?_
    rw [scan_digit isDigit, scanned]
    rfl

def partOf (c : Char) : Part :=
  if c.toNat < 0x20 ∧ c ∉ ['\x08', '\x0c', '\n', '\r', '\t'] then .unit c.toNat else .char c

theorem hexValue_digitChar : ∀ d < 16, hexValue (Nat.digitChar d) = some d := by decide

theorem hexUnit_control {n : Nat} (control : n < 0x20) :
    hexUnit '0' '0' (Nat.digitChar (n / 16)) (Nat.digitChar (n % 16)) = some n := by
  have zero : hexValue '0' = some 0 := hexValue_digitChar 0 (by decide)
  have value : ((0 * 16 + 0) * 16 + n / 16) * 16 + n % 16 = n := by omega
  simp [hexUnit, zero, hexValue_digitChar (n / 16) (by omega),
    hexValue_digitChar (n % 16) (by omega)]
  omega

theorem scanString_plain {c : Char} (noQuote : c ≠ '"') (noEscape : c ≠ '\\')
    (shown : ¬ c.toNat < 0x20) (parts : List Part) (rest : List Char) :
    scanString parts (c :: rest) = scanString (.char c :: parts) rest := by
  rw [scanString.eq_def]
  split <;> rename_i same <;> cases same
  case h_2 => exact absurd rfl noQuote
  case h_3 => exact absurd rfl noEscape
  case h_4 => exact absurd rfl noEscape
  case h_5 => rw [if_neg shown]

theorem scanString_escape (c : Char) (parts : List Part) (rest : List Char) :
    scanString parts (Render.escape c ++ rest) = scanString (partOf c :: parts) rest := by
  by_cases short : c ∈ ['"', '\\', '\x08', '\x0c', '\n', '\r', '\t']
  · simp only [List.mem_cons, List.not_mem_nil, or_false] at short
    rcases short with rfl | rfl | rfl | rfl | rfl | rfl | rfl <;> rfl
  · simp only [List.mem_cons, List.not_mem_nil, or_false, not_or] at short
    obtain ⟨quote, escape, backspace, feed, newline, carriage, tab⟩ := short
    by_cases control : c.toNat < 0x20
    · have text : Render.escape c =
          ['\\', 'u', '0', '0', Nat.digitChar (c.toNat / 16), Nat.digitChar (c.toNat % 16)] := by
        simp [Render.escape, *]
      have part : partOf c = .unit c.toNat := by simp [partOf, *]
      rw [text, part]
      simp only [List.cons_append, List.nil_append, scanString, hexUnit_control control]
    · have text : Render.escape c = [c] := by simp [Render.escape, *]
      have part : partOf c = .char c := by simp [partOf, control]
      rw [text, part]
      exact scanString_plain quote escape control parts rest

theorem scanString_flatMap_escape (text : List Char) (parts : List Part) (rest : List Char) :
    scanString parts (text.flatMap Render.escape ++ '"' :: rest) =
      some ((text.map partOf).reverse ++ parts, rest) := by
  induction text generalizing parts with
  | nil => rfl
  | cons c text ih =>
    rw [List.flatMap_cons, List.append_assoc, scanString_escape, ih]
    simp

theorem assemble_unit {bits : Nat} (small : bits < 0xd800) (rest : List Part) :
    assemble (.unit bits :: rest) = (assemble rest).map (Char.ofNat bits :: ·) := by
  have high : isHighSurrogate bits = false := by simp [isHighSurrogate]; omega
  have low : isLowSurrogate bits = false := by simp [isLowSurrogate]; omega
  cases rest with
  | nil => simp [assemble, high, low]
  | cons part rest => cases part <;> simp [assemble, high, low]

theorem assemble_map_partOf (text : List Char) : assemble (text.map partOf) = some text := by
  induction text with
  | nil => rfl
  | cons c text ih =>
    rw [List.map_cons, partOf]
    split
    · rename_i control
      rw [assemble_unit (by omega), ih, Char.ofNat_toNat]
      rfl
    · rw [assemble, ih]
      rfl

theorem lex_string (text : String) (rest : List Char) :
    lex (Render.string text ++ rest) = string (some text) :: lex rest := by
  rw [Render.string, List.cons_append, List.cons_append, List.append_assoc, List.singleton_append]
  refine lex_cons rfl ?_
  show (scanString [] _).map _ = _
  rw [scanString_flatMap_escape]
  simp [assemble_map_partOf]

def Printable : Token → Prop
  | .number n => ∀ c ∈ n.fraction, c.isDigit = true
  | .string text => text.isSome = true
  | .broken => False
  | _ => True

theorem lex_openBracket (rest : List Char) : lex ('[' :: rest) = openBracket :: lex rest :=
  lex_cons rfl rfl

theorem lex_closeBracket (rest : List Char) : lex (']' :: rest) = closeBracket :: lex rest :=
  lex_cons rfl rfl

theorem lex_openBrace (rest : List Char) : lex ('{' :: rest) = openBrace :: lex rest :=
  lex_cons rfl rfl

theorem lex_closeBrace (rest : List Char) : lex ('}' :: rest) = closeBrace :: lex rest :=
  lex_cons rfl rfl

theorem lex_comma (rest : List Char) : lex (',' :: rest) = comma :: lex rest := lex_cons rfl rfl

theorem lex_colon (rest : List Char) : lex (':' :: rest) = colon :: lex rest := lex_cons rfl rfl

theorem ends_nil : Ends [] := by
  rintro c ⟨⟩

theorem ends_charsElements (elements : List Json) (rest : List Char) :
    Ends (charsElements elements ++ rest) := by
  intro c head
  cases elements <;> cases head <;> decide

theorem ends_charsMembers (members : List Member) (rest : List Char) :
    Ends (charsMembers members ++ rest) := by
  intro c head
  cases members <;> cases head <;> decide

end Token

open Token (Ends)

def Printable (value : Json) : Prop := ∀ token ∈ value.tokens, token.Printable

mutual

theorem lex_chars (value : Json) (printable : ∀ token ∈ value.tokens, Token.Printable token)
    {rest : List Char} (ends : Ends rest) :
    Token.lex (value.chars ++ rest) = value.tokens ++ Token.lex rest := by
  cases value with
  | null => exact Token.lex_cons rfl rfl
  | bool value => cases value <;> exact Token.lex_cons rfl rfl
  | number n => exact Token.lex_numeral (printable (.number n) (List.mem_singleton.mpr rfl)) ends
  | string text =>
    cases text with
    | none => exact absurd (printable (.string none) (List.mem_singleton.mpr rfl)) Bool.false_ne_true
    | some text => exact Token.lex_string text rest
  | array elements =>
    cases elements with
    | nil => exact (Token.lex_openBracket _).trans (congrArg _ (Token.lex_closeBracket rest))
    | cons first rest =>
      simp only [tokens, List.cons_append, List.forall_mem_cons, List.forall_mem_append] at printable
      rw [chars, tokens, List.cons_append, List.cons_append, List.append_assoc,
        Token.lex_openBracket, lex_chars first printable.2.1 (Token.ends_charsElements _ _),
        lex_charsElements rest printable.2.2]
      simp
  | object members =>
    cases members with
    | nil => exact (Token.lex_openBrace _).trans (congrArg _ (Token.lex_closeBrace rest))
    | cons first rest =>
      simp only [tokens, List.cons_append, List.forall_mem_cons, List.forall_mem_append] at printable
      rw [chars, tokens, List.cons_append, List.cons_append, List.append_assoc,
        Token.lex_openBrace, lex_charsMember first printable.2.1 (Token.ends_charsMembers _ _),
        lex_charsMembers rest printable.2.2]
      simp
  | broken => exact (printable .broken (List.mem_singleton.mpr rfl)).elim

theorem lex_charsElements (elements : List Json)
    (printable : ∀ token ∈ tokensElements elements, Token.Printable token) (rest : List Char) :
    Token.lex (charsElements elements ++ rest) = tokensElements elements ++ Token.lex rest := by
  cases elements with
  | nil => exact Token.lex_closeBracket rest
  | cons element later =>
    simp only [tokensElements, List.cons_append, List.forall_mem_cons, List.forall_mem_append]
      at printable
    rw [charsElements, tokensElements, List.cons_append, List.cons_append, List.append_assoc,
      Token.lex_comma, lex_chars element printable.2.1 (Token.ends_charsElements _ _),
      lex_charsElements later printable.2.2]
    simp

theorem lex_charsMembers (members : List Member)
    (printable : ∀ token ∈ tokensMembers members, Token.Printable token) (rest : List Char) :
    Token.lex (charsMembers members ++ rest) = tokensMembers members ++ Token.lex rest := by
  cases members with
  | nil => exact Token.lex_closeBrace rest
  | cons member later =>
    simp only [tokensMembers, List.cons_append, List.forall_mem_cons, List.forall_mem_append]
      at printable
    rw [charsMembers, tokensMembers, List.cons_append, List.cons_append, List.append_assoc,
      Token.lex_comma, lex_charsMember member printable.2.1 (Token.ends_charsMembers _ _),
      lex_charsMembers later printable.2.2]
    simp

theorem lex_charsMember (member : Member)
    (printable : ∀ token ∈ tokensMember member, Token.Printable token) {rest : List Char}
    (ends : Ends rest) :
    Token.lex (charsMember member ++ rest) = tokensMember member ++ Token.lex rest := by
  obtain ⟨name, value⟩ := member
  simp only [tokensMember, List.forall_mem_cons] at printable
  obtain ⟨named, -, printable⟩ := printable
  obtain ⟨name, rfl⟩ := Option.isSome_iff_exists.mp named
  rw [charsMember, Option.getD_some, tokensMember, List.append_assoc, Token.lex_string,
    List.cons_append, Token.lex_colon, lex_chars value printable ends]
  rfl

end

theorem not_broken_of_printable {value : Json} (printable : value.Printable) :
    .broken ∉ value.tokens := fun broken => printable .broken broken

theorem spells_render {value : Json} (printable : value.Printable) : Spells value.render value := by
  refine ⟨unbroken_of_tokens value (not_broken_of_printable printable), ?_⟩
  have read := lex_chars value printable Token.ends_nil
  rw [List.append_nil, Token.lex_nil, List.append_nil] at read
  rw [render, String.toList_ofList, read]

@[simp] theorem printable_ofNat (n : Nat) : (ofNat n).Printable := by
  simp [Printable, ofNat, Numeral.ofNat, tokens, Token.Printable]

theorem forall_mem_tokensElements {elements : List Json} :
    (∀ token ∈ tokensElements elements, token.Printable) ↔
      ∀ element ∈ elements, element.Printable := by
  induction elements with
  | nil => simp [tokensElements, Token.Printable]
  | cons element rest ih =>
    rw [tokensElements, List.cons_append, List.forall_mem_cons, List.forall_mem_append, ih,
      List.forall_mem_cons]
    exact and_iff_right trivial

theorem forall_mem_tokensMember {member : Member} :
    (∀ token ∈ tokensMember member, token.Printable) ↔
      member.1.isSome = true ∧ member.2.Printable := by
  obtain ⟨name, value⟩ := member
  rw [tokensMember, List.forall_mem_cons, List.forall_mem_cons]
  exact and_congr_right fun _ => and_iff_right trivial

theorem forall_mem_tokensMembers {members : List Member} :
    (∀ token ∈ tokensMembers members, token.Printable) ↔
      ∀ member ∈ members, member.1.isSome = true ∧ member.2.Printable := by
  induction members with
  | nil => simp [tokensMembers, Token.Printable]
  | cons member rest ih =>
    rw [tokensMembers, List.cons_append, List.forall_mem_cons, List.forall_mem_append, ih,
      forall_mem_tokensMember, List.forall_mem_cons]
    exact and_iff_right trivial

@[simp] theorem printable_array {elements : List Json} :
    (array elements).Printable ↔ ∀ element ∈ elements, element.Printable := by
  cases elements with
  | nil => simp [Printable, tokens, Token.Printable]
  | cons first rest =>
    rw [Printable, tokens, List.cons_append, List.forall_mem_cons, List.forall_mem_append,
      forall_mem_tokensElements, List.forall_mem_cons]
    exact and_iff_right trivial

@[simp] theorem printable_object {members : List Member} :
    (object members).Printable ↔
      ∀ member ∈ members, member.1.isSome = true ∧ member.2.Printable := by
  cases members with
  | nil => simp [Printable, tokens, Token.Printable]
  | cons first rest =>
    rw [Printable, tokens, List.cons_append, List.forall_mem_cons, List.forall_mem_append,
      forall_mem_tokensMember, forall_mem_tokensMembers, List.forall_mem_cons]
    exact and_iff_right trivial

@[simp] theorem printable_ofMembers {members : List (String × Json)} :
    (ofMembers members).Printable ↔ ∀ member ∈ members, member.2.Printable := by
  rw [ofMembers, printable_object, List.forall_mem_map]
  simp

end GossipIntake.Json

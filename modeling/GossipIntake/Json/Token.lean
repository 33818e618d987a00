import GossipIntake.Json.Basic

namespace GossipIntake.Json

inductive Token where
  | openBrace
  | closeBrace
  | openBracket
  | closeBracket
  | comma
  | colon
  | null
  | bool (value : Bool)
  | number (numeral : Numeral)
  | string (text : Option String)
  | broken
deriving DecidableEq, Repr

namespace Token

def isSpace (c : Char) : Bool := c == ' ' || c == '\n' || c == '\t' || c == '\r'

inductive Part where
  | char (c : Char)
  | unit (bits : Nat)
deriving DecidableEq, Repr

def hexValue (c : Char) : Option Nat :=
  if '0' ≤ c ∧ c ≤ '9' then some (c.toNat - '0'.toNat)
  else if 'a' ≤ c ∧ c ≤ 'f' then some (c.toNat - 'a'.toNat + 10)
  else if 'A' ≤ c ∧ c ≤ 'F' then some (c.toNat - 'A'.toNat + 10)
  else none

def hexUnit (a b c d : Char) : Option Nat := do
  return (((← hexValue a) * 16 + (← hexValue b)) * 16 + (← hexValue c)) * 16 + (← hexValue d)

def escaped : Char → Option Char
  | '"' => some '"'
  | '\\' => some '\\'
  | '/' => some '/'
  | 'b' => some '\x08'
  | 'f' => some '\x0c'
  | 'n' => some '\n'
  | 'r' => some '\r'
  | 't' => some '\t'
  | _ => none

/-- The parts up to the closing quote, newest first, and what follows the quote. -/
def scanString (parts : List Part) : List Char → Option (List Part × List Char)
  | [] => none
  | '"' :: rest => some (parts, rest)
  | '\\' :: 'u' :: a :: b :: c :: d :: rest =>
    match hexUnit a b c d with
    | some bits => scanString (.unit bits :: parts) rest
    | none => none
  | '\\' :: e :: rest =>
    match escaped e with
    | some c => scanString (.char c :: parts) rest
    | none => none
  | c :: rest => if c.toNat < 0x20 then none else scanString (.char c :: parts) rest

def isHighSurrogate (bits : Nat) : Bool := 0xd800 ≤ bits && bits ≤ 0xdbff

def isLowSurrogate (bits : Nat) : Bool := 0xdc00 ≤ bits && bits ≤ 0xdfff

/-- The characters of a string. A surrogate without its partner names none. -/
def assemble : List Part → Option (List Char)
  | [] => some []
  | .char c :: rest => (assemble rest).map (c :: ·)
  | .unit high :: .unit low :: rest =>
    if isHighSurrogate high then
      if isLowSurrogate low then
        (assemble rest).map (Char.ofNat ((high - 0xd800) * 0x400 + (low - 0xdc00) + 0x10000) :: ·)
      else none
    else if isLowSurrogate high then none
    else (assemble (.unit low :: rest)).map (Char.ofNat high :: ·)
  | .unit bits :: rest =>
    if isHighSurrogate bits || isLowSurrogate bits then none
    else (assemble rest).map (Char.ofNat bits :: ·)

def takeDigits (text : List Char) : List Char × List Char :=
  (text.takeWhile Char.isDigit, text.dropWhile Char.isDigit)

def scanWhole (text : List Char) : Option (Nat × List Char) :=
  match takeDigits text with
  | ([], _) => none
  | ('0' :: _ :: _, _) => none
  | (digits, rest) => some (Nat.ofDigitChars 10 digits 0, rest)

def scanFraction : List Char → Option (List Char × List Char)
  | '.' :: rest =>
    match takeDigits rest with
    | ([], _) => none
    | (digits, rest) => some (digits, rest)
  | text => some ([], text)

def scanSign : List Char → Bool × List Char
  | '-' :: rest => (true, rest)
  | '+' :: rest => (false, rest)
  | text => (false, text)

def scanExponent : List Char → Option (Option Int × List Char)
  | c :: rest =>
    if c == 'e' || c == 'E' then
      let signed := scanSign rest
      match takeDigits signed.2 with
      | ([], _) => none
      | (digits, rest) =>
        let power := Nat.ofDigitChars 10 digits 0
        some (some (if signed.1 then -(power : Int) else power), rest)
    else some (none, c :: rest)
  | [] => some (none, [])

def scanNumber (negative : Bool) (text : List Char) : Option (Numeral × List Char) := do
  let (whole, rest) ← scanWhole text
  let (fraction, rest) ← scanFraction rest
  let (exponent, rest) ← scanExponent rest
  return ({ negative, whole, fraction, exponent }, rest)

def scan (first : Char) (rest : List Char) : Option (Token × List Char) :=
  match first, rest with
  | '{', _ => some (openBrace, rest)
  | '}', _ => some (closeBrace, rest)
  | '[', _ => some (openBracket, rest)
  | ']', _ => some (closeBracket, rest)
  | ',', _ => some (comma, rest)
  | ':', _ => some (colon, rest)
  | 'n', 'u' :: 'l' :: 'l' :: rest => some (null, rest)
  | 't', 'r' :: 'u' :: 'e' :: rest => some (bool true, rest)
  | 'f', 'a' :: 'l' :: 's' :: 'e' :: rest => some (bool false, rest)
  | '"', _ =>
    (scanString [] rest).map fun found =>
      (string ((assemble found.1.reverse).map String.ofList), found.2)
  | '-', _ => (scanNumber true rest).map fun found => (number found.1, found.2)
  | _, _ =>
    if first.isDigit then (scanNumber false (first :: rest)).map fun found => (number found.1, found.2)
    else none

theorem scanString_length {parts found : List Part} {text rest : List Char}
    (h : scanString parts text = some (found, rest)) : rest.length ≤ text.length := by
  fun_induction scanString parts text <;> simp_all <;> omega

theorem eq_append_of_takeDigits {text digits rest : List Char} (h : takeDigits text = (digits, rest)) :
    text = digits ++ rest := by
  cases h
  exact List.takeWhile_append_dropWhile.symm

theorem scanWhole_length {text rest : List Char} {whole : Nat}
    (h : scanWhole text = some (whole, rest)) : rest.length < text.length := by
  unfold scanWhole at h
  split at h
  · cases h
  · cases h
  · rename_i digits tail nonempty _ found
    cases h
    rw [eq_append_of_takeDigits found, List.length_append]
    have count := List.length_pos_iff.mpr nonempty
    omega

theorem scanFraction_length {text rest fraction : List Char}
    (h : scanFraction text = some (fraction, rest)) : rest.length ≤ text.length := by
  unfold scanFraction at h
  split at h
  · rename_i tail
    split at h
    · cases h
    · rename_i digits after nonempty found
      cases h
      rw [List.length_cons, eq_append_of_takeDigits found, List.length_append]
      omega
  · cases h
    exact Nat.le_refl _

theorem scanSign_length (text : List Char) : (scanSign text).2.length ≤ text.length := by
  unfold scanSign
  split <;> simp

theorem scanExponent_length {text rest : List Char} {exponent : Option Int}
    (h : scanExponent text = some (exponent, rest)) : rest.length ≤ text.length := by
  unfold scanExponent at h
  split at h
  · rename_i c tail
    dsimp only at h
    split at h
    · split at h
      · cases h
      · rename_i digits after nonempty found
        cases h
        have sign := scanSign_length tail
        rw [eq_append_of_takeDigits found, List.length_append] at sign
        simp
        omega
    · cases h
      exact Nat.le_refl _
  · cases h
    exact Nat.le_refl _

theorem scanNumber_length {negative : Bool} {text rest : List Char} {numeral : Numeral}
    (h : scanNumber negative text = some (numeral, rest)) : rest.length < text.length := by
  simp only [scanNumber, Option.bind_eq_bind, Option.bind_eq_some_iff, Prod.exists,
    Option.pure_def, Option.some.injEq, Prod.mk.injEq] at h
  obtain ⟨whole, afterWhole, first, fraction, afterFraction, second, exponent, afterExponent, third,
    _, rfl⟩ := h
  have one := scanWhole_length first
  have two := scanFraction_length second
  have three := scanExponent_length third
  omega

theorem scan_length {first : Char} {rest after : List Char} {token : Token}
    (h : scan first rest = some (token, after)) : after.length ≤ rest.length := by
  unfold scan at h
  split at h <;> try (cases h; simp; done)
  · cases h
    simp
    omega
  · cases h
    simp
    omega
  · cases h
    simp
    omega
  · obtain ⟨found, scanned, same⟩ := Option.map_eq_some_iff.mp h
    cases same
    exact scanString_length scanned
  · obtain ⟨found, scanned, same⟩ := Option.map_eq_some_iff.mp h
    cases same
    exact Nat.le_of_lt (scanNumber_length scanned)
  · split at h
    · obtain ⟨found, scanned, same⟩ := Option.map_eq_some_iff.mp h
      cases same
      have bound := scanNumber_length scanned
      simp at bound
      omega
    · cases h

def lexAfter (found : List Token) (text : List Char) : List Token :=
  match text with
  | [] => found.reverse
  | first :: rest =>
    if isSpace first then lexAfter found rest
    else
      match _h : scan first rest with
      | none => (broken :: found).reverse
      | some (token, after) => lexAfter (token :: found) after
termination_by text.length
decreasing_by
  · simp
  · have bound := scan_length _h
    simp
    omega

/-- The list ends with `broken` at the first place where no token starts. -/
def lex (text : List Char) : List Token := lexAfter [] text

end Token

end GossipIntake.Json

import GossipIntake.Json.Document
import Mathlib.Data.List.Induction

namespace GossipIntake.Json

mutual

def tokens : Json → List Token
  | .null => [.null]
  | .bool value => [.bool value]
  | .number numeral => [.number numeral]
  | .string text => [.string text]
  | .array [] => [.openBracket, .closeBracket]
  | .array (first :: rest) => .openBracket :: first.tokens ++ tokensElements rest
  | .object [] => [.openBrace, .closeBrace]
  | .object (first :: rest) => .openBrace :: tokensMember first ++ tokensMembers rest
  | .broken => [.broken]

def tokensElements : List Json → List Token
  | [] => [.closeBracket]
  | element :: rest => .comma :: element.tokens ++ tokensElements rest

def tokensMembers : List (Option String × Json) → List Token
  | [] => [.closeBrace]
  | member :: rest => .comma :: tokensMember member ++ tokensMembers rest

def tokensMember : Option String × Json → List Token
  | (name, value) => .string name :: .colon :: value.tokens

end

/-- The text, blanks and escapes aside, is that of the value. -/
def Spells (text : String) (value : Json) : Prop :=
  value.unbroken = true ∧ Token.lex text.toList = value.tokens

mutual

theorem unbroken_of_tokens (value : Json) (whole : .broken ∉ value.tokens) :
    value.unbroken = true := by
  cases value with
  | null | bool | number | string => rfl
  | array elements =>
    cases elements with
    | nil => rfl
    | cons first rest =>
      simp only [tokens, List.cons_append, List.mem_cons, List.mem_append, not_or] at whole
      rw [unbroken, unbrokenElements, unbroken_of_tokens first whole.2.1,
        unbrokenElements_of_tokens rest whole.2.2, Bool.and_true]
  | object members =>
    cases members with
    | nil => rfl
    | cons first rest =>
      simp only [tokens, List.cons_append, List.mem_cons, List.mem_append, not_or] at whole
      rw [unbroken, unbrokenMembers, unbrokenMember_of_tokens first whole.2.1,
        unbrokenMembers_of_tokens rest whole.2.2, Bool.and_true]
  | broken => exact absurd (List.mem_singleton.mpr rfl) whole

theorem unbrokenElements_of_tokens (elements : List Json)
    (whole : .broken ∉ tokensElements elements) : unbrokenElements elements = true := by
  cases elements with
  | nil => rfl
  | cons element rest =>
    simp only [tokensElements, List.cons_append, List.mem_cons, List.mem_append, not_or] at whole
    rw [unbrokenElements, unbroken_of_tokens element whole.2.1,
      unbrokenElements_of_tokens rest whole.2.2, Bool.and_true]

theorem unbrokenMembers_of_tokens (members : List Member)
    (whole : .broken ∉ tokensMembers members) : unbrokenMembers members = true := by
  cases members with
  | nil => rfl
  | cons member rest =>
    simp only [tokensMembers, List.cons_append, List.mem_cons, List.mem_append, not_or] at whole
    rw [unbrokenMembers, unbrokenMember_of_tokens member whole.2.1,
      unbrokenMembers_of_tokens rest whole.2.2, Bool.and_true]

theorem unbrokenMember_of_tokens (member : Member) (whole : .broken ∉ tokensMember member) :
    unbrokenMember member = true := by
  obtain ⟨name, value⟩ := member
  simp only [tokensMember, List.mem_cons, not_or] at whole
  rw [unbrokenMember, unbroken_of_tokens value whole.2.2]

end

theorem foldl_beforeFirstElement (value : Json) (frames : List Frame) :
    value.tokens.foldl Builder.step (.beforeFirstElement frames) =
      value.tokens.foldl Builder.step (.beforeValue (.array [] :: frames)) := by
  cases value with
  | array elements => cases elements <;> rfl
  | object members => cases members <;> rfl
  | _ => rfl

mutual

theorem foldl_tokens (value : Json) (whole : value.unbroken = true) (frames : List Frame) :
    value.tokens.foldl Builder.step (.beforeValue frames) = .afterValue value frames := by
  cases value with
  | null | bool | number | string => rfl
  | array elements =>
    cases elements with
    | nil => rfl
    | cons first rest =>
      simp only [unbroken, unbrokenElements, Bool.and_eq_true] at whole
      have opened : Builder.step (.beforeValue frames) .openBracket = .beforeFirstElement frames := rfl
      rw [tokens, List.cons_append, List.foldl_cons, List.foldl_append, opened,
        foldl_beforeFirstElement, foldl_tokens first whole.1, foldl_tokensElements rest whole.2]
      rfl
  | object members =>
    cases members with
    | nil => rfl
    | cons first rest =>
      simp only [unbroken, unbrokenMembers, Bool.and_eq_true] at whole
      have opened : Builder.step (.beforeValue frames) .openBrace = .beforeFirstName frames := rfl
      obtain ⟨name, value⟩ := first
      have named (later : List Token) :
          (Token.string name :: Token.colon :: later).foldl Builder.step (.beforeFirstName frames) =
            later.foldl Builder.step (.beforeValue (.object [] name :: frames)) := rfl
      rw [tokens, tokensMember, List.cons_append, List.foldl_cons, opened, List.foldl_append, named,
        foldl_tokens value whole.1, foldl_tokensMembers rest whole.2]
      rfl
  | broken => cases whole

theorem foldl_tokensElements (elements : List Json) (whole : unbrokenElements elements = true)
    (value : Json) (before : List Json) (frames : List Frame) :
    (tokensElements elements).foldl Builder.step (.afterValue value (.array before :: frames)) =
      .afterValue (.array ((value :: before).reverse ++ elements)) frames := by
  cases elements with
  | nil => rw [List.append_nil]; rfl
  | cons element rest =>
    simp only [unbrokenElements, Bool.and_eq_true] at whole
    have separated : Builder.step (.afterValue value (.array before :: frames)) .comma =
        .beforeValue (.array (value :: before) :: frames) := rfl
    rw [tokensElements, List.cons_append, List.foldl_cons, separated, List.foldl_append,
      foldl_tokens element whole.1, foldl_tokensElements rest whole.2, List.reverse_cons,
      List.append_assoc, List.singleton_append]

theorem foldl_tokensMembers (members : List Member) (whole : unbrokenMembers members = true)
    (name : Option String) (value : Json) (before : List Member) (frames : List Frame) :
    (tokensMembers members).foldl Builder.step (.afterValue value (.object before name :: frames)) =
      .afterValue (.object (((name, value) :: before).reverse ++ members)) frames := by
  cases members with
  | nil => rw [List.append_nil]; rfl
  | cons member rest =>
    simp only [unbrokenMembers, Bool.and_eq_true] at whole
    obtain ⟨next, held⟩ := member
    have separated (later : List Token) :
        (Token.comma :: Token.string next :: Token.colon :: later).foldl Builder.step
            (.afterValue value (.object before name :: frames)) =
          later.foldl Builder.step
            (.beforeValue (.object ((name, value) :: before) next :: frames)) := rfl
    rw [tokensMembers, tokensMember, List.cons_append, List.cons_append, List.cons_append, separated,
      List.foldl_append, foldl_tokens held whole.1, foldl_tokensMembers rest whole.2,
      List.reverse_cons, List.append_assoc, List.singleton_append]

end

theorem ofTokens_tokens {value : Json} (whole : value.unbroken = true) :
    Document.ofTokens value.tokens = { root := value, complete := true } := by
  rw [Document.ofTokens, foldl_tokens value whole]
  rfl

def separated {α : Type} (spell : α → List Token) (parts : List α) : List Token :=
  parts.flatMap fun part => spell part ++ [.comma]

theorem spell_append_flatMap {α : Type} (spell : α → List Token) (first : α) (rest : List α)
    (last : α) :
    spell first ++ (rest ++ [last]).flatMap (fun part => .comma :: spell part) =
      separated spell (first :: rest) ++ spell last := by
  induction rest generalizing first with
  | nil => simp [separated]
  | cons next rest ih =>
    have tail := ih next
    simp only [List.cons_append, List.flatMap_cons] at tail ⊢
    rw [tail]
    simp [separated]

theorem tokensElements_eq (elements : List Json) :
    tokensElements elements =
      elements.flatMap (fun element => .comma :: element.tokens) ++ [.closeBracket] := by
  induction elements with
  | nil => rfl
  | cons element rest ih => simp [tokensElements, ih]

theorem tokensMembers_eq (members : List Member) :
    tokensMembers members =
      members.flatMap (fun member => .comma :: tokensMember member) ++ [.closeBrace] := by
  induction members with
  | nil => rfl
  | cons member rest ih => simp [tokensMembers, ih]

theorem tokens_array_concat (elements : List Json) (last : Json) :
    (Json.array (elements ++ [last])).tokens =
      .openBracket :: separated tokens elements ++ last.tokens ++ [.closeBracket] := by
  cases elements with
  | nil => rw [List.nil_append, tokens]; rfl
  | cons first rest =>
    rw [List.cons_append, tokens, tokensElements_eq, List.cons_append, ← List.append_assoc,
      spell_append_flatMap]
    rfl

theorem tokens_object_concat (members : List Member) (last : Member) :
    (Json.object (members ++ [last])).tokens =
      .openBrace :: separated tokensMember members ++ tokensMember last ++ [.closeBrace] := by
  cases members with
  | nil => rw [List.nil_append, tokens]; rfl
  | cons first rest =>
    rw [List.cons_append, tokens, tokensMembers_eq, List.cons_append, ← List.append_assoc,
      spell_append_flatMap]
    rfl

def Frame.tokens : Frame → List Token
  | .array before => .openBracket :: separated Json.tokens before.reverse
  | .object before name =>
    .openBrace :: separated tokensMember before.reverse ++ [.string name, .colon]

def framesTokens : List Frame → List Token
  | [] => []
  | frame :: outer => framesTokens outer ++ frame.tokens

/-- What has been read so far; of a text that is stuck, nothing is said. -/
def Builder.tokens? : Builder → Option (List Token)
  | .beforeValue frames => some (framesTokens frames)
  | .beforeFirstElement frames => some (framesTokens frames ++ [.openBracket])
  | .beforeFirstName frames => some (framesTokens frames ++ [.openBrace])
  | .beforeName before frames =>
    some (framesTokens frames ++ .openBrace :: separated tokensMember before.reverse)
  | .beforeColon before name frames =>
    some (framesTokens frames ++ .openBrace :: separated tokensMember before.reverse ++ [.string name])
  | .afterValue value frames => some (framesTokens frames ++ value.tokens)
  | .stuck _ => none

/-- A step that does not get stuck reads its token, which is not the broken one. -/
def Builder.Reads (builder : Builder) (token : Token) (next : Builder) : Prop :=
  ∀ read, next.tokens? = some read →
    token ≠ .broken ∧ ∃ before, builder.tokens? = some before ∧ read = before ++ [token]

theorem reads_openValue {builder : Builder} {frames : List Frame}
    (before : builder.tokens? = some (framesTokens frames)) (token : Token) :
    builder.Reads token (Builder.openValue frames token) := by
  intro read after
  cases token <;> cases after <;>
    exact ⟨by simp, _, before, by simp [tokens]⟩

theorem reads_openName {builder : Builder} {before : List Member} {frames : List Frame}
    (sofar : builder.tokens? =
      some (framesTokens frames ++ .openBrace :: separated tokensMember before.reverse))
    (token : Token) : builder.Reads token (Builder.openName before frames token) := by
  intro read after
  cases token <;> cases after
  exact ⟨by simp, _, sofar, rfl⟩

theorem reads_separate (value : Json) (frames : List Frame) (token : Token) :
    (Builder.afterValue value frames).Reads token (Builder.separate value frames token) := by
  intro read after
  cases frames with
  | nil => cases after
  | cons frame outer =>
    cases frame with
    | array before =>
      cases token <;> cases after
      case closeBracket.refl =>
        refine ⟨by simp, _, rfl, ?_⟩
        rw [List.reverse_cons, tokens_array_concat]
        simp [framesTokens, Frame.tokens]
      case comma.refl => exact ⟨by simp, _, rfl, by simp [framesTokens, Frame.tokens, separated]⟩
    | object before name =>
      cases token <;> cases after
      case closeBrace.refl =>
        refine ⟨by simp, _, rfl, ?_⟩
        rw [List.reverse_cons, tokens_object_concat]
        simp [framesTokens, Frame.tokens, tokensMember]
      case comma.refl =>
        exact ⟨by simp, _, rfl, by simp [framesTokens, Frame.tokens, separated, tokensMember]⟩

theorem reads_step (builder : Builder) (token : Token) :
    builder.Reads token (builder.step token) := by
  cases builder with
  | beforeValue frames => exact reads_openValue rfl token
  | beforeFirstElement frames =>
    by_cases closes : token = .closeBracket
    · subst closes
      rintro read ⟨⟩
      exact ⟨by simp, _, rfl, by simp [tokens]⟩
    · have opens : Builder.step (.beforeFirstElement frames) token =
          .openValue (.array [] :: frames) token := by
        cases token <;> first | rfl | exact absurd rfl closes
      rw [opens]
      exact reads_openValue rfl token
  | beforeFirstName frames =>
    by_cases closes : token = .closeBrace
    · subst closes
      rintro read ⟨⟩
      exact ⟨by simp, _, rfl, by simp [tokens]⟩
    · have opens : Builder.step (.beforeFirstName frames) token = .openName [] frames token := by
        cases token <;> first | rfl | exact absurd rfl closes
      rw [opens]
      exact reads_openName rfl token
  | beforeName before frames => exact reads_openName rfl token
  | beforeColon before name frames =>
    rintro read after
    cases token <;> cases after
    exact ⟨by simp, _, rfl, by simp [framesTokens, Frame.tokens]⟩
  | afterValue value frames => exact reads_separate value frames token
  | stuck root => rintro read ⟨⟩

theorem read_of_foldl (text : List Token) {builder : Builder} {sofar read : List Token}
    (before : builder.tokens? = some sofar)
    (after : (text.foldl Builder.step builder).tokens? = some read) :
    read = sofar ++ text ∧ .broken ∉ text := by
  induction text using List.reverseRecOn generalizing read with
  | nil =>
    rw [List.foldl_nil, before] at after
    cases after
    simp
  | append_singleton earlier token ih =>
    rw [List.foldl_append] at after
    obtain ⟨unbroken, last, found, rfl⟩ := reads_step _ token read after
    obtain ⟨rfl, whole⟩ := ih found
    refine ⟨List.append_assoc _ _ _, ?_⟩
    rw [List.mem_append, List.mem_singleton, not_or]
    exact ⟨whole, Ne.symm unbroken⟩

theorem complete_finish {builder : Builder} (complete : builder.finish.complete = true) :
    builder = .afterValue builder.finish.root [] := by
  unfold Builder.finish at complete
  split at complete
  · rfl
  · split at complete <;> exact absurd complete Bool.false_ne_true

theorem ofTokens_eq_iff {text : List Token} {value : Json} :
    Document.ofTokens text = { root := value, complete := true } ↔
      value.unbroken = true ∧ text = value.tokens := by
  constructor
  · intro done
    have complete : (text.foldl Builder.step (.beforeValue [])).finish.complete = true :=
      congrArg Document.complete done
    have root : (text.foldl Builder.step (.beforeValue [])).finish.root = value :=
      congrArg Document.root done
    have last := complete_finish complete
    rw [root] at last
    have read : (text.foldl Builder.step (.beforeValue [])).tokens? = some value.tokens := by
      rw [last]
      rfl
    obtain ⟨spelled, whole⟩ := read_of_foldl text rfl read
    rw [framesTokens, List.nil_append] at spelled
    rw [← spelled] at whole
    exact ⟨unbroken_of_tokens value whole, spelled.symm⟩
  · rintro ⟨whole, rfl⟩
    exact ofTokens_tokens whole

theorem read_eq_iff {text : String} {value : Json} :
    Document.read text = { root := value, complete := true } ↔ Spells text value :=
  ofTokens_eq_iff

theorem Spells.unique {text : String} {value other : Json} (spells : Spells text value)
    (also : Spells text other) : value = other := by
  have read := read_eq_iff.mpr spells
  rw [read_eq_iff.mpr also] at read
  exact (congrArg Document.root read).symm

end GossipIntake.Json

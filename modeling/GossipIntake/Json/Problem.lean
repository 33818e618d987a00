import GossipIntake.Json.Document
import GossipIntake.Json.Number
import GossipIntake.Text.Quoted

namespace GossipIntake.Json

inductive Wanted where
  | word
  | byte
  | sequence
  | bytes (count : Nat)
  | record (name : String)
  | fields (name : String) (count : Nat)
deriving DecidableEq, Repr

def Wanted.text : Wanted → String
  | .word => "u64"
  | .byte => "u8"
  | .sequence => "a sequence"
  | .bytes count => "an array of length " ++ toString count
  | .record name => "struct " ++ name
  | .fields name count => "struct " ++ name ++ " with " ++ toString count ++ " elements"

/-- A text is read from left to right, and its first problem decides. -/
inductive Problem where
  | malformed
  | wrongType (found : String) (wanted : Wanted)
  | wrongValue (found : String) (wanted : Wanted)
  | tooShort (count : Nat) (wanted : Wanted)
  | missingField (name : String)
  | duplicateField (name : String)
deriving DecidableEq, Repr

def Problem.message? : Problem → Option String
  | .malformed => none
  | .wrongType found wanted => some ("invalid type: " ++ found ++ ", expected " ++ wanted.text)
  | .wrongValue found wanted => some ("invalid value: " ++ found ++ ", expected " ++ wanted.text)
  | .tooShort count wanted =>
    some ("invalid length " ++ toString count ++ ", expected " ++ wanted.text)
  | .missingField name => some ("missing field \x60" ++ name ++ "\x60")
  | .duplicateField name => some ("duplicate field \x60" ++ name ++ "\x60")

def integerText (n : Int) : String := "integer \x60" ++ toString n ++ "\x60"

def mismatch (wanted : Wanted) : Json → Problem
  | .null => .wrongType "null" wanted
  | .bool value => .wrongType ("boolean \x60" ++ toString value ++ "\x60") wanted
  | .number numeral =>
    match numeral.reading with
    | .word n => .wrongType (integerText n.toNat) wanted
    | .negative n => .wrongType (integerText n) wanted
    | .double x => .wrongType ("floating point \x60" ++ doubleText x ++ "\x60") wanted
    | .tooLarge => .malformed
  | .string (some text) => .wrongType ("string " ++ Text.quoted text) wanted
  | .string none => .malformed
  | .array _ => .wrongType "sequence" wanted
  | .object _ => .wrongType "map" wanted
  | .broken => .malformed

def word (value : Json) : Except Problem UInt64 :=
  match value with
  | .number numeral =>
    match numeral.reading with
    | .word n => .ok n
    | .negative n => .error (.wrongValue (integerText n) .word)
    | _ => .error (mismatch .word value)
  | _ => .error (mismatch .word value)

def byte (value : Json) : Except Problem UInt8 :=
  match value with
  | .number numeral =>
    match numeral.reading with
    | .word n =>
      if n < 256 then .ok n.toUInt8 else .error (.wrongValue (integerText n.toNat) .byte)
    | .negative n => .error (.wrongValue (integerText n) .byte)
    | _ => .error (mismatch .byte value)
  | _ => .error (mismatch .byte value)

def byteList (value : Json) : Except Problem (List UInt8) :=
  match value with
  | .array elements => elements.mapM byte
  | _ => .error (mismatch .sequence value)

/-- Exactly `count` bytes. Elements after them are where the array should have ended. -/
def byteVector (count : Nat) (value : Json) : Except Problem (Vector UInt8 count) :=
  match value with
  | .array elements => do
    let bytes ← (elements.take count).mapM byte
    if exact : bytes.toArray.size = count then
      if elements.length = count then return ⟨bytes.toArray, exact⟩ else throw .malformed
    else throw (.tooShort bytes.length (.bytes count))
  | _ => .error (mismatch (.bytes count) value)

def element {α : Type} (elements : List Json) (index : Nat) (whole : Wanted)
    (read : Json → Except Problem α) : Except Problem α :=
  match elements[index]? with
  | some value => read value
  | none => .error (.tooShort index whole)

def field {α : Type} (current : Option α) (name : String) (value : Json)
    (read : Json → Except Problem α) : Except Problem (Option α) :=
  match current with
  | some _ => .error (.duplicateField name)
  | none => (read value).map some

def skip (value : Json) : Except Problem Unit :=
  if value.unbroken then .ok () else .error .malformed

def required {α : Type} (current : Option α) (name : String) : Except Problem α :=
  match current with
  | some value => .ok value
  | none => .error (.missingField name)

def readText {α : Type} (read : Json → Except Problem α) (text : String) : Except Problem α := do
  let document := Document.read text
  let value ← read document.root
  if document.complete then return value else throw .malformed

end GossipIntake.Json

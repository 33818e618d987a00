namespace GossipIntake

/-- A number as written: sign, digits before the point, digits after it (none without a point) and
    the power of ten. -/
structure Numeral where
  negative : Bool
  whole : Nat
  fraction : List Char
  exponent : Option Int
deriving DecidableEq, Repr

def Numeral.ofNat (n : Nat) : Numeral where
  negative := false
  whole := n
  fraction := []
  exponent := none

/-- Read as far as the text is well formed; where it breaks, the value holds `broken`. A string is
    `none` if its escapes name no characters, and so is a member's name, which is also `none` where
    the text breaks before it. -/
inductive Json where
  | null
  | bool (value : Bool)
  | number (numeral : Numeral)
  | string (text : Option String)
  | array (elements : List Json)
  | object (members : List (Option String × Json))
  | broken
deriving Repr

namespace Json

mutual

def unbroken : Json → Bool
  | .array elements => unbrokenElements elements
  | .object members => unbrokenMembers members
  | .broken => false
  | _ => true

def unbrokenElements : List Json → Bool
  | [] => true
  | element :: rest => element.unbroken && unbrokenElements rest

def unbrokenMembers : List (Option String × Json) → Bool
  | [] => true
  | member :: rest => unbrokenMember member && unbrokenMembers rest

def unbrokenMember : Option String × Json → Bool
  | (_, value) => value.unbroken

end

theorem unbrokenElements_eq_all (elements : List Json) :
    unbrokenElements elements = elements.all unbroken := by
  induction elements with
  | nil => simp [unbrokenElements]
  | cons element rest ih => simp [unbrokenElements, ih]

theorem unbrokenMembers_eq_all (members : List (Option String × Json)) :
    unbrokenMembers members = members.all (fun member => member.2.unbroken) := by
  induction members with
  | nil => simp [unbrokenMembers]
  | cons member rest ih =>
    cases member
    simp [unbrokenMembers, unbrokenMember, ih]

def ofNat (n : Nat) : Json := .number (Numeral.ofNat n)

def ofText (text : String) : Json := .string (some text)

def ofMembers (members : List (String × Json)) : Json :=
  .object (members.map fun member => (some member.1, member.2))

end Json

end GossipIntake

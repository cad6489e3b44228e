import SoundLedger.Json.Number

/-!
# Documents as records

A record with named fields is written as an object and read from an object or an array. In an object
the fields may stand in any order and unknown names are passed over, but no field may occur twice
and every name must be made of characters. In an array the fields stand in order and the last ones
may be missing. What a missing field means is up to the reader of the record.
-/

namespace SoundLedger.Json

/-- The members of an object whose name is the given one. -/
def named (name : String) (members : List (Literal × Json)) : List Json :=
  (members.filter fun m => m.1 == some name).map Prod.snd

/-- The fields of a record, each with its document if it has one. -/
def fields? (names : List String) : Json → Option (List (Option Json))
  | .object members =>
    if members.all (fun m => m.1.isSome) && names.all (fun n => (named n members).length ≤ 1) then
      some (names.map fun n => (named n members).head?)
    else none
  | .array items =>
    if items.length ≤ names.length then
      some (items.map some ++ List.replicate (names.length - items.length) none)
    else none
  | _ => none

/-- A field that falls back to a value when it is missing, and must be readable when it is not. -/
def withDefault (default : α) (read? : Json → Option α) : Option Json → Option α
  | none => some default
  | some document => read? document

/-- A field that may be `null`. -/
def nullable (read? : Json → Option α) : Json → Option (Option α)
  | .null => some none
  | document => (read? document).map some

/-- A natural number of at most `limit`, written as a whole number. -/
def toNat? (limit : Nat) : Json → Option Nat
  | .number literal =>
    match literal.quantity? with
    | some (.natural n) => if n ≤ limit then some n else none
    | _ => none
  | _ => none

def toString? : Json → Option String
  | .string literal => literal
  | _ => none

def toBool? : Json → Option Bool
  | .bool value => some value
  | _ => none

/-- One of a list of names, as a string or as an object from that name to `null`. -/
def toName? (names : List (String × α)) : Json → Option α
  | .string (some text) => names.lookup text
  | .object [(some text, .null)] => names.lookup text
  | _ => none

/-! ## Values of every kind

A value that is taken in whole before its shape is known must be readable throughout: every number
in range, every string made of characters, and no more than a given number of containers inside one
another. -/

mutual

/-- Whether a document is readable throughout within some depth. -/
def isReadable (depth : Nat) : Json → Bool
  | .null => true
  | .bool _ => true
  | .number literal => literal.quantity?.isSome
  | .string literal => literal.isSome
  | .array items => depth != 0 && areReadable (depth - 1) items
  | .object members => depth != 0 && areReadableMembers (depth - 1) members

def areReadable (depth : Nat) : List Json → Bool
  | [] => true
  | item :: more => isReadable depth item && areReadable depth more

def areReadableMembers (depth : Nat) : List (Literal × Json) → Bool
  | [] => true
  | (name, value) :: more =>
    name.isSome && isReadable depth value && areReadableMembers depth more

end

end SoundLedger.Json

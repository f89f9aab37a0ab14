import Overlay.Json.Document

/-!
# Records as JSON

How typed values are written as JSON and read back. A record is a list of fields. It is written as
an object with every field in order, and read from

* an object: members may come in any order, members of other names are passed over, a field named
  twice is refused, and a field that is left out takes the value its description gives, if any;
* an array of the field values in order, which may end early only before fields with a default.

Reading says only whether a document is accepted; why it is not is of no interest here.
-/

namespace Overlay

/-- How values of a type are written as JSON and read back. -/
structure Codec (α : Type) where
  encode : α → Json
  decode? : Json → Option α

namespace Codec

variable {α β τ ρ : Type}

/-! ## Plain values -/

/-- Texts. -/
def text : Codec String where
  encode := .text
  decode?
    | .string (some s) => some s
    | _ => none

/-- Truth values. -/
def bool : Codec Bool where
  encode := .bool
  decode?
    | .bool b => some b
    | _ => none

/-- Natural numbers, written without sign, fraction and exponent. -/
def natural : Codec Nat where
  encode := .nat
  decode?
    | .number n => n.toNat?
    | _ => none

/-- Whole numbers, written without fraction and exponent. -/
def integer : Codec Int where
  encode z := .number (.ofInt z)
  decode?
    | .number n => n.toInt?
    | _ => none

/-- Natural numbers below `bound`, written without sign, fraction and exponent. -/
def natBelow (bound : Nat) : Codec { n : Nat // n < bound } where
  encode n := .nat n.1
  decode?
    | .number n => n.toNat?.bind fun n => if h : n < bound then some ⟨n, h⟩ else none
    | _ => none

/-- A codec for a type whose values correspond to those of another. -/
def iso (c : Codec α) (fromValue : β → α) (toValue : α → β) : Codec β where
  encode b := c.encode (fromValue b)
  decode? v := (c.decode? v).map toValue

/-- Unsigned numbers of eight bits. -/
def uint8 : Codec UInt8 :=
  (natBelow (2 ^ 8)).iso (fun n => ⟨n.toNat, n.toNat_lt⟩) fun n => UInt8.ofNat n.1

/-- Unsigned numbers of 32 bits. -/
def uint32 : Codec UInt32 :=
  (natBelow (2 ^ 32)).iso (fun n => ⟨n.toNat, n.toNat_lt⟩) fun n => UInt32.ofNat n.1

/-- Values with a written form of their own. -/
def spelled (render : α → String) (parse? : String → Option α) : Codec α where
  encode a := .text (render a)
  decode?
    | .string (some s) => parse? s
    | _ => none

/-- One of a few named values. A name may also be the only key of an object, over `null`. -/
def choice (all : List α) (name : α → String) : Codec α where
  encode a := .text (name a)
  decode?
    | .string (some s) => all.find? (name · == s)
    | .object [(some s, .null)] => all.find? (name · == s)
    | _ => none

/-! ## Compound values -/

/-- A value or `null`. -/
def orNull (c : Codec α) : Codec (Option α) where
  encode
    | some a => c.encode a
    | none => .null
  decode?
    | .null => some none
    | v => (c.decode? v).map some

/-- A list. -/
def list (c : Codec α) : Codec (List α) where
  encode as := .array (as.map c.encode)
  decode?
    | .array items => items.mapM c.decode?
    | _ => none

end Codec

/-- One field of a record. -/
structure Field (α : Type) where
  name : String
  codec : Codec α
  /-- The value that an object means by leaving the field out. -/
  omitted : Option α
  /-- The value that an array means by ending before the field. -/
  cutOff : Option α

/-- The fields of a record, as a product of their types. -/
inductive Fields : Type → Type 1 where
  | nil : Fields Unit
  | cons {α β : Type} (field : Field α) (rest : Fields β) : Fields (α × β)

namespace Fields

variable {α β : Type}

/-- A field that must be there. -/
def required (name : String) (c : Codec α) (rest : Fields β) : Fields (α × β) :=
  .cons ⟨name, c, none, none⟩ rest

/-- A field that may be `null`, which an object may leave out to mean the same. -/
def optional (name : String) (c : Codec α) (rest : Fields β) : Fields (Option α × β) :=
  .cons ⟨name, c.orNull, some none, none⟩ rest

/-- A field with a default, which may be left out but not be `null`. -/
def defaulted (name : String) (c : Codec α) (value : α) (rest : Fields β) : Fields (α × β) :=
  .cons ⟨name, c, some value, some value⟩ rest

/-- The members of a written record, in order. -/
def members : {τ : Type} → Fields τ → τ → List (String × Json)
  | _, .nil, () => []
  | _, .cons f rest, (a, b) => (f.name, f.codec.encode a) :: rest.members b

/-- The value of one field, from all members of an object. -/
def member? (f : Field α) (members : List (Option String × Json)) : Option α :=
  match members.filter (fun m => m.1 == some f.name) with
  | [] => f.omitted
  | [m] => f.codec.decode? m.2
  | _ => none

/-- The fields of a record that was written as an object. -/
def ofMembers? : {τ : Type} → Fields τ → List (Option String × Json) → Option τ
  | _, .nil, _ => some ()
  | _, .cons f rest, members =>
    match member? f members, rest.ofMembers? members with
    | some a, some b => some (a, b)
    | _, _ => none

/-- The fields of a record that was written as an array. -/
def ofItems? : {τ : Type} → Fields τ → List Json → Option τ
  | _, .nil, [] => some ()
  | _, .nil, _ :: _ => none
  | _, .cons f rest, [] =>
    match f.cutOff, rest.ofItems? [] with
    | some a, some b => some (a, b)
    | _, _ => none
  | _, .cons f rest, v :: items =>
    match f.codec.decode? v, rest.ofItems? items with
    | some a, some b => some (a, b)
    | _, _ => none

/-- The values of a written record, in order. -/
def items {τ : Type} (fields : Fields τ) (t : τ) : List Json := (fields.members t).map (·.2)

end Fields

/-- A record whose fields are described by `fields`. Every key of an object must have a text. -/
def Codec.record {τ ρ : Type} (fields : Fields τ) (split : ρ → τ) (build : τ → ρ) : Codec ρ where
  encode r := .record (fields.members (split r))
  decode?
    | .object members =>
      if members.all (fun m => m.1.isSome) then (fields.ofMembers? members).map build else none
    | .array items => (fields.ofItems? items).map build
    | _ => none

end Overlay

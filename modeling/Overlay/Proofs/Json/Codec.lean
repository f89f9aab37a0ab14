import Mathlib.Data.List.Forall2
import Overlay.Json.Codec
import Overlay.Proofs.Json.Document

/-!
# Codecs that read what they write

A value has one written form, and many documents mean the same: `Respelled` says which. At any
depth the members of an object may stand in another order, with members of other names between
them and without those that may be left out, and a record may also be the array of its fields.

A codec is `Lawful` if it reads every such document. The laws of plain values, lists and records
follow from those of their parts; for a record the induction is on the fields, where the member of
one field counts as a stranger to all fields behind it.

Main statements: `Codec.lawful_record` and, for what is written as one text or number,
`Codec.lawful_of_plain`.
-/

namespace Overlay

/-! ## Documents that mean the same -/

namespace Json

/-- Whether a document may leave a member out: it is `null`, or it is empty and its name is one of
those with a default. -/
def MayOmit (defaults : List String) (m : String × Json) : Prop :=
  m.2 = .null ∨ m.1 ∈ defaults ∧ (m.2 = .text "" ∨ m.2 = .array [])

/-- The members that a document keeps, each with a value related to its own. -/
inductive Kept (related : Json → Json → Prop) (mayOmit : String × Json → Prop) :
    List (String × Json) → List (String × Json) → Prop where
  | nil : Kept related mayOmit [] []
  | keep {name : String} {v w : Json} {members kept : List (String × Json)} (here : related v w)
      (rest : Kept related mayOmit members kept) :
      Kept related mayOmit ((name, v) :: members) ((name, w) :: kept)
  | leave {m : String × Json} {members kept : List (String × Json)} (here : mayOmit m)
      (rest : Kept related mayOmit members kept) : Kept related mayOmit (m :: members) kept

/-- Another document that means the same as a written one; `defaults` names the members that may
be left out when they are empty. -/
inductive Respelled (defaults : List String) : Json → Json → Prop where
  /-- The written document. -/
  | same (v : Json) : Respelled defaults v v
  /-- An array whose items mean the same. -/
  | items {vs ws : List Json} (each : List.Forall₂ (Respelled defaults) vs ws) :
      Respelled defaults (.array vs) (.array ws)
  /-- A record in any order, with strangers among its members and without some of its own. -/
  | members {own kept strangers all : List (String × Json)}
      (left : Kept (Respelled defaults) (MayOmit defaults) own kept)
      (strange : ∀ m ∈ strangers, m.1 ∉ own.map (·.1)) (order : all.Perm (kept ++ strangers)) :
      Respelled defaults (.record own) (.record all)
  /-- A record as the array of its fields. -/
  | fields {own : List (String × Json)} {ws : List Json}
      (each : List.Forall₂ (Respelled defaults) (own.map (·.2)) ws) :
      Respelled defaults (.record own) (.array ws)

variable {defaults : List String}

/-- The members of an object, each under a key that has a text. -/
def keyed (ms : List (String × Json)) : List (Option String × Json) :=
  ms.map fun m => (some m.1, m.2)

/-- A record is made of its members in their order. -/
theorem record_inj {ms ms' : List (String × Json)} (h : record ms = record ms') : ms = ms' := by
  refine List.map_injective_iff.mpr ?_ (Json.object.inj h)
  rintro ⟨name, v⟩ ⟨name', v'⟩ same
  cases same
  rfl

/-- A document may keep all its members. -/
theorem kept_refl {mayOmit : String × Json → Prop} (ms : List (String × Json)) :
    Kept (Respelled defaults) mayOmit ms ms := by
  induction ms with
  | nil => exact .nil
  | cons m ms ih => exact .keep (.same m.2) ih

/-- Names are kept in order. -/
theorem Kept.names_sublist {related : Json → Json → Prop} {mayOmit : String × Json → Prop}
    {ms kept : List (String × Json)} (left : Kept related mayOmit ms kept) :
    (kept.map (·.1)).Sublist (ms.map (·.1)) := by
  induction left with
  | nil => exact .slnil
  | keep _ _ ih => exact ih.cons_cons _
  | leave _ _ ih => exact ih.cons _

/-- What is no array and no record has one spelling. -/
theorem Respelled.eq_of_plain {v doc : Json} (h : Respelled defaults v doc)
    (array : ∀ vs, v ≠ .array vs) (record : ∀ ms, v ≠ .record ms) : doc = v := by
  cases h with
  | same => rfl
  | items => exact absurd rfl (array _)
  | members => exact absurd rfl (record _)
  | fields => exact absurd rfl (record _)

/-- Only `null` may be spelled as `null`. -/
theorem Respelled.ne_null {v doc : Json} (h : Respelled defaults v doc) (present : v ≠ .null) :
    doc ≠ .null := by
  cases h with
  | same => exact present
  | items => simp
  | members => simp [record]
  | fields => simp

/-- A respelled array is an array of respelled values. -/
theorem Respelled.of_array {vs : List Json} {doc : Json} (h : Respelled defaults (.array vs) doc) :
    ∃ ws, doc = .array ws ∧ List.Forall₂ (Respelled defaults) vs ws := by
  cases h with
  | same => exact ⟨vs, rfl, List.forall₂_same.mpr fun v _ => .same v⟩
  | items each => exact ⟨_, rfl, each⟩

/-- The spellings of a record. -/
theorem Respelled.of_record {own : List (String × Json)} {doc : Json}
    (h : Respelled defaults (.record own) doc) :
    (∃ kept strangers all, doc = .record all ∧
      Kept (Respelled defaults) (MayOmit defaults) own kept ∧
      (∀ m ∈ strangers, m.1 ∉ own.map (·.1)) ∧ all.Perm (kept ++ strangers)) ∨
    ∃ ws, doc = .array ws ∧ List.Forall₂ (Respelled defaults) (own.map (·.2)) ws := by
  generalize written : record own = v at h
  cases h with
  | same =>
      subst written
      exact Or.inl ⟨own, [], own, rfl, kept_refl own, by simp, by simp⟩
  | items => cases written
  | members left strange order =>
      cases record_inj written
      exact Or.inl ⟨_, _, _, rfl, left, strange, order⟩
  | fields each =>
      cases record_inj written
      exact Or.inr ⟨_, rfl, each⟩

end Json

/-! ## Codecs -/

variable {α β τ ρ : Type} {defaults : List String}

/-- What a codec writes is sound and never `null`, and all of its spellings are read back. -/
structure Codec.Lawful (defaults : List String) (c : Codec α) : Prop where
  reads : ∀ (a : α) (doc : Json), Json.Respelled defaults (c.encode a) doc →
    c.decode? doc = some a
  sound : ∀ a, (c.encode a).Sound
  present : ∀ a, c.encode a ≠ .null

/-- A truth value, a text or a natural number. -/
inductive Json.Plain : Json → Prop where
  | bool (b : Bool) : Plain (.bool b)
  | text (s : String) : Plain (.text s)
  | nat (n : Nat) : Plain (.nat n)

namespace Codec

/-- A codec is lawful if it writes plain values and reads them back. -/
theorem lawful_of_plain {c : Codec α} (plain : ∀ a, (c.encode a).Plain)
    (back : ∀ a, c.decode? (c.encode a) = some a) : c.Lawful defaults where
  reads := by
    intro a doc spelled
    have same : doc = c.encode a := by
      apply spelled.eq_of_plain
      · intro vs array
        have shape := plain a
        rw [array] at shape
        cases shape
      · intro ms record
        have shape := plain a
        rw [record] at shape
        cases shape
    rw [same, back]
  sound := by
    intro a
    have shape := plain a
    generalize c.encode a = v at shape
    cases shape with
    | bool b => exact .bool b
    | text s => exact .string _
    | nat n => exact .number (Numeral.sound_ofNat n)
  present := by
    intro a null
    have shape := plain a
    rw [null] at shape
    cases shape

theorem lawful_text : text.Lawful defaults := lawful_of_plain .text fun _ => rfl

theorem lawful_bool : bool.Lawful defaults := lawful_of_plain .bool fun _ => rfl

/-- A number below the bound is read back. -/
theorem decode?_natBelow {bound : Nat} (n : { n : Nat // n < bound }) :
    (natBelow bound).decode? (.nat n.1) = some n := by
  simp [natBelow, Json.nat, n.2]

/-- Numbers of eight bits are read back as written. -/
theorem lawful_uint8 : uint8.Lawful defaults := by
  refine lawful_of_plain (fun n => .nat n.toNat) ?_
  intro n
  show ((natBelow _).decode? (.nat n.toNat)).map _ = _
  rw [decode?_natBelow ⟨n.toNat, n.toNat_lt⟩, Option.map_some, UInt8.ofNat_toNat]

/-- Numbers of 32 bits are read back as written. -/
theorem lawful_uint32 : uint32.Lawful defaults := by
  refine lawful_of_plain (fun n => .nat n.toNat) ?_
  intro n
  show ((natBelow _).decode? (.nat n.toNat)).map _ = _
  rw [decode?_natBelow ⟨n.toNat, n.toNat_lt⟩, Option.map_some, UInt32.ofNat_toNat]

/-- Values with a written form are read back if their form is. -/
theorem lawful_spelled {render : α → String} {parse? : String → Option α}
    (back : ∀ a, parse? (render a) = some a) : (spelled render parse?).Lawful defaults :=
  lawful_of_plain (fun a => .text (render a)) back

/-- Named values are read back if each of them is found by its name. -/
theorem lawful_choice {all : List α} {name : α → String}
    (back : ∀ a, all.find? (name · == name a) = some a) : (choice all name).Lawful defaults :=
  lawful_of_plain (fun a => .text (name a)) back

/-- A list is read item by item. -/
theorem lawful_list {c : Codec α} (lawful : c.Lawful defaults) : c.list.Lawful defaults where
  reads := by
    intro as doc spelled
    obtain ⟨ws, rfl, each⟩ := Json.Respelled.of_array spelled
    clear spelled
    show ws.mapM c.decode? = some as
    induction as generalizing ws with
    | nil =>
        cases each
        rfl
    | cons a as ih =>
        obtain ⟨_, _, here, there, rfl⟩ := List.forall₂_cons_left_iff.mp each
        rw [List.mapM_cons, lawful.reads a _ here, ih _ there]
        rfl
  sound := by
    intro as
    refine .array ?_
    intro v mem
    obtain ⟨a, _, rfl⟩ := List.mem_map.mp mem
    exact lawful.sound a
  present := by
    rintro as ⟨⟩

/-- Only the empty text is written as an empty value. -/
theorem text_empty {s : String} (h : text.encode s = .text "" ∨ text.encode s = .array []) :
    s = "" := by
  rcases h with h | h <;> cases h
  rfl

/-- Only the empty list is written as an empty value. -/
theorem list_empty {c : Codec α} {as : List α}
    (h : c.list.encode as = .text "" ∨ c.list.encode as = .array []) : as = [] := by
  rcases h with h | h
  · cases h
  · exact List.map_eq_nil_iff.mp (Json.array.inj h)

end Codec

/-! ## Fields -/

/-- What holds of a field's codec and of what may be left out, if only fields with a default have
names among `defaults`. -/
structure Field.Lawful (defaults : List String) (f : Field α) : Prop where
  reads : ∀ (a : α) (doc : Json), Json.Respelled defaults (f.codec.encode a) doc →
    f.codec.decode? doc = some a
  sound : ∀ a, (f.codec.encode a).Sound
  omits : (f.cutOff.isNone = true → f.name ∉ defaults) →
    ∀ a, Json.MayOmit defaults (f.name, f.codec.encode a) → f.omitted = some a

namespace Fields

/-- The names of the fields, in order. -/
def names : {τ : Type} → Fields τ → List String
  | _, .nil => []
  | _, .cons f rest => f.name :: rest.names

/-- The names of the fields without a default. -/
def strict : {τ : Type} → Fields τ → List String
  | _, .nil => []
  | _, .cons f rest => if f.cutOff.isNone then f.name :: rest.strict else rest.strict

/-- Every field is lawful. -/
inductive Lawful (defaults : List String) : {τ : Type} → Fields τ → Prop where
  | nil : Lawful defaults .nil
  | cons {α β : Type} {f : Field α} {rest : Fields β} (here : f.Lawful defaults)
      (there : rest.Lawful defaults) : Lawful defaults (.cons f rest)

/-- A field that may not be left out is lawful if its codec is. -/
theorem Lawful.required {name : String} {c : Codec α} {rest : Fields β}
    (lawful : c.Lawful defaults) (there : rest.Lawful defaults) :
    (required name c rest).Lawful defaults := by
  refine .cons ⟨lawful.reads, lawful.sound, ?_⟩ there
  rintro apart a (null | ⟨mem, _⟩)
  · exact absurd null (lawful.present a)
  · exact absurd mem (apart rfl)

/-- A field that may be `null` may be left out only then. -/
theorem Lawful.optional {name : String} {c : Codec α} {rest : Fields β}
    (lawful : c.Lawful defaults) (there : rest.Lawful defaults) :
    (optional name c rest).Lawful defaults := by
  refine .cons ⟨?_, ?_, ?_⟩ there
  · rintro (_ | a) doc spelled
    · rw [spelled.eq_of_plain (by rintro _ ⟨⟩) (by rintro _ ⟨⟩)]
      rfl
    · have present := spelled.ne_null (lawful.present a)
      have read := lawful.reads a doc spelled
      show c.orNull.decode? doc = _
      cases doc with
      | null => exact absurd rfl present
      | _ => exact congrArg (Option.map some) read
  · rintro (_ | a)
    · exact .null
    · exact lawful.sound a
  · rintro apart (_ | a) (null | ⟨mem, _⟩)
    · rfl
    · rfl
    · exact absurd null (lawful.present a)
    · exact absurd mem (apart rfl)

/-- A field with a default may be left out if empty values are the default. -/
theorem Lawful.defaulted {name : String} {c : Codec α} {value : α} {rest : Fields β}
    (lawful : c.Lawful defaults)
    (empty : ∀ {a}, c.encode a = .text "" ∨ c.encode a = .array [] → a = value)
    (there : rest.Lawful defaults) : (defaulted name c value rest).Lawful defaults := by
  refine .cons ⟨lawful.reads, lawful.sound, ?_⟩ there
  rintro _ a (null | ⟨_, none_there⟩)
  · exact absurd null (lawful.present a)
  · rw [empty none_there]

/-- The strict names of a record are those of its first field, if that may not be left out, and of
the rest. -/
theorem strict_cons {f : Field α} {rest : Fields β}
    (strict : ∀ name ∈ (cons f rest).strict, name ∉ defaults) :
    (f.cutOff.isNone = true → f.name ∉ defaults) ∧ ∀ name ∈ rest.strict, name ∉ defaults := by
  rw [Fields.strict] at strict
  split at strict
  · exact ⟨fun _ => strict f.name List.mem_cons_self,
      fun name later => strict name (List.mem_cons_of_mem _ later)⟩
  · next has => exact ⟨fun none => absurd none has, strict⟩

/-- A record is written with its own names, in their order. -/
theorem map_fst_members (fields : Fields τ) (t : τ) :
    (fields.members t).map (·.1) = fields.names := by
  induction fields with
  | nil => rfl
  | cons f rest ih => exact congrArg (f.name :: ·) (ih t.2)

/-- The members of one name are found as they stand. -/
theorem filter_keyed (name : String) (all : List (String × Json)) :
    (Json.keyed all).filter (fun m => m.1 == some name) =
      Json.keyed (all.filter (·.1 == name)) := by
  rw [Json.keyed, List.filter_map]
  rfl

/-- The member of a field, if it is the only one of its name. -/
theorem member?_of_perm {f : Field α} {all others : List (String × Json)} {v : Json}
    (order : all.Perm ((f.name, v) :: others)) (other : ∀ m ∈ others, m.1 ≠ f.name) :
    member? f (Json.keyed all) = f.codec.decode? v := by
  have none_there : others.filter (·.1 == f.name) = [] := by
    rw [List.filter_eq_nil_iff]
    intro m mem
    simpa using other m mem
  have one := order.filter (·.1 == f.name)
  rw [List.filter_cons_of_pos (by simp), none_there, List.perm_singleton] at one
  rw [member?, filter_keyed, one]
  rfl

/-- A field whose name no member has. -/
theorem member?_of_absent {f : Field α} {all : List (String × Json)}
    (absent : ∀ m ∈ all, m.1 ≠ f.name) :
    member? f (Json.keyed all) = f.omitted := by
  have none_there : all.filter (·.1 == f.name) = [] := by
    rw [List.filter_eq_nil_iff]
    intro m mem
    simpa using absent m mem
  rw [member?, filter_keyed, none_there]
  rfl

/-- A field that two members name. -/
theorem member?_of_repeated {f : Field α} {all others : List (String × Json)} {v w : Json}
    (order : all.Perm ((f.name, v) :: (f.name, w) :: others)) :
    member? f (Json.keyed all) = none := by
  have many := (order.filter (·.1 == f.name)).length_eq
  rw [List.filter_cons_of_pos (by simp), List.filter_cons_of_pos (by simp)] at many
  rw [member?, filter_keyed]
  generalize all.filter (·.1 == f.name) = named at many
  match named, many with
  | _ :: _ :: _, _ => rfl

/-- A record is refused if two members name one of its fields. -/
theorem ofMembers?_of_repeated {fields : Fields τ} {name : String} (known : name ∈ fields.names)
    {all others : List (String × Json)} {v w : Json}
    (order : all.Perm ((name, v) :: (name, w) :: others)) :
    fields.ofMembers? (Json.keyed all) = none := by
  induction fields with
  | nil => cases known
  | cons f rest ih =>
      rcases List.mem_cons.mp known with rfl | later
      · rw [ofMembers?, member?_of_repeated order]
      · rw [ofMembers?, ih later]
        cases member? f (Json.keyed all) <;> rfl

/-- The fields are read from the members that are kept, in any order and among strangers. -/
theorem Lawful.ofMembers?_of_kept {fields : Fields τ} (lawful : fields.Lawful defaults)
    (apart : fields.names.Nodup) (strict : ∀ name ∈ fields.strict, name ∉ defaults) {t : τ}
    {kept strangers all : List (String × Json)}
    (left : Json.Kept (Json.Respelled defaults) (Json.MayOmit defaults) (fields.members t) kept)
    (strange : ∀ m ∈ strangers, m.1 ∉ fields.names) (order : all.Perm (kept ++ strangers)) :
    fields.ofMembers? (Json.keyed all) = some t := by
  induction lawful generalizing kept strangers with
  | nil => rfl
  | @cons α β f rest here there ih =>
      obtain ⟨a, b⟩ := t
      rw [names, List.nodup_cons] at apart
      obtain ⟨strict_here, strict_there⟩ := strict_cons strict
      have unlike : ∀ m ∈ strangers, m.1 ≠ f.name ∧ m.1 ∉ rest.names := fun m mem =>
        ⟨fun same => strange m mem (same ▸ List.mem_cons_self),
          fun inner => strange m mem (List.mem_cons_of_mem _ inner)⟩
      -- no other member that is kept has the name of this field
      have own : ∀ {kept' : List (String × Json)},
          Json.Kept (Json.Respelled defaults) (Json.MayOmit defaults) (rest.members b) kept' →
          ∀ m ∈ kept', m.1 ≠ f.name := by
        intro kept' left' m mem same
        have inner := left'.names_sublist.subset (List.mem_map_of_mem mem)
        rw [map_fst_members, same] at inner
        exact apart.1 inner
      rw [members] at left
      cases left with
      | @keep _ _ w _ kept' read left' =>
          -- seen from the other fields, the member of this one is a stranger
          have order' : all.Perm (kept' ++ (f.name, w) :: strangers) :=
            order.trans List.perm_middle.symm
          have others : ∀ m ∈ kept' ++ strangers, m.1 ≠ f.name := by
            intro m mem
            rcases List.mem_append.mp mem with kept | stranger
            · exact own left' m kept
            · exact (unlike m stranger).1
          have later : rest.ofMembers? (Json.keyed all) = some b := by
            refine ih apart.2 strict_there left' ?_ order'
            intro m mem
            rcases List.mem_cons.mp mem with rfl | stranger
            · exact apart.1
            · exact (unlike m stranger).2
          rw [ofMembers?, member?_of_perm order others, here.reads a w read, later]
      | leave omitted left' =>
          have others : ∀ m ∈ all, m.1 ≠ f.name := by
            intro m mem
            rcases List.mem_append.mp (order.subset mem) with kept | stranger
            · exact own left' m kept
            · exact (unlike m stranger).1
          have later := ih apart.2 strict_there left' (fun m mem => (unlike m mem).2) order
          rw [ofMembers?, member?_of_absent others, here.omits strict_here a omitted, later]

/-- The fields are read from the array of their values. -/
theorem Lawful.ofItems?_of_forall₂ {fields : Fields τ} (lawful : fields.Lawful defaults) {t : τ}
    {ws : List Json} (each : List.Forall₂ (Json.Respelled defaults) (fields.items t) ws) :
    fields.ofItems? ws = some t := by
  induction lawful generalizing ws with
  | nil =>
      cases each
      rfl
  | cons here there ih =>
      obtain ⟨a, b⟩ := t
      obtain ⟨w, ws, first, later, rfl⟩ := List.forall₂_cons_left_iff.mp each
      rw [ofItems?, here.reads a w first, ih later]

/-- Every member that is written is sound. -/
theorem Lawful.sound {fields : Fields τ} (lawful : fields.Lawful defaults) (t : τ) :
    ∀ m ∈ fields.members t, m.2.Sound := by
  induction lawful with
  | nil => simp [members]
  | cons here there ih =>
      intro m mem
      rcases List.mem_cons.mp mem with rfl | later
      · exact here.sound t.1
      · exact ih t.2 m later

end Fields

/-- An object whose keys have texts is read field by field. -/
theorem Codec.decode?_record (fields : Fields τ) (split : ρ → τ) (build : τ → ρ)
    (members : List (String × Json)) : (record fields split build).decode? (.record members) =
      (fields.ofMembers? (Json.keyed members)).map build := by
  have keyed : (Json.keyed members).all (fun m => m.1.isSome) = true := by simp [Json.keyed]
  show (if (Json.keyed members).all (fun m => m.1.isSome) then
    (fields.ofMembers? (Json.keyed members)).map build else none) = _
  rw [if_pos keyed]

/-- A record is read back if its fields are and have names of their own. -/
theorem Codec.lawful_record {fields : Fields τ} {split : ρ → τ} {build : τ → ρ}
    (lawful : fields.Lawful defaults) (apart : fields.names.Nodup)
    (strict : ∀ name ∈ fields.strict, name ∉ defaults) (back : ∀ r, build (split r) = r) :
    (record fields split build).Lawful defaults where
  reads := by
    intro r doc spelled
    rcases Json.Respelled.of_record spelled with
      ⟨kept, strangers, all, rfl, left, strange, order⟩ | ⟨ws, rfl, each⟩
    · rw [Fields.map_fst_members] at strange
      rw [decode?_record, lawful.ofMembers?_of_kept apart strict left strange order,
        Option.map_some, back]
    · show (fields.ofItems? ws).map build = _
      rw [lawful.ofItems?_of_forall₂ each, Option.map_some, back]
  sound := by
    intro r
    refine .object ?_
    intro m mem
    obtain ⟨own, member, rfl⟩ := List.mem_map.mp mem
    exact lawful.sound (split r) own member
  present := by
    rintro r ⟨⟩

end Overlay

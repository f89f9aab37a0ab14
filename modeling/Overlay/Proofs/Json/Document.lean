import Overlay.Json.Document
import Overlay.Proofs.Json.Tokens

/-!
# Documents read back

The machine takes the tokens of a value from where a value is due to where it is done, whatever
arrays and objects are open around it, and any text of a value scans as its tokens: each token in
any spelling, with blanks wherever they may stand. Both are proved by induction on the value; the
items of an array and the members of an object are taken one by one.

Main statements: `Json.Spelled.parse?`, that every text of a value spells it, and
`Json.Sound.parse?_render` for the text that is written for it. Only a numeral whose parts are no
digits has no text.
-/

namespace Overlay.Json

/-- Every numeral of the document is sound. -/
inductive Sound : Json → Prop where
  | null : Sound .null
  | bool (b : Bool) : Sound (.bool b)
  | number {n : Numeral} (sound : n.Sound) : Sound (.number n)
  | string (s : Option String) : Sound (.string s)
  | array {items : List Json} (all : ∀ v ∈ items, Sound v) : Sound (.array items)
  | object {members : List (Option String × Json)} (all : ∀ m ∈ members, Sound m.2) :
    Sound (.object members)

/-- Induction on a value: on the items of an array, and on the members of an object. -/
theorem of_parts {motive : Json → Prop} (null : motive .null) (bool : ∀ b, motive (.bool b))
    (number : ∀ n, motive (.number n)) (string : ∀ s, motive (.string s))
    (array : ∀ items, (∀ v ∈ items, motive v) → motive (.array items))
    (object : ∀ members, (∀ m ∈ members, motive m.2) → motive (.object members)) :
    ∀ v, motive v
  | .null => null
  | .bool b => bool b
  | .number n => number n
  | .string s => string s
  | .array items =>
    array items fun v _ => of_parts null bool number string array object v
  | .object members =>
    object members fun m _ => of_parts null bool number string array object m.2
termination_by v => sizeOf v
decreasing_by
  · have := List.sizeOf_lt_of_mem ‹v ∈ items›
    simp only [Json.array.sizeOf_spec]
    omega
  · have := List.sizeOf_lt_of_mem ‹m ∈ members›
    obtain ⟨key, v⟩ := m
    simp only [Prod.mk.sizeOf_spec, Json.object.sizeOf_spec] at *
    omega

/-! ## The machine -/

/-- The machine takes the tokens of a value. -/
def Taken (v : Json) : Prop :=
  ∀ (stack : List Frame) (ts : List Token),
    (v.tokens ++ ts).foldlM Position.step (.value stack) = ts.foldlM Position.step (.done v stack)

/-- No value starts with the end of an array. -/
theorem tokens_cons (v : Json) : ∃ t ts, t ≠ .closeBracket ∧ v.tokens = t :: ts := by
  cases v <;> refine ⟨_, _, ?_, rfl⟩ <;> simp

/-- Where the first item of an array or its end is due, an item is taken as an item. -/
theorem foldlM_itemOrClose (v : Json) (items : List Json) (stack : List Frame)
    (ts : List Token) :
    (itemTokens (v :: items) ++ ts).foldlM Position.step (.itemOrClose stack) =
      (itemTokens (v :: items) ++ ts).foldlM Position.step (.value (.array [] :: stack)) := by
  obtain ⟨t, ts', value, shown⟩ := tokens_cons v
  have same : Position.step (.itemOrClose stack) t =
      Position.step (.value (.array [] :: stack)) t := by
    cases t <;> first | rfl | exact absurd rfl value
  have front : ∃ rest, itemTokens (v :: items) = t :: rest := by
    cases items with
    | nil => exact ⟨ts' ++ [.closeBracket], by rw [itemTokens, shown, List.cons_append]⟩
    | cons w items =>
        exact ⟨ts' ++ .comma :: itemTokens (w :: items), by
          rw [itemTokens, shown, List.cons_append]; simp⟩
  obtain ⟨rest, shown⟩ := front
  rw [shown, List.cons_append, List.foldlM_cons, List.foldlM_cons, same]

/-- Where the first key of an object or its end is due, a key is taken as a key. -/
theorem foldlM_keyOrClose (m : Option String × Json) (members : List (Option String × Json))
    (stack : List Frame) (ts : List Token) :
    (memberTokens (m :: members) ++ ts).foldlM Position.step (.keyOrClose stack) =
      (memberTokens (m :: members) ++ ts).foldlM Position.step (.nextKey [] stack) := by
  obtain ⟨key, v⟩ := m
  cases members <;> rfl

/-- The rest of an array, from where an item is due. -/
theorem foldlM_itemTokens {v : Json} {items : List Json} (each : ∀ w ∈ v :: items, Taken w)
    (before : List Json) (stack : List Frame) (ts : List Token) :
    (itemTokens (v :: items) ++ ts).foldlM Position.step (.value (.array before :: stack)) =
      ts.foldlM Position.step (.done (.array (before.reverse ++ v :: items)) stack) := by
  have here := each v List.mem_cons_self
  induction items generalizing v before with
  | nil =>
      have last : before.reverse ++ [v] = (v :: before).reverse := List.reverse_cons.symm
      rw [itemTokens, List.append_assoc, here, last]
      rfl
  | cons w items ih =>
      have next : ∀ u ∈ w :: items, Taken u := fun u mem => each u (List.mem_cons_of_mem _ mem)
      have there := ih next (v :: before) (next w List.mem_cons_self)
      rw [List.reverse_cons, List.append_assoc, List.singleton_append] at there
      rw [itemTokens, List.append_assoc, here]
      · exact there
      · simp

/-- The rest of an object, from where a key is due. -/
theorem foldlM_memberTokens {m : Option String × Json} {members : List (Option String × Json)}
    (each : ∀ w ∈ m :: members, Taken w.2) (before : List (Option String × Json))
    (stack : List Frame) (ts : List Token) :
    (memberTokens (m :: members) ++ ts).foldlM Position.step (.nextKey before stack) =
      ts.foldlM Position.step (.done (.object (before.reverse ++ m :: members)) stack) := by
  have here := each m List.mem_cons_self
  obtain ⟨key, v⟩ := m
  induction members generalizing key v before with
  | nil =>
      have last : before.reverse ++ [(key, v)] = ((key, v) :: before).reverse :=
        List.reverse_cons.symm
      rw [memberTokens, last]
      show (v.tokens ++ [Token.closeBrace] ++ ts).foldlM Position.step
        (.value (.object before key :: stack)) = _
      rw [List.append_assoc, here]
      rfl
  | cons w members ih =>
      have next : ∀ u ∈ w :: members, Taken u.2 :=
        fun u mem => each u (List.mem_cons_of_mem _ mem)
      have there := ih ((key, v) :: before) w.1 w.2 next (next w List.mem_cons_self)
      rw [List.reverse_cons, List.append_assoc, List.singleton_append] at there
      rw [memberTokens]
      · show (v.tokens ++ .comma :: memberTokens (w :: members) ++ ts).foldlM Position.step
          (.value (.object before key :: stack)) = _
        rw [List.append_assoc, here]
        exact there
      · simp

/-- The machine takes any value. -/
theorem taken (v : Json) : Taken v := by
  induction v using of_parts with
  | null => exact fun _ _ => rfl
  | bool b => exact fun _ _ => rfl
  | number n => exact fun _ _ => rfl
  | string s => exact fun _ _ => rfl
  | array items each =>
      intro stack ts
      rw [tokens]
      cases items with
      | nil => rfl
      | cons v items =>
          show (itemTokens (v :: items) ++ ts).foldlM Position.step (.itemOrClose stack) = _
          rw [foldlM_itemOrClose, foldlM_itemTokens each]
          rfl
  | object members each =>
      intro stack ts
      rw [tokens]
      cases members with
      | nil => rfl
      | cons m members =>
          show (memberTokens (m :: members) ++ ts).foldlM Position.step (.keyOrClose stack) = _
          rw [foldlM_keyOrClose, foldlM_memberTokens each]
          rfl

theorem ofTokens?_tokens (v : Json) : ofTokens? v.tokens = some v := by
  have whole := taken v [] []
  rw [List.append_nil] at whole
  rw [ofTokens?, whole]
  rfl

/-! ## Texts -/

/-- The texts of a run of tokens: any text of each, and blanks anywhere around them. -/
inductive Laid : List Token → List Char → Prop where
  | nil : Laid [] []
  | blank {c : Char} {ts : List Token} {cs : List Char} (space : isSpace c = true)
    (rest : Laid ts cs) : Laid ts (c :: cs)
  | token {t : Token} {ts : List Token} {cs ds : List Char} (here : t.Spelled cs)
    (rest : Laid ts ds) : Laid (t :: ts) (cs ++ ds)

/-- A JSON text of a value. -/
def Spelled (v : Json) (s : String) : Prop := Laid v.tokens s.toList

/-- A text of two runs of tokens falls into two. -/
theorem Laid.of_append {ts us : List Token} {cs : List Char} (laid : Laid (ts ++ us) cs) :
    ∃ front back, cs = front ++ back ∧ Laid ts front ∧ Laid us back := by
  generalize both : ts ++ us = all at laid
  induction laid generalizing ts with
  | nil =>
      obtain ⟨rfl, rfl⟩ := List.append_eq_nil_iff.mp both
      exact ⟨[], [], rfl, .nil, .nil⟩
  | @blank c _ _ space _ ih =>
      obtain ⟨front, back, rfl, here, there⟩ := ih both
      exact ⟨c :: front, back, rfl, .blank space here, there⟩
  | @token t _ cs ds here rest ih =>
      cases ts with
      | nil =>
          rw [List.nil_append] at both
          rw [both]
          exact ⟨[], cs ++ ds, rfl, .nil, .token here rest⟩
      | cons t' ts =>
          obtain ⟨rfl, later⟩ := List.cons.inj both
          obtain ⟨front, back, rfl, before, behind⟩ := ih later
          exact ⟨cs ++ front, back, (List.append_assoc ..).symm, .token here before, behind⟩

/-- What is no numeral ends one. -/
theorem Token.Spelled.endsNumeral {t : Token} {cs : List Char} (spelled : t.Spelled cs)
    (other : ∀ n, t ≠ .number n) (ds : List Char) : EndsNumeral (cs ++ ds) := by
  cases spelled with
  | number => exact absurd rfl (other _)
  | bool b =>
      cases b with
      | true => exact endsNumeral_cons (by decide) (by decide) (by decide) (by decide) _
      | false => exact endsNumeral_cons (by decide) (by decide) (by decide) (by decide) _
  | _ => exact endsNumeral_cons (by decide) (by decide) (by decide) (by decide) _

theorem endsNumeral_blank {c : Char} (space : isSpace c = true) (cs : List Char) :
    EndsNumeral (c :: cs) := by
  have blank : ((c = ' ' ∨ c = '\t') ∨ c = '\n') ∨ c = '\r' := by simpa [isSpace] using space
  rcases blank with ((rfl | rfl) | rfl) | rfl <;>
    exact endsNumeral_cons (by decide) (by decide) (by decide) (by decide) _

theorem Laid.endsNumeral {t : Token} {ts : List Token} {cs : List Char} (laid : Laid (t :: ts) cs)
    (other : ∀ n, t ≠ .number n) (ds : List Char) : EndsNumeral (cs ++ ds) := by
  cases laid with
  | blank space => exact endsNumeral_blank space _
  | token here =>
      rw [List.append_assoc]
      exact here.endsNumeral other _

/-- Any text of the tokens scans as the tokens, if what stands behind it ends a numeral. -/
def Scans (ts : List Token) : Prop :=
  ∀ ds cs, Laid ts ds → EndsNumeral cs → scan? (ds ++ cs) = (scan? cs).map (ts ++ ·)

theorem scans_nil : Scans [] := by
  intro ds cs laid _
  generalize no : ([] : List Token) = ts at laid
  induction laid with
  | nil => simp
  | blank space _ ih => rw [List.cons_append, scan?_blank space, ih no]
  | token => cases no

/-- A token may stand in front of what ends it. -/
theorem scans_cons {t : Token} {ts : List Token} (rest : Scans ts)
    (apart : ∀ ds cs, Laid ts ds → EndsNumeral cs → t.Apart (ds ++ cs)) : Scans (t :: ts) := by
  intro ds cs laid ends
  generalize all : t :: ts = us at laid
  induction laid with
  | nil => cases all
  | blank space _ ih => rw [List.cons_append, scan?_blank space, ih all]
  | @token _ _ _ ds here behind _ =>
      cases all
      rw [List.append_assoc, scan?_spelled here (apart ds cs behind ends), rest ds cs behind ends,
        Option.map_map]
      rfl

/-- A token other than a numeral may stand in front of anything. -/
theorem Scans.cons {t : Token} {ts : List Token} (rest : Scans ts) (other : ∀ n, t ≠ .number n) :
    Scans (t :: ts) :=
  scans_cons rest fun _ _ _ _ n same => absurd same (other n)

/-- A token other than a numeral may stand behind anything. -/
theorem Scans.append {ts us : List Token} {t : Token} (front : Scans ts) (rest : Scans us)
    (other : ∀ n, t ≠ .number n) : Scans (ts ++ t :: us) := by
  intro ds cs laid ends
  obtain ⟨before, behind, rfl, here, there⟩ := laid.of_append
  rw [List.append_assoc, front before _ here (there.endsNumeral other cs),
    rest.cons other behind cs there ends, Option.map_map]
  simp [Function.comp_def]

theorem scans_itemTokens {items : List Json} (each : ∀ v ∈ items, Scans v.tokens) :
    Scans (itemTokens items) := by
  induction items with
  | nil => exact scans_nil.cons (by simp)
  | cons v items ih =>
      have here := each v List.mem_cons_self
      have there := ih fun u mem => each u (List.mem_cons_of_mem _ mem)
      cases items with
      | nil => exact here.append scans_nil (by simp)
      | cons w items => exact here.append there (by simp)

theorem scans_memberTokens {members : List (Option String × Json)}
    (each : ∀ m ∈ members, Scans m.2.tokens) : Scans (memberTokens members) := by
  induction members with
  | nil => exact scans_nil.cons (by simp)
  | cons m members ih =>
      have here := each m List.mem_cons_self
      have there := ih fun u mem => each u (List.mem_cons_of_mem _ mem)
      obtain ⟨key, v⟩ := m
      have keyed : ∀ {ts}, Scans ts → Scans (.string key :: .colon :: ts) :=
        fun rest => (rest.cons (by simp)).cons (by simp)
      cases members with
      | nil => exact keyed (here.append scans_nil (by simp))
      | cons w members => exact keyed (here.append there (by simp))

/-- Any text of a value scans as its tokens. -/
theorem scans_tokens (v : Json) : Scans v.tokens := by
  induction v using of_parts with
  | null => exact scans_nil.cons (by simp)
  | bool b => exact scans_nil.cons (by simp)
  | string s => exact scans_nil.cons (by simp)
  | number n =>
      refine scans_cons scans_nil ?_
      -- nothing but blanks stands between the numeral and its end
      intro ds cs laid ends m _
      cases laid with
      | nil => exact ends
      | blank space => exact endsNumeral_blank space _
  | array items each => exact (scans_itemTokens each).cons (by simp)
  | object members each => exact (scans_memberTokens each).cons (by simp)

/-- Every text of a value spells the value. -/
theorem Spelled.parse? {v : Json} {s : String} (spelled : v.Spelled s) : Json.parse? s = some v := by
  have whole := scans_tokens v _ [] spelled (by rintro _ ⟨⟩)
  rw [List.append_nil, scan?, Option.map_some, List.append_nil] at whole
  rw [Json.parse?, ofChars?, whole]
  exact ofTokens?_tokens v

/-! ## The written text -/

/-- What holds of the marks of an array and of every token of its items holds of all its tokens. -/
theorem forall_itemTokens {p : Token → Prop} (close : p .closeBracket) (comma : p .comma)
    {items : List Json} (each : ∀ v ∈ items, ∀ t ∈ v.tokens, p t) : ∀ t ∈ itemTokens items, p t := by
  induction items with
  | nil => simpa [itemTokens] using close
  | cons v items ih =>
      have here := each v List.mem_cons_self
      have there := ih fun u mem => each u (List.mem_cons_of_mem _ mem)
      cases items with
      | nil => simpa [itemTokens, or_imp, forall_and] using ⟨here, close⟩
      | cons w items => simpa [itemTokens, or_imp, forall_and] using ⟨here, comma, there⟩

theorem forall_memberTokens {p : Token → Prop} (close : p .closeBrace) (comma : p .comma)
    (colon : p .colon) (key : ∀ s, p (.string s)) {members : List (Option String × Json)}
    (each : ∀ m ∈ members, ∀ t ∈ m.2.tokens, p t) : ∀ t ∈ memberTokens members, p t := by
  induction members with
  | nil => simpa [memberTokens] using close
  | cons m members ih =>
      have here := each m List.mem_cons_self
      have there := ih fun u mem => each u (List.mem_cons_of_mem _ mem)
      obtain ⟨name, v⟩ := m
      cases members with
      | nil =>
          simpa [memberTokens, or_imp, forall_and] using ⟨key name, colon, here, close⟩
      | cons w members =>
          simpa [memberTokens, or_imp, forall_and] using ⟨key name, colon, here, comma, there⟩

theorem Sound.spelled_tokens {v : Json} (sound : Sound v) : ∀ t ∈ v.tokens, t.Spelled t.chars := by
  induction sound with
  | null => simpa [tokens] using spelled_chars (by simp)
  | bool b => cases b <;> simpa [tokens] using spelled_chars (by simp)
  | number sound => simpa [tokens] using spelled_chars (by rintro _ ⟨⟩; exact sound)
  | string s => simpa [tokens] using spelled_chars (by simp)
  | array _ each =>
      rw [tokens, List.forall_mem_cons]
      exact ⟨.openBracket, forall_itemTokens .closeBracket .comma each⟩
  | object _ each =>
      rw [tokens, List.forall_mem_cons]
      exact ⟨.openBrace, forall_memberTokens .closeBrace .comma .colon
        (fun s => spelled_chars (by simp)) each⟩

theorem laid_chars {ts : List Token} (spelled : ∀ t ∈ ts, t.Spelled t.chars) :
    Laid ts (ts.flatMap Token.chars) := by
  induction ts with
  | nil => exact .nil
  | cons t ts ih =>
      rw [List.forall_mem_cons] at spelled
      exact .token spelled.1 (ih spelled.2)

theorem Sound.spelled_render {v : Json} (sound : Sound v) : v.Spelled v.render := by
  rw [Spelled, render, String.toList_ofList]
  exact laid_chars sound.spelled_tokens

/-- The text of a sound document spells the document. -/
theorem Sound.parse?_render {v : Json} (sound : Sound v) : parse? v.render = some v :=
  sound.spelled_render.parse?

end Overlay.Json

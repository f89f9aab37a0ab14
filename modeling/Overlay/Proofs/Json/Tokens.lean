import Overlay.Json.Token
import Overlay.Proofs.Text.Numerals

/-!
# Tokens read back

Which texts a token may have, whoever wrote it, and that each of them scans as the token. A numeral
is written part by part, with an `e` of either case in front of its exponent. Inside a string any
character may be escaped, some of them shortly; the token that `Token.chars` writes is one spelling
of many.

Only a numeral can run into what stands behind it: it goes on as long as there are digits, a point
or an exponent.

Main statements: `scan?_spelled`, from `numeral?_chars` and `pieces?_literal`, and `spelled_chars`.
-/

namespace Overlay

/-- The parts of a numeral hold what they are for: digits behind the point, and a sign, perhaps,
and digits in the exponent. -/
structure Numeral.Sound (n : Numeral) : Prop where
  fraction : ∀ c ∈ n.fraction, c.isDigit = true
  exponent : n.exponent = [] ∨ ∃ sign digits, n.exponent = sign ++ digits ∧
    (sign = [] ∨ sign = ['+'] ∨ sign = ['-']) ∧ digits ≠ [] ∧ ∀ c ∈ digits, c.isDigit = true

/-- A natural number is a sound numeral. -/
theorem Numeral.sound_ofNat (n : Nat) : (ofNat n).Sound :=
  ⟨fun _ mem => absurd mem List.not_mem_nil, Or.inl rfl⟩

/-- The text of a numeral, with `e` in front of its exponent. -/
def Numeral.chars (n : Numeral) (e : Char) : List Char :=
  (if n.negative then ['-'] else []) ++ Text.decimal n.whole ++
    (if n.fraction.isEmpty then [] else '.' :: n.fraction) ++
    (if n.exponent.isEmpty then [] else e :: n.exponent)

namespace Json

/-! ## Numbers -/

/-- A run of digits ends before the text. -/
def EndsDigits (cs : List Char) : Prop := ∀ c ∈ cs.head?, c.isDigit = false

/-- A numeral ends before the text. -/
def EndsNumeral (cs : List Char) : Prop :=
  ∀ c ∈ cs.head?, c.isDigit = false ∧ c ≠ '.' ∧ c ≠ 'e' ∧ c ≠ 'E'

/-- A character that no numeral goes on with ends it. -/
theorem endsNumeral_cons {c : Char} (digit : c.isDigit = false) (point : c ≠ '.') (lower : c ≠ 'e')
    (upper : c ≠ 'E') (cs : List Char) : EndsNumeral (c :: cs) := by
  rintro _ ⟨⟩
  exact ⟨digit, point, lower, upper⟩

/-- A character that is no digit ends a run of digits. -/
theorem endsDigits_cons {c : Char} (digit : c.isDigit = false) (cs : List Char) :
    EndsDigits (c :: cs) := by
  rintro _ ⟨⟩
  exact digit

/-- What ends a numeral ends a run of digits. -/
theorem EndsNumeral.endsDigits {cs : List Char} (h : EndsNumeral cs) : EndsDigits cs :=
  fun c hc => (h c hc).1

/-- The letter may stand in front of an exponent. -/
def StartsExponent (e : Char) : Prop := e = 'e' ∨ e = 'E'

variable {ds rest : List Char} {e : Char}

/-- A run of digits is taken up to its end. -/
theorem takeWhile_digits (digits : ∀ c ∈ ds, c.isDigit = true) (ends : EndsDigits rest) :
    (ds ++ rest).takeWhile Char.isDigit = ds := by
  rw [List.takeWhile_append_of_pos digits]
  cases rest with
  | nil => simp
  | cons c rest => rw [List.takeWhile_cons, ends c rfl]; simp

/-- What is left behind a run of digits is what stood there. -/
theorem dropWhile_digits (digits : ∀ c ∈ ds, c.isDigit = true) (ends : EndsDigits rest) :
    (ds ++ rest).dropWhile Char.isDigit = rest := by
  rw [List.dropWhile_append_of_pos digits]
  cases rest with
  | nil => rfl
  | cons c rest => rw [List.dropWhile_cons, ends c rfl]; rfl

/-- A minus sign is read if there is one. -/
theorem minus_chars (negative : Bool) {cs : List Char} (front : cs.head? ≠ some '-') :
    minus ((if negative then ['-'] else []) ++ cs) = (negative, cs) := by
  cases negative with
  | true => rfl
  | false =>
      show minus cs = (false, cs)
      rw [minus]
      rintro _ rfl
      exact front rfl

/-- The whole part of a numeral is read up to its end. -/
theorem whole?_decimal (n : Nat) (ends : EndsDigits rest) :
    whole? (Text.decimal n ++ rest) = some (n, rest) := by
  rcases Nat.eq_zero_or_pos n with rfl | pos
  · rfl
  · have digits : ∀ c ∈ Text.decimal n, c.isDigit = true := fun _ => Text.isDigit_of_mem_decimal
    have front := Text.head?_decimal pos
    obtain ⟨d, ds, _, shown⟩ := Text.decimal_cons n
    rw [whole?, takeWhile_digits digits ends, dropWhile_digits digits ends, Text.ofDecimal_decimal]
    · rw [shown]
      rfl
    · intro rest' zero
      rw [shown] at front
      rw [shown, List.cons_append] at zero
      exact front (congrArg some (List.cons.inj zero).1)

/-- The digits behind the point are read, if there is a point. -/
theorem fraction?_chars {fraction : List Char} (digits : ∀ c ∈ fraction, c.isDigit = true)
    (ends : EndsDigits rest) (point : rest.head? ≠ some '.') :
    fraction? ((if fraction.isEmpty then [] else '.' :: fraction) ++ rest) =
      some (fraction, rest) := by
  cases fraction with
  | nil =>
      show fraction? rest = _
      rw [fraction?]
      rintro _ rfl
      exact point rfl
  | cons c fraction =>
      show fraction? ('.' :: (c :: fraction ++ rest)) = _
      rw [fraction?, takeWhile_digits digits ends, dropWhile_digits digits ends]
      rfl

/-- The digits of an exponent are read behind its sign. -/
theorem exponentDigits?_append (sign : List Char) (some_digits : ds ≠ [])
    (digits : ∀ c ∈ ds, c.isDigit = true) (ends : EndsDigits rest) :
    exponentDigits? sign (ds ++ rest) = some (sign ++ ds, rest) := by
  rw [exponentDigits?, takeWhile_digits digits ends, dropWhile_digits digits ends]
  exact if_neg (by simpa using some_digits)

/-- An exponent whose digits follow at once. -/
theorem exponent?_unsigned (start : StartsExponent e) {d : Char} (digit : d.isDigit = true)
    (cs : List Char) : exponent? (e :: d :: cs) = exponentDigits? [] (d :: cs) := by
  have plus : d ≠ '+' := by rintro rfl; cases digit
  have minus : d ≠ '-' := by rintro rfl; cases digit
  rcases start with rfl | rfl <;> simp [exponent?, plus, minus]

/-- An exponent with a sign. -/
theorem exponent?_signed (start : StartsExponent e) {sign : Char} (signs : sign = '+' ∨ sign = '-')
    (cs : List Char) : exponent? (e :: sign :: cs) = exponentDigits? [sign] cs := by
  rcases start with rfl | rfl <;> rcases signs with rfl | rfl <;> rfl

/-- An exponent is read, with either letter in front, if there is one. -/
theorem exponent?_chars {n : Numeral} (sound : n.Sound) (start : StartsExponent e)
    (ends : EndsNumeral rest) :
    exponent? ((if n.exponent.isEmpty then [] else e :: n.exponent) ++ rest) =
      some (n.exponent, rest) := by
  rcases sound.exponent with none_there | ⟨sign, ds, parts, signs, some_digits, digits⟩
  · rw [none_there]
    show exponent? rest = _
    cases rest with
    | nil => rfl
    | cons c rest =>
        obtain ⟨_, _, lower, upper⟩ := ends c rfl
        simp [exponent?, lower, upper]
  · have shown : n.exponent.isEmpty = false := by
      rw [List.isEmpty_eq_false_iff, parts]
      simp [some_digits]
    have read := fun sign => exponentDigits?_append sign some_digits digits ends.endsDigits
    rw [shown, parts]
    show exponent? (e :: (sign ++ ds ++ rest)) = _
    rcases signs with rfl | rfl | rfl
    · obtain ⟨d, ds, rfl⟩ := List.exists_cons_of_ne_nil some_digits
      rw [List.nil_append, List.cons_append, exponent?_unsigned start (digits d List.mem_cons_self)]
      exact read []
    · exact (exponent?_signed start (Or.inl rfl) _).trans (read ['+'])
    · exact (exponent?_signed start (Or.inr rfl) _).trans (read ['-'])

/-- What may stand behind the whole part ends it. -/
theorem endsDigits_parts {fraction exponent : List Char} (start : StartsExponent e)
    (ends : EndsDigits rest) :
    EndsDigits ((if fraction.isEmpty then [] else '.' :: fraction) ++
      ((if exponent.isEmpty then [] else e :: exponent) ++ rest)) := by
  cases fraction with
  | nil =>
      cases exponent with
      | nil => exact ends
      | cons c exponent => rcases start with rfl | rfl <;> exact endsDigits_cons (by decide) _
  | cons c fraction => exact endsDigits_cons (by decide) _

/-- A numeral starts with nothing but a digit. -/
theorem head?_decimal_append {n : Nat} {cs : List Char} {c : Char} (other : c.isDigit = false) :
    (Text.decimal n ++ cs).head? ≠ some c := by
  intro front
  obtain ⟨d, ds, digit, shown⟩ := Text.decimal_cons n
  rw [shown, List.cons_append, List.head?_cons, Option.some.injEq] at front
  rw [front, other] at digit
  cases digit

/-- A numeral is read part by part. -/
theorem numeral?_of_parts {cs behindWhole behindFraction : List Char} {n : Numeral}
    (sign : (minus cs).1 = n.negative) (whole : whole? (minus cs).2 = some (n.whole, behindWhole))
    (fraction : fraction? behindWhole = some (n.fraction, behindFraction))
    (exponent : exponent? behindFraction = some (n.exponent, rest)) :
    numeral? cs = some (n, rest) := by
  simp only [numeral?, bind, Option.bind, whole, fraction, exponent, sign]

/-- A sound numeral is read up to its end, with either letter in front of its exponent. -/
theorem numeral?_chars {n : Numeral} (sound : n.Sound) (start : StartsExponent e)
    (ends : EndsNumeral rest) : numeral? (n.chars e ++ rest) = some (n, rest) := by
  have point : ((if n.exponent.isEmpty then [] else e :: n.exponent) ++ rest).head? ≠
      some '.' := by
    cases n.exponent with
    | nil => exact fun point => (ends '.' point).2.1 rfl
    | cons c exponent => rcases start with rfl | rfl <;> simp
  have behind : EndsDigits ((if n.exponent.isEmpty then [] else e :: n.exponent) ++ rest) :=
    @endsDigits_parts rest e [] n.exponent start ends.endsDigits
  have sign := fun cs => minus_chars n.negative
    (@head?_decimal_append n.whole cs '-' (by decide))
  simp only [Numeral.chars, List.append_assoc]
  refine numeral?_of_parts ?_ ?_ (fraction?_chars sound.fraction behind point)
    (exponent?_chars sound start ends)
  · rw [sign]
  · rw [sign]
    exact whole?_decimal n.whole (endsDigits_parts start ends.endsDigits)

/-! ## Strings -/

/-- The texts of a piece of a string literal: a character as it is, unless it is a quote, a
backslash or a control character, a character behind a backslash, or the four digits of a
sixteen-bit unit. -/
inductive Piece.Spelled : Piece → List Char → Prop where
  | plain {c : Char} (quote : c ≠ '"') (backslash : c ≠ '\\') (control : ¬ c.toNat < 0x20) :
    Spelled (.char c) [c]
  | short {c letter : Char} (names : escaped? letter = some c) : Spelled (.char c) ['\\', letter]
  | unit {w x y z : Char} {unit : Nat} (digits : Text.hex? [w, x, y, z] = some unit) :
    Spelled (.ofUnit unit) ['\\', 'u', w, x, y, z]

/-- The texts of a run of pieces. -/
inductive Literal : List Piece → List Char → Prop where
  | nil : Literal [] []
  | cons {p : Piece} {ps : List Piece} {cs body : List Char} (here : p.Spelled cs)
    (rest : Literal ps body) : Literal (p :: ps) (cs ++ body)

/-- Any text of a piece is read as the piece. -/
theorem pieces?_spelled {p : Piece} {cs : List Char} (spelled : p.Spelled cs) (rest : List Char) :
    pieces? (cs ++ rest) = (pieces? rest).map fun read => (p :: read.1, read.2) := by
  cases spelled with
  | @plain c quote backslash control =>
      have kept : (decide (c.toNat < 0x20) || c == '\\') = false := by simp [control, backslash]
      rw [List.singleton_append, pieces?, kept]
      · cases pieces? rest <;> rfl
      · exact quote
      · intro _ _ _ _ _ same _
        exact backslash same
      · intro _ _ same _
        exact backslash same
  | @short c letter names =>
      show pieces? ('\\' :: letter :: rest) = _
      rw [pieces?, names]
      · cases pieces? rest <;> rfl
      · -- the letter that starts an escape of four digits names no character
        rintro _ _ _ _ _ rfl _
        cases names
  | @unit w x y z unit digits =>
      show pieces? ('\\' :: 'u' :: w :: x :: y :: z :: rest) = _
      rw [pieces?, digits]
      cases pieces? rest <;> rfl

/-- A string literal is read up to its closing quote. -/
theorem pieces?_literal {ps : List Piece} {body : List Char} (literal : Literal ps body)
    (rest : List Char) : pieces? (body ++ '"' :: rest) = some (ps, rest) := by
  induction literal with
  | nil => rfl
  | cons here _ ih =>
      rw [List.append_assoc, pieces?_spelled here, ih]
      rfl

/-- A short escape stands for the character that is written so. -/
theorem escaped?_shortEscape {c e : Char} (short : shortEscape? c = some e) :
    escaped? e = some c := by
  unfold shortEscape? at short
  split at short
  all_goals cases short
  all_goals rfl

/-- Some characters have an escape of two characters. -/
theorem charText_short {c e : Char} (short : shortEscape? c = some e) :
    charText c = ['\\', e] := by
  rw [charText, short]

/-- Any other control character is written as an escape of four digits. -/
theorem charText_control {c : Char} (long : shortEscape? c = none) (control : c.toNat < 0x20) :
    ∃ w x y z, charText c = ['\\', 'u', w, x, y, z] ∧ Text.hex? [w, x, y, z] = some c.toNat := by
  have short : (Text.hex c.toNat).length ≤ 2 := Text.length_hex_le (by decide) (by omega)
  have four : ((Text.hex c.toNat).leftpad 4 '0').length = 4 := by
    rw [List.length_leftpad]
    omega
  have read := Text.hex?_leftpad 4 c.toNat
  rw [charText, long]
  dsimp only
  rw [if_pos control]
  generalize (Text.hex c.toNat).leftpad 4 '0' = ds at four read ⊢
  rcases ds with _ | ⟨w, _ | ⟨x, _ | ⟨y, _ | ⟨z, _ | ⟨_, _⟩⟩⟩⟩⟩ <;> simp at four
  exact ⟨w, x, y, z, rfl, read⟩

/-- Most characters stand for themselves. -/
theorem charText_plain {c : Char} (long : shortEscape? c = none) (control : ¬ c.toNat < 0x20) :
    charText c = [c] := by
  rw [charText, long]
  exact if_neg control

/-- A character that is no half of a surrogate pair stands for itself. -/
theorem Piece.ofUnit_control {c : Char} (control : c.toNat < 0x20) :
    Piece.ofUnit c.toNat = .char c := by
  have high : isHigh c.toNat = false := by
    rw [isHigh, Bool.and_eq_false_iff, decide_eq_false_iff_not]
    exact Or.inl (by omega)
  have low : isLow c.toNat = false := by
    rw [isLow, Bool.and_eq_false_iff, decide_eq_false_iff_not]
    exact Or.inl (by omega)
  rw [Piece.ofUnit, high, low, Char.ofNat_toNat]
  rfl

/-- A written character is a text of itself. -/
theorem spelled_charText (c : Char) : Piece.Spelled (.char c) (charText c) := by
  cases short : shortEscape? c with
  | some letter =>
      rw [charText_short short]
      exact .short (escaped?_shortEscape short)
  | none =>
      by_cases control : c.toNat < 0x20
      · obtain ⟨w, x, y, z, escape, read⟩ := charText_control short control
        rw [escape, ← Piece.ofUnit_control control]
        exact .unit read
      · rw [charText_plain short control]
        refine .plain ?_ ?_ control
        · rintro rfl
          cases short
        · rintro rfl
          cases short

/-- The text of characters is a literal of them. -/
theorem literal_flatMap_charText (cs : List Char) : Literal (cs.map .char) (cs.flatMap charText) := by
  induction cs with
  | nil => exact .nil
  | cons c cs ih => exact .cons (spelled_charText c) ih

/-- Characters are joined as they are. -/
theorem joinPieces?_chars (cs : List Char) : joinPieces? (cs.map .char) = some cs := by
  induction cs with
  | nil => rfl
  | cons c cs ih => rw [List.map_cons, joinPieces?, ih, Option.map_some]

/-! ## Any token -/

/-- The texts of a token. A string with half of a surrogate pair in it has no text of its own. -/
inductive Token.Spelled : Token → List Char → Prop where
  | openBrace : Spelled .openBrace ['{']
  | closeBrace : Spelled .closeBrace ['}']
  | openBracket : Spelled .openBracket ['[']
  | closeBracket : Spelled .closeBracket [']']
  | colon : Spelled .colon [':']
  | comma : Spelled .comma [',']
  | null : Spelled .null "null".toList
  | bool (b : Bool) : Spelled (.bool b) (if b then "true" else "false").toList
  | number {n : Numeral} {e : Char} (sound : n.Sound) (start : StartsExponent e) :
    Spelled (.number n) (n.chars e)
  | string {ps : List Piece} {body : List Char} (literal : Literal ps body) :
    Spelled (.string ((joinPieces? ps).map String.ofList)) ('"' :: (body ++ ['"']))

/-- The token can be told from what stands behind it: a numeral has ended. -/
def Token.Apart (t : Token) (rest : List Char) : Prop := ∀ n, t = .number n → EndsNumeral rest

/-- Where a sign or a digit stands, a number starts. -/
theorem token?_numeral {c : Char} (front : c = '-' ∨ c.isDigit = true) (cs : List Char) :
    token? (c :: cs) = (numeral? (c :: cs)).map fun read => (.number read.1, read.2) := by
  rcases front with rfl | digit
  · rfl
  · rw [token?]
    all_goals
      rintro _ ⟨⟩
      cases digit

/-- A numeral starts with a sign or a digit. -/
theorem chars_numeral_cons (n : Numeral) (e : Char) :
    ∃ c cs, (c = '-' ∨ c.isDigit = true) ∧ n.chars e = c :: cs := by
  obtain ⟨d, ds, digit, shown⟩ := Text.decimal_cons n.whole
  rw [Numeral.chars, shown]
  cases n.negative with
  | true => exact ⟨'-', _, Or.inl rfl, rfl⟩
  | false => exact ⟨d, _, Or.inr digit, rfl⟩

/-- Scanning goes on behind a token. -/
theorem scan?_cons {c : Char} {cs rest : List Char} {t : Token} (solid : isSpace c = false)
    (read : token? (c :: cs) = some (t, rest)) :
    scan? (c :: cs) = (scan? rest).map (t :: ·) := by
  rw [scan?, if_neg (by simp [solid])]
  split
  · next refused => rw [read] at refused; cases refused
  · next t' rest' same =>
    rw [read] at same
    cases same
    rfl

/-- A blank is passed over. -/
theorem scan?_blank {c : Char} (blank : isSpace c = true) (cs : List Char) :
    scan? (c :: cs) = scan? cs := by
  rw [scan?, if_pos blank]

/-- A numeral does not start with a space. -/
theorem isSpace_of_front {c : Char} (front : c = '-' ∨ c.isDigit = true) : isSpace c = false := by
  rcases front with rfl | digit
  · decide
  · have other : ∀ {x : Char}, x.isDigit = false → (c == x) = false := by
      intro x hx
      rw [beq_eq_false_iff_ne]
      rintro rfl
      rw [digit] at hx
      cases hx
    rw [isSpace, other (by decide), other (by decide), other (by decide), other (by decide)]
    rfl

/-- Any text of a token scans as the token. -/
theorem scan?_spelled {t : Token} {cs rest : List Char} (spelled : t.Spelled cs)
    (apart : t.Apart rest) : scan? (cs ++ rest) = (scan? rest).map (t :: ·) := by
  cases spelled with
  | openBrace => exact scan?_cons rfl rfl
  | closeBrace => exact scan?_cons rfl rfl
  | openBracket => exact scan?_cons rfl rfl
  | closeBracket => exact scan?_cons rfl rfl
  | colon => exact scan?_cons rfl rfl
  | comma => exact scan?_cons rfl rfl
  | null => exact scan?_cons rfl rfl
  | bool b =>
      cases b with
      | true => exact scan?_cons rfl rfl
      | false => exact scan?_cons rfl rfl
  | @number n e sound start =>
      obtain ⟨c, cs, front, shown⟩ := chars_numeral_cons n e
      have read := numeral?_chars sound start (apart n rfl)
      rw [shown, List.cons_append] at read ⊢
      refine scan?_cons (isSpace_of_front front) ?_
      rw [token?_numeral front, read, Option.map_some]
  | @string ps body literal =>
      show scan? ('"' :: (body ++ ['"'] ++ rest)) = _
      rw [List.append_assoc]
      refine scan?_cons rfl ?_
      show (pieces? (body ++ '"' :: rest)).map _ = _
      rw [pieces?_literal literal, Option.map_some]

/-- A token is written as one of its texts. -/
theorem spelled_chars {t : Token} (sound : ∀ n, t = .number n → n.Sound) : t.Spelled t.chars := by
  cases t with
  | openBrace => exact .openBrace
  | closeBrace => exact .closeBrace
  | openBracket => exact .openBracket
  | closeBracket => exact .closeBracket
  | colon => exact .colon
  | comma => exact .comma
  | null => exact .null
  | bool b =>
      cases b with
      | true => exact .bool true
      | false => exact .bool false
  | number n => exact .number (sound n rfl) (Or.inl rfl)
  | string s =>
      cases s with
      | none => exact .string (.cons (@Piece.Spelled.unit 'd' '8' '0' '0' 0xD800 rfl) .nil)
      | some s =>
          have text : (joinPieces? (s.toList.map .char)).map String.ofList = some s := by
            rw [joinPieces?_chars, Option.map_some, String.ofList_toList]
          have spelled := Token.Spelled.string (literal_flatMap_charText s.toList)
          rw [text] at spelled
          exact spelled

end Json

end Overlay

import Overlay.Json.Basic
import Overlay.Text.Decimal

/-!
# Tokens of JSON text

The lexical level: which runs of characters make a token, and which text a token is written as.
Between tokens stand only blanks, tabs, carriage returns and line feeds. What a token is worth does
not depend on its neighbours; that two values need a comma between them is for `Json.Document`.
-/

namespace Overlay.Json

/-- A token of JSON text. -/
inductive Token where
  | openBrace
  | closeBrace
  | openBracket
  | closeBracket
  | colon
  | comma
  | null
  | bool (b : Bool)
  | number (n : Numeral)
  | string (text : Option String)
  deriving DecidableEq, Repr

/-! ## Numbers -/

/-- The whole part: a lone zero, or digits that do not start with one. -/
def whole? (cs : List Char) : Option (Nat × List Char) :=
  match cs with
  | '0' :: rest => some (0, rest)
  | _ =>
    let digits := cs.takeWhile Char.isDigit
    if digits.isEmpty then none else some (Text.ofDecimal digits, cs.dropWhile Char.isDigit)

/-- The digits behind a point, at least one if the point is there. -/
def fraction? (cs : List Char) : Option (List Char × List Char) :=
  match cs with
  | '.' :: rest =>
    let digits := rest.takeWhile Char.isDigit
    if digits.isEmpty then none else some (digits, rest.dropWhile Char.isDigit)
  | _ => some ([], cs)

/-- The digits of an exponent behind its sign, at least one. -/
def exponentDigits? (sign cs : List Char) : Option (List Char × List Char) :=
  let digits := cs.takeWhile Char.isDigit
  if digits.isEmpty then none else some (sign ++ digits, cs.dropWhile Char.isDigit)

/-- The sign and digits behind an `e`, in either case. -/
def exponent? (cs : List Char) : Option (List Char × List Char) :=
  match cs with
  | e :: rest =>
    if e = 'e' || e = 'E' then
      match rest with
      | '+' :: digits => exponentDigits? ['+'] digits
      | '-' :: digits => exponentDigits? ['-'] digits
      | digits => exponentDigits? [] digits
    else some ([], cs)
  | [] => some ([], cs)

/-- Whether there is a minus, and what follows it. -/
def minus (cs : List Char) : Bool × List Char :=
  match cs with
  | '-' :: rest => (true, rest)
  | _ => (false, cs)

/-- A number at the front of a text. -/
def numeral? (cs : List Char) : Option (Numeral × List Char) := do
  let (negative, cs) := minus cs
  let (whole, cs) ← whole? cs
  let (fraction, cs) ← fraction? cs
  let (exponent, cs) ← exponent? cs
  some (⟨negative, whole, fraction, exponent⟩, cs)

/-! ## Strings -/

/-- A piece of a string literal: a character, or a surrogate that was written as an escape. -/
inductive Piece where
  | char (c : Char)
  | half (unit : Nat)
  deriving DecidableEq, Repr

/-- Whether a sixteen-bit unit starts a surrogate pair. -/
def isHigh (unit : Nat) : Bool := 0xD800 ≤ unit && unit < 0xDC00

/-- Whether a sixteen-bit unit ends a surrogate pair. -/
def isLow (unit : Nat) : Bool := 0xDC00 ≤ unit && unit < 0xE000

/-- The piece that a sixteen-bit unit stands for. -/
def Piece.ofUnit (unit : Nat) : Piece :=
  if isHigh unit || isLow unit then .half unit else .char (Char.ofNat unit)

/-- The character that a short escape names. -/
def escaped? : Char → Option Char
  | '"' => some '"'
  | '\\' => some '\\'
  | '/' => some '/'
  | 'b' => some '\x08'
  | 'f' => some '\x0c'
  | 'n' => some '\n'
  | 'r' => some '\r'
  | 't' => some '\t'
  | _ => none

/-- The pieces up to the closing quote, and what follows it. Control characters are not allowed
inside a string. -/
def pieces? : List Char → Option (List Piece × List Char)
  | [] => none
  | '"' :: rest => some ([], rest)
  | '\\' :: 'u' :: a :: b :: c :: d :: rest => do
    let unit ← Text.hex? [a, b, c, d]
    let (pieces, rest) ← pieces? rest
    some (.ofUnit unit :: pieces, rest)
  | '\\' :: e :: rest => do
    let c ← escaped? e
    let (pieces, rest) ← pieces? rest
    some (.char c :: pieces, rest)
  | c :: rest =>
    if c.toNat < 0x20 || c == '\\' then none
    else do
      let (pieces, rest) ← pieces? rest
      some (.char c :: pieces, rest)

/-- The characters of a string, if every surrogate has its other half next to it. -/
def joinPieces? : List Piece → Option (List Char)
  | [] => some []
  | .char c :: rest => (joinPieces? rest).map (c :: ·)
  | .half high :: .half low :: rest =>
    if isHigh high && isLow low then
      (joinPieces? rest).map
        (Char.ofNat (0x10000 + (high - 0xD800) * 0x400 + (low - 0xDC00)) :: ·)
    else none
  | .half _ :: _ => none

/-! ## Scanning -/

/-- Whether the character may stand between tokens. -/
def isSpace (c : Char) : Bool := c == ' ' || c == '\t' || c == '\n' || c == '\r'

/-- The token at the front of a text, and what follows it. -/
def token? : List Char → Option (Token × List Char)
  | '{' :: rest => some (.openBrace, rest)
  | '}' :: rest => some (.closeBrace, rest)
  | '[' :: rest => some (.openBracket, rest)
  | ']' :: rest => some (.closeBracket, rest)
  | ':' :: rest => some (.colon, rest)
  | ',' :: rest => some (.comma, rest)
  | 'n' :: 'u' :: 'l' :: 'l' :: rest => some (.null, rest)
  | 't' :: 'r' :: 'u' :: 'e' :: rest => some (.bool true, rest)
  | 'f' :: 'a' :: 'l' :: 's' :: 'e' :: rest => some (.bool false, rest)
  | '"' :: rest => (pieces? rest).map fun (pieces, rest) =>
      (.string ((joinPieces? pieces).map String.ofList), rest)
  | cs => (numeral? cs).map fun (n, rest) => (.number n, rest)

/-! A token takes at least one character, so a text has an end. -/

theorem length_lt_of_whole? {cs rest : List Char} {n : Nat} (h : whole? cs = some (n, rest)) :
    rest.length < cs.length := by
  unfold whole? at h
  split at h
  · simp only [Option.some.injEq, Prod.mk.injEq] at h
    rw [← h.2]
    exact Nat.lt_succ_self _
  · dsimp only at h
    split at h
    · cases h
    · next digits =>
      simp only [Option.some.injEq, Prod.mk.injEq] at h
      rw [← h.2]
      have total : (cs.takeWhile Char.isDigit ++ cs.dropWhile Char.isDigit).length = cs.length :=
        congrArg List.length List.takeWhile_append_dropWhile
      rw [List.length_append] at total
      have := List.length_pos_iff.mpr (fun e => digits (List.isEmpty_iff.mpr e))
      omega

theorem length_le_of_fraction? {cs rest ds : List Char} (h : fraction? cs = some (ds, rest)) :
    rest.length ≤ cs.length := by
  unfold fraction? at h
  split at h
  · dsimp only at h
    split at h
    · cases h
    · simp only [Option.some.injEq, Prod.mk.injEq] at h
      rw [← h.2]
      exact Nat.le_succ_of_le (List.dropWhile_suffix _).length_le
  · simp only [Option.some.injEq, Prod.mk.injEq] at h
    exact Nat.le_of_eq (congrArg List.length h.2.symm)

theorem length_le_of_exponentDigits? {sign cs rest ds : List Char}
    (h : exponentDigits? sign cs = some (ds, rest)) : rest.length ≤ cs.length := by
  unfold exponentDigits? at h
  dsimp only at h
  split at h
  · cases h
  · simp only [Option.some.injEq, Prod.mk.injEq] at h
    rw [← h.2]
    exact (List.dropWhile_suffix _).length_le

theorem length_le_of_exponent? {cs rest ds : List Char} (h : exponent? cs = some (ds, rest)) :
    rest.length ≤ cs.length := by
  unfold exponent? at h
  split at h
  · split at h
    · split at h
      · exact Nat.le_succ_of_le (Nat.le_succ_of_le (length_le_of_exponentDigits? h))
      · exact Nat.le_succ_of_le (Nat.le_succ_of_le (length_le_of_exponentDigits? h))
      · exact Nat.le_succ_of_le (length_le_of_exponentDigits? h)
    · simp only [Option.some.injEq, Prod.mk.injEq] at h
      exact Nat.le_of_eq (congrArg List.length h.2.symm)
  · simp only [Option.some.injEq, Prod.mk.injEq] at h
    exact Nat.le_of_eq (congrArg List.length h.2.symm)

theorem length_minus_le (cs : List Char) : (minus cs).2.length ≤ cs.length := by
  unfold minus
  split
  · exact Nat.le_succ _
  · exact Nat.le_refl _

theorem length_lt_of_numeral? {cs rest : List Char} {n : Numeral}
    (h : numeral? cs = some (n, rest)) : rest.length < cs.length := by
  simp only [numeral?, bind, Option.bind_eq_some_iff, Prod.exists, Option.some.injEq,
    Prod.mk.injEq] at h
  obtain ⟨_, afterWhole, whole, _, afterFraction, fraction, _, _, exponent, _, rfl⟩ := h
  calc _ ≤ afterFraction.length := length_le_of_exponent? exponent
    _ ≤ afterWhole.length := length_le_of_fraction? fraction
    _ < (minus cs).2.length := length_lt_of_whole? whole
    _ ≤ cs.length := length_minus_le cs

theorem length_lt_of_pieces? {cs rest : List Char} {ps : List Piece}
    (h : pieces? cs = some (ps, rest)) : rest.length < cs.length := by
  fun_induction pieces? cs generalizing ps rest with
  | case1 => cases h
  | case2 rest' =>
    simp only [Option.some.injEq, Prod.mk.injEq] at h
    rw [← h.2]
    exact Nat.lt_succ_self _
  | case3 a b c d rest' ih =>
    simp only [bind, Option.bind_eq_some_iff, Prod.exists, Option.some.injEq, Prod.mk.injEq] at h
    obtain ⟨_, _, _, _, inner, _, rfl⟩ := h
    have := ih inner
    simp only [List.length_cons]
    omega
  | case4 e rest' _ ih =>
    simp only [bind, Option.bind_eq_some_iff, Prod.exists, Option.some.injEq, Prod.mk.injEq] at h
    obtain ⟨_, _, _, _, inner, _, rfl⟩ := h
    have := ih inner
    simp only [List.length_cons]
    omega
  | case5 => cases h
  | case6 c rest' _ _ _ _ ih =>
    simp only [bind, Option.bind_eq_some_iff, Prod.exists, Option.some.injEq, Prod.mk.injEq] at h
    obtain ⟨_, _, inner, _, rfl⟩ := h
    have := ih inner
    simp only [List.length_cons]
    omega

theorem length_lt_of_token? {cs rest : List Char} {t : Token} (h : token? cs = some (t, rest)) :
    rest.length < cs.length := by
  unfold token? at h
  split at h
  case h_10 =>
    obtain ⟨_, inner, e⟩ := Option.map_eq_some_iff.mp h
    cases e
    exact Nat.lt_succ_of_lt (length_lt_of_pieces? inner)
  case h_11 =>
    obtain ⟨_, inner, e⟩ := Option.map_eq_some_iff.mp h
    cases e
    exact length_lt_of_numeral? inner
  all_goals
    simp only [Option.some.injEq, Prod.mk.injEq] at h
    rw [← h.2]
    simp only [List.length_cons]
    omega

/-- The tokens of a text. -/
def scan? (cs : List Char) : Option (List Token) :=
  match cs with
  | [] => some []
  | c :: rest =>
    if isSpace c then scan? rest
    else
      match h : token? (c :: rest) with
      | none => none
      | some (t, rest') =>
        have : rest'.length < (c :: rest).length := length_lt_of_token? h
        (scan? rest').map (t :: ·)
termination_by cs.length
decreasing_by
  · exact Nat.lt_succ_self rest.length
  · assumption

/-! ## Writing -/

/-- The letter of the short escape that a character is written as, if it is written so. -/
def shortEscape? : Char → Option Char
  | '"' => some '"'
  | '\\' => some '\\'
  | '\x08' => some 'b'
  | '\x0c' => some 'f'
  | '\n' => some 'n'
  | '\r' => some 'r'
  | '\t' => some 't'
  | _ => none

/-- A character inside a string literal: quotes, backslashes and control characters are escaped,
shortly if possible. -/
def charText (c : Char) : List Char :=
  match shortEscape? c with
  | some e => ['\\', e]
  | none => if c.toNat < 0x20 then '\\' :: 'u' :: (Text.hex c.toNat).leftpad 4 '0' else [c]

/-- The text of a token. A string without a text is written as a lone surrogate. -/
def Token.chars : Token → List Char
  | .openBrace => ['{']
  | .closeBrace => ['}']
  | .openBracket => ['[']
  | .closeBracket => [']']
  | .colon => [':']
  | .comma => [',']
  | .null => "null".toList
  | .bool true => "true".toList
  | .bool false => "false".toList
  | .number n =>
    (if n.negative then ['-'] else []) ++ Text.decimal n.whole ++
      (if n.fraction.isEmpty then [] else '.' :: n.fraction) ++
      (if n.exponent.isEmpty then [] else 'e' :: n.exponent)
  | .string (some s) => '"' :: (s.toList.flatMap charText ++ ['"'])
  | .string none => "\"\\ud800\"".toList

end Overlay.Json

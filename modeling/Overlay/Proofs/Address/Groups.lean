import Mathlib.Data.List.TakeWhile
import Overlay.Address.IPv6
import Overlay.Proofs.Address.Written

/-!
# Groups and colons

The written form of an IPv6 address is read back under every rule. A numeral holds neither a colon
nor a dot, so colons stand between groups and at the gap only, and a dotted quad cannot be taken
for a group.

Main statement: `IPv6.ofChars?_chars`. Its cases are the three written forms: `ofChars?_mapped` with
a dotted quad, `ofChars?_gap` with a double colon, and `ofChars?_colons` with neither.
-/

namespace Overlay

/-- What stands in a joined text is the separator or stands in one of the parts. -/
theorem Text.mem_intercalate {c separator : Char} {parts : List (List Char)}
    (h : c ∈ [separator].intercalate parts) : c = separator ∨ ∃ part ∈ parts, c ∈ part := by
  induction parts with
  | nil => cases h
  | cons part rest ih =>
      cases rest with
      | nil =>
          rw [List.intercalate_singleton] at h
          exact Or.inr ⟨part, List.mem_cons_self, h⟩
      | cons next rest =>
          rw [List.intercalate_cons_cons, List.mem_append, List.mem_append,
            List.mem_singleton] at h
          rcases h with (here | between) | there
          · exact Or.inr ⟨part, List.mem_cons_self, here⟩
          · exact Or.inl between
          · rcases ih there with between | ⟨p, hp, hc⟩
            · exact Or.inl between
            · exact Or.inr ⟨p, List.mem_cons_of_mem _ hp, hc⟩

namespace IPv4

variable {rule : Leniency}

/-- A text without a dot is no dotted quad. -/
theorem ofChars?_eq_none_of_no_dot {cs : List Char} (h : '.' ∉ cs) : ofChars? rule cs = none := by
  rw [ofChars?, List.splitOn_eq_singleton h]
  cases read : octet? rule cs <;> simp [read]

/-- An octet is made of digits. -/
theorem isDigit_of_octet? {cs : List Char} {n : UInt8} (h : octet? rule cs = some n) :
    ∀ c ∈ cs, c.isDigit = true := by
  rw [octet?] at h
  split at h
  · cases h
  · next value => exact (Text.digits_of_decimal? value).2.1

/-- A dotted quad is made of digits and dots. -/
theorem ofChars?_eq_none_of_mem {cs : List Char} {c : Char} (hc : c ∈ cs) (dot : c ≠ '.')
    (digit : c.isDigit = false) : ofChars? rule cs = none := by
  have within : ∃ part ∈ cs.splitOn '.', c ∈ part := by
    have whole : ['.'].intercalate (cs.splitOn '.') = cs := List.intercalate_splitOn '.'
    rw [← whole] at hc
    exact (Text.mem_intercalate hc).resolve_left dot
  obtain ⟨part, mem, hc⟩ := within
  have unread : (cs.splitOn '.').mapM (octet? rule) = none := by
    obtain ⟨before, after, parts⟩ := List.append_of_mem mem
    have refused : octet? rule part = none := by
      cases read : octet? rule part with
      | none => rfl
      | some n =>
          have all := isDigit_of_octet? read c hc
          rw [digit] at all
          cases all
    rw [parts, List.mapM_append, List.mapM_cons, refused]
    cases before.mapM (octet? rule) <;> rfl
  rw [ofChars?, unread]

/-- An address is read off its number. -/
theorem toNat_ofNat {n : Nat} (h : n < 2 ^ 32) : (ofNat n).toNat = n := by
  simp only [toNat, ofNat, UInt8.toNat_ofNat', Nat.shiftRight_eq_div_pow]
  omega

/-- The characters of a dotted quad. -/
theorem not_mem_chars {c : Char} (dot : c ≠ '.') (digit : c.isDigit = false) (ip : IPv4) :
    c ∉ ip.chars := by
  intro mem
  rcases mem_joined mem with shown | same
  · rw [digit] at shown
    cases shown
  · exact dot same

end IPv4

namespace IPv6

variable {rule : Leniency}

/-! ## One group -/

/-- A written group is read back. -/
theorem group?_hex (g : UInt16) : group? (Text.hex g.toNat) = some g := by
  have short : (Text.hex g.toNat).length ≤ 4 := Text.length_hex_le (by decide) g.toNat_lt
  have shape : ((Text.hex g.toNat).isEmpty || decide (4 < (Text.hex g.toNat).length)) = false := by
    rw [Bool.or_eq_false_iff, List.isEmpty_eq_false_iff, decide_eq_false_iff_not, Nat.not_lt]
    exact ⟨Text.hex_ne_nil _, short⟩
  rw [group?, shape, Text.hex?_hex]
  simp

/-- A group is written without a colon. -/
theorem colon_not_mem_hex (n : Nat) : ':' ∉ Text.hex n := Text.not_mem_hex (by decide) n

/-- A group is written without a point. -/
theorem dot_not_mem_hex (n : Nat) : '.' ∉ Text.hex n := Text.not_mem_hex (by decide) n

/-- A group is not taken for a dotted quad. -/
theorem quad?_hex (n : Nat) : quad? rule (Text.hex n) = none := by
  rw [quad?, IPv4.ofChars?_eq_none_of_no_dot (dot_not_mem_hex n)]
  rfl

/-- Two groups written as a dotted quad. -/
theorem quad?_chars (g h : UInt16) :
    quad? rule (IPv4.ofNat (g.toNat * 65536 + h.toNat)).chars = some [g, h] := by
  have gs := g.toNat_lt
  have hs := h.toNat_lt
  rw [quad?, IPv4.ofChars?_chars, Option.map_some, IPv4.toNat_ofNat (by omega)]
  have high : (g.toNat * 65536 + h.toNat) / 65536 = g.toNat := by omega
  have low : (g.toNat * 65536 + h.toNat) % 65536 = h.toNat := by omega
  rw [high, low, UInt16.ofNat_toNat, UInt16.ofNat_toNat]

/-! ## Groups between colons -/

@[simp]
theorem colons_nil : colons [] = [] := rfl

@[simp]
theorem colons_singleton (g : UInt16) : colons [g] = Text.hex g.toNat := by
  simp [colons]

@[simp]
theorem colons_cons_cons (g h : UInt16) (gs : List UInt16) :
    colons (g :: h :: gs) = Text.hex g.toNat ++ ':' :: colons (h :: gs) := by
  simp [colons]

/-- Groups start with a digit. -/
theorem colons_cons (g : UInt16) (gs : List UInt16) :
    ∃ c cs, c ≠ ':' ∧ colons (g :: gs) = c :: cs := by
  obtain ⟨c, cs, digits⟩ := List.exists_cons_of_ne_nil (Text.hex_ne_nil g.toNat)
  have plain : c ≠ ':' := by
    intro colon
    apply colon_not_mem_hex g.toNat
    rw [digits, colon]
    exact List.mem_cons_self
  cases gs with
  | nil => exact ⟨c, cs, plain, by rw [colons_singleton, digits]⟩
  | cons h gs => exact ⟨c, cs ++ ':' :: colons (h :: gs), plain, by
      rw [colons_cons_cons, digits, List.cons_append]⟩

/-- Only where there are no groups there is nothing between colons. -/
theorem colons_isEmpty (gs : List UInt16) : (colons gs).isEmpty = gs.isEmpty := by
  cases gs with
  | nil => rfl
  | cons g gs =>
      obtain ⟨c, cs, _, front⟩ := colons_cons g gs
      rw [front]
      rfl

/-- Between the colons stand the groups. -/
theorem splitOn_colons {gs : List UInt16} (h : gs ≠ []) :
    (colons gs).splitOn ':' = gs.map (Text.hex ·.toNat) := by
  apply List.splitOn_intercalate
  · intro digits mem
    obtain ⟨g, _, rfl⟩ := List.mem_map.mp mem
    exact colon_not_mem_hex _
  · simpa using h

/-- Groups between colons have no characters but hexadecimal digits and colons. -/
theorem not_mem_colons {c : Char} (colon : c ≠ ':') (digit : ∀ d < 16, c ≠ Nat.digitChar d)
    (gs : List UInt16) : c ∉ colons gs := by
  intro mem
  rcases Text.mem_intercalate mem with separator | ⟨digits, within, hc⟩
  · exact colon separator
  · obtain ⟨g, _, rfl⟩ := List.mem_map.mp within
    exact Text.not_mem_hex digit _ hc

/-- All groups are read back, by either rule. -/
theorem pieces?_groups (gs : List UInt16) :
    pieces? rule (gs.map (Text.hex ·.toNat)) = some gs := by
  induction gs with
  | nil => rfl
  | cons g gs ih =>
      cases gs with
      | nil => simp [pieces?, quad?_hex, group?_hex]
      | cons h gs =>
          rw [List.map_cons] at ih
          simp only [List.map_cons, pieces?, group?_hex]
          rw [ih]

/-- What stands on the left of a gap is read back. -/
theorem left?_colons (gs : List UInt16) : left? (colons gs) = some gs := by
  rw [left?, colons_isEmpty]
  cases gs with
  | nil => rfl
  | cons g gs =>
      have each : (group? ∘ fun g : UInt16 => Text.hex g.toNat) = pure := funext group?_hex
      rw [List.isEmpty_cons, if_neg (by decide), splitOn_colons (List.cons_ne_nil g gs),
        List.mapM_map, each, List.mapM_pure, List.map_id']
      rfl

/-- What stands on the right of a gap is read back. -/
theorem right?_colons (gs : List UInt16) : right? rule (colons gs) = some gs := by
  rw [right?, colons_isEmpty]
  cases gs with
  | nil => rfl
  | cons g gs =>
      rw [List.isEmpty_cons, if_neg (by decide), splitOn_colons (List.cons_ne_nil g gs),
        pieces?_groups]

/-! ## The gap -/

/-- The gap is behind anything that holds no colon. -/
theorem splitGap_append {word : List Char} (h : ':' ∉ word) (cs : List Char) :
    splitGap (word ++ cs) = (splitGap cs).map fun sides => (word ++ sides.1, sides.2) := by
  induction word with
  | nil => simp
  | cons c word ih =>
      rw [List.mem_cons, not_or] at h
      rw [List.cons_append, splitGap, ih h.2, Option.map_map]
      · rfl
      · intro rest colon _
        exact h.1 colon.symm

/-- A colon on its own is no gap. -/
theorem splitGap_cons {c : Char} {cs : List Char} (h : c ≠ ':') :
    splitGap (':' :: c :: cs) = (splitGap (c :: cs)).map fun sides => (':' :: sides.1, sides.2) := by
  rw [splitGap]
  intro rest _ both
  exact h (List.cons.inj both).1

/-- The gap is behind any groups. -/
theorem splitGap_colons (gs : List UInt16) (cs : List Char) :
    splitGap (colons gs ++ cs) = (splitGap cs).map fun sides => (colons gs ++ sides.1, sides.2) := by
  induction gs with
  | nil => simp
  | cons g gs ih =>
      cases gs with
      | nil => rw [colons_singleton, splitGap_append (colon_not_mem_hex _)]
      | cons h gs =>
          obtain ⟨c, word, plain, front⟩ := colons_cons h gs
          rw [colons_cons_cons, List.append_assoc, splitGap_append (colon_not_mem_hex _),
            List.cons_append, front, List.cons_append, splitGap_cons plain, ← List.cons_append,
            ← front, ih, Option.map_map, Option.map_map]
          simp [Function.comp_def]

/-- What `longestRun` finds is a run of zero groups. -/
theorem longestRun_le (gs : List UInt16) :
    (longestRun gs).2 ≤ zeroRun (gs.drop (longestRun gs).1) := by
  rw [longestRun]
  refine List.foldlRecOn _ _ (motive := fun best : Nat × Nat => best.2 ≤ zeroRun (gs.drop best.1))
    (Nat.zero_le _) ?_
  intro best run i _
  dsimp only
  split
  · exact Nat.le_refl _
  · exact run

/-- No run of zeros is longer than the groups. -/
theorem zeroRun_le_length (gs : List UInt16) : zeroRun gs ≤ gs.length :=
  (List.takeWhile_prefix _).length_le

/-- A run of zero groups may be written as such. -/
theorem eq_replicate_append {gs : List UInt16} {n : Nat} (h : n ≤ zeroRun gs) :
    gs = List.replicate n 0 ++ gs.drop n := by
  have zeros : ∀ g ∈ gs.take n, g = 0 := by
    intro g mem
    have front : gs.take n <+: gs.takeWhile (· == 0) :=
      List.prefix_of_prefix_length_le (List.take_prefix n gs) (List.takeWhile_prefix _)
        (by rw [List.length_take]; exact Nat.le_trans (Nat.min_le_left _ _) h)
    exact eq_of_beq (List.mem_takeWhile_imp (p := (· == 0)) (front.subset mem))
  have long : (gs.take n).length = n := by
    rw [List.length_take]
    exact Nat.min_eq_left (Nat.le_trans h (zeroRun_le_length gs))
  have run : gs.take n = List.replicate n 0 := List.eq_replicate_iff.mpr ⟨long, zeros⟩
  rw [← run, List.take_append_drop]

/-! ## Reading back -/

/-- The eight groups of an address make the address. -/
theorem ofGroups?_groups (ip : IPv6) : ofGroups? ip.groups = some ip := by
  rw [ofGroups?, dif_pos ip.length_groups]

/-- An address without a gap. -/
theorem ofChars?_colons (ip : IPv6) : ofChars? rule (colons ip.groups) = some ip := by
  have some_groups : ip.groups ≠ [] := by
    intro empty
    have long := ip.length_groups
    rw [empty] at long
    cases long
  have no_gap := splitGap_colons ip.groups []
  rw [List.append_nil] at no_gap
  rw [ofChars?, no_gap]
  simp only [splitGap, Option.map_none]
  rw [splitOn_colons some_groups, pieces?_groups]
  exact ofGroups?_groups ip

/-- An address with a gap for a run of zero groups. -/
theorem ofChars?_gap (ip : IPv6) {start n : Nat} (some_groups : 1 ≤ n)
    (run : n ≤ zeroRun (ip.groups.drop start)) :
    ofChars? rule (colons (ip.groups.take start) ++ [':', ':'] ++
      colons (ip.groups.drop (start + n))) = some ip := by
  have long := ip.length_groups
  have within : n ≤ ip.groups.length - start := by
    rw [← List.length_drop]
    exact Nat.le_trans run (zeroRun_le_length _)
  have left : (ip.groups.take start).length = start := by rw [List.length_take]; omega
  have gap : 8 - ((ip.groups.take start).length + (ip.groups.drop (start + n)).length) = n := by
    rw [left, List.length_drop]
    omega
  have whole : ip.groups.take start ++ List.replicate n 0 ++ ip.groups.drop (start + n) =
      ip.groups := by
    rw [List.append_assoc, ← List.drop_drop, ← eq_replicate_append run, List.take_append_drop]
  have allowed : (decide ((ip.groups.take start).length < 8) &&
      (decide (1 ≤ n) || rule.emptyGap)) = true := by
    rw [left, decide_eq_true some_groups, decide_eq_true (by omega : start < 8)]
    rfl
  rw [ofChars?, List.append_assoc, splitGap_colons]
  simp only [List.cons_append, List.nil_append, splitGap, Option.map_some, List.append_nil]
  rw [left?_colons, right?_colons]
  simp only [withGap?]
  rw [gap, if_pos allowed, whole]
  exact ofGroups?_groups ip

/-- An address that maps one of IPv4. -/
theorem ofChars?_mapped (ip : IPv6) {v4 : IPv4} (mapped : ip.mapped? = some v4) :
    ofChars? rule ("::ffff:".toList ++ v4.chars) = some ip := by
  obtain ⟨gs, long⟩ := ip
  rw [mapped?] at mapped
  split at mapped
  · next g h same =>
    dsimp only at same
    subst same
    cases mapped
    have sides : splitGap ("::ffff:".toList ++
        (IPv4.ofNat (g.toNat * 65536 + h.toNat)).chars) =
        some ([], "ffff:".toList ++ (IPv4.ofNat (g.toNat * 65536 + h.toNat)).chars) := rfl
    have parts : ("ffff:".toList ++ (IPv4.ofNat (g.toNat * 65536 + h.toNat)).chars).splitOn ':' =
        ["ffff".toList, (IPv4.ofNat (g.toNat * 65536 + h.toNat)).chars] := by
      have plain := IPv4.not_mem_chars (c := ':') (by decide) (by decide)
        (IPv4.ofNat (g.toNat * 65536 + h.toNat))
      show ("ffff".toList ++ ':' :: (IPv4.ofNat _).chars).splitOn ':' = _
      rw [List.splitOn_append_cons_self_of_not_mem (by decide), List.splitOn_eq_singleton plain]
    have first : group? "ffff".toList = some 0xFFFF := by decide
    have right : right? rule ("ffff:".toList ++
        (IPv4.ofNat (g.toNat * 65536 + h.toNat)).chars) = some [0xFFFF, g, h] := by
      rw [right?, if_neg (by simp), parts]
      simp only [pieces?, first, quad?_chars]
    rw [ofChars?, sides]
    dsimp only
    rw [right]
    rfl
  · cases mapped

/-- The written form of an address is read back under every rule. -/
theorem ofChars?_chars (rule : Leniency) (ip : IPv6) : ofChars? rule ip.chars = some ip := by
  rw [chars]
  split
  · next v4 mapped => exact ofChars?_mapped ip mapped
  · dsimp only
    split
    · next long =>
      exact ofChars?_gap ip (Nat.le_trans (by decide) long) (longestRun_le ip.groups)
    · exact ofChars?_colons ip

/-- Every written form holds a colon, and so is none of IPv4. -/
theorem colon_mem_chars (ip : IPv6) : ':' ∈ ip.chars := by
  rw [chars]
  split
  · exact List.mem_append_left _ (by decide)
  · dsimp only
    split
    · simp
    · obtain ⟨_ | ⟨g, _ | ⟨h, gs⟩⟩, long⟩ := ip
      · cases long
      · cases long
      · simp

/-- No written form holds a slash. -/
theorem slash_not_mem_chars (ip : IPv6) : '/' ∉ ip.chars := by
  have groups := not_mem_colons (c := '/') (by decide) (by decide)
  rw [chars]
  split
  · next v4 _ =>
    rw [List.mem_append, not_or]
    exact ⟨by decide, IPv4.not_mem_chars (by decide) (by decide) v4⟩
  · dsimp only
    split
    · simp [groups]
    · exact groups _

end IPv6

end Overlay

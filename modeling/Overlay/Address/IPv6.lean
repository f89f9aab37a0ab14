import Overlay.Address.IPv4

/-!
# IPv6 addresses

Eight groups of sixteen bits. Groups are written in lower-case hexadecimal without leading zeros;
the longest run of two or more zero groups, the leftmost of equals, shrinks to a double colon; an
address that maps an IPv4 address shows its last two groups as a dotted quad. A reader takes
groups of one to four digits in either case, one double colon anywhere, and a dotted quad for the
last two groups.
-/

namespace Overlay

/-- An IPv6 address as its eight groups, first to last. -/
structure IPv6 where
  groups : List UInt16
  length_groups : groups.length = 8
  deriving DecidableEq, Repr

namespace IPv6

/-- The address with these groups, if there are eight. -/
def ofGroups? (gs : List UInt16) : Option IPv6 :=
  if h : gs.length = 8 then some ⟨gs, h⟩ else none

/-- The address as a number below `2 ^ 128`, first group highest. -/
def toNat (ip : IPv6) : Nat := ip.groups.foldl (fun n g => n * 65536 + g.toNat) 0

/-- The address whose number is `n`, taken modulo `2 ^ 128`. -/
def ofNat (n : Nat) : IPv6 :=
  ⟨[112, 96, 80, 64, 48, 32, 16, 0].map fun shift => UInt16.ofNat (n >>> shift), rfl⟩

/-! ## Writing -/

/-- The groups in hexadecimal with colons between them. -/
def colons (gs : List UInt16) : List Char :=
  [':'].intercalate (gs.map fun g => Text.hex g.toNat)

/-- How many zero groups stand at the front. -/
def zeroRun (gs : List UInt16) : Nat := (gs.takeWhile (· == 0)).length

/-- Where the longest run of zero groups starts and how long it is; of equals the leftmost. -/
def longestRun (gs : List UInt16) : Nat × Nat :=
  (List.range gs.length).foldl
    (fun best i =>
      let n := zeroRun (gs.drop i)
      if best.2 < n then (i, n) else best)
    (0, 0)

/-- The IPv4 address that this address maps, if its first six groups say so. -/
def mapped? (ip : IPv6) : Option IPv4 :=
  match ip.groups with
  | [0, 0, 0, 0, 0, 0xFFFF, g, h] => some (IPv4.ofNat (g.toNat * 65536 + h.toNat))
  | _ => none

/-- The written form of an address. -/
def chars (ip : IPv6) : List Char :=
  match ip.mapped? with
  | some v4 => "::ffff:".toList ++ v4.chars
  | none =>
    let (start, n) := longestRun ip.groups
    if 2 ≤ n then colons (ip.groups.take start) ++ [':', ':'] ++ colons (ip.groups.drop (start + n))
    else colons ip.groups

/-! ## Reading -/

/-- One group: one to four hexadecimal digits. -/
def group? (cs : List Char) : Option UInt16 :=
  if cs.isEmpty || 4 < cs.length then none else (Text.hex? cs).map UInt16.ofNat

/-- The two groups that a dotted quad stands for. -/
def quad? (rule : Leniency) (cs : List Char) : Option (List UInt16) :=
  (IPv4.ofChars? rule cs).map fun ip =>
    [UInt16.ofNat (ip.toNat / 65536), UInt16.ofNat (ip.toNat % 65536)]

/-- Groups between colons, of which the last piece may be a dotted quad. -/
def pieces? (rule : Leniency) : List (List Char) → Option (List UInt16)
  | [] => some []
  | [last] =>
    match quad? rule last with
    | some gs => some gs
    | none => (group? last).map fun g => [g]
  | piece :: rest =>
    match group? piece, pieces? rule rest with
    | some g, some gs => some (g :: gs)
    | _, _ => none

/-- The two sides of the first double colon, if there is one. -/
def splitGap : List Char → Option (List Char × List Char)
  | [] => none
  | ':' :: ':' :: rest => some ([], rest)
  | c :: rest => (splitGap rest).map fun (left, right) => (c :: left, right)

/-- Groups on the left of the double colon: plain ones only, perhaps none. -/
def left? (cs : List Char) : Option (List UInt16) :=
  if cs.isEmpty then some [] else (cs.splitOn ':').mapM group?

/-- Groups on the right of the double colon, perhaps none. -/
def right? (rule : Leniency) (cs : List Char) : Option (List UInt16) :=
  if cs.isEmpty then some [] else pieces? rule (cs.splitOn ':')

/-- The address with `left` at its start, `right` at its end and zero groups between. At most seven
groups may stand on the left, and a gap stands for at least one group unless the rule says else. -/
def withGap? (rule : Leniency) (left right : List UInt16) : Option IPv6 :=
  let gap := 8 - (left.length + right.length)
  if left.length < 8 && (1 ≤ gap || rule.emptyGap) then
    ofGroups? (left ++ List.replicate gap 0 ++ right)
  else none

/-- The address that a run of characters spells. -/
def ofChars? (rule : Leniency) (cs : List Char) : Option IPv6 :=
  match splitGap cs with
  | some (left, right) =>
    match left? left, right? rule right with
    | some l, some r => withGap? rule l r
    | _, _ => none
  | none =>
    match pieces? rule (cs.splitOn ':') with
    | some gs => ofGroups? gs
    | none => none

end IPv6

end Overlay

import Mathlib.Tactic.MkIffOfInductiveProp
import Overlay.Dhcp.Binding
import Overlay.Proofs.Store.View

/-!
# Names of addresses

Two texts stand for an address outside the program: the host name that goes with its binding, and
the text in its row, which is part of the row's key. Both are the four octets in decimal, so either
determines the address: octets differ in length, but no separator is a digit.

Main statement: `addresses_told_apart`.
-/

namespace Overlay.Dhcp

/-- A lower-case letter or a digit. -/
def isLetterOrDigit (c : Char) : Bool := c.isLower || c.isDigit

/-- A label of the domain name system in lower case: letters, digits and hyphens, with no hyphen at
either end. -/
@[mk_iff]
structure IsLabel (s : String) : Prop where
  length_pos : 1 ≤ s.length
  length_le : s.length ≤ 63
  allowed : s.toList.all (fun c => isLetterOrDigit c || c == '-') = true
  first : s.toList.head?.any isLetterOrDigit = true
  last : s.toList.getLast?.any isLetterOrDigit = true

instance (s : String) : Decidable (IsLabel s) := decidable_of_iff' _ (isLabel_iff s)

/-! ## Host names -/

theorem isLetterOrDigit_of_isDigit {c : Char} (h : c.isDigit = true) :
    isLetterOrDigit c = true := by
  rw [isLetterOrDigit, h, Bool.or_true]

theorem toList_hostName (ip : IPv4) : (hostName ip).toList = "host-".toList ++ ip.joined '-' :=
  String.toList_ofList

/-- The octets and the hyphens between them stand behind five characters. -/
theorem length_hostName (ip : IPv4) : (hostName ip).length = 5 + (ip.joined '-').length := by
  rw [← String.length_toList, toList_hostName, List.length_append]
  rfl

/-- Addresses with one host name are the same: a hyphen is no digit, so it parts the octets. -/
theorem hostName_inj {a b : IPv4} : hostName a = hostName b ↔ a = b := by
  refine ⟨fun same => ?_, congrArg hostName⟩
  have octets := congrArg String.toList same
  rw [toList_hostName, toList_hostName] at octets
  exact IPv4.joined_inj (by decide) (List.append_cancel_left octets)

/-- Every host name is a label: it starts with a letter, ends in a digit and has twenty characters
at most. -/
theorem isLabel_hostName (ip : IPv4) : IsLabel (hostName ip) where
  length_pos := by
    rw [length_hostName]
    omega
  length_le := by
    have short : (ip.joined '-').length ≤ 15 := ip.length_joined_le
    rw [length_hostName]
    omega
  allowed := by
    have octets : (ip.joined '-').all (fun c => isLetterOrDigit c || c == '-') = true := by
      refine List.all_eq_true.mpr fun c hc => ?_
      rcases IPv4.mem_joined hc with digit | rfl
      · rw [isLetterOrDigit_of_isDigit digit, Bool.true_or]
      · rw [beq_self_eq_true, Bool.or_true]
    rw [toList_hostName, List.all_append, octets]
    decide
  first := by
    have front : ("host-".toList ++ ip.joined '-').head? = some 'h' := rfl
    rw [toList_hostName, front]
    decide
  last := by
    -- The last character is that of the last octet, a digit.
    obtain ⟨front, ends⟩ := ip.joined_eq_append '-'
    have some_digits := Text.decimal_ne_nil ip.d.toNat
    rw [toList_hostName, ends, ← List.append_assoc,
      List.getLast?_append_of_ne_nil _ some_digits, List.getLast?_eq_some_getLast some_digits,
      Option.any_some]
    exact isLetterOrDigit_of_isDigit (Text.isDigit_of_mem_decimal (List.getLast_mem some_digits))

/-- A host name cut short behind a hyphen is no label. -/
example : ¬ IsLabel "host-10-0-0-" := by decide

/-- No two addresses share a host name, and every host name is a label. No two addresses are written
alike, so rows have one key only if they are of one port and one address; a row is read as a binding
of the address that is written in it, and is refused for its address only if it has none. -/
theorem addresses_told_apart :
    (∀ a b : IPv4, hostName a = hostName b ↔ a = b) ∧
    (∀ a : IPv4, IsLabel (hostName a)) ∧
    (∀ a b : IPv4, a.render = b.render ↔ a = b) ∧
    (∀ b c : Store.Binding,
      b.toRow.key = c.toRow.key ↔ b.portId = c.portId ∧ b.address = c.address) ∧
    (∀ (r : Store.BindingRow) (ip : IPv4),
      (∃ b, r.read = .ok b ∧ b.address = ip) ↔ r.address = ip.render ∧ r.Timed) ∧
    ∀ (r : Store.BindingRow) (text : String),
      r.read = .error (.badAddress text) ↔
        text = r.address ∧ ∀ ip : IPv4, r.address ≠ ip.render := by
  refine ⟨fun a b => hostName_inj, isLabel_hostName, ?_, ?_, ?_, ?_⟩
  · intro a b
    exact ⟨IPv4.render_inj, congrArg IPv4.render⟩
  · intro b c
    rw [← Prod.mk.injEq]
    exact Store.key_toRow_iff c.portId c.address b
  · intro r ip
    exact Store.BindingRow.exists_read_iff
  · intro r text
    exact Store.BindingRow.read_eq_badAddress_iff

end Overlay.Dhcp

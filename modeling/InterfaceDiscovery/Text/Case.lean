import InterfaceDiscovery.Text.Cased
import InterfaceDiscovery.Text.Lowercase
import InterfaceDiscovery.Text.Uppercase

namespace InterfaceDiscovery.Text

def startsCased (cs : List Char) : Bool :=
  match cs.dropWhile isCaseIgnorable with
  | c :: _ => isCased c
  | [] => false

/-- A capital sigma ends a word when, looking through case-ignorable characters, a cased letter
precedes it and none follows. `before` holds the preceding characters, nearest first. -/
def endsWord (before after : List Char) : Bool :=
  startsCased before && !startsCased after

def lowerAfter : List Char → List Char → List Char
  | _, [] => []
  | before, c :: after =>
    (if c = 'Σ' then [if endsWord before after then 'ς' else 'σ'] else lowerChar c) ++
      lowerAfter (c :: before) after

def lower (s : String) : String :=
  String.ofList (lowerAfter [] s.toList)

def upper (s : String) : String :=
  String.ofList (s.toList.flatMap upperChar)

/-- Greek small letters with a subscript iota, whose full uppercase form has two characters and
whose single-character uppercase form is the capital with the iota below. -/
def iotaSubscriptRuns : List CaseRun :=
  [⟨0x1F80, 8, 1, 8⟩, ⟨0x1F90, 8, 1, 8⟩, ⟨0x1FA0, 8, 1, 8⟩, ⟨0x1FB3, 1, 1, 9⟩,
   ⟨0x1FC3, 1, 1, 9⟩, ⟨0x1FF3, 1, 1, 9⟩]

/-- The uppercase form of a character as one character: the full form when that is one
character, the capital with the iota below for a letter with a subscript iota, and otherwise the
character itself. -/
def upperSingle (c : Char) : Char :=
  match upperChar c with
  | [u] => u
  | _ =>
    match iotaSubscriptRuns.find? (·.contains c.toNat) with
    | some r => Char.ofNat (r.apply c.toNat)
    | none => c

def upperEach (s : String) : String :=
  String.ofList (s.toList.map upperSingle)

-- An ASCII small letter uppercases to its capital; the tables are checked letter by letter.
theorem upperSingle_of_isLower {c : Char} (h : c.isLower) : upperSingle c = c.toUpper := by
  have hall : ∀ i < 26, upperSingle (Char.ofNat (97 + i)) = (Char.ofNat (97 + i)).toUpper := by
    decide +kernel
  have hl : (c.val ≥ 97 && c.val ≤ 122) = true := h
  have hc : 97 ≤ c.toNat ∧ c.toNat ≤ 122 := by
    simpa [UInt32.le_iff_toNat_le, ← Char.toNat_val] using hl
  have hi := hall (c.toNat - 97) (by omega)
  rwa [Nat.add_sub_cancel' hc.1, Char.ofNat_toNat] at hi

example : upperSingle 'a' = 'A' := by decide

theorem lowerAfter_nil (before : List Char) : lowerAfter before [] = [] := rfl

end InterfaceDiscovery.Text

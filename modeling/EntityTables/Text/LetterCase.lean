import EntityTables.Text.CaseRuns

/-!
# The case of a letter

`upperCase` and `lowerCase` give the full partner of a single character: a sequence, because
some letters become several.  A character without a partner stays as it is.  Neighbours play no
part: a capital sigma becomes the same small letter at the end of a word as anywhere else.
-/

namespace EntityTables.Text

/-- The sequence listed for a character, else its partner in one of the runs, else the
character itself. -/
def caseForm (sequences : List (Nat × List Nat)) (runs : List CaseRun) (c : Char) : List Char :=
  match sequences.lookup c.toNat with
  | some codes => codes.map Char.ofNat
  | none => [((runs.findSome? (·.partner? c.toNat)).map Char.ofNat).getD c]

def upperCase (c : Char) : List Char :=
  caseForm upperSequences upperRuns c

def lowerCase (c : Char) : List Char :=
  caseForm lowerSequences lowerRuns c

example : upperCase 'a' = ['A'] ∧ lowerCase 'Z' = ['z'] ∧ upperCase '1' = ['1'] := by decide

example : upperCase 'ß' = ['S', 'S'] ∧ lowerCase 'İ' = ['i', '\u0307'] ∧
    lowerCase 'Σ' = ['σ'] := by
  decide

end EntityTables.Text

import Depot.Accounts.Username
import Depot.Draws

/-!
User names made unique by chance: a slug, an underscore and five random letters or digits.
-/

namespace Depot.Accounts

def endingAlphabet : List Char := "abcdefghijklmnopqrstuvwxyz0123456789".toList

def endingLength : Nat := 5

def ending (draws : List Nat) : String :=
  String.ofList (draws.map (endingAlphabet.getD · 'a'))

def drawEnding (draws : Draws) : List Nat × Draws :=
  draws.take 0 (endingAlphabet.length - 1) endingLength

/-- A name from the slug of a text and drawn numbers. The whole has to keep the rule for names. -/
def uniqueName (s : String) (draws : List Nat) : Except UsernameFault Username :=
  Username.check (slug s ++ "_" ++ ending draws)

end Depot.Accounts

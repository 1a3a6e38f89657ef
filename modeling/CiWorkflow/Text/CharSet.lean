/-!
# Sets of characters

A property of characters is kept as the ascending list of code points at which it begins or ceases
to hold. A code point has the property when an odd number of those turns lie at or below it.
-/

namespace CiWorkflow.Text

/-- A set of characters, by the ascending code points at which membership turns. -/
structure CharSet where
  /-- The code points at which membership turns, beginning with the first member. -/
  turns : List Nat

namespace CharSet

/-- Membership of a code point, given the membership of all that lies below the next turn. -/
def memberFrom (inside : Bool) (turns : List Nat) (code : Nat) : Bool :=
  match turns with
  | [] => inside
  | turn :: rest => if code < turn then inside else memberFrom (!inside) rest code

def contains (s : CharSet) (c : Char) : Bool := memberFrom false s.turns c.toNat

end CharSet

end CiWorkflow.Text

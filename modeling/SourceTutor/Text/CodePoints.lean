/-!
# Classes of code points

A class of characters is given by its boundaries: an ascending list of code points at each of
which membership switches, starting outside. The class of the decimal digits is `[0x30, 0x3A]`.
-/

set_option autoImplicit false

namespace SourceTutor.Text

/-- The ascending boundaries of a class of code points. -/
structure CodePoints where
  /-- Membership switches at each of these. -/
  boundaries : List Nat

namespace CodePoints

/-- Whether `n` is a member, when membership starts as `inside` below the first boundary. -/
def holdsFrom (inside : Bool) (n : Nat) : List Nat → Bool
  | [] => inside
  | b :: bs => if n < b then inside else holdsFrom (!inside) n bs

/-- Whether the character is in the class. -/
def contains (t : CodePoints) (c : Char) : Bool := holdsFrom false c.toNat t.boundaries

end CodePoints

end SourceTutor.Text

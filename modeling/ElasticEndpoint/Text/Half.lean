/-!
Code points and halves of pairs. Text is a list of code points, each of which is a character or half
of a pair of code units that stands alone. Where only characters can stand, the replacement character
stands for a half.
-/

namespace ElasticEndpoint.Text

/-- Whether a code point is half of a pair of code units. -/
def isHalf (n : Nat) : Bool := 0xD800 ≤ n && n < 0xE000

def pointChar (n : Nat) : Char := if isHalf n then Char.ofNat 0xFFFD else Char.ofNat n

/-- Code points as a text. -/
def ofPoints (points : List Nat) : String := String.ofList (points.map pointChar)

end ElasticEndpoint.Text

/-!
Blank characters. The white space of the Unicode standard, and the wider set of blanks that also
holds the four information separators, with the trimming of texts by either.
-/

namespace ElasticEndpoint.Text

/-- The characters with the standard's white space property. -/
def isWhiteSpace (c : Char) : Bool :=
  let n := c.toNat
  (9 ≤ n && n ≤ 13) || n == 0x20 || n == 0x85 || n == 0xA0 || n == 0x1680 ||
    (0x2000 ≤ n && n ≤ 0x200A) || n == 0x2028 || n == 0x2029 || n == 0x202F || n == 0x205F || n == 0x3000

/-- White space and the four information separators. -/
def isBlank (c : Char) : Bool :=
  isWhiteSpace c || (0x1C ≤ c.toNat && c.toNat ≤ 0x1F)

def trimStart (drops : Char → Bool) (text : List Char) : List Char := text.dropWhile drops

def trimEnd (drops : Char → Bool) (text : List Char) : List Char :=
  (text.reverse.dropWhile drops).reverse

def trim (drops : Char → Bool) (text : List Char) : List Char := trimEnd drops (trimStart drops text)

end ElasticEndpoint.Text

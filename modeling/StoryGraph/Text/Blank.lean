/-!
Blank characters and the trimming of texts. The blanks are the characters with
the Unicode property White_Space together with the four separators U+001C to
U+001F.
-/

set_option autoImplicit false

namespace StoryGraph.Text

/-- The runs of code points that count as blank, each with its first and last member. -/
def blankRuns : List (Nat × Nat) := [
  (0x09, 0x0D), (0x1C, 0x20), (0x85, 0x85), (0xA0, 0xA0), (0x1680, 0x1680), (0x2000, 0x200A),
  (0x2028, 0x2029), (0x202F, 0x202F), (0x205F, 0x205F), (0x3000, 0x3000)]

def isBlank (character : Char) : Bool :=
  blankRuns.any fun run => run.1 ≤ character.toNat && character.toNat ≤ run.2

def allBlank (text : List Char) : Bool := text.all isBlank

def trimEnd (text : List Char) : List Char := (text.reverse.dropWhile isBlank).reverse

def trim (text : List Char) : List Char := trimEnd (text.dropWhile isBlank)

end StoryGraph.Text

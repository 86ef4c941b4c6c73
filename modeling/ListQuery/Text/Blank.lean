import ListQuery.Text.Ranges
/-!
Blank characters, trimming and splitting into words. The blanks are the white space of Unicode
together with the four information separators U+001C to U+001F.
-/
namespace ListQuery.Text

def blankRanges : List (Nat × Nat) :=
  [(0x09, 0x0D), (0x1C, 0x20), (0x85, 0x85), (0xA0, 0xA0), (0x1680, 0x1680), (0x2000, 0x200A),
   (0x2028, 0x2029), (0x202F, 0x202F), (0x205F, 0x205F), (0x3000, 0x3000)]

def isBlank (c : Char) : Bool := inRanges blankRanges c.toNat

/-- A blank that is no information separator. -/
def isWhiteSpace (c : Char) : Bool := isBlank c && !inRanges [(0x1C, 0x1F)] c.toNat

/-- Drops characters of a class from both ends. -/
def trimWhere (drop : Char → Bool) (s : List Char) : List Char :=
  ((s.dropWhile drop).reverse.dropWhile drop).reverse

def trim (s : List Char) : List Char := trimWhere isBlank s

/-- The maximal blank-free pieces of a text. -/
def words (s : List Char) : List (List Char) :=
  (s.splitOnP isBlank).filter (fun w => !w.isEmpty)

example : ascending blankRanges = true := by decide
example : isBlank '\u0085' = true ∧ isBlank '\u200b' = false ∧ isBlank 'a' = false := by decide
example : words " a  b\t".toList = [['a'], ['b']] := by decide

end ListQuery.Text

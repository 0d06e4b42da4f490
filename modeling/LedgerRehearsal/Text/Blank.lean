/-!
Blank characters and trimming. A character is blank when it has the Unicode property White_Space
(twenty-five characters, unchanged since version 6.3); a byte order mark and the zero-width space
are not blank.
-/

namespace LedgerRehearsal.Text

/-- Closed ranges of code points, ascending and apart. -/
def blankRanges : List (Nat × Nat) :=
  [(0x09, 0x0D), (0x20, 0x20), (0x85, 0x85), (0xA0, 0xA0), (0x1680, 0x1680), (0x2000, 0x200A),
   (0x2028, 0x2029), (0x202F, 0x202F), (0x205F, 0x205F), (0x3000, 0x3000)]

def isBlank (c : Char) : Bool := blankRanges.any fun (first, last) => first ≤ c.toNat && c.toNat ≤ last

/-- Drops the blank characters at both ends. -/
def trim (text : List Char) : List Char :=
  ((text.dropWhile isBlank).reverse.dropWhile isBlank).reverse

/-- The trimmed text of a string. -/
def trimmed (text : String) : String := String.ofList (trim text.toList)

/-- Nothing but blank characters. -/
def allBlank (text : String) : Bool := text.toList.all isBlank

end LedgerRehearsal.Text

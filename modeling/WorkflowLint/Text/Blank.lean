/-
# WorkflowLint.Text.Blank -- blank characters and trimming

A blank is a character with the Unicode property White_Space.  `trim` removes
the blanks at both ends of a text and nothing else.
-/

namespace WorkflowLint.Text

set_option autoImplicit false

/-- The Unicode property White_Space. -/
def isBlank (c : Char) : Bool :=
  let n := c.toNat
  (0x9 ≤ n && n ≤ 0xD) || n == 0x20 || n == 0x85 || n == 0xA0 || n == 0x1680 ||
    (0x2000 ≤ n && n ≤ 0x200A) || n == 0x2028 || n == 0x2029 || n == 0x202F ||
    n == 0x205F || n == 0x3000

def trimLeft (cs : List Char) : List Char := cs.dropWhile isBlank

/-- The text without those characters at its end that satisfy `p`. -/
def dropEndWhile (p : Char → Bool) (cs : List Char) : List Char :=
  (cs.reverse.dropWhile p).reverse

def trimRight (cs : List Char) : List Char := dropEndWhile isBlank cs

def trim (cs : List Char) : List Char := trimRight (trimLeft cs)

def IsTrimmed (s : String) : Prop := trim s.toList = s.toList

instance (s : String) : Decidable (IsTrimmed s) :=
  inferInstanceAs (Decidable (trim s.toList = s.toList))

def trimmed (s : String) : String := .ofList (trim s.toList)

end WorkflowLint.Text

/-! # Blank characters

The blanks are the characters that Unicode counts as white space by their direction or category:
besides its spaces these are the ASCII controls from tab to carriage return and the four
information separators. Trimming and splitting into words (`trim`, `words`) go by them.
-/

namespace SignalFlow.Text

/-- Whether a character counts as white space. -/
def isBlank (c : Char) : Bool :=
  let n := c.toNat
  (0x9 ≤ n && n ≤ 0xD) || (0x1C ≤ n && n ≤ 0x20) || n == 0x85 || n == 0xA0 || n == 0x1680 ||
    (0x2000 ≤ n && n ≤ 0x200A) || n == 0x2028 || n == 0x2029 || n == 0x202F || n == 0x205F ||
    n == 0x3000

/-- Without the characters at both ends that a test accepts. -/
def trimBy (test : Char → Bool) (text : List Char) : List Char :=
  ((text.dropWhile test).reverse.dropWhile test).reverse

/-- Without the blanks at both ends. -/
def trim (text : String) : String :=
  String.ofList (trimBy isBlank text.toList)

/-- The words of a text with the letters read so far of the word under way. -/
def wordsFrom : List Char → List Char → List String
  | current, [] => if current.isEmpty then [] else [String.ofList current.reverse]
  | current, c :: rest =>
      if isBlank c then
        if current.isEmpty then wordsFrom [] rest
        else String.ofList current.reverse :: wordsFrom [] rest
      else wordsFrom (c :: current) rest

/-- The longest stretches of a text without blanks. -/
def words (text : String) : List String :=
  wordsFrom [] text.toList

end SignalFlow.Text

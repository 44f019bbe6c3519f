/-!
# Blank characters

Which characters separate words: the White_Space property of Unicode. Trimming, splitting into words
and the line grammar all use this one class.
-/

namespace RouterTelemetry.Text

/-- Unicode White_Space. -/
def isBlank (c : Char) : Bool :=
  let n := c.toNat
  (9 ≤ n && n ≤ 13) || n == 0x20 || n == 0x85 || n == 0xA0 || n == 0x1680
    || (0x2000 ≤ n && n ≤ 0x200A) || n == 0x2028 || n == 0x2029 || n == 0x202F || n == 0x205F
    || n == 0x3000

/-- The text without the blanks in front. -/
def trimStart (s : List Char) : List Char :=
  s.dropWhile isBlank

/-- The text without the characters at its end that satisfy `p`. -/
def dropEndWhile (p : Char → Bool) (s : List Char) : List Char :=
  (s.reverse.dropWhile p).reverse

/-- The text without the blanks at its end. -/
def trimEnd (s : List Char) : List Char :=
  dropEndWhile isBlank s

/-- The text without the blanks at either end. -/
def trim (s : List Char) : List Char :=
  trimEnd (trimStart s)

/-- One step of `words`: the words so far, latest first and each reversed, and the word in hand. -/
def wordsStep (s : List (List Char) × List Char) (c : Char) : List (List Char) × List Char :=
  if isBlank c then
    (if s.2.isEmpty then s.1 else s.2.reverse :: s.1, [])
  else
    (s.1, c :: s.2)

/-- The maximal runs of characters that are not blank, in order. -/
def words (s : List Char) : List (List Char) :=
  let (done, last) := s.foldl wordsStep ([], [])
  (if last.isEmpty then done else last.reverse :: done).reverse

/-- `words` put together again with one space between any two. -/
def normalizeBlanks (s : List Char) : List Char :=
  [' '].intercalate (words s)

end RouterTelemetry.Text

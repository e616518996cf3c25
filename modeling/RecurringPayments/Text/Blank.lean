import RecurringPayments.Text.Ranges

/-!
Blank characters, and texts without needless blanks: trimmed at both ends, or with every run of
blanks made one space.
-/
namespace RecurringPayments.Text

def blankRanges : Ranges := [
  (0x9, 0xD), (0x1C, 0x20), (0x85, 0x85), (0xA0, 0xA0), (0x1680, 0x1680), (0x2000, 0x200A),
  (0x2028, 0x2029), (0x202F, 0x202F), (0x205F, 0x205F), (0x3000, 0x3000)]

def isBlank (c : Char) : Bool := blankRanges.has c

def trimLeft (s : List Char) : List Char := s.dropWhile isBlank

def trimRight (s : List Char) : List Char := (s.reverse.dropWhile isBlank).reverse

def trim (s : List Char) : List Char := trimRight (trimLeft s)

/-- Every run of blanks becomes one space; `inRun` tells that the run has begun already. -/
def collapseFrom : (inRun : Bool) → List Char → List Char
  | _, [] => []
  | inRun, c :: cs =>
    if isBlank c then
      if inRun then collapseFrom true cs else ' ' :: collapseFrom true cs
    else c :: collapseFrom false cs

def collapse (s : List Char) : List Char := collapseFrom false s

def splitAt (separator : Char) : List Char → List (List Char)
  | [] => [[]]
  | c :: cs =>
    match splitAt separator cs with
    | [] => [[c]]
    | piece :: pieces =>
      if c == separator then [] :: piece :: pieces else (c :: piece) :: pieces

def joinWith (separator : List Char) : List (List Char) → List Char
  | [] => []
  | [piece] => piece
  | piece :: pieces => piece ++ separator ++ joinWith separator pieces

def isInfix (needle : List Char) : List Char → Bool
  | [] => needle.isEmpty
  | c :: cs => needle.isPrefixOf (c :: cs) || isInfix needle cs

end RecurringPayments.Text

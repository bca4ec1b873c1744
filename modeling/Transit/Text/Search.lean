import Transit.Text.Blank
import Transit.Text.LowerCase
set_option autoImplicit false

/-!
Searching texts: whether one text occurs in another, and the case-insensitive search of the
listings, in which a blank search finds everything.
-/

namespace Transit.Text

/-- One list of characters occurs in another. -/
def occursIn (needle : List Char) : List Char → Bool
  | [] => needle.isEmpty
  | c :: rest => needle.isPrefixOf (c :: rest) || occursIn needle rest

/-- `needle` occurs in `hay`, letter case disregarded. -/
def containsFolded (hay needle : String) : Bool :=
  occursIn (lower needle).toList (lower hay).toList

/-- The characters split at each occurrence of a separator; there is always at least one part. -/
def splitChars (sep : Char) : List Char → List (List Char)
  | [] => [[]]
  | c :: rest =>
    if c == sep then [] :: splitChars sep rest
    else match splitChars sep rest with
      | [] => [[c]]
      | part :: parts => (c :: part) :: parts

/-- The parts of a text between occurrences of a separator. -/
def split (sep : Char) (s : String) : List String :=
  (splitChars sep s.toList).map String.ofList

end Transit.Text

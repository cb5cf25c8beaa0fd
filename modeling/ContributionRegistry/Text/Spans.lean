import ContributionRegistry.Text.Digits

/-!
# Classes of characters

A class of characters is a list of runs of character numbers. Long classes are written as words, one
to a run: `300-36F` goes from its first number to its last one, `5BF` stands for itself, and all
numbers are hexadecimal. A table of replacements is written in the same way (`Replacement`).

Words are what is left of a text that is cut at its blanks. Such cuts are made elsewhere too
(`pieces`), for instance between the segments of a path.
-/

namespace ContributionRegistry.Text

/-! ### Pieces of a text -/

/-- The pieces of a text between its marks. There is one more of them than there are marks. -/
def pieces {α : Type} (isMark : α → Bool) (text : List α) : List (List α) :=
  text.foldr (fun a cut ↦
    if isMark a then [] :: cut
    else match cut with
      | [] => [[a]]
      | piece :: rest => (a :: piece) :: rest) [[]]

/-- The words of a text, which are apart by spaces or line ends. -/
def words (text : List Char) : List (List Char) :=
  (pieces (fun c ↦ c = ' ' || c = '\n') text).filter fun word ↦ !word.isEmpty

/-- An empty text is one empty piece. -/
theorem pieces_nil {α : Type} (isMark : α → Bool) : pieces isMark [] = [[]] := rfl

/-- A mark at the front cuts off an empty piece. -/
theorem pieces_cons_of_mark {α : Type} {isMark : α → Bool} {a : α} (h : isMark a = true)
    (text : List α) : pieces isMark (a :: text) = [] :: pieces isMark text := by
  simp [pieces, h]

/-! ### Classes -/

/-- A run of character numbers, both ends included. -/
structure Span where
  /-- The first number of the run. -/
  first : Nat
  /-- The last number of the run. -/
  last : Nat
  deriving DecidableEq, Repr

/-- Whether a number lies in a run. -/
def Span.holds (s : Span) (n : Nat) : Bool := s.first ≤ n && n ≤ s.last

/-- Reads a run. -/
def readSpan (word : List Char) : Span :=
  match pieces (· = '-') word with
  | first :: last :: _ => ⟨ofRadix 16 first, ofRadix 16 last⟩
  | _ => ⟨ofRadix 16 word, ofRadix 16 word⟩

/-- Reads a class. -/
def readSpans (table : String) : List Span := (words table.toList).map readSpan

/-- Whether a character belongs to a class. -/
def isWithin (spans : List Span) (c : Char) : Bool := spans.any (·.holds c.toNat)

/-! ### Replacements -/

/-- What characters are replaced by. -/
inductive Replacement where
  /-- Every `step`-th character of a run, each by the one equally far from `target`. -/
  | shift (run : Span) (step target : Nat)
  /-- Each character of a run, by nothing. -/
  | drop (run : Span)
  /-- The characters from `first` on, each by a text of its own. -/
  | spell (first : Nat) (images : List (List Nat))

namespace Replacement

/-- What a character is replaced by, if it is. -/
def image? (r : Replacement) (n : Nat) : Option (List Nat) :=
  match r with
  | shift run step target =>
    if run.holds n && (n - run.first) % step == 0 then some [target + (n - run.first)] else none
  | drop run => if run.holds n then some [] else none
  | spell first images => if first ≤ n then images[n - first]? else none

/-- The characters that are replaced one by one, with their images. -/
def spelled : Replacement → List (Nat × List Nat)
  | spell first images => images.zipIdx.map fun (image, i) ↦ (first + i, image)
  | _ => []

/-- Reads the images of successive characters: commas between the images, plus signs between the
characters of one. -/
def readImages (text : List Char) : List (List Nat) :=
  (pieces (· = ',') text).map fun image ↦
    if image.isEmpty then [] else (pieces (· = '+') image).map (ofRadix 16)

/-- Reads a row: `41-5A:61` and, for every second character, `100-12E*2:101` shift a run,
`FE00-FE0F:` drops one, and `DF:73+73,E0` spells out what `DF` and `E0` become. -/
def read (word : List Char) : Replacement :=
  let source := word.takeWhile (· ≠ ':')
  let target := (word.dropWhile (· ≠ ':')).drop 1
  if !source.contains '-' then spell (ofRadix 16 source) (readImages target)
  else if target.isEmpty then drop (readSpan source)
  else match pieces (· = '*') source with
    | run :: step :: _ => shift (readSpan run) (ofRadix 10 step) (ofRadix 16 target)
    | _ => shift (readSpan source) 1 (ofRadix 16 target)

/-- Reads a table. -/
def readAll (table : String) : List Replacement := (words table.toList).map read

end Replacement

end ContributionRegistry.Text

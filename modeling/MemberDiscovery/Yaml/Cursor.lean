import MemberDiscovery.Text.Blank

/-! # A place in a YAML text

A cursor is what is left of a text together with its line and column. Both matter in YAML: nesting
is by indentation, and a key has to stand on one line.
-/

namespace MemberDiscovery.Yaml

def isBreak (c : Char) : Bool :=
  c = '\r' || c = '\n' || c = '\x85' || c = '\u2028' || c = '\u2029'

def isGap (c : Char) : Bool :=
  c = ' ' || c = '\t'

/-- Ends a word. -/
def isGapOrBreak (c : Char) : Bool :=
  isGap c || isBreak c

/-- May stand in the name of an anchor or a directive. -/
def isWordChar (c : Char) : Bool :=
  c.isAlphanum || c = '_' || c = '-'

/-- A place in a text. -/
structure Cursor where
  /-- The text from here on. -/
  rest : List Char
  /-- How many characters come before. -/
  index : Nat
  line : Nat
  column : Nat
  deriving Repr, Inhabited

namespace Cursor

def start (text : List Char) : Cursor := ⟨text, 0, 0, 0⟩

def skip (count : Nat) (cursor : Cursor) : Cursor :=
  { cursor with
    rest := cursor.rest.drop count
    index := cursor.index + count
    column := cursor.column + count }

def nextLine (count : Nat) (cursor : Cursor) : Cursor :=
  { rest := cursor.rest.drop count
    index := cursor.index + count
    line := cursor.line + 1
    column := 0 }

/-- Reads a line break, if there is one. Carriage return, line feed, both together and next line
are all read as a line feed. -/
def takeBreak (cursor : Cursor) : List Char × Cursor :=
  match cursor.rest with
  | '\r' :: '\n' :: _ => (['\n'], cursor.nextLine 2)
  | c :: _ =>
    if c = '\u2028' ∨ c = '\u2029' then ([c], cursor.nextLine 1)
    else if isBreak c then (['\n'], cursor.nextLine 1)
    else ([], cursor)
  | [] => ([], cursor)

def skipBreak (cursor : Cursor) : Cursor :=
  cursor.takeBreak.2

/-- Reads characters of one line as long as they satisfy `p`, which no line break does. -/
def takeWhile (p : Char → Bool) (cursor : Cursor) : List Char × Cursor :=
  let taken := cursor.rest.takeWhile p
  (taken, cursor.skip taken.length)

def skipWhile (p : Char → Bool) (cursor : Cursor) : Cursor :=
  (cursor.takeWhile p).2

def takeLine (cursor : Cursor) : List Char × Cursor :=
  cursor.takeWhile (!isBreak ·)

def head? (cursor : Cursor) : Option Char :=
  cursor.rest.head?

/-- The character after a number of others. -/
def peek? (offset : Nat) (cursor : Cursor) : Option Char :=
  cursor.rest[offset]?

def isAt (c : Char) (cursor : Cursor) : Bool :=
  cursor.head? == some c

/-- Whether a word ends after a number of characters. -/
def endsWord (offset : Nat) (cursor : Cursor) : Bool :=
  (cursor.peek? offset).all isGapOrBreak

def endsLine (cursor : Cursor) : Bool :=
  cursor.head?.all isBreak

/-- Whether a line of three equal marks, alone or before a gap, begins here. -/
def isMarker (mark : Char) (cursor : Cursor) : Bool :=
  cursor.column == 0 && cursor.rest.take 3 == [mark, mark, mark] && cursor.endsWord 3

/-- Whether a document begins or ends here. -/
def isDocumentMarker (cursor : Cursor) : Bool :=
  cursor.isMarker '-' || cursor.isMarker '.'

/-- Moves over gaps and a comment to the end of the line; fails if anything else is left on it. -/
def skipToNextLine? (cursor : Cursor) : Option Cursor :=
  let cursor := cursor.skipWhile isGap
  let cursor := if cursor.isAt '#' then cursor.takeLine.2 else cursor
  if cursor.endsLine then some cursor.skipBreak else none

end Cursor

end MemberDiscovery.Yaml

import MemberDiscovery.Yaml.Lexeme

/-! # The nesting of a YAML text

In block collections the indentation of a line says where collections begin and end, and a key is
known as a key only when the colon behind it is reached. Here a text becomes a list of tokens with
the borders of block collections and the marks of keys made explicit: a place that may turn out to
be the beginning of a key is remembered, and the mark is put there once the colon comes.
-/

namespace MemberDiscovery.Yaml

/-- A place where a key may begin. -/
structure KeyPlace where
  position : Nat
  cursor : Cursor
  /-- Whether the indentation admits nothing but a key. -/
  required : Bool

/-- A text read in part. -/
structure Reading where
  cursor : Cursor
  /-- The tokens so far, the last first. -/
  tokens : List Token
  /-- The column of the innermost block collection; -1 outside of all. -/
  indent : Int
  /-- The columns of the block collections around it. -/
  outer : List Int
  /-- The possible key of the current level and those of the flow collections around it. -/
  places : List (Option KeyPlace)
  /-- Whether a key may begin here. -/
  keyAllowed : Bool

namespace Reading

def start (text : List Char) : Reading := ⟨.start text, [], -1, [], [none], true⟩

/-- Whether the current collection is a flow collection. -/
def inFlow (reading : Reading) : Bool :=
  1 < reading.places.length

def emit (token : Token) (reading : Reading) : Reading :=
  { reading with tokens := token :: reading.tokens }

/-- Inserts a token before the tokens from a position on. -/
def emitAt (position : Nat) (token : Token) (reading : Reading) : Reading :=
  let later := reading.tokens.length - position
  { reading with tokens := reading.tokens.take later ++ token :: reading.tokens.drop later }

def skip (count : Nat) (reading : Reading) : Reading :=
  { reading with cursor := reading.cursor.skip count }

/-- Allows or forbids a key. -/
def allowKey (keyAllowed : Bool) (reading : Reading) : Reading :=
  { reading with keyAllowed }

/-! ## Places of keys -/

/-- Whether a place can no longer be that of a key: a key stands on one line and has at most 1024
characters. -/
def isStale (cursor : Cursor) (place : KeyPlace) : Bool :=
  place.cursor.line < cursor.line || place.cursor.index + 1024 < cursor.index

/-- Forgets a place, which fails if a key is required there. -/
def forget? : Option KeyPlace → Option (Option KeyPlace)
  | some place => if place.required then none else some none
  | none => some none

/-- Forgets the places that are stale. -/
def forgetStale? (reading : Reading) : Option Reading := do
  let places ← reading.places.mapM fun place =>
    if place.any (isStale reading.cursor) then forget? place else some place
  return { reading with places }

/-- Replaces the place of the current level, where no key is. -/
def replacePlace? (place : Option KeyPlace) (reading : Reading) : Option Reading :=
  match reading.places with
  | old :: places => do
    let _ ← forget? old
    return { reading with places := place :: places }
  | [] => some reading

/-- Forgets the place of the current level. -/
def removePlace? (reading : Reading) : Option Reading :=
  reading.replacePlace? none

/-- Remembers this place if a key may begin here. -/
def savePlace? (reading : Reading) : Option Reading :=
  if reading.keyAllowed then
    reading.replacePlace? (some
      { position := reading.tokens.length
        cursor := reading.cursor
        required := !reading.inFlow && reading.indent == (reading.cursor.column : Int) })
  else some reading

/-! ## Indentation -/

/-- Begins a block collection in a column, unless the current one is there already. Its first token
is at a position. -/
def openBlock (column : Nat) (position : Nat) (token : Token) (reading : Reading) : Reading :=
  if ¬ reading.inFlow ∧ reading.indent < (column : Int) then
    { reading.emitAt position token with
      indent := column
      outer := reading.indent :: reading.outer }
  else reading

/-- Begins a block collection here. -/
def openBlockHere (token : Token) (reading : Reading) : Reading :=
  reading.openBlock reading.cursor.column reading.tokens.length token

/-- Ends the block collections to the right of a column, given the columns around the innermost. -/
def closeBlocks (column : Int) : List Int → Reading → Reading
  | outer :: rest, reading =>
    if column < reading.indent then
      closeBlocks column rest { reading.emit .blockEnd with indent := outer, outer := rest }
    else reading
  | [], reading => reading

def unindent (column : Int) (reading : Reading) : Reading :=
  if reading.inFlow then reading else reading.closeBlocks column reading.outer

/-! ## Tokens -/

/-- Moves to the next token over blanks, comments and empty lines. In a block collection a new line
may begin with a key, and a tab counts as a blank only where no key may begin. -/
def skipBlanks : Nat → Reading → Reading
  | 0, reading => reading
  | fuel + 1, reading =>
    let cursor :=
      if reading.cursor.index = 0 ∧ reading.cursor.isAt '\ufeff' then reading.cursor.skip 1
      else reading.cursor
    -- Where a key may begin, a tab would be indentation.
    let tabCounts := reading.inFlow || !reading.keyAllowed
    let cursor := cursor.skipWhile fun c => c = ' ' || (tabCounts && c = '\t')
    let cursor := if cursor.isAt '#' then cursor.takeLine.2 else cursor
    if cursor.head?.any isBreak then
      skipBlanks fuel
        { reading with
          cursor := cursor.skipBreak
          keyAllowed := reading.keyAllowed || !reading.inFlow }
    else { reading with cursor }

/-- Leaves all block collections, as before a directive or a document marker. -/
def leaveBlocks? (reading : Reading) : Option Reading := do
  let reading ← (reading.unindent (-1)).removePlace?
  return reading.allowKey false

def readEnd? (reading : Reading) : Option Reading := do
  let reading ← reading.leaveBlocks?
  return reading.emit .streamEnd

/-- A token that stands for nested content, which may be the beginning of a key. -/
def readContent? (reading : Reading) (read? : Cursor → Option (Token × Cursor)) :
    Option Reading := do
  let reading ← reading.savePlace?
  let (token, cursor) ← read? reading.cursor
  return { reading.emit token with cursor, keyAllowed := false }

/-- A plain scalar; after a line break a key may begin. -/
def readPlainScalar? (reading : Reading) : Option Reading := do
  let reading ← reading.savePlace?
  let (text, broken, cursor) ← readPlain? reading.inFlow (reading.indent + 1) reading.cursor
  return { reading.emit (.scalar text .plain) with cursor, keyAllowed := broken }

def readBlockScalar? (folded : Bool) (reading : Reading) : Option Reading := do
  let reading ← reading.removePlace?
  let (text, cursor) ← readBlock? folded reading.indent reading.cursor
  return { reading.emit (.scalar text .block) with cursor, keyAllowed := true }

def openFlow? (token : Token) (reading : Reading) : Option Reading := do
  let reading ← reading.savePlace?
  return ({ reading.emit token with places := none :: reading.places, keyAllowed := true }).skip 1

def closeFlow? (token : Token) (reading : Reading) : Option Reading := do
  let reading ← reading.removePlace?
  let places := if reading.inFlow then reading.places.drop 1 else reading.places
  return ({ reading.emit token with places, keyAllowed := false }).skip 1

/-- A comma in a flow collection. -/
def readFlowEntry? (reading : Reading) : Option Reading := do
  let reading ← reading.removePlace?
  return ((reading.emit .flowEntry).allowKey true).skip 1

/-- The mark of an item of a block sequence. -/
def readBlockEntry? (reading : Reading) : Option Reading :=
  if ¬ reading.inFlow ∧ ¬ reading.keyAllowed then none
  else do
    let reading ← (reading.openBlockHere .blockSequenceStart).removePlace?
    return ((reading.emit .blockEntry).allowKey true).skip 1

/-- The mark of an explicit key. -/
def readKey? (reading : Reading) : Option Reading :=
  if ¬ reading.inFlow ∧ ¬ reading.keyAllowed then none
  else do
    let reading ← (reading.openBlockHere .blockMappingStart).removePlace?
    return ((reading.emit .key).allowKey (!reading.inFlow)).skip 1

/-- The mark of a value. If a key has begun on this line, the mark of the key is put before it. -/
def readValue? (reading : Reading) : Option Reading :=
  match reading.places with
  | some place :: places =>
    -- What was read since that place turns out to be a key, perhaps the first of a mapping.
    let reading := { reading.emitAt place.position .key with places := none :: places }
    let reading := reading.openBlock place.cursor.column place.position .blockMappingStart
    some (((reading.emit .value).allowKey false).skip 1)
  | _ =>
    if ¬ reading.inFlow ∧ ¬ reading.keyAllowed then none
    else
      let reading := reading.openBlockHere .blockMappingStart
      some (((reading.emit .value).allowKey (!reading.inFlow)).skip 1)

def readDirectiveLine? (reading : Reading) : Option Reading := do
  let reading ← reading.leaveBlocks?
  let (token, cursor) ← readDirective? reading.cursor
  return { reading.emit token with cursor }

/-- A marker of three characters at the border of a document. -/
def readMarker? (token : Token) (reading : Reading) : Option Reading := do
  let reading ← reading.leaveBlocks?
  return (reading.emit token).skip 3

def isIndicator (c : Char) : Bool :=
  ['-', '?', ':', ',', '[', ']', '\x7b', '\x7d', '#', '&', '*', '!', '|', '>', '\'', '"', '%', '@',
    '\x60'].contains c

/-- Whether a plain scalar begins here. -/
def beginsPlain (reading : Reading) : Bool :=
  match reading.cursor.rest with
  | [] => false
  | c :: rest =>
    !(isGapOrBreak c || isIndicator c)
      || (c = '-' && !rest.head?.any isGap)
      || (!reading.inFlow && (c = '?' || c = ':') && !rest.head?.all isGapOrBreak)

/-- Reads the token that begins with a character. -/
def readToken? (reading : Reading) (c : Char) : Option Reading :=
  let cursor := reading.cursor
  -- Some marks count only if a blank or the end follows.
  let ofWord := cursor.endsWord 1
  if cursor.column = 0 ∧ c = '%' then reading.readDirectiveLine?
  else if cursor.isMarker '-' then reading.readMarker? .documentStart
  else if cursor.isMarker '.' then reading.readMarker? .documentEnd
  else if c = '[' then reading.openFlow? .flowSequenceStart
  else if c = '\x7b' then reading.openFlow? .flowMappingStart
  else if c = ']' then reading.closeFlow? .flowSequenceEnd
  else if c = '\x7d' then reading.closeFlow? .flowMappingEnd
  else if c = ',' then reading.readFlowEntry?
  else if c = '-' ∧ ofWord then reading.readBlockEntry?
  else if c = '?' ∧ (reading.inFlow ∨ ofWord) then reading.readKey?
  else if c = ':' ∧ (reading.inFlow ∨ ofWord) then reading.readValue?
  else if c = '*' then
    reading.readContent? fun cursor => (readAnchor? cursor).map fun (name, c) => (.alias name, c)
  else if c = '&' then
    reading.readContent? fun cursor => (readAnchor? cursor).map fun (name, c) => (.anchor name, c)
  else if c = '!' then
    let inFlow := reading.inFlow
    reading.readContent? fun cursor => (readTag? inFlow cursor).map fun (name, c) => (.tag name, c)
  else if c = '|' ∧ ¬ reading.inFlow then reading.readBlockScalar? false
  else if c = '>' ∧ ¬ reading.inFlow then reading.readBlockScalar? true
  else if c = '\'' ∨ c = '"' then
    reading.readContent? fun cursor =>
      (readQuoted? c cursor).map fun (text, c) => (.scalar text .quoted, c)
  else if reading.beginsPlain then reading.readPlainScalar?
  else none

/-- Reads the rest of the tokens. Every token takes at least one character. -/
def readAll? : Nat → Reading → Option (List Token)
  | 0, _ => none
  | fuel + 1, reading => do
    let reading ← (reading.skipBlanks (reading.cursor.rest.length + 1)).forgetStale?
    -- Blocks end only once the next token shows how far it is indented.
    let reading := reading.unindent reading.cursor.column
    match reading.cursor.head? with
    | none => (reading.readEnd?).map fun reading => reading.tokens.reverse
    | some c => (reading.readToken? c).bind (readAll? fuel)

end Reading

/-- May stand in a YAML text: no control characters other than tabs and line ends, and nothing that
is not a character. -/
def isAllowed (c : Char) : Bool :=
  Text.inRanges [(0x09, 0x0A), (0x0D, 0x0D), (0x20, 0x7E), (0x85, 0x85), (0xA0, 0xD7FF),
    (0xE000, 0xFFFD), (0x10000, 0x10FFFF)] c

/-- The text without a byte order mark at its beginning. -/
def dropMark : List Char → List Char
  | c :: rest => if c = '\ufeff' then rest else c :: rest
  | [] => []

def Token.ofText? (text : String) : Option (List Token) :=
  let chars := dropMark text.toList
  if chars.all isAllowed then (Reading.start chars).readAll? (chars.length + 1) else none

end MemberDiscovery.Yaml

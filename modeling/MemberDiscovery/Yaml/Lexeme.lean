import MemberDiscovery.Yaml.Cursor
import MemberDiscovery.Number.Integer

/-! # The words of a YAML text

Reading of single words: directives, anchors, tags and scalars in their five styles. Each function
starts at the first character of its word and gives the word together with the place after it.
-/

namespace MemberDiscovery.Yaml

/-- How a scalar is written, as far as it matters for its meaning. -/
inductive ScalarStyle where
  | plain
  | quoted
  | block
  deriving DecidableEq, Repr, Inhabited

/-- A tag as written: a handle that stands for a beginning, and the rest. -/
structure TagName where
  handle : String
  suffix : String
  deriving DecidableEq, Repr, Inhabited

/-- A word of a YAML text, or a border of a nested collection. -/
inductive Token where
  | streamEnd
  | version (major minor : Nat)
  | tagHandle (handle beginning : String)
  | documentStart
  | documentEnd
  | blockSequenceStart
  | blockMappingStart
  | blockEnd
  | flowSequenceStart
  | flowSequenceEnd
  | flowMappingStart
  | flowMappingEnd
  | blockEntry
  | flowEntry
  | key
  | value
  | alias (name : String)
  | anchor (name : String)
  | tag (name : TagName)
  | scalar (text : String) (style : ScalarStyle)
  deriving DecidableEq, Repr, Inhabited

/-! ## Anchors and tags -/

/-- Characters that may directly follow the name of an anchor. -/
def endsAnchor (c : Char) : Bool :=
  isGapOrBreak c || ['?', ':', ',', ']', '\x7d', '%', '@', '\x60'].contains c

/-- Reads the name of an anchor or an alias after its mark. -/
def readAnchor? (cursor : Cursor) : Option (String × Cursor) :=
  let (name, cursor) := (cursor.skip 1).takeWhile isWordChar
  if name.isEmpty ∨ ¬ cursor.head?.all endsAnchor then none
  else some (String.ofList name, cursor)

/-- May stand in a tag; between angle brackets also three flow indicators. -/
def isTagChar (bracketed : Bool) (c : Char) : Bool :=
  isWordChar c
    || [';', '/', '?', ':', '@', '&', '=', '+', '$', '.', '%', '!', '~', '*', '\'', '(',
      ')'].contains c
    || (bracketed && [',', '[', ']'].contains c)

def tagOctets? : List Char → Option (List UInt8)
  | [] => some []
  | '%' :: a :: b :: rest => do
    let octet ← Integer.readDigits? 16 0 [a, b]
    let octets ← tagOctets? rest
    return UInt8.ofNat octet :: octets
  | c :: rest =>
    if c = '%' then none
    else (tagOctets? rest).map fun octets => (String.utf8EncodeChar c) ++ octets

def tagText? (chars : List Char) : Option String := do
  let octets ← tagOctets? chars
  String.fromUTF8? (ByteArray.mk octets.toArray)

def readTagText? (bracketed : Bool) (cursor : Cursor) : Option (String × Cursor) := do
  let (chars, cursor) := cursor.takeWhile (isTagChar bracketed)
  let text ← tagText? chars
  return (text, cursor)

/-- Reads what may be a handle: an exclamation mark, a word, and a second mark if there is one. -/
def readHandle (cursor : Cursor) : List Char × Cursor :=
  let (name, cursor) := (cursor.skip 1).takeWhile isWordChar
  if cursor.isAt '!' then ('!' :: name ++ ['!'], cursor.skip 1) else ('!' :: name, cursor)

/-- Reads a tag: in angle brackets, with a handle, or with an exclamation mark alone in front. -/
def readTag? (inFlow : Bool) (cursor : Cursor) : Option (TagName × Cursor) := do
  let (name, cursor) ← do
    if cursor.peek? 1 = some '<' then
      let (text, cursor) ← readTagText? true (cursor.skip 2)
      if text = "" ∨ ¬ cursor.isAt '>' then none
      else some ((⟨"", text⟩ : TagName), cursor.skip 1)
    else
      let (handle, cursor) := readHandle cursor
      let (text, cursor) ← readTagText? false cursor
      if handle.length ≠ 1 ∧ handle.getLast? = some '!' then
        if text = "" then none else some (⟨String.ofList handle, text⟩, cursor)
      else
        let text := String.ofList (handle.drop 1) ++ text
        some (if text = "" then ⟨"", "!"⟩ else ⟨"!", text⟩, cursor)
  if cursor.head?.all isGapOrBreak ∨ (inFlow ∧ cursor.isAt ',') then some (name, cursor) else none

/-! ## Directives -/

def readVersionNumber? (cursor : Cursor) : Option (Nat × Cursor) := do
  let (digits, cursor) := cursor.takeWhile Char.isDigit
  if 9 < digits.length then none
  else
    let number ← Integer.readNat? 10 digits
    return (number, cursor)

/-- Reads the version in a directive. -/
def readVersion? (cursor : Cursor) : Option (Token × Cursor) := do
  let (major, cursor) ← readVersionNumber? (cursor.skipWhile isGap)
  if ¬ cursor.isAt '.' then none
  else
    let (minor, cursor) ← readVersionNumber? (cursor.skip 1)
    return (.version major minor, cursor)

def readTagHandle? (cursor : Cursor) : Option (Token × Cursor) := do
  let cursor := cursor.skipWhile isGap
  if ¬ cursor.isAt '!' then none
  else
    let (handle, cursor) := readHandle cursor
    if handle ≠ ['!'] ∧ handle.getLast? ≠ some '!' then none
    else if ¬ cursor.head?.any isGap then none
    else
      let (beginning, cursor) ← readTagText? true (cursor.skipWhile isGap)
      if beginning = "" ∨ ¬ cursor.endsWord 0 then none
      else return (.tagHandle (String.ofList handle) beginning, cursor)

def readDirective? (cursor : Cursor) : Option (Token × Cursor) := do
  let (name, cursor) := (cursor.skip 1).takeWhile isWordChar
  if ¬ cursor.endsWord 0 then none
  else
    let (token, cursor) ←
      if name = "YAML".toList then readVersion? cursor
      else if name = "TAG".toList then readTagHandle? cursor
      else none
    let cursor ← cursor.skipToNextLine?
    return (token, cursor)

/-! ## Folding -/

/-- Gaps and line breaks between two parts of a scalar. -/
structure Fold where
  broken : Bool
  /-- The gaps before the first line break. -/
  gaps : List Char
  firstBreak : List Char
  laterBreaks : List Char
  /-- Whether a tab stands where indentation is due. -/
  tabbed : Bool

namespace Fold

/-- Nothing between two parts. -/
def none : Fold := ⟨false, [], [], [], false⟩

/-- A line break that is not part of the text. -/
def escaped : Fold := ⟨true, [], [], [], false⟩

/-- Reads gaps and line breaks. `indent` is the column up to which a line has to be indented by
spaces. -/
def read (indent : Int) : Nat → Fold → Cursor → Fold × Cursor
  | 0, fold, cursor => (fold, cursor)
  | fuel + 1, fold, cursor =>
    match cursor.head? with
    | Option.none => (fold, cursor)
    | some c =>
      if isGap c then
        let fold :=
          if fold.broken then
            { fold with tabbed := fold.tabbed || (c = '\t' && (cursor.column : Int) < indent) }
          else { fold with gaps := fold.gaps ++ [c] }
        read indent fuel fold (cursor.skip 1)
      else if isBreak c then
        let (text, cursor) := cursor.takeBreak
        let fold :=
          if fold.broken then { fold with laterBreaks := fold.laterBreaks ++ text }
          else { fold with broken := true, gaps := [], firstBreak := text }
        read indent fuel fold cursor
      else (fold, cursor)

/-- Line breaks as text: a single line feed becomes a space, and of several the first is dropped. -/
def joinBreaks (firstBreak laterBreaks : List Char) : List Char :=
  if firstBreak = ['\n'] then (if laterBreaks.isEmpty then [' '] else laterBreaks)
  else firstBreak ++ laterBreaks

def text (fold : Fold) : List Char :=
  if fold.broken then joinBreaks fold.firstBreak fold.laterBreaks else fold.gaps

end Fold

/-! ## Quoted scalars -/

def simpleEscape? (c : Char) : Option Char :=
  match c with
  | '0' => some '\x00'
  | 'a' => some '\x07'
  | 'b' => some '\x08'
  | 't' | '\t' => some '\t'
  | 'n' => some '\n'
  | 'v' => some '\x0b'
  | 'f' => some '\x0c'
  | 'r' => some '\r'
  | 'e' => some '\x1b'
  | ' ' => some ' '
  | '"' => some '"'
  | '/' => some '/'
  | '\\' => some '\\'
  | 'N' => some '\x85'
  | '_' => some '\xa0'
  | 'L' => some '\u2028'
  | 'P' => some '\u2029'
  | _ => none

/-- How many hexadecimal digits follow the letter of an escape. -/
def escapeLength? (c : Char) : Option Nat :=
  match c with
  | 'x' => some 2
  | 'u' => some 4
  | 'U' => some 8
  | _ => none

def charOfCode? (code : Nat) : Option Char :=
  if code.isValidChar then some (Char.ofNat code) else none

/-- Reads an escape after its backslash. -/
def readEscape? (cursor : Cursor) : Option (Char × Cursor) := do
  let c ← cursor.head?
  let cursor := cursor.skip 1
  match escapeLength? c with
  | some length =>
    let digits := cursor.rest.take length
    if digits.length ≠ length then none
    else
      let code ← Integer.readDigits? 16 0 digits
      let char ← charOfCode? code
      return (char, cursor.skip length)
  | none =>
    let char ← simpleEscape? c
    return (char, cursor)

/-- Reads the rest of a scalar in quotes after what is read already, in reverse. -/
def readQuotedRest? (quote : Char) : Nat → List Char → Cursor → Option (List Char × Cursor)
  | 0, _, _ => none
  | fuel + 1, sofar, cursor =>
    if cursor.isDocumentMarker then none
    else
      match cursor.rest with
      | [] => none
      | c :: rest =>
        if c = quote then
          if quote = '\'' ∧ rest.head? = some '\'' then
            readQuotedRest? quote fuel ('\'' :: sofar) (cursor.skip 2)
          else some (sofar.reverse, cursor.skip 1)
        else if c = '\\' ∧ quote = '"' then
          if rest.head?.any isBreak then
            let cursor := (cursor.skip 1).skipBreak
            let (fold, cursor) := Fold.read 0 cursor.rest.length Fold.escaped cursor
            readQuotedRest? quote fuel (fold.text.reverse ++ sofar) cursor
          else
            match readEscape? (cursor.skip 1) with
            | some (char, cursor) => readQuotedRest? quote fuel (char :: sofar) cursor
            | none => none
        else if isGapOrBreak c then
          let (fold, cursor) := Fold.read 0 cursor.rest.length Fold.none cursor
          readQuotedRest? quote fuel (fold.text.reverse ++ sofar) cursor
        else readQuotedRest? quote fuel (c :: sofar) (cursor.skip 1)

def readQuoted? (quote : Char) (cursor : Cursor) : Option (String × Cursor) := do
  let (chars, cursor) ← readQuotedRest? quote (cursor.rest.length + 1) [] (cursor.skip 1)
  return (String.ofList chars, cursor)

/-! ## Plain scalars -/

/-- Flow indicators that end a plain scalar in a flow collection. -/
def isFlowIndicator (c : Char) : Bool :=
  c = ',' || c = '[' || c = ']' || c = '\x7b' || c = '\x7d'

/-- Whether a plain scalar ends at its next character, which is no gap. -/
def endsPlain (inFlow : Bool) (cursor : Cursor) : Bool :=
  (cursor.isAt ':' && cursor.endsWord 1) || (inFlow && cursor.head?.any isFlowIndicator)

/-- Whether a colon stands where it can neither be part of a plain scalar nor end it. -/
def isStrayColon (inFlow : Bool) (cursor : Cursor) : Bool :=
  inFlow && cursor.isAt ':' && (cursor.peek? 1).any fun c => isFlowIndicator c || c = '?'

/-- Reads the rest of a plain scalar after what is read already, in reverse, and the fold before it.
The answer tells whether a line break was read after the scalar. -/
def readPlainRest? (inFlow : Bool) (indent : Int) :
    Nat → List Char → Fold → Cursor → Option (List Char × Bool × Cursor)
  | 0, _, _, _ => none
  | fuel + 1, sofar, fold, cursor =>
    match cursor.head? with
    | none => some (sofar.reverse, fold.broken, cursor)
    | some c =>
      if isGapOrBreak c then
        let (fold, cursor) := Fold.read indent cursor.rest.length Fold.none cursor
        if fold.tabbed then none
        else if ¬ inFlow ∧ (cursor.column : Int) < indent then
          some (sofar.reverse, fold.broken, cursor)
        else if cursor.isDocumentMarker ∨ cursor.isAt '#' then
          some (sofar.reverse, fold.broken, cursor)
        else readPlainRest? inFlow indent fuel sofar fold cursor
      else if isStrayColon inFlow cursor then none
      else if endsPlain inFlow cursor then some (sofar.reverse, fold.broken, cursor)
      else
        readPlainRest? inFlow indent fuel (c :: fold.text.reverse ++ sofar) Fold.none
          (cursor.skip 1)

def readPlain? (inFlow : Bool) (indent : Int) (cursor : Cursor) :
    Option (String × Bool × Cursor) := do
  let (chars, broken, cursor) ←
    readPlainRest? inFlow indent (2 * cursor.rest.length + 2) [] Fold.none cursor
  return (String.ofList chars, broken, cursor)

/-! ## Block scalars -/

/-- Which line breaks at the end of a block scalar are kept. -/
inductive Chomping where
  | strip
  | clip
  | keep
  deriving DecidableEq, Repr

def readChomping? (cursor : Cursor) : Option (Chomping × Cursor) :=
  if cursor.isAt '+' then some (.keep, cursor.skip 1)
  else if cursor.isAt '-' then some (.strip, cursor.skip 1)
  else none

/-- Reads an indentation indicator, which is not zero; zero stands for its absence. -/
def readIndicator? (cursor : Cursor) : Option (Nat × Cursor) :=
  match cursor.head? with
  | some c =>
    if c = '0' then none
    else if c.isDigit then some (c.toNat - '0'.toNat, cursor.skip 1)
    else some (0, cursor)
  | none => some (0, cursor)

/-- Reads the two indicators of a block scalar, in either order. -/
def readHeader? (cursor : Cursor) : Option (Chomping × Nat × Cursor) :=
  match readChomping? cursor with
  | some (chomping, cursor) => (readIndicator? cursor).map fun (n, cursor) => (chomping, n, cursor)
  | none => do
    let (n, cursor) ← readIndicator? cursor
    if n = 0 then return (.clip, 0, cursor)
    else
      match readChomping? cursor with
      | some (chomping, cursor) => return (chomping, n, cursor)
      | none => return (.clip, n, cursor)

/-- Reads indentation and empty lines. With `indent` zero the indentation is not known yet and every
space belongs to it. Gives the line breaks and the greatest column reached. -/
def readEmptyLines? (indent : Nat) : Nat → List Char → Nat → Cursor →
    Option (List Char × Nat × Cursor)
  | 0, _, _, _ => none
  | fuel + 1, breaks, widest, cursor =>
    let spaces := (cursor.rest.takeWhile (· = ' ')).length
    let cursor := cursor.skip (if indent = 0 then spaces else min spaces (indent - cursor.column))
    let widest := max widest cursor.column
    if (indent = 0 ∨ cursor.column < indent) ∧ cursor.isAt '\t' then none
    else if cursor.head?.any isBreak then
      let (text, cursor) := cursor.takeBreak
      readEmptyLines? indent fuel (breaks ++ text) widest cursor
    else some (breaks, widest, cursor)

/-- The text of a block scalar so far and what may have to be put before its next line. -/
structure BlockText where
  text : List Char
  lineBreak : List Char
  emptyLines : List Char
  /-- Whether the last line began with a gap. -/
  indented : Bool

/-- What is put between two lines of a block scalar. -/
def BlockText.between (folded : Bool) (block : BlockText) (indented : Bool) : List Char :=
  if folded ∧ block.lineBreak = ['\n'] ∧ ¬ block.indented ∧ ¬ indented then
    (if block.emptyLines.isEmpty then [' '] else []) ++ block.emptyLines
  else block.lineBreak ++ block.emptyLines

/-- Reads the lines of a block scalar at a known indentation. -/
def readLines? (folded : Bool) (indent : Nat) :
    Nat → BlockText → Cursor → Option (BlockText × Cursor)
  | 0, _, _ => none
  | fuel + 1, block, cursor =>
    if cursor.column ≠ indent ∨ cursor.rest.isEmpty then some (block, cursor)
    else do
      let indented := cursor.head?.any isGap
      let (line, cursor) := cursor.takeLine
      let text := block.text ++ block.between folded indented ++ line
      let (lineBreak, cursor) := cursor.takeBreak
      let (emptyLines, _, cursor) ← readEmptyLines? indent (cursor.rest.length + 1) [] 0 cursor
      readLines? folded indent fuel ⟨text, lineBreak, emptyLines, indented⟩ cursor

def readBlock? (folded : Bool) (parent : Int) (cursor : Cursor) : Option (String × Cursor) := do
  let (chomping, increment, cursor) ← readHeader? (cursor.skip 1)
  let cursor ← cursor.skipToNextLine?
  let given : Nat := if increment = 0 then 0 else (max parent 0).toNat + increment
  let (breaks, widest, cursor) ← readEmptyLines? given (cursor.rest.length + 1) [] 0 cursor
  let indent : Nat := if given = 0 then max (max widest (parent + 1).toNat) 1 else given
  let (block, cursor) ←
    readLines? folded indent (cursor.rest.length + 1) ⟨[], [], breaks, false⟩ cursor
  let ending := match chomping with
    | .strip => []
    | .clip => block.lineBreak
    | .keep => block.lineBreak ++ block.emptyLines
  return (String.ofList (block.text ++ ending), cursor)

end MemberDiscovery.Yaml

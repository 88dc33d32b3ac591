import MemberDiscovery.Config.PropertySet
import MemberDiscovery.Text.Units

/-! # Properties as lines of text

A text holds one property per logical line. Natural lines end at a line feed, with or without a
carriage return before it; blanks at their beginning are dropped. A natural line that ends in an odd
number of backslashes goes on in the next one, which is then taken as it is; otherwise blank lines
and comments are skipped. The key ends at the first separator that is not escaped. Reading fails
only for bad `\uXXXX` escapes.
-/

namespace MemberDiscovery.PropertyText

def isGap (c : Char) : Bool :=
  c = ' ' || c = '\t' || c = '\x0c'

/-- Ends a key unless it is escaped. -/
def endsKey (c : Char) : Bool :=
  c = '=' || c = ':' || isGap c

/-- The natural lines of a text. Only a line feed ends a line, and it takes one carriage return
before it along. -/
def naturalLines : List Char → List (List Char)
  | [] => []
  | '\n' :: rest => [] :: naturalLines rest
  | '\r' :: '\n' :: rest => [] :: naturalLines rest
  | c :: rest =>
    match naturalLines rest with
    | [] => [[c]]
    | line :: lines => (c :: line) :: lines

/-- Whether a natural line goes on in the next one: it ends in an odd number of backslashes. -/
def continues (line : List Char) : Bool :=
  (line.reverse.takeWhile (· = '\\')).length % 2 = 1

def isSkipped : List Char → Bool
  | [] => true
  | c :: _ => c = '#' || c = '!'

/-- Joins natural lines to logical ones. The first argument is what a continued line has collected,
if there is one; at the end of the text it is a logical line of its own. -/
def logicalLines : Option (List Char) → List (List Char) → List (List Char)
  | none, [] => []
  | some sofar, [] => [sofar]
  | pending, natural :: rest =>
    let line := natural.dropWhile isGap
    if pending.isNone && isSkipped line then logicalLines none rest
    else if continues line then logicalLines (some (pending.getD [] ++ line.dropLast)) rest
    else (pending.getD [] ++ line) :: logicalLines none rest

/-- Splits a logical line before the separator that ends its key. -/
def splitKey : List Char → List Char × List Char
  | [] => ([], [])
  | '\\' :: c :: rest => ('\\' :: c :: (splitKey rest).1, (splitKey rest).2)
  | c :: rest =>
    if endsKey c then ([], c :: rest) else (c :: (splitKey rest).1, (splitKey rest).2)

/-- Drops the separator between key and value: blanks around at most one `=` or `:`. -/
def dropSeparator (chars : List Char) : List Char :=
  match chars.dropWhile isGap with
  | '=' :: rest => rest.dropWhile isGap
  | ':' :: rest => rest.dropWhile isGap
  | rest => rest

/-- Why a key or a value has no meaning. -/
inductive EscapeError where
  /-- An escape without four hexadecimal digits, with what stands in their place. -/
  | malformed (digits : List Char)
  /-- A surrogate that is not part of a pair. -/
  | unpaired
  deriving DecidableEq, Repr

/-- The error of a configuration with a bad escape. -/
def EscapeError.toClientError : EscapeError → ClientError
  | .malformed digits =>
    .invalidConfiguration ("malformed \\uxxxx escape: \\u" ++ String.ofList digits)
  | .unpaired => .invalidConfiguration "unpaired surrogate in \\uxxxx escape"

def textOfUnits (units : List Nat) : Except EscapeError (List Char) :=
  match Text.decodeUnits units with
  | some chars => .ok chars
  | none => .error .unpaired

def escapedChar (c : Char) : Char :=
  if c = 't' then '\t' else if c = 'n' then '\n' else if c = 'r' then '\r'
  else if c = 'f' then '\x0c' else c

/-- Undoes the escapes of a key or a value. The first argument holds the units of the `\uXXXX`
escapes directly before; they are read together, so that surrogate pairs combine. A backslash at the
end stands for nothing. -/
def unescape (units : List Nat) : List Char → Except EscapeError (List Char)
  | [] => textOfUnits units
  | ['\\'] => textOfUnits units
  | '\\' :: 'u' :: a :: b :: c :: d :: rest =>
    match Integer.readDigits? 16 0 [a, b, c, d] with
    | some unit => unescape (units ++ [unit]) rest
    | none => .error (.malformed [a, b, c, d])
  | '\\' :: 'u' :: rest => .error (.malformed rest)
  | '\\' :: c :: rest => do
    let before ← textOfUnits units
    let after ← unescape [] rest
    return before ++ escapedChar c :: after
  | c :: rest => do
    let before ← textOfUnits units
    let after ← unescape [] rest
    return before ++ c :: after

def entry (line : List Char) : Except EscapeError (String × String) := do
  let (key, rest) := splitKey line
  let key ← unescape [] key
  let value ← unescape [] (dropSeparator rest)
  return (String.ofList key, String.ofList value)

def entries (text : String) : Except EscapeError (List (String × String)) :=
  (logicalLines none (naturalLines text.toList)).mapM entry

/-- The property set of a text; of two lines with one key the last counts. -/
def parse (text : String) : Except ClientError PropertySet :=
  match entries text with
  | .ok list => .ok (Table.ofList list)
  | .error error => .error error.toClientError

end MemberDiscovery.PropertyText

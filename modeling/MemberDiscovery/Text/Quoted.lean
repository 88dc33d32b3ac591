import MemberDiscovery.Text.Shown
import MemberDiscovery.Number.Integer

/-! # Quoted text in messages

A message quotes a text between double quotes so that every character can be read off. Characters
that are not shown as themselves are written by code point. Paths escape the apostrophe as well.
-/

namespace MemberDiscovery.Text

/-- A code point as it is written in quoted text, in lower-case hexadecimal. -/
def codePointEscape (c : Char) : List Char :=
  ['\\', 'u', '\x7b'] ++ Integer.digits 16 c.toNat ++ ['\x7d']

def quoteChar (escapeApostrophe : Bool) (c : Char) : List Char :=
  if c = '\x00' then ['\\', '0']
  else if c = '\t' then ['\\', 't']
  else if c = '\r' then ['\\', 'r']
  else if c = '\n' then ['\\', 'n']
  else if c = '\\' ∨ c = '"' ∨ (c = '\'' ∧ escapeApostrophe) then ['\\', c]
  else if isShown c then [c]
  else codePointEscape c

def quote (text : String) : String :=
  String.ofList ('"' :: text.toList.flatMap (quoteChar false) ++ ['"'])

def quotePath (path : String) : String :=
  String.ofList ('"' :: path.toList.flatMap (quoteChar true) ++ ['"'])

def quotePaths (paths : List String) : String :=
  "[" ++ String.intercalate ", " (paths.map quotePath) ++ "]"

end MemberDiscovery.Text

import MemberDiscovery.Yaml.Indentation

/-! # YAML nodes

A `Node` is a part of a YAML document as written: a scalar, a sequence or a mapping with its anchor
and its tag, or an alias. The parameter is what an alias refers by: at first the name of an anchor.
`Node.ofTokens?` reads the one document of a stream.
-/

namespace MemberDiscovery.Yaml

/-- What may be written before the content of a node. -/
structure NodeMarks where
  anchor : Option String
  /-- The tag with its handle replaced by what it stands for. -/
  tag : Option String
  deriving DecidableEq, Repr, Inhabited

/-- A part of a document. -/
inductive Node (Ref : Type) where
  | alias (target : Ref)
  | scalar (marks : NodeMarks) (text : String) (style : ScalarStyle)
  | sequence (marks : NodeMarks) (items : List (Node Ref))
  | mapping (marks : NodeMarks) (entries : List (Node Ref × Node Ref))
  deriving Repr, Inhabited

/-- What tag handles stand for. -/
abbrev TagHandles := List (String × String)

namespace TagHandles

/-- The handles that every document has. -/
def standard : TagHandles := [("!", "!"), ("!!", "tag:yaml.org,2002:")]

/-- The whole tag; `none` if its handle is not defined. -/
def expand? (handles : TagHandles) (name : TagName) : Option String :=
  if name.handle = "" then some name.suffix
  else (handles.lookup name.handle).map (· ++ name.suffix)

end TagHandles

namespace Node

/-- A scalar without text, which stands for an absent node. -/
def absent : Node String := .scalar ⟨none, none⟩ "" .plain

/-- Reads anchor and tag in either order. -/
def readMarks? (handles : TagHandles) : List Token → Option (NodeMarks × List Token)
  | .anchor anchor :: .tag name :: tokens | .tag name :: .anchor anchor :: tokens => do
    let tag ← handles.expand? name
    return (⟨some anchor, some tag⟩, tokens)
  | .anchor anchor :: tokens => some (⟨some anchor, none⟩, tokens)
  | .tag name :: tokens => do
    let tag ← handles.expand? name
    return (⟨none, some tag⟩, tokens)
  | tokens => some (⟨none, none⟩, tokens)

/-- A scalar. The tag that is only an exclamation mark says nothing about a scalar. -/
def ofScalar (marks : NodeMarks) (text : String) (style : ScalarStyle) : Node String :=
  .scalar { marks with tag := marks.tag.filter (· ≠ "!") } text style

/-- Where a node stands. -/
inductive Context where
  /-- In a flow collection. -/
  | flow
  /-- In a document or an item of a block collection. -/
  | block
  /-- A key or a value of a block mapping, which may be a sequence that is not indented. -/
  | entry
  deriving DecidableEq

mutual

/-- Reads a node. -/
def read? (handles : TagHandles) :
    Nat → Context → List Token → Option (Node String × List Token)
  | 0, _, _ => none
  | fuel + 1, context, tokens =>
    match tokens with
    | .alias name :: tokens => some (.alias name, tokens)
    | _ => do
      let (marks, tokens) ← readMarks? handles tokens
      match tokens with
      | .scalar text style :: tokens => return (ofScalar marks text style, tokens)
      | .flowSequenceStart :: tokens =>
        let (items, tokens) ← readFlowItems? handles fuel true tokens
        return (.sequence marks items, tokens)
      | .flowMappingStart :: tokens =>
        let (entries, tokens) ← readFlowEntries? handles fuel true tokens
        return (.mapping marks entries, tokens)
      | .blockSequenceStart :: rest =>
        if context = .flow then readNothing? marks tokens
        else
          let (items, tokens) ← readBlockItems? handles fuel rest
          return (.sequence marks items, tokens)
      | .blockMappingStart :: rest =>
        if context = .flow then readNothing? marks tokens
        else
          let (entries, tokens) ← readBlockEntries? handles fuel rest
          return (.mapping marks entries, tokens)
      | .blockEntry :: _ =>
        if context = .entry then
          let (items, tokens) ← readPlainItems? handles fuel tokens
          return (.sequence marks items, tokens)
        else readNothing? marks tokens
      | _ => readNothing? marks tokens

/-- An anchor or a tag may stand alone. -/
def readNothing? (marks : NodeMarks) (tokens : List Token) :
    Option (Node String × List Token) :=
  if marks = ⟨none, none⟩ then none else some (.scalar marks "" .plain, tokens)

def readBlockItems? (handles : TagHandles) :
    Nat → List Token → Option (List (Node String) × List Token)
  | 0, _ => none
  | fuel + 1, tokens =>
    match tokens with
    | .blockEnd :: tokens => some ([], tokens)
    | .blockEntry :: tokens => do
      let (item, tokens) ← match tokens with
        | .blockEntry :: _ | .blockEnd :: _ => some (absent, tokens)
        | _ => read? handles fuel .block tokens
      let (items, tokens) ← readBlockItems? handles fuel tokens
      return (item :: items, tokens)
    | _ => none

/-- Reads the items of a sequence that is not indented. -/
def readPlainItems? (handles : TagHandles) :
    Nat → List Token → Option (List (Node String) × List Token)
  | 0, _ => none
  | fuel + 1, tokens =>
    match tokens with
    | .blockEntry :: tokens => do
      let (item, tokens) ← match tokens with
        | .blockEntry :: _ | .key :: _ | .value :: _ | .blockEnd :: _ => some (absent, tokens)
        | _ => read? handles fuel .block tokens
      let (items, tokens) ← readPlainItems? handles fuel tokens
      return (item :: items, tokens)
    | _ => some ([], tokens)

/-- Reads a key or a value of a block mapping, which may be absent. -/
def readBlockPart? (handles : TagHandles) :
    Nat → List Token → Option (Node String × List Token)
  | 0, _ => none
  | fuel + 1, tokens =>
    match tokens with
    | .key :: _ | .value :: _ | .blockEnd :: _ => some (absent, tokens)
    | _ => read? handles fuel .entry tokens

def readBlockEntries? (handles : TagHandles) :
    Nat → List Token → Option (List (Node String × Node String) × List Token)
  | 0, _ => none
  | fuel + 1, tokens =>
    match tokens with
    | .blockEnd :: tokens => some ([], tokens)
    | .key :: tokens => do
      let (key, tokens) ← readBlockPart? handles fuel tokens
      let (value, tokens) ← match tokens with
        | .value :: tokens => readBlockPart? handles fuel tokens
        | _ => some (absent, tokens)
      let (entries, tokens) ← readBlockEntries? handles fuel tokens
      return ((key, value) :: entries, tokens)
    | _ => none

/-- Reads the items of a flow sequence and its end. An item with a marked key is a mapping of one
entry; if that key is absent, the token in its place is passed over whatever it is. -/
def readFlowItems? (handles : TagHandles) :
    Nat → Bool → List Token → Option (List (Node String) × List Token)
  | 0, _, _ => none
  | fuel + 1, isFirst, tokens =>
    match tokens with
    | .flowSequenceEnd :: tokens => some ([], tokens)
    | _ => do
      let tokens ← if isFirst then some tokens else readComma? tokens
      match tokens with
      | .flowSequenceEnd :: tokens => return ([], tokens)
      | .key :: tokens =>
        let (key, tokens) ← match tokens with
          | .value :: tokens | .flowEntry :: tokens | .flowSequenceEnd :: tokens =>
            some (absent, tokens)
          | _ => read? handles fuel .flow tokens
        let (value, tokens) ← match tokens with
          | .value :: tokens =>
            match tokens with
            | .flowEntry :: _ | .flowSequenceEnd :: _ => some (absent, tokens)
            | _ => read? handles fuel .flow tokens
          | _ => some (absent, tokens)
        let (items, tokens) ← readFlowItems? handles fuel false tokens
        return (.mapping ⟨none, none⟩ [(key, value)] :: items, tokens)
      | _ =>
        let (item, tokens) ← read? handles fuel .flow tokens
        let (items, tokens) ← readFlowItems? handles fuel false tokens
        return (item :: items, tokens)

def readComma? : List Token → Option (List Token)
  | .flowEntry :: tokens => some tokens
  | _ => none

/-- Reads the entries of a flow mapping and its end. Without the mark of a key there is no value. -/
def readFlowEntries? (handles : TagHandles) :
    Nat → Bool → List Token → Option (List (Node String × Node String) × List Token)
  | 0, _, _ => none
  | fuel + 1, isFirst, tokens =>
    match tokens with
    | .flowMappingEnd :: tokens => some ([], tokens)
    | _ => do
      let tokens ← if isFirst then some tokens else readComma? tokens
      match tokens with
      | .flowMappingEnd :: tokens => return ([], tokens)
      | .key :: tokens =>
        let (key, tokens) ← match tokens with
          | .value :: _ | .flowEntry :: _ | .flowMappingEnd :: _ => some (absent, tokens)
          | _ => read? handles fuel .flow tokens
        let (value, tokens) ← match tokens with
          | .value :: tokens =>
            match tokens with
            | .flowEntry :: _ | .flowMappingEnd :: _ => some (absent, tokens)
            | _ => read? handles fuel .flow tokens
          | _ => some (absent, tokens)
        let (entries, tokens) ← readFlowEntries? handles fuel false tokens
        return ((key, value) :: entries, tokens)
      | _ =>
        let (key, tokens) ← read? handles fuel .flow tokens
        let (entries, tokens) ← readFlowEntries? handles fuel false tokens
        return ((key, absent) :: entries, tokens)

end

/-! ## Documents -/

/-- Reads the directives before a document. A version is given at most once and is 1.1 or 1.2; a
handle is defined at most once. -/
def readDirectives? (versioned : Bool) (handles : TagHandles) :
    List Token → Option (TagHandles × List Token)
  | .version major minor :: tokens =>
    if versioned ∨ major ≠ 1 ∨ (minor ≠ 1 ∧ minor ≠ 2) then none
    else readDirectives? true handles tokens
  | .tagHandle handle beginning :: tokens =>
    if (handles.lookup handle).isSome then none
    else readDirectives? versioned (handles ++ [(handle, beginning)]) tokens
  | tokens => some (handles, tokens)

/-- Whether the content of a document is absent before a token. -/
def endsDocument : Token → Bool
  | .version _ _ | .tagHandle _ _ | .documentStart | .documentEnd | .streamEnd => true
  | _ => false

/-- More than the deepest chain of readers on a list of tokens. -/
def enoughFuel (tokens : List Token) : Nat :=
  3 * tokens.length + 3

def readContent? (handles : TagHandles) (tokens : List Token) :
    Option (Node String × List Token) :=
  if tokens.head?.any endsDocument then some (absent, tokens)
  else read? (handles ++ TagHandles.standard) (enoughFuel tokens) .block tokens

/-- Whether nothing follows a document but markers of its end. -/
def isLast : List Token → Bool
  | .documentEnd :: tokens => isLast tokens
  | [.streamEnd] => true
  | _ => false

/-- Reads the document of a stream that is not empty. -/
def readDocument? (tokens : List Token) : Option (Node String × List Token) :=
  match tokens with
  | .version _ _ :: _ | .tagHandle _ _ :: _ | .documentStart :: _ => do
    let (handles, tokens) ← readDirectives? false [] tokens
    match tokens with
    | .documentStart :: tokens => readContent? handles tokens
    | _ => none
  | _ => read? TagHandles.standard (enoughFuel tokens) .block tokens

/-- The one document of a stream. A stream without one is an absent node. -/
def ofTokens? (tokens : List Token) : Option (Node String) :=
  match tokens with
  | [.streamEnd] => some absent
  | _ => do
    let (node, tokens) ← readDocument? tokens
    if isLast tokens then return node else none

end Node

end MemberDiscovery.Yaml

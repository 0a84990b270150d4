import KubeManifest.Yaml.Token

/-!
# The nodes of a YAML document

* `Node` : a scalar as it was written, a list, a mapping, or an alias;
* `Node.parse` : the node at the beginning of some tokens;
* `Document.implicit?`, `Document.after` : the first document of a stream, and the next one after another; the stream
  ends, breaks off or has one more document.

Every function consumes tokens; their number bounds the recursion.
-/

namespace KubeManifest.Yaml

/-- What stands before a node: an anchor and a tag. -/
structure Props where
  anchor : Option String := none
  tag : Option String := none
  offset : Nat := 0
deriving DecidableEq, Repr

inductive Node
  | scalar (props : Props) (text : String) (style : TextStyle) (version : Version)
  | list (props : Props) (items : List Node)
  | map (props : Props) (entries : List (Node × Node))
  | reference (name : String)
deriving Repr

namespace Node

/-- A node left out: the empty plain text. -/
def absent (props : Props := {}) : Node :=
  .scalar props "" .plain .v12

abbrev Result := Option (Node × List Token)

def peek (ts : List Token) : Token.Kind :=
  match ts with
  | t :: _ => t.kind
  | [] => .broken

/-- The anchor and tag before a node, in either order. -/
def takeProps (ts : List Token) : Props × List Token :=
  match ts with
  | ⟨.anchor a, o, _⟩ :: ⟨.tag t, _, _⟩ :: rest => (⟨some a, some t, o⟩, rest)
  | ⟨.tag t, o, _⟩ :: ⟨.anchor a, _, _⟩ :: rest => (⟨some a, some t, o⟩, rest)
  | ⟨.anchor a, o, _⟩ :: rest => (⟨some a, none, o⟩, rest)
  | ⟨.tag t, o, _⟩ :: rest => (⟨none, some t, o⟩, rest)
  | t :: rest => (⟨none, none, t.offset⟩, t :: rest)
  | [] => ({}, [])

mutual

/-- A node. Blocks are allowed with `block`, and with `dashes` a list that is not indented. -/
def parse (block dashes : Bool) : Nat → List Token → Result
  | 0, _ => none
  | fuel + 1, ts =>
    match ts with
    | ⟨.reference name, _, _⟩ :: rest => some (.reference name, rest)
    | _ =>
      let (props, rest) := takeProps ts
      let bare := props.anchor.isNone && props.tag.isNone
      match rest with
      | ⟨.blockEntry, _, _⟩ :: _ =>
        if dashes then dashItems props [] fuel rest
        else if bare then none else some (absent props, rest)
      | ⟨.scalar text style, _, version⟩ :: rest => some (.scalar props text style version, rest)
      | ⟨.openSequence, _, _⟩ :: rest => flowItems props true [] fuel rest
      | ⟨.openMapping, _, _⟩ :: rest => flowEntries props true [] fuel rest
      | ⟨.blockSequence, _, _⟩ :: more =>
        if block then blockItems props [] fuel more
        else if bare then none else some (absent props, rest)
      | ⟨.blockMapping, _, _⟩ :: more =>
        if block then blockEntries props [] fuel more
        else if bare then none else some (absent props, rest)
      | _ => if bare then none else some (absent props, rest)

def blockItems (props : Props) (acc : List Node) : Nat → List Token → Result
  | 0, _ => none
  | fuel + 1, ts =>
    match ts with
    | ⟨.blockEntry, _, _⟩ :: rest =>
      match peek rest with
      | .blockEntry | .blockEnd => blockItems props (absent :: acc) fuel rest
      | _ => do
        let (item, rest) ← parse true false fuel rest
        blockItems props (item :: acc) fuel rest
    | ⟨.blockEnd, _, _⟩ :: rest => some (.list props acc.reverse, rest)
    | _ => none

/-- The items of a list that is not indented. -/
def dashItems (props : Props) (acc : List Node) : Nat → List Token → Result
  | 0, _ => none
  | fuel + 1, ts =>
    match ts with
    | ⟨.blockEntry, _, _⟩ :: rest =>
      match peek rest with
      | .blockEntry | .key | .value | .blockEnd => dashItems props (absent :: acc) fuel rest
      | _ => do
        let (item, rest) ← parse true false fuel rest
        dashItems props (item :: acc) fuel rest
    | _ => some (.list props acc.reverse, ts)

def blockEntries (props : Props) (acc : List (Node × Node)) : Nat → List Token → Result
  | 0, _ => none
  | fuel + 1, ts =>
    match ts with
    | ⟨.key, _, _⟩ :: rest =>
      match peek rest with
      | .key | .value | .blockEnd => blockValue props absent acc fuel rest
      | _ => do
        let (key, rest) ← parse true true fuel rest
        blockValue props key acc fuel rest
    | ⟨.value, _, version⟩ :: _ =>
      if version == .v11 then none else blockValue props absent acc fuel ts
    | ⟨.blockEnd, _, _⟩ :: rest => some (.map props acc.reverse, rest)
    | _ => none

/-- The value of a key of a block mapping, and the entries after it. -/
def blockValue (props : Props) (key : Node) (acc : List (Node × Node)) : Nat → List Token → Result
  | 0, _ => none
  | fuel + 1, ts =>
    match ts with
    | ⟨.value, _, _⟩ :: rest =>
      match peek rest with
      | .key | .value | .blockEnd => blockEntries props ((key, absent) :: acc) fuel rest
      | _ => do
        let (value, rest) ← parse true true fuel rest
        blockEntries props ((key, value) :: acc) fuel rest
    | _ => blockEntries props ((key, absent) :: acc) fuel ts

def flowItems (props : Props) (first : Bool) (acc : List Node) : Nat → List Token → Result
  | 0, _ => none
  | fuel + 1, ts =>
    match ts with
    | ⟨.closeSequence, _, _⟩ :: rest => some (.list props acc.reverse, rest)
    | _ => do
      let ts ←
        if first then some ts
        else match ts with
          | ⟨.flowEntry, _, _⟩ :: rest => some rest
          | _ => none
      match ts with
      | ⟨.closeSequence, _, _⟩ :: rest => some (.list props acc.reverse, rest)
      | ⟨.key, offset, _⟩ :: rest =>
        let (key, rest) ←
          match peek rest with
          | .value | .flowEntry | .closeSequence => some (absent, rest)
          | _ => parse false false fuel rest
        let (value, rest) ←
          match rest with
          | ⟨.value, _, _⟩ :: rest =>
            match peek rest with
            | .flowEntry | .closeSequence => some (absent, rest)
            | _ => parse false false fuel rest
          | _ => some (absent, rest)
        flowItems props false (.map { offset := offset } [(key, value)] :: acc) fuel rest
      | _ =>
        let (item, rest) ← parse false false fuel ts
        flowItems props false (item :: acc) fuel rest

/-- The entries of a mapping between brackets. -/
def flowEntries (props : Props) (first : Bool) (acc : List (Node × Node)) :
    Nat → List Token → Result
  | 0, _ => none
  | fuel + 1, ts =>
    match ts with
    | ⟨.closeMapping, _, _⟩ :: rest => some (.map props acc.reverse, rest)
    | _ => do
      let ts ←
        if first then some ts
        else match ts with
          | ⟨.flowEntry, _, _⟩ :: rest => some rest
          | _ => none
      match ts with
      | ⟨.closeMapping, _, _⟩ :: rest => some (.map props acc.reverse, rest)
      | ⟨.key, _, _⟩ :: rest =>
        match peek rest with
        | .value | .flowEntry | .closeMapping => flowValue props absent acc fuel rest
        | _ =>
          let (key, rest) ← parse false false fuel rest
          flowValue props key acc fuel rest
      | ⟨.value, _, .v12⟩ :: _ => flowValue props absent acc fuel ts
      | ⟨.value, _, .other⟩ :: _ => flowValue props absent acc fuel ts
      | _ =>
        let (key, rest) ← parse false false fuel ts
        flowEntries props false ((key, absent) :: acc) fuel rest

/-- The value of a key of a mapping between brackets, and the entries after it. -/
def flowValue (props : Props) (key : Node) (acc : List (Node × Node)) : Nat → List Token → Result
  | 0, _ => none
  | fuel + 1, ts =>
    match ts with
    | ⟨.value, _, _⟩ :: rest =>
      match peek rest with
      | .flowEntry | .closeMapping => flowEntries props false ((key, absent) :: acc) fuel rest
      | _ => do
        let (value, rest) ← parse false false fuel rest
        flowEntries props false ((key, value) :: acc) fuel rest
    | _ => flowEntries props false ((key, absent) :: acc) fuel ts

end

end Node

/-! ## Documents -/

namespace Document

inductive Next
  | finished
  | broken
  | document (root : Node) (rest : List Token)
deriving Repr

/-- The directives before a document; one version at most, of which the major number is known. -/
def takeDirectives (seen : Bool) : List Token → Option (List Token)
  | ⟨.directive isVersion supported, _, _⟩ :: rest =>
    if isVersion && (seen || !supported) then none else takeDirectives (seen || isVersion) rest
  | ts => some ts

/-- The content of a document and its end. Whether an implicit document may follow is told by the
end marker. -/
def content (ts : List Token) : Next :=
  let parsed : Node.Result := match Node.peek ts with
    | .directive _ _ | .documentStart | .documentEnd | .streamEnd => some (.absent, ts)
    | _ => Node.parse true false (4 * ts.length + 4) ts
  match parsed with
  | none => .broken
  | some (root, rest) => .document root rest

/-- A document that begins with its marker, after any number of end markers. -/
def explicit? (ts : List Token) : Next :=
  let ts := ts.dropWhile (·.kind == .documentEnd)
  match Node.peek ts with
  | .streamEnd => .finished
  | _ =>
    match takeDirectives false ts with
    | some (⟨.documentStart, _, _⟩ :: rest) => content rest
    | _ => .broken

/-- A document that may begin without a marker. -/
def implicit? (ts : List Token) : Next :=
  match Node.peek ts with
  | .directive _ _ | .documentStart | .streamEnd => explicit? ts
  | _ =>
    match Node.parse true false (4 * ts.length + 4) ts with
    | none => .broken
    | some (root, rest) => .document root rest

/-- What follows a document, which its end marker decides in version 1.2. -/
def after (ts : List Token) : Next :=
  match ts with
  | ⟨.documentEnd, _, version⟩ :: rest =>
    if version == .v11 then explicit? rest else implicit? rest
  | ts => explicit? ts

end Document

end KubeManifest.Yaml

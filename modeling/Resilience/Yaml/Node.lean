import Resilience.Yaml.Token

/-! YAML tokens as a document. An alias stands for the node that its anchor was put on last. -/

namespace Resilience.Yaml

structure Reading where
  tokens : List Token
  anchors : List (String × Document) := []
  /-- Shorthands for the beginnings of tags. -/
  handles : List (String × String)

abbrev Parse (α : Type) := StateT Reading Option α

def standardHandles : List (String × String) := [("!", "!"), ("!!", "tag:yaml.org,2002:")]

def absent : Document := .written { text := "", plain := true }

namespace Parse

def peek : Parse (Option Token) := do return (← get).tokens.head?

def advance : Parse Unit := modify fun s => { s with tokens := s.tokens.tail }

def take (t : Token) : Parse Bool := do
  if (← peek) == some t then
    advance
    return true
  else return false

def expect (t : Token) : Parse Unit := do
  if !(← take t) then failure

def nextIs (ts : List Token) : Parse Bool := do
  match ← peek with
  | some t => return ts.contains t
  | none => return ts.isEmpty

/-- An anchor is known from where it stands, inside its own node too. -/
def name (anchor : String) (d : Document) : Parse Unit :=
  modify fun s => { s with anchors := (anchor, d) :: s.anchors }

def nameIf (anchor : Option String) (d : Document) : Parse Document := do
  match anchor with
  | some a => name a d
  | none => pure ()
  return d

def fullTag (handle suffix : String) : Parse String := do
  if handle.isEmpty then return suffix
  match (← get).handles.lookup handle with
  | some expansion => return expansion ++ suffix
  | none => failure

def properties : Parse (Option String × Option String) := do
  match ← peek with
  | some (.anchor a) =>
    advance
    match ← peek with
    | some (.tag handle suffix) =>
      advance
      return (some a, some (← fullTag handle suffix))
    | _ => return (some a, none)
  | some (.tag handle suffix) =>
    advance
    let tag ← fullTag handle suffix
    match ← peek with
    | some (.anchor a) =>
      advance
      return (some a, some tag)
    | _ => return (none, some tag)
  | _ => return (none, none)

def tagged (tag : Option String) (d : Document) : Document :=
  match tag with
  | some t => if t.startsWith "!" then .tagged t d else d
  | none => d

structure Place where
  block : Bool
  /-- A list may begin here without further indentation. -/
  flush : Bool := false

def inBlock : Place := ⟨true, false⟩
def inFlow : Place := ⟨false, false⟩
def inMap : Place := ⟨true, true⟩

def nodeUnless (ts : List Token) (node : Parse Document) : Parse Document := do
  if ← nextIs ts then return absent else node

mutual

def node : Nat → Place → Parse Document
  | 0, _ => failure
  | fuel + 1, p => do
    match ← peek with
    | some (.alias a) =>
      advance
      (← get).anchors.lookup a
    | _ =>
      let (anchor, tag) ← properties
      let _ ← nameIf anchor .null
      let whole (d : Document) : Parse Document := nameIf anchor (tagged tag d)
      match ← peek with
      | some (.scalar text plain literal) =>
        advance
        nameIf anchor (.written { text, plain, literal, tag })
      | some .flowList =>
        advance
        whole (.list false (← flowItems fuel true))
      | some .flowMap =>
        advance
        whole (.map (← flowEntries fuel true))
      | some .blockItem =>
        if p.flush then whole (.list false (← flushItems fuel)) else bare anchor tag
      | some .blockList =>
        if p.block then
          advance
          whole (.list false (← blockItems fuel))
        else bare anchor tag
      | some .blockMap =>
        if p.block then
          advance
          whole (.map (← blockEntries fuel))
        else bare anchor tag
      | _ => bare anchor tag

def bare (anchor tag : Option String) : Parse Document := do
  if anchor.isNone && tag.isNone then failure
  nameIf anchor (.written { text := "", plain := true, tag })

def blockItems : Nat → Parse (List Document)
  | 0 => failure
  | fuel + 1 => do
    if ← take .blockEnd then return []
    expect .blockItem
    let d ← nodeUnless [.blockItem, .blockEnd] (node fuel inBlock)
    return d :: (← blockItems fuel)

def flushItems : Nat → Parse (List Document)
  | 0 => failure
  | fuel + 1 => do
    if ← take .blockItem then
      let d ← nodeUnless [.blockItem, .key, .value, .blockEnd] (node fuel inBlock)
      return d :: (← flushItems fuel)
    else return []

def blockEntries : Nat → Parse (List (Document × Document))
  | 0 => failure
  | fuel + 1 => do
    if ← take .blockEnd then return []
    let ends := [Token.key, .value, .blockEnd]
    expect .key
    let k ← nodeUnless ends (node fuel inMap)
    let v ← if ← take .value then nodeUnless ends (node fuel inMap) else pure absent
    return (k, v) :: (← blockEntries fuel)

def flowItems : Nat → Bool → Parse (List Document)
  | 0, _ => failure
  | fuel + 1, first => do
    if ← take .flowListEnd then return []
    if !first then
      expect .flowItem
      if ← take .flowListEnd then return []
    let d ← if ← take .key then flowPair fuel else node fuel inFlow
    return d :: (← flowItems fuel false)

def flowPair : Nat → Parse Document
  | 0 => failure
  | fuel + 1 => do
    let k ← if ← nextIs [.value, .flowItem, .flowListEnd] then do
        advance
        pure absent
      else node fuel inFlow
    let v ← if ← take .value then nodeUnless [.flowItem, .flowListEnd] (node fuel inFlow)
      else pure absent
    return .map [(k, v)]

def flowEntries : Nat → Bool → Parse (List (Document × Document))
  | 0, _ => failure
  | fuel + 1, first => do
    if ← take .flowMapEnd then return []
    if !first then
      expect .flowItem
      if ← take .flowMapEnd then return []
    if ← take .key then
      let k ← nodeUnless [.value, .flowItem, .flowMapEnd] (node fuel inFlow)
      let v ← if ← take .value then nodeUnless [.flowItem, .flowMapEnd] (node fuel inFlow)
        else pure absent
      return (k, v) :: (← flowEntries fuel false)
    else
      let k ← node fuel inFlow
      return (k, absent) :: (← flowEntries fuel false)

end

/-- The directives before a document; versions other than 1.1 and 1.2 are not known. -/
def directives : Nat → Bool → Parse Bool
  | 0, _ => failure
  | fuel + 1, versioned => do
    match ← peek with
    | some (.version major minor) =>
      if versioned || major != 1 || (minor != 1 && minor != 2) then failure
      advance
      let _ ← directives fuel true
      return true
    | some (.tagShorthand handle expansion) =>
      if (standardHandles.lookup handle).isNone && ((← get).handles.lookup handle).isSome then
        failure
      advance
      modify fun s => { s with handles := (handle, expansion) :: s.handles }
      let _ ← directives fuel versioned
      return true
    | _ => return false

def skipEnds : Nat → Parse Unit
  | 0 => failure
  | fuel + 1 => do if ← take .documentEnd then skipEnds fuel

/-- The only document of a text. No text at all is a document without content. -/
def document (fuel : Nat) : Parse Document := do
  let given ← directives fuel false
  let started ← take .documentStart
  if given && !started then failure
  let ends := [Token.documentStart, .documentEnd]
  let d ← if (← peek).isNone || (started && (← nextIs ends)) then pure absent else node fuel inBlock
  skipEnds fuel
  if (← peek).isSome then failure
  return d

end Parse

def read? (text : String) : Option Document := do
  let tokens ← tokens? text
  let fuel := 4 * tokens.length + 16
  let (d, _) ← (Parse.document fuel).run { tokens, handles := standardHandles }
  return d

end Resilience.Yaml

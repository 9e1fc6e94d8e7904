import SignalFlow.Yaml.Scalar

/-! # Reading YAML

`Yaml.parse?` reads a YAML text of one document into a `Value`. It knows mappings and sequences in
blocks and in flow, plain and quoted scalars and comments; anchors, tags, literal blocks and
explicit keys it does not read. A mapping keeps the first place and the last value of a repeated
key; a key that is no text counts by the text that JSON writes for it.

A block collection is known by its column: its entries begin there, and what lies deeper belongs to
them. A sequence may stand at the very column of the mapping whose value it is.
-/

namespace SignalFlow.Yaml

/-- Whether a character may stand in a text. -/
def isAllowed (c : Char) : Bool :=
  let n := c.toNat
  c == '\t' || c == '\n' || c == '\r' || (0x20 ≤ n && n ≤ 0x7E) || n == 0x85 ||
    (0xA0 ≤ n && n ≤ 0xD7FF) || (0xE000 ≤ n && n ≤ 0xFFFD) || 0x10000 ≤ n

/-- The longest key that is known by the colon behind it. -/
def keyLimit : Nat := 1024

/-- The text of a key. A list or mapping is none. -/
def keyText? : Value → Option String
  | .null => some "null"
  | .bool truth => some (if truth then "true" else "false")
  | .list _ | .mapping _ => none
  | value => some value.written

/-- Reads a scalar. `least` is the column from which on a plain one may go on in a further line. -/
def readScalar (inFlow : Bool) (least : Nat) (cursor : Cursor) : Option (Value × Cursor) :=
  let fuel := cursor.rest.length + 1
  match cursor.rest with
  | '"' :: _ => (readDouble fuel [] cursor.next).map fun (text, cursor) => (.text text, cursor)
  | '\x27' :: _ => (readSingle fuel [] cursor.next).map fun (text, cursor) => (.text text, cursor)
  | _ =>
      if startsPlain inFlow cursor.rest then
        let (letters, cursor) := readPlain inFlow least fuel [] cursor
        (plainValue? (String.ofList letters.reverse)).map fun value => (value, cursor)
      else none

/-- What follows the colon that makes what was read from one place to another a key. -/
def colonBehind? (inFlow : Bool) (before after : Cursor) : Option Cursor :=
  let cursor := after.skipSpaces
  match cursor.rest with
  | ':' :: rest =>
      let isKey := cursor.line == before.line && (inFlow || startsGap rest) &&
        before.rest.length ≤ cursor.rest.length + keyLimit
      if isKey then some cursor.next else none
  | _ => none

/-! ## Flow -/

/-- The closing bracket of an opening one. -/
def closing? : Char → Option Char
  | '[' => some ']'
  | '\x7b' => some '\x7d'
  | _ => none

mutual

/-- Reads a node in flow: a list, a mapping or a scalar. -/
def readFlow : Nat → Cursor → Option (Value × Cursor)
  | 0, _ => none
  | fuel + 1, cursor =>
      match cursor.rest.head?.bind closing? with
      | some ']' => readFlowItems fuel [] cursor.next
      | some _ => readFlowEntries fuel [] cursor.next
      | none => readScalar true 0 cursor

/-- Reads the value behind a colon in flow, null if there is none. -/
def readFlowValue : Nat → Cursor → Option (Value × Cursor)
  | 0, _ => none
  | fuel + 1, cursor =>
      let cursor := cursor.skip
      match cursor.rest with
      | c :: _ => if ",]\x7d".contains c then some (.null, cursor) else readFlow fuel cursor
      | [] => none

/-- Reads the rest of a list in flow; the items so far are given, last one first. -/
def readFlowItems : Nat → List Value → Cursor → Option (Value × Cursor)
  | 0, _, _ => none
  | fuel + 1, items, cursor =>
      let cursor := cursor.skip
      match cursor.rest with
      | ']' :: _ => some (.list items.reverse, cursor.next)
      | _ => do
          let (item, behind) ← readFlow fuel cursor
          let (item, behind) ← match colonBehind? true cursor behind with
            | some behind => do
                let key ← keyText? item
                let (value, behind) ← readFlowValue fuel behind
                pure (Value.mapping [(key, value)], behind)
            | none => pure (item, behind)
          let behind := behind.skip
          match behind.rest with
          | ',' :: _ => readFlowItems fuel (item :: items) behind.next
          | ']' :: _ => some (.list (item :: items).reverse, behind.next)
          | _ => none

/-- Reads the rest of a mapping in flow; the entries so far are given, last one first. -/
def readFlowEntries : Nat → List (String × Value) → Cursor → Option (Value × Cursor)
  | 0, _, _ => none
  | fuel + 1, entries, cursor =>
      let cursor := cursor.skip
      match cursor.rest with
      | '\x7d' :: _ => some (.mapping (Entries.ofPairs entries.reverse), cursor.next)
      | _ => do
          let (key, behind) ← readFlow fuel cursor
          let key ← keyText? key
          let (value, behind) ← match colonBehind? true cursor behind with
            | some behind => readFlowValue fuel behind
            | none => pure (.null, behind)
          let entries := (key, value) :: entries
          let behind := behind.skip
          match behind.rest with
          | ',' :: _ => readFlowEntries fuel entries behind.next
          | '\x7d' :: _ => some (.mapping (Entries.ofPairs entries.reverse), behind.next)
          | _ => none

end

/-- Reads what a node in a block may begin with: a scalar or a collection in flow. -/
def readInline (least : Nat) (cursor : Cursor) : Option (Value × Cursor) :=
  if (cursor.rest.head?.bind closing?).isSome then readFlow (cursor.rest.length + 1) cursor
  else readScalar false least cursor

/-! ## Blocks -/

mutual

/-- Reads a node in a block. `least` is the column below which nothing belongs to it, and
`collections` whether a mapping or sequence may begin here. -/
def readNode : Nat → Nat → Bool → Cursor → Option (Value × Cursor)
  | 0, _, _, _ => none
  | fuel + 1, least, collections, cursor =>
      if cursor.atItem then
        if collections then readItems fuel cursor.column [] cursor else none
      else do
        let (node, behind) ← readInline least cursor
        match colonBehind? false cursor behind with
        | none => some (node, behind)
        | some behind =>
            if collections then
              let key ← keyText? node
              readEntries fuel cursor.column [] key behind
            else none

/-- Reads what stands behind a colon or the dash of an item, in a collection at a column. A node in
a further line has to lie deeper, but for a sequence as the value of a key. -/
def readInner : Nat → Nat → Bool → Cursor → Option (Value × Cursor)
  | 0, _, _, _ => none
  | fuel + 1, column, isValue, cursor =>
      let token := cursor.skip
      if token.atEnd then some (.null, token)
      else if token.line == cursor.line then readNode fuel (column + 1) (!isValue) token
      else if column < token.column then readNode fuel (column + 1) true token
      else if isValue && token.column == column && token.atItem then
        readItems fuel column [] token
      else some (.null, token)

/-- Reads the items of a sequence at a column, from a dash on. -/
def readItems : Nat → Nat → List Value → Cursor → Option (Value × Cursor)
  | 0, _, _, _ => none
  | fuel + 1, column, items, cursor => do
      let (item, behind) ← readInner fuel column false cursor.next
      let items := item :: items
      let token := behind.skip
      if !token.atEnd && token.column == column && token.atItem then
        readItems fuel column items token
      else some (.list items.reverse, token)

/-- Reads the entries of a mapping at a column, from behind the colon of a key on. -/
def readEntries : Nat → Nat → List (String × Value) → String → Cursor → Option (Value × Cursor)
  | 0, _, _, _, _ => none
  | fuel + 1, column, entries, key, cursor => do
      let (value, behind) ← readInner fuel column true cursor
      let entries := (key, value) :: entries
      let token := behind.skip
      if token.atEnd || token.column < column then
        some (.mapping (Entries.ofPairs entries.reverse), token)
      else if token.column == column then
        let (key, behind) ← readInline (column + 1) token
        let key ← keyText? key
        let behind ← colonBehind? false token behind
        readEntries fuel column entries key behind
      else none

end

/-- Reads a document behind its first mark, if it has one. -/
def readDocument (marked : Bool) (cursor : Cursor) : Option (Value × Cursor) :=
  let token := cursor.skip
  if token.atEnd then some (.null, token)
  else readNode (4 * token.rest.length + 4) 0 (!(marked && token.line == cursor.line)) token

/-- Reads a text of one document; an empty text is null. -/
def parse? (text : String) : Option Value := do
  if !text.toList.all isAllowed then none
  else
    let token := (Cursor.start text.toList).skip
    let (value, behind) ←
      if token.marks '-' then readDocument true (token.forward 3) else readDocument false token
    let token := behind.skip
    let token := if token.marks '.' then (token.forward 3).skip else token
    if token.rest.isEmpty then some value else none

end SignalFlow.Yaml

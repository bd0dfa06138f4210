import SensorLink.Json.Token

/-!
# A JSON text, read as far as it goes

A command table is read as a stream, and of two faults in it the one that stands first is reported,
whether it is a fault of the text or of what the text says. To get that from a tree, the tree has to
say *where* the text went wrong: so a `Document` is a JSON value in which a container may break off
and a value may be `broken`, and it holds everything before that point. A reader that walks it from
left to right meets the faults in the order of the text.

`Document.toJson?` is the other use: a free-form value, wanted whole or not at all.
-/

namespace SensorLink.Json

/-- A JSON text as far as it is well formed. `closed` says that the container's end was read; if it
was not, the text is wrong after the last item. Members keep their order and may repeat a key. -/
inductive Document where
  | broken
  | null
  | bool (b : Bool)
  | number (n : Number)
  | string (s : String)
  | array (items : List Document) (closed : Bool)
  | object (members : List (String × Document)) (closed : Bool)
  deriving Repr, Inhabited

namespace Document

/-- How deep arrays and objects may stand in one another. -/
def maxDepth : Nat := 127

mutual
/-- The value at the front, and the tokens after it. `room` is how many more levels of containers
may be opened. -/
def ofTokens : Nat → Nat → List Token → Document × List Token
  | 0, _, tokens => (.broken, tokens)
  | _ + 1, _, .null :: rest => (.null, rest)
  | _ + 1, _, .bool b :: rest => (.bool b, rest)
  | _ + 1, _, .number n :: rest => (.number n, rest)
  | _ + 1, _, .string s :: rest => (.string s, rest)
  -- Only a container can be meant here, and there is no room for one.
  | _ + 1, 0, rest => (.broken, rest)
  | _ + 1, _ + 1, .beginArray :: .endArray :: rest => (.array [] true, rest)
  | _ + 1, _ + 1, .beginObject :: .endObject :: rest => (.object [] true, rest)
  | fuel + 1, room + 1, .beginArray :: rest =>
    let (items, closed, after) := itemsOfTokens fuel room rest
    (.array items closed, after)
  | fuel + 1, room + 1, .beginObject :: rest =>
    let (members, closed, after) := membersOfTokens fuel room rest
    (.object members closed, after)
  | _ + 1, _ + 1, rest => (.broken, rest)

/-- One or more items and the end of their array. -/
def itemsOfTokens : Nat → Nat → List Token → List Document × Bool × List Token
  | 0, _, tokens => ([.broken], false, tokens)
  | fuel + 1, room, tokens =>
    let (item, rest) := ofTokens fuel room tokens
    match rest with
    | .endArray :: after => ([item], true, after)
    | .comma :: after =>
      let (items, closed, after) := itemsOfTokens fuel room after
      (item :: items, closed, after)
    | after => ([item], false, after)

/-- One or more members and the end of their object. A key with no colon after it counts as a member
with a broken value: the key has been read. -/
def membersOfTokens : Nat → Nat → List Token → List (String × Document) × Bool × List Token
  | 0, _, tokens => ([], false, tokens)
  | fuel + 1, room, .string key :: .colon :: tokens =>
    let (value, rest) := ofTokens fuel room tokens
    match rest with
    | .endObject :: after => ([(key, value)], true, after)
    | .comma :: after =>
      let (members, closed, after) := membersOfTokens fuel room after
      ((key, value) :: members, closed, after)
    | after => ([(key, value)], false, after)
  | _ + 1, _, .string key :: after => ([(key, .broken)], false, after)
  | _ + 1, _, after => ([], false, after)
end

/-- The value at the front of a list of tokens and whether nothing follows it. Every step of the
reading takes a token or goes one level into a container, so twice the count of tokens suffices. -/
def read (tokens : List Token) : Document × Bool :=
  let (document, rest) := ofTokens (2 * tokens.length + 1) maxDepth tokens
  (document, rest.isEmpty)

/-- The value at the front of a text and whether only white space follows it. -/
def ofText (text : String) : Document × Bool := read (Token.scan text.toList)

/-! ## Whole values -/

mutual
/-- The JSON value of a document that is whole. -/
def toJson? : Document → Option Json
  | .broken => none
  | .null => some .null
  | .bool b => some (.bool b)
  | .number n => some (.number n)
  | .string s => some (.string s)
  | .array items closed => if closed then (itemsToJson? items).map .array else none
  | .object members closed =>
    if closed then (membersToJson? members).map fun ms => .object (sortMembers ms) else none

/-- The JSON values of items that are all whole. -/
def itemsToJson? : List Document → Option (List Json)
  | [] => some []
  | item :: rest => do
    let item ← toJson? item
    let rest ← itemsToJson? rest
    pure (item :: rest)

/-- The JSON values of members that are all whole. -/
def membersToJson? : List (String × Document) → Option (List (String × Json))
  | [] => some []
  | (key, value) :: rest => do
    let value ← toJson? value
    let rest ← membersToJson? rest
    pure ((key, value) :: rest)
end

end Document

/-- The value of a JSON text: keys in order, and of members with one key the last. -/
def parse? (text : String) : Option Json :=
  match Document.ofText text with
  | (document, true) => document.toJson?
  | (_, false) => none

end SensorLink.Json

import TitleDock.Json.Token

/-! JSON values as they are spelled. A value is built from its tokens with an explicit stack of the
arrays and objects that are still open, so nesting may be of any depth. `compact` writes a value
without blanks. -/

namespace TitleDock

inductive Json where
  | null
  | bool (b : Bool)
  | number (lexeme : Bytes)
  | string (glyphs : List Json.Glyph)
  | array (items : List Json)
  | object (members : List (List Json.Glyph × Json))

namespace Json

/-- An array or object that is still open; members and items are held in reverse. -/
inductive Frame where
  | items (done : List Json)
  | members (done : List (List Glyph × Json))
  | member (done : List (List Glyph × Json)) (name : List Glyph)

inductive Builder where
  | value (stack : List Frame)
  | firstItem (stack : List Frame)
  | firstKey (stack : List Frame)
  | key (done : List (List Glyph × Json)) (stack : List Frame)
  | colon (done : List (List Glyph × Json)) (name : List Glyph) (stack : List Frame)
  | separator (top : Frame) (stack : List Frame)
  | whole (v : Json)

namespace Builder

def put (v : Json) : List Frame → Option Builder
  | [] => some (.whole v)
  | .items done :: stack => some (.separator (.items (v :: done)) stack)
  | .member done name :: stack => some (.separator (.members ((name, v) :: done)) stack)
  | .members _ :: _ => none

def startValue (t : Token) (stack : List Frame) : Option Builder :=
  match t with
  | .null => put .null stack
  | .bool b => put (.bool b) stack
  | .number lexeme => put (.number lexeme) stack
  | .string gs => put (.string gs) stack
  | .beginArray => some (.firstItem stack)
  | .beginObject => some (.firstKey stack)
  | _ => none

def step (t : Token) : Builder → Option Builder
  | .value stack => startValue t stack
  | .firstItem stack =>
    match t with
    | .endArray => put (.array []) stack
    | t => startValue t (.items [] :: stack)
  | .firstKey stack =>
    match t with
    | .endObject => put (.object []) stack
    | .string gs => some (.colon [] gs stack)
    | _ => none
  | .key done stack =>
    match t with
    | .string gs => some (.colon done gs stack)
    | _ => none
  | .colon done name stack =>
    match t with
    | .colon => some (.value (.member done name :: stack))
    | _ => none
  | .separator (.items done) stack =>
    match t with
    | .comma => some (.value (.items done :: stack))
    | .endArray => put (.array done.reverse) stack
    | _ => none
  | .separator (.members done) stack =>
    match t with
    | .comma => some (.key done stack)
    | .endObject => put (.object done.reverse) stack
    | _ => none
  | .separator (.member ..) _ => none
  | .whole _ => none

def run : List Token → Builder → Option Builder
  | [], b => some b
  | t :: ts, b => (step t b).bind (run ts)

end Builder

def ofTokens? (ts : List Token) : Option Json :=
  match Builder.run ts (.value []) with
  | some (.whole v) => some v
  | _ => none

def parse? (bs : Bytes) : Option Json :=
  (Token.scan bs).bind ofTokens?

mutual

def tokens : Json → List Token
  | .null => [.null]
  | .bool b => [.bool b]
  | .number lexeme => [.number lexeme]
  | .string gs => [.string gs]
  | .array [] => [.beginArray, .endArray]
  | .array (v :: vs) => .beginArray :: tokens v ++ itemTokens vs
  | .object [] => [.beginObject, .endObject]
  | .object ((key, v) :: ms) =>
    .beginObject :: .string key :: .colon :: tokens v ++ memberTokens ms

def itemTokens : List Json → List Token
  | [] => [.endArray]
  | v :: vs => .comma :: tokens v ++ itemTokens vs

def memberTokens : List (List Glyph × Json) → List Token
  | [] => [.endObject]
  | (key, v) :: ms => .comma :: .string key :: .colon :: tokens v ++ memberTokens ms

end

def compact (v : Json) : Bytes :=
  v.tokens.flatMap Token.spelling

def ofText (s : String) : Json := .string (Glyph.ofText s)

def ofNat (n : Nat) : Json := .number ((Decimal.digits n).map fun c => c.toNat.toUInt8)

def record (members : List (String × Json)) : Json :=
  .object (members.map fun (key, v) => (Glyph.ofText key, v))

def text? : Json → Option String
  | .string gs => Glyph.text? gs
  | _ => none

def bool? : Json → Option Bool
  | .bool b => some b
  | _ => none

def natural? (most : Nat) : Json → Option Nat
  | .number lexeme =>
    (Decimal.natural? 10 (lexeme.map fun b => Char.ofNat b.toNat)).filter (· ≤ most)
  | _ => none

def items? : Json → Option (List Json)
  | .array items => some items
  | _ => none

def members? : Json → Option (List (String × Json))
  | .object members => members.mapM fun (key, v) => (Glyph.text? key).map (·, v)
  | _ => none

/-- The name of a choice without contents, written as a text or as an object with that one member,
which is null. -/
def choice? : Json → Option String
  | .string gs => Glyph.text? gs
  | .object [(key, .null)] => Glyph.text? key
  | _ => none

/-- Puts a member into the slot that knows its name. Unknown names are skipped, and a slot is filled
at most once. -/
def fill? (name : String) (v : Json) :
    List (List String) → List (Option Json) → Option (List (Option Json))
  | names :: known, slot :: slots =>
    if name ∈ names then
      match slot with
      | some _ => none
      | none => some (some v :: slots)
    else (fill? name v known slots).map (slot :: ·)
  | _, slots => some slots

/-- The members of a record with the given field names (each with its other spellings), in the order
of the names. A record may also be written as an array of its first fields. -/
def fields? (known : List (List String)) : Json → Option (List (Option Json))
  | .array items =>
    if items.length ≤ known.length then
      some (items.map some ++ List.replicate (known.length - items.length) none)
    else none
  | v => do
    let members ← v.members?
    members.foldlM (fun slots (name, v) => fill? name v known slots) (known.map fun _ => none)

def orElse {α : Type} (fallback : α) (read : Json → Option α) : Option Json → Option α
  | none => some fallback
  | some v => read v

def required {α : Type} (read : Json → Option α) (field : Option Json) : Option α :=
  field.bind read

end Json

end TitleDock

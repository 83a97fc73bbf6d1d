import ShardedView.Json.Token

/-!
The syntax tree of a JSON document, built from its tokens by a machine whose
state is the part of the document that is still open.
-/

namespace ShardedView.Json

/-- A document as written: members in their order, repetitions included. -/
inductive Document
  | null
  | bool (value : Bool)
  | number (numeral : Numeral)
  | string (pieces : List Piece)
  | list (items : List Document)
  | object (members : List (List Piece × Document))
  deriving Repr

namespace Document

/-- What encloses a place in a document; earlier items are in reverse. -/
inductive Context
  | top
  | item (before : List Document) (outer : Context)
  | member (before : List (List Piece × Document)) (name : List Piece)
      (outer : Context)

inductive State
  /-- A value. -/
  | value (context : Context)
  /-- The first item of a list, or its end. -/
  | firstItem (outer : Context)
  /-- The first name of an object, or its end. -/
  | firstName (outer : Context)
  /-- A further name of an object. -/
  | name (before : List (List Piece × Document)) (outer : Context)
  /-- The colon after a name. -/
  | colon (before : List (List Piece × Document)) (name : List Piece)
      (outer : Context)
  /-- What follows a complete value. -/
  | after (value : Document) (context : Context)

def begin? (context : Context) : Token → Option State
  | .null => some (.after .null context)
  | .bool value => some (.after (.bool value) context)
  | .number numeral => some (.after (.number numeral) context)
  | .string pieces => some (.after (.string pieces) context)
  | .openBracket => some (.firstItem context)
  | .openBrace => some (.firstName context)
  | _ => none

/-- Goes on after a value: to the next one, or out of the list or object. -/
def continue? (value : Document) : Context → Token → Option State
  | .item before outer, .comma => some (.value (.item (value :: before) outer))
  | .item before outer, .closeBracket =>
    some (.after (.list (value :: before).reverse) outer)
  | .member before name outer, .comma => some (.name ((name, value) :: before) outer)
  | .member before name outer, .closeBrace =>
    some (.after (.object ((name, value) :: before).reverse) outer)
  | _, _ => none

def step? (state : State) (token : Token) : Option State :=
  match state, token with
  | .value context, token => begin? context token
  | .firstItem outer, .closeBracket => some (.after (.list []) outer)
  | .firstItem outer, token => begin? (.item [] outer) token
  | .firstName outer, .closeBrace => some (.after (.object []) outer)
  | .firstName outer, .string name => some (.colon [] name outer)
  | .name before outer, .string name => some (.colon before name outer)
  | .colon before name outer, .colon => some (.value (.member before name outer))
  | .after value context, token => continue? value context token
  | _, _ => none

def State.document? : State → Option Document
  | .after document .top => some document
  | _ => none

def ofTokens? (tokens : List Token) : Option Document := do
  let state ← tokens.foldlM step? (.value .top)
  state.document?

def ofBytes? (bytes : Bytes) : Option Document := do
  ofTokens? (← Token.scan? (Utf8.scan bytes))

def ofText? (text : String) : Option Document := do
  ofTokens? (← Token.scan? (text.toList.map .scalar))

end Document

end ShardedView.Json

import ShardedView.Json.Document

/-!
The machine that builds documents accepts the tokens of each document, and gives
that document back.
-/

namespace ShardedView.Json.Document

mutual

def tokens : Document → List Token
  | null => [.null]
  | bool value => [.bool value]
  | number numeral => [.number numeral]
  | string pieces => [.string pieces]
  | list [] => [.openBracket, .closeBracket]
  | list (item :: rest) => .openBracket :: (tokens item ++ tokensOfItems rest)
  | object [] => [.openBrace, .closeBrace]
  | object (member :: rest) => .openBrace :: (tokensOfMember member ++ tokensOfMembers rest)

def tokensOfItems : List Document → List Token
  | [] => [.closeBracket]
  | item :: rest => .comma :: (tokens item ++ tokensOfItems rest)

def tokensOfMember : List Piece × Document → List Token
  | (name, value) => .string name :: .colon :: tokens value

def tokensOfMembers : List (List Piece × Document) → List Token
  | [] => [.closeBrace]
  | member :: rest => .comma :: (tokensOfMember member ++ tokensOfMembers rest)

end

def run (state : State) (tokens : List Token) : Option State :=
  tokens.foldlM step? state

theorem run_cons {state next : State} {token : Token} (rest : List Token)
    (done : step? state token = some next) : run state (token :: rest) = run next rest := by
  rw [run, List.foldlM_cons, done]
  rfl

theorem run_firstItem (item : Document) (outer : Context) (rest : List Token) :
    run (.firstItem outer) (item.tokens ++ rest) =
      run (.value (.item [] outer)) (item.tokens ++ rest) := by
  cases item with
  | null => rfl
  | bool value => rfl
  | number numeral => rfl
  | string pieces => rfl
  | list items => cases items <;> rfl
  | object members => cases members <;> rfl

mutual

/-- The tokens of a document take the machine past it, whatever it stands in. -/
theorem run_tokens (document : Document) (context : Context) (rest : List Token) :
    run (.value context) (document.tokens ++ rest) = run (.after document context) rest := by
  cases document with
  | null => exact run_cons rest rfl
  | bool value => exact run_cons rest rfl
  | number numeral => exact run_cons rest rfl
  | string pieces => exact run_cons rest rfl
  | list items =>
    cases items with
    | nil => rfl
    | cons item items =>
      rw [tokens, List.cons_append, List.append_assoc]
      show run (.firstItem context) (item.tokens ++ (tokensOfItems items ++ rest)) = _
      rw [run_firstItem, run_tokens item, run_tokensOfItems items]
      rfl
  | object members =>
    cases members with
    | nil => rfl
    | cons member members =>
      obtain ⟨name, value⟩ := member
      rw [tokens, tokensOfMember, List.cons_append, List.append_assoc]
      show run (.value (.member [] name context))
        (value.tokens ++ (tokensOfMembers members ++ rest)) = _
      rw [run_tokens value, run_tokensOfMembers members]
      rfl

theorem run_tokensOfItems (items : List Document) (item : Document) (before : List Document)
    (outer : Context) (rest : List Token) :
    run (.after item (.item before outer)) (tokensOfItems items ++ rest) =
      run (.after (.list ((item :: before).reverse ++ items)) outer) rest := by
  cases items with
  | nil =>
    rw [List.append_nil]
    rfl
  | cons next items =>
    rw [tokensOfItems, List.cons_append, List.append_assoc]
    show run (.value (.item (item :: before) outer))
      (next.tokens ++ (tokensOfItems items ++ rest)) = _
    rw [run_tokens next, run_tokensOfItems items, List.reverse_cons, List.append_assoc]
    rfl

/-- The tokens of the further members of an object take the machine out of it. -/
theorem run_tokensOfMembers (members : List (List Piece × Document)) (value : Document)
    (before : List (List Piece × Document)) (name : List Piece) (outer : Context)
    (rest : List Token) :
    run (.after value (.member before name outer)) (tokensOfMembers members ++ rest) =
      run (.after (.object (((name, value) :: before).reverse ++ members)) outer) rest := by
  cases members with
  | nil =>
    rw [List.append_nil]
    rfl
  | cons next members =>
    obtain ⟨nextName, nextValue⟩ := next
    rw [tokensOfMembers, tokensOfMember, List.cons_append, List.append_assoc]
    show run (.value (.member ((name, value) :: before) nextName outer))
      (nextValue.tokens ++ (tokensOfMembers members ++ rest)) = _
    rw [run_tokens nextValue, run_tokensOfMembers members, List.reverse_cons, List.append_assoc]
    rfl

end

theorem ofTokens?_tokens (document : Document) : ofTokens? document.tokens = some document := by
  have built := run_tokens document .top []
  rw [List.append_nil] at built
  rw [ofTokens?, ← run, built]
  rfl

end ShardedView.Json.Document

import ShardedView.Proofs.Json.Document
import ShardedView.Proofs.Json.Reader
import ShardedView.Proofs.Text.Utf8

/-!
The text of a value has the tokens of its document, so that the document of a printed value
is read from its bytes.
-/

namespace ShardedView.Json

namespace Token

def scanText? (mode : Mode) (chars : List Char) : Option (List Token) :=
  scanFrom? mode (chars.map .scalar)

theorem scanText?_cons {mode next : Mode} {char : Char} (tokens : List Token)
    {later : List Token} {rest : List Char} (step : step? mode (.scalar char) = some (next, tokens))
    (scanned : scanText? next rest = some later) :
    scanText? mode (char :: rest) = some (tokens ++ later) := by
  rw [scanText?] at scanned ⊢
  rw [List.map_cons, scanFrom?, step]
  simp only [bind, Option.bind, scanned, pure]

theorem exists_of_scanText?_cons {mode : Mode} {char : Char} {rest : List Char}
    {scanned : List Token} (done : scanText? mode (char :: rest) = some scanned) :
    ∃ next tokens later, step? mode (.scalar char) = some (next, tokens) ∧
      scanText? next rest = some later ∧ scanned = tokens ++ later := by
  rw [scanText?, List.map_cons, scanFrom?] at done
  obtain ⟨⟨next, tokens⟩, step, done⟩ := Option.bind_eq_some_iff.1 done
  obtain ⟨later, others, done⟩ := Option.bind_eq_some_iff.1 done
  exact ⟨next, tokens, later, step, others, (Option.some.inj done).symm⟩

/-! ### Marks and words -/

theorem scanText?_mark {char : Char} {token : Token} {rest : List Char} {later : List Token}
    (mark : start? char = some (.gap, some token)) (scanned : scanText? .gap rest = some later) :
    scanText? .gap (char :: rest) = some (token :: later) := by
  refine scanText?_cons [token] ?_ scanned
  rw [step?, mark]
  rfl

theorem start?_of_isWordChar {char : Char} (inWord : isWordChar char = true) :
    start? char = some (.word [char], none) := by
  have solid : isGap char = false := by
    rw [isGap, Bool.or_eq_false_iff, Bool.or_eq_false_iff, Bool.or_eq_false_iff]
    simp only [decide_eq_false_iff_not]
    refine ⟨⟨⟨?_, ?_⟩, ?_⟩, ?_⟩ <;> rintro rfl <;> exact absurd inWord (by decide)
  have noQuote : char ≠ '"' := by
    rintro rfl
    exact absurd inWord (by decide)
  rw [start?, solid, if_neg Bool.false_ne_true, if_neg noQuote, if_pos inWord]

def EndsWord (chars : List Char) : Prop :=
  ∀ char, chars.head? = some char → isWordChar char = false

theorem scanText?_word_append (before : List Char) {word rest : List Char} {token : Token}
    {later : List Token} (inWord : ∀ char ∈ word, isWordChar char = true) (ends : EndsWord rest)
    (known : ofWord? (before.reverse ++ word) = some token)
    (scanned : scanText? .gap rest = some later) :
    scanText? (.word before) (word ++ rest) = some (token :: later) := by
  induction word generalizing before with
  | nil =>
    rw [List.append_nil] at known
    cases rest with
    | nil =>
      obtain rfl : [] = later := Option.some.inj scanned
      show finish? (.word before) = _
      rw [finish?, known]
      rfl
    | cons char rest =>
      obtain ⟨next, tokens, others, step, remaining, rfl⟩ := exists_of_scanText?_cons scanned
      rw [step?] at step
      obtain ⟨⟨_, token?⟩, started, equal⟩ := Option.bind_eq_some_iff.1 step
      obtain ⟨rfl, rfl⟩ := Prod.mk.inj (Option.some.inj equal)
      refine scanText?_cons (token :: token?.toList) ?_ remaining
      rw [step?, ends char rfl, if_neg Bool.false_ne_true, known, started]
      rfl
  | cons char word ih =>
    rw [List.cons_append]
    refine scanText?_cons [] ?_ (ih (char :: before)
      (fun other member => inWord other (.tail _ member)) ?_)
    · rw [step?, inWord char (.head _), if_pos rfl]
    · rw [List.reverse_cons, List.append_assoc]
      exact known

theorem scanText?_word (word : List Char) {rest : List Char} {token : Token} {later : List Token}
    (inWord : ∀ char ∈ word, isWordChar char = true) (nonempty : word ≠ []) (ends : EndsWord rest)
    (known : ofWord? word = some token) (scanned : scanText? .gap rest = some later) :
    scanText? .gap (word ++ rest) = some (token :: later) := by
  cases word with
  | nil => exact absurd rfl nonempty
  | cons char word =>
    refine scanText?_cons [] ?_ (scanText?_word_append [char]
      (fun other member => inWord other (.tail _ member)) ends known scanned)
    rw [step?, start?_of_isWordChar (inWord char (.head _))]
    rfl

/-! ### Strings -/

theorem hexValue?_hexDigit {digit : Nat} (small : digit < 16) :
    Bytes.hexValue? (Bytes.hexDigit false digit) = some digit := by
  have each : ∀ digit : Fin 16, Bytes.hexValue? (Bytes.hexDigit false digit) = some digit.val := by
    decide
  exact each ⟨digit, small⟩

theorem escape_cases (char : Char) :
    (∃ letter, letter ≠ 'u' ∧ escaped? letter = some char ∧ escape char = ['\\', letter] ∧
        pieceOf char = .char char) ∨
      (char.toNat < 0x20 ∧ pieceOf char = .unit char.toNat ∧
        escape char = ['\\', 'u', '0', '0', Bytes.hexDigit false (char.toNat / 16),
          Bytes.hexDigit false (char.toNat % 16)]) ∨
      (char ≠ '"' ∧ char ≠ '\\' ∧ 0x20 ≤ char.toNat ∧ escape char = [char] ∧
        pieceOf char = .char char) := by
  by_cases short : char ∈ ['"', '\\', '\x08', '\t', '\n', '\x0C', '\r']
  · simp only [List.mem_cons, List.not_mem_nil, or_false] at short
    rcases short with rfl | rfl | rfl | rfl | rfl | rfl | rfl
    · exact .inl ⟨'"', by decide, rfl, rfl, rfl⟩
    · exact .inl ⟨'\\', by decide, rfl, rfl, rfl⟩
    · exact .inl ⟨'b', by decide, rfl, rfl, rfl⟩
    · exact .inl ⟨'t', by decide, rfl, rfl, rfl⟩
    · exact .inl ⟨'n', by decide, rfl, rfl, rfl⟩
    · exact .inl ⟨'f', by decide, rfl, rfl, rfl⟩
    · exact .inl ⟨'r', by decide, rfl, rfl, rfl⟩
  · simp only [List.mem_cons, List.not_mem_nil, or_false, not_or] at short
    obtain ⟨noQuote, noBackslash, noBack, noTab, noLine, noForm, noReturn⟩ := short
    have unlettered : char ∉ lettered := by
      simp only [lettered, List.mem_cons, List.not_mem_nil, or_false, not_or]
      exact ⟨noBack, noTab, noLine, noForm, noReturn⟩
    rw [escape, if_neg noQuote, if_neg noBackslash, if_neg noBack, if_neg noTab, if_neg noLine,
      if_neg noForm, if_neg noReturn, pieceOf]
    by_cases control : char.toNat < 0x20
    · exact .inr (.inl ⟨control, if_pos ⟨control, unlettered⟩, if_pos control⟩)
    · exact .inr (.inr ⟨noQuote, noBackslash, by omega, if_neg control,
        if_neg fun both => control both.1⟩)

theorem scanText?_escape {char : Char} {before : List Piece} {rest : List Char}
    {later : List Token}
    (scanned : scanText? (.text (pieceOf char :: before)) rest = some later) :
    scanText? (.text before) (escape char ++ rest) = some later := by
  rcases escape_cases char with ⟨letter, noCode, known, written, part⟩ |
    ⟨control, part, written⟩ | ⟨noQuote, noBackslash, visible, written, part⟩
  · rw [part] at scanned
    rw [written]
    have escape : step? (.text before) (.scalar '\\') = some (.escape before, []) := rfl
    refine scanText?_cons [] escape (scanText?_cons [] ?_ scanned)
    rw [step?, if_neg noCode, known]
    rfl
  · rw [part] at scanned
    rw [written]
    have escape : step? (.text before) (.scalar '\\') = some (.escape before, []) := rfl
    have code : step? (.escape before) (.scalar 'u') = some (.code before 3 0, []) := rfl
    have first : step? (.code before 3 0) (.scalar '0') = some (.code before 2 0, []) := rfl
    have second : step? (.code before 2 0) (.scalar '0') = some (.code before 1 0, []) := rfl
    have third : step? (.code before 1 0) (.scalar (Bytes.hexDigit false (char.toNat / 16))) =
        some (.code before 0 (char.toNat / 16), []) := by
      rw [step?, hexValue?_hexDigit (by omega)]
      simp
    have fourth : step? (.code before 0 (char.toNat / 16))
        (.scalar (Bytes.hexDigit false (char.toNat % 16))) =
        some (.text (.unit char.toNat :: before), []) := by
      rw [step?, hexValue?_hexDigit (by omega)]
      have whole : 16 * (char.toNat / 16) + char.toNat % 16 = char.toNat := by omega
      simp [whole]
    exact scanText?_cons [] escape (scanText?_cons [] code (scanText?_cons [] first
      (scanText?_cons [] second (scanText?_cons [] third (scanText?_cons [] fourth scanned)))))
  · rw [part] at scanned
    rw [written]
    refine scanText?_cons [] ?_ scanned
    rw [step?, if_neg noQuote, if_neg noBackslash, if_neg (by omega)]

theorem scanText?_text {chars rest : List Char} {later : List Token} (before : List Piece)
    (scanned : scanText? .gap rest = some later) :
    scanText? (.text before) (chars.flatMap escape ++ '"' :: rest) =
      some (.string (before.reverse ++ chars.map pieceOf) :: later) := by
  induction chars generalizing before with
  | nil =>
    rw [List.map_nil, List.append_nil]
    exact scanText?_cons [.string before.reverse] rfl scanned
  | cons char chars ih =>
    rw [List.flatMap_cons, List.append_assoc]
    apply scanText?_escape
    rw [ih (pieceOf char :: before), List.reverse_cons, List.append_assoc, List.map_cons]
    rfl

theorem scanText?_quote (text : String) {rest : List Char} {later : List Token}
    (scanned : scanText? .gap rest = some later) :
    scanText? .gap (quote text ++ rest) = some (.string (pieces text) :: later) := by
  have opened : step? .gap (.scalar '"') = some (.text [], []) := rfl
  rw [quote, List.cons_append, List.cons_append, List.append_assoc]
  exact scanText?_cons [] opened (scanText?_text [] scanned)

/-! ### Numbers -/

theorem isWordChar_of_isDigit {char : Char} (digit : Digits.isDigit char = true) :
    isWordChar char = true := by
  rw [isWordChar, Digits.isAlphanum_of_isDigit digit]
  rfl

theorem scanText?_numeral {word rest : List Char} {numeral : Numeral} {later : List Token}
    (inWord : ∀ char ∈ word, isWordChar char = true)
    (read : Numeral.read? word = some numeral) (ends : EndsWord rest)
    (scanned : scanText? .gap rest = some later) :
    scanText? .gap (word ++ rest) = some (.number numeral :: later) := by
  have noName : ∀ name, Numeral.read? name = none → word ≠ name := by
    rintro name unread rfl
    rw [unread] at read
    contradiction
  apply scanText?_word word inWord (noName [] rfl) ends _ scanned
  rw [ofWord?, if_neg (noName _ rfl), if_neg (noName _ rfl), if_neg (noName _ rfl), read]
  rfl

theorem scanText?_int (value : Int) {rest : List Char} {later : List Token}
    (ends : EndsWord rest) (scanned : scanText? .gap rest = some later) :
    scanText? .gap (Digits.ofInt value ++ rest) = some (.number (.ofInt value) :: later) := by
  apply scanText?_numeral _ (Numeral.read?_ofInt value) ends scanned
  intro char member
  rcases Digits.mem_ofInt member with rfl | digit
  · rfl
  · exact isWordChar_of_isDigit digit

theorem scanText?_float (value : Finite64) {rest : List Char} {later : List Token}
    (ends : EndsWord rest) (scanned : scanText? .gap rest = some later) :
    scanText? .gap (FloatFormat.record.write value ++ rest) =
      some (.number (.ofFloat value) :: later) := by
  apply scanText?_numeral _ (Numeral.read?_write value) ends scanned
  intro char member
  rcases FloatFormat.mem_write member with digit | mark
  · exact isWordChar_of_isDigit digit
  · exact List.all_eq_true.1 (show ['-', '+', '.', 'e'].all isWordChar = true from rfl) char mark

/-! ### Values -/

theorem endsWord_cons {char : Char} (mark : isWordChar char = false) (rest : List Char) :
    EndsWord (char :: rest) := by
  rintro _ ⟨⟩
  exact mark

theorem endsWord_compactItems (items : List Json) (rest : List Char) :
    EndsWord (compactItems items ++ rest) := by
  cases items with
  | nil => exact endsWord_cons rfl _
  | cons item items => exact endsWord_cons rfl _

theorem endsWord_compactMembers (members : List (String × Json)) (rest : List Char) :
    EndsWord (compactMembers members ++ rest) := by
  cases members with
  | nil => exact endsWord_cons rfl _
  | cons member members => exact endsWord_cons rfl _

mutual

/-- A printed value has the tokens of its document, if a word ends behind it. -/
theorem scanText?_compact (json : Json) {rest : List Char} {later : List Token}
    (ends : EndsWord rest) (scanned : scanText? .gap rest = some later) :
    scanText? .gap (json.compact ++ rest) = some (json.tree.tokens ++ later) := by
  cases json with
  | null =>
    exact scanText?_word ['n', 'u', 'l', 'l'] (List.all_eq_true.1 rfl) nofun ends rfl scanned
  | bool value =>
    cases value with
    | true =>
      exact scanText?_word ['t', 'r', 'u', 'e'] (List.all_eq_true.1 rfl) nofun ends rfl scanned
    | false =>
      exact scanText?_word ['f', 'a', 'l', 's', 'e'] (List.all_eq_true.1 rfl) nofun ends rfl scanned
  | int value => exact scanText?_int value ends scanned
  | float value => exact scanText?_float value ends scanned
  | str text => exact scanText?_quote text scanned
  | arr items =>
    cases items with
    | nil => exact scanText?_mark rfl (scanText?_mark rfl scanned)
    | cons item items =>
      rw [compact, List.cons_append, List.cons_append, List.append_assoc, tree, trees,
        Document.tokens, List.cons_append, List.append_assoc]
      exact scanText?_mark rfl (scanText?_compact item (endsWord_compactItems items rest)
        (scanText?_compactItems items scanned))
  | obj members =>
    cases members with
    | nil => exact scanText?_mark rfl (scanText?_mark rfl scanned)
    | cons member members =>
      rw [compact, List.cons_append, List.cons_append, List.append_assoc, tree, treeMembers,
        Document.tokens, List.cons_append, List.append_assoc]
      exact scanText?_mark rfl (scanText?_compactMember member
        (endsWord_compactMembers members rest) (scanText?_compactMembers members scanned))

theorem scanText?_compactItems (items : List Json) {rest : List Char} {later : List Token}
    (scanned : scanText? .gap rest = some later) :
    scanText? .gap (compactItems items ++ rest) =
      some (Document.tokensOfItems (trees items) ++ later) := by
  cases items with
  | nil => exact scanText?_mark rfl scanned
  | cons item items =>
    rw [compactItems, List.cons_append, List.cons_append, List.append_assoc, trees,
      Document.tokensOfItems, List.cons_append, List.append_assoc]
    exact scanText?_mark rfl (scanText?_compact item (endsWord_compactItems items rest)
      (scanText?_compactItems items scanned))

theorem scanText?_compactMember (member : String × Json) {rest : List Char} {later : List Token}
    (ends : EndsWord rest) (scanned : scanText? .gap rest = some later) :
    scanText? .gap (compactMember member ++ rest) =
      some (Document.tokensOfMember (treeMember member) ++ later) := by
  obtain ⟨name, value⟩ := member
  rw [compactMember, List.append_assoc, treeMember, Document.tokensOfMember, List.cons_append,
    List.cons_append, List.cons_append]
  exact scanText?_quote name (scanText?_mark rfl (scanText?_compact value ends scanned))

theorem scanText?_compactMembers (members : List (String × Json)) {rest : List Char}
    {later : List Token} (scanned : scanText? .gap rest = some later) :
    scanText? .gap (compactMembers members ++ rest) =
      some (Document.tokensOfMembers (treeMembers members) ++ later) := by
  cases members with
  | nil => exact scanText?_mark rfl scanned
  | cons member members =>
    rw [compactMembers, List.cons_append, List.cons_append, List.append_assoc, treeMembers,
      Document.tokensOfMembers, List.cons_append, List.append_assoc]
    exact scanText?_mark rfl (scanText?_compactMember member
      (endsWord_compactMembers members rest) (scanText?_compactMembers members scanned))

end

end Token

/-- The document of a printed value, and nothing more, is read from its bytes. -/
theorem ofBytes?_print (json : Json) :
    Document.ofBytes? (Utf8.encode json.print) = some json.tree := by
  have scanned : Token.scanText? .gap (json.compact ++ []) = some (json.tree.tokens ++ []) :=
    Token.scanText?_compact json nofun rfl
  rw [List.append_nil, List.append_nil] at scanned
  rw [Document.ofBytes?, Utf8.scan_encode, print, String.toList_ofList, Token.scan?,
    ← Token.scanText?, scanned]
  exact Document.ofTokens?_tokens json.tree

theorem ofText?_eq_ofBytes? (text : String) : ofText? text = ofBytes? (Utf8.encode text) := by
  rw [ofText?, ofBytes?, Document.ofText?, Document.ofBytes?, Utf8.scan_encode]

theorem ofBytes?_print_of_isPlain {value : Json} (plain : value.IsPlain greatestDepth)
    (canonical : value.IsCanonical) : ofBytes? (Utf8.encode value.print) = some value := by
  rw [ofBytes?, ofBytes?_print]
  exact json?_tree plain canonical

end ShardedView.Json

import ShardedView.Failure.Remote
import ShardedView.Http.Envelope
import ShardedView.Proofs.Json.Printer

/-!
The bodies of replies are read back: values and lists of values from their
envelopes, and the kind and the message of a failure.
-/

namespace ShardedView

namespace Envelope

theorem ofBytes?_write (value : Json) :
    Json.Document.ofBytes? (write value) = some (.object [(Json.pieces field, value.tree)]) := by
  rw [write, Json.ofBytes?_print]
  rfl

theorem open?_write (value : Json) : open? (write value) = some value.tree := by
  have named : Json.Document.namedFields? [field] [(Json.pieces field, value.tree)] =
      some [(field, value.tree)] := by
    rw [Json.Document.namedFields?, Json.textOf?_pieces]
    simp [Json.Document.namedFields?]
  have fields : (Json.Document.object [(Json.pieces field, value.tree)]).fields? [field] =
      some [some value.tree] := by
    rw [Json.Document.fields?, named]
    rfl
  rw [open?, ofBytes?_write]
  simp only [bind, Option.bind, fields]
  rfl

theorem readValue_eq_ok_iff {body : Bytes} {value : Json} :
    readValue body = .ok value ↔ value? body = some value := by
  unfold readValue
  cases value? body <;> simp

theorem value?_eq_some_iff {body : Bytes} {value : Json} :
    value? body = some value ↔ ∃ document, open? body = some document ∧
      document.json? (Json.greatestDepth - 1) = some value :=
  Option.bind_eq_some_iff

theorem readValue_write {value : Json} (plain : value.IsPlain 126)
    (canonical : value.IsCanonical) : readValue (write value) = .ok value := by
  have read : value? (write value) = some value := by
    rw [value?, open?_write]
    exact Json.json?_tree plain canonical
  rw [readValue, read]

theorem readValues_write {values : List Json} (plain : ∀ value ∈ values, value.IsPlain 125)
    (canonical : ∀ value ∈ values, value.IsCanonical) :
    readValues (write (.arr values)) = .ok values := by
  have read : values? (write (.arr values)) = some values := by
    rw [values?, open?_write, Json.tree]
    exact Json.jsonItems?_trees fun value member =>
      Json.json?_tree (plain value member) (canonical value member)
  rw [readValues, read]

end Envelope

namespace Failure

theorem readBody?_print (failure : Failure) :
    readBody? (Utf8.encode failure.body.print) = some (failure.kind.name, failure.message) := by
  let kind := Json.Document.string (Json.pieces failure.kind.name)
  let message := Json.Document.string (Json.pieces failure.message)
  have tree : failure.body.tree =
      .object [(Json.pieces "message", message), (Json.pieces "type", kind)] := by
    have less : "message" < "type" := by decide
    simp only [body, Json.ofMembers, List.foldl_cons, List.foldl_nil, insertEntry, less, if_true]
    rfl
  have named : Json.Document.namedFields? ["type", "message"]
      [(Json.pieces "message", message), (Json.pieces "type", kind)] =
      some [("message", message), ("type", kind)] := by
    simp only [Json.Document.namedFields?, Json.textOf?_pieces]
    rfl
  have fields : (Json.Document.object
      [(Json.pieces "message", message), (Json.pieces "type", kind)]).fields? ["type", "message"] =
        some [some kind, some message] := by
    rw [Json.Document.fields?, named]
    rfl
  have text : ∀ text : String, (Json.Document.string (Json.pieces text)).text? = some text := by
    intro text
    rw [Json.Document.text?, Json.textOf?_pieces, Option.map_some, String.ofList_toList]
  rw [readBody?, Json.ofBytes?_print, tree]
  simp only [bind, Option.bind, fields, kind, message, text]
  rfl

end Failure

end ShardedView

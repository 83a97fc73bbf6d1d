import Mathlib
import ShardedView.Log.Loading
import ShardedView.Proofs.Json.Fields
import ShardedView.Proofs.Replica.Shard
import ShardedView.Proofs.Text.Blank

/-!
Loading a records file: its lines are taken one after another up to the first that is neither
blank nor a record of the topic, and the log has gained the records of those before it.
-/

namespace ShardedView

/-! ### Records one after another -/

namespace Log

def appendAll (log : Log) (records : List Record) : Log :=
  records.foldl append log

@[simp]
theorem appendAll_nil (log : Log) : log.appendAll [] = log := rfl

@[simp]
theorem appendAll_cons (log : Log) (record : Record) (records : List Record) :
    log.appendAll (record :: records) = (log.append record).appendAll records := rfl

theorem appendAll_append (log : Log) (first second : List Record) :
    log.appendAll (first ++ second) = (log.appendAll first).appendAll second :=
  List.foldl_append

theorem place_appendAll (log : Log) (records : List Record) :
    (log.appendAll records).place = log.place := by
  induction records generalizing log with
  | nil => rfl
  | cons record rest ih => rw [appendAll_cons, ih, place_append]

/-- A partition goes on with those of the records that are placed there, in their order. -/
theorem partition_appendAll (log : Log) (records : List Record) (number : Nat) :
    (log.appendAll records).partition number =
      log.partition number ++ records.filter (log.place ·.key = number) := by
  induction records generalizing log with
  | nil => rw [appendAll_nil, List.filter_nil, List.append_nil]
  | cons record rest ih =>
    rw [appendAll_cons, ih, partition_append, place_append, List.append_assoc, List.filter_cons]
    by_cases here : log.place record.key = number <;> simp [here]

/-- A record stays at the offset that it got. -/
theorem getElem?_partition_appendAll (log : Log) (before after : List Record) (record : Record) :
    ((log.appendAll (before ++ record :: after)).partition (log.place record.key))[
      (log.appendAll before).endOffset (log.place record.key)]? = some record := by
  rw [appendAll_append, appendAll_cons, partition_appendAll, partition_append, place_appendAll,
    if_pos rfl, List.append_assoc, endOffset, List.getElem?_append_right (Nat.le_refl _),
    Nat.sub_self]
  rfl

end Log

namespace RecordsFile

/-! ### Lines -/

/-- A line without the carriage return at its end. -/
def withoutReturn (line : Bytes) : Bytes :=
  if line.getLast? = some 0x0D then line.dropLast else line

/-- The lines of a content: each ends at a line feed, and a last one may go without. -/
inductive AreLinesOf : List Bytes → Bytes → Prop
  | none : AreLinesOf [] []
  | unended {line : Bytes} (nonempty : line ≠ []) (whole : 0x0A ∉ line) : AreLinesOf [line] line
  | ended {line rest : Bytes} {lines : List Bytes} (whole : 0x0A ∉ line)
      (others : AreLinesOf lines rest) :
      AreLinesOf (withoutReturn line :: lines) (line ++ 0x0A :: rest)

theorem areLinesOf_go {before : Bytes} (whole : 0x0A ∉ before) (rest : Bytes) :
    AreLinesOf (lines.go before rest) (before.reverse ++ rest) := by
  induction rest generalizing before with
  | nil =>
    rw [lines.go, List.append_nil]
    cases before with
    | nil => exact .none
    | cons byte bytes =>
      refine .unended (by simp) fun among => whole (List.mem_reverse.1 among)
  | cons byte rest ih =>
    rw [lines.go]
    split
    · next ends =>
      subst ends
      have same : (if before.head? = some 0x0D then before.tail else before).reverse =
          withoutReturn before.reverse := by
        rw [withoutReturn, List.getLast?_reverse]
        split
        · rw [List.dropLast_reverse]
        · rfl
      rw [same]
      exact .ended (fun among => whole (List.mem_reverse.1 among)) (ih List.not_mem_nil)
    · next goesOn =>
      have grown : 0x0A ∉ byte :: before := fun among =>
        (List.mem_cons.1 among).elim (fun own => goesOn own.symm) whole
      simpa using ih grown

theorem areLinesOf_lines (content : Bytes) : AreLinesOf (lines content) content :=
  areLinesOf_go List.not_mem_nil content

def isBlankLine (line : Bytes) : Bool :=
  match Utf8.decode line with
  | .ok text => text.toList.all Text.isBlank
  | .error _ => false

def filled (lines : List Bytes) : List Bytes :=
  lines.filter fun line => !isBlankLine line

/-! ### The record of a line -/

/-- A text is a well-formed record with a key and a value, which may be missing. -/
def Tells (text : String) (key : Json) (value : Option Json) : Prop :=
  let reads (part : Json.Document) (value : Json) :=
    part.json? (Json.greatestDepth - 1) = some value
  ∃ document keyPart valuePart, Json.Document.ofText? text = some document ∧
    document.HasFields ["key", "value"] [some keyPart, valuePart] ∧
    reads keyPart key ∧ Option.Rel reads valuePart value

theorem readLine?_eq_some_iff {text : String} {key value : Json} :
    readLine? text = some (key, value) ↔ ∃ told, Tells text key told ∧ value = told.getD .null := by
  constructor
  · intro read
    obtain ⟨document, whole, read⟩ := Option.bind_eq_some_iff.1 read
    obtain ⟨fields, parts, read⟩ := Option.bind_eq_some_iff.1 read
    split at read
    · next keyPart valuePart =>
      obtain ⟨_, keyRead, read⟩ := Option.bind_eq_some_iff.1 read
      obtain ⟨_, valueRead, read⟩ := Option.bind_eq_some_iff.1 read
      cases read
      have parts := Json.Document.fields?_eq_some_iff.1 parts
      cases valuePart with
      | none =>
        cases valueRead
        exact ⟨none, ⟨document, keyPart, none, whole, parts, keyRead, .none⟩, rfl⟩
      | some part =>
        exact ⟨some value, ⟨document, keyPart, some part, whole, parts, keyRead, .some valueRead⟩,
          rfl⟩
    · contradiction
  · rintro ⟨told, ⟨document, keyPart, valuePart, whole, parts, keyRead, valueRead⟩, rfl⟩
    have valueRead : (valuePart.getD .null).json? (Json.greatestDepth - 1) =
        some (told.getD .null) := by
      cases valueRead with
      | none => rfl
      | some read => exact read
    unfold readLine?
    simp only [Option.bind_eq_bind, whole, Option.bind_some,
      Json.Document.fields?_eq_some_iff.2 parts, keyRead, valueRead]
    rfl

section

variable {topic : Topic} {now number : Nat} {line : Bytes}

/-- The record that a line adds to a log: the removal of its key, or a value for it. -/
inductive Gives (topic : Topic) (now : Nat) (line : Bytes) : Record → Prop
  | removal {text : String} {keyValue : Json} {value : Option Json} {key : topic.keyType.Key}
      (decoded : Utf8.decode line = .ok text) (tells : Tells text keyValue value)
      (read : topic.keyType.ofText (DataType.toText keyValue) = .ok key)
      (gone : value.getD .null = .null) : Gives topic now line (Log.tombstone topic now key)
  | upsert {text : String} {keyValue value : Json} {key : topic.keyType.Key} {bytes : Bytes}
      (decoded : Utf8.decode line = .ok text) (tells : Tells text keyValue (some value))
      (read : topic.keyType.ofText (DataType.toText keyValue) = .ok key) (given : value ≠ .null)
      (written : topic.valueType.encode value = .ok bytes) :
      Gives topic now line ⟨topic.keyType.encode key, some bytes, now⟩

inductive Lacks (topic : Topic) (number : Nat) (line : Bytes) : LoadFault → Prop
  | notUtf8 {fault : Utf8.Fault} (undecoded : Utf8.decode line = .error fault) :
      Lacks topic number line .notUtf8
  | malformed {text : String} (decoded : Utf8.decode line = .ok text)
      (untold : ∀ key value, ¬ Tells text key value) : Lacks topic number line (.malformed number)
  | badKey {text : String} {keyValue : Json} {value : Option Json} {failure : Failure}
      (decoded : Utf8.decode line = .ok text) (tells : Tells text keyValue value)
      (unread : topic.keyType.ofText (DataType.toText keyValue) = .error failure) :
      Lacks topic number line (.badKey number failure)
  | badValue {text : String} {keyValue value : Json} {key : topic.keyType.Key} {failure : Failure}
      (decoded : Utf8.decode line = .ok text) (tells : Tells text keyValue (some value))
      (read : topic.keyType.ofText (DataType.toText keyValue) = .ok key) (given : value ≠ .null)
      (refused : topic.valueType.encode value = .error failure) :
      Lacks topic number line (.badValue number failure)

def outcome (topic : Topic) (now number : Nat) (line : Bytes) : Except LoadFault Record :=
  match Utf8.decode line with
  | .ok text => toRecord topic now number text
  | .error _ => .error .notUtf8

section

variable {text : String} {keyValue : Json} {value : Option Json} {key : topic.keyType.Key}

theorem toRecord_of_null (tells : Tells text keyValue value)
    (read : topic.keyType.ofText (DataType.toText keyValue) = .ok key)
    (gone : value.getD .null = .null) :
    toRecord topic now number text = .ok (Log.tombstone topic now key) := by
  rw [toRecord, readLine?_eq_some_iff.2 ⟨value, tells, rfl⟩]
  simp only [read, gone, if_true]

theorem toRecord_of_ne_null {value : Json} (tells : Tells text keyValue (some value))
    (read : topic.keyType.ofText (DataType.toText keyValue) = .ok key) (given : value ≠ .null) :
    toRecord topic now number text =
      (Log.upsert topic now key value).mapError (.badValue number) := by
  rw [toRecord, readLine?_eq_some_iff.2 ⟨some value, tells, rfl⟩]
  simp only [read, Option.getD_some]
  cases value with
  | null => exact absurd rfl given
  | _ => rfl

end

theorem outcome_of_gives {record : Record} (gives : Gives topic now line record) :
    outcome topic now number line = .ok record := by
  cases gives with
  | removal decoded tells read gone =>
    simp only [outcome, decoded, toRecord_of_null tells read gone]
  | upsert decoded tells read given written =>
    simp only [outcome, decoded, toRecord_of_ne_null tells read given, Log.upsert, written]
    rfl

theorem outcome_of_lacks {fault : LoadFault} (lacks : Lacks topic number line fault) :
    outcome topic now number line = .error fault := by
  cases lacks with
  | notUtf8 undecoded => rw [outcome, undecoded]
  | malformed decoded untold =>
    simp only [outcome, decoded, toRecord]
    split
    · rfl
    · next key value read =>
      obtain ⟨told, tells, -⟩ := readLine?_eq_some_iff.1 read
      exact absurd tells (untold key told)
  | badKey decoded tells unread =>
    simp only [outcome, decoded, toRecord, readLine?_eq_some_iff.2 ⟨_, tells, rfl⟩, unread]
  | badValue decoded tells read given refused =>
    simp only [outcome, decoded, toRecord_of_ne_null tells read given, Log.upsert, refused]
    rfl

theorem not_gives_of_lacks {fault : LoadFault} {record : Record}
    (lacks : Lacks topic number line fault) : ¬ Gives topic now line record := by
  intro gives
  have given : outcome topic now number line = .ok record := outcome_of_gives gives
  rw [outcome_of_lacks lacks] at given
  contradiction

theorem gives_or_lacks (topic : Topic) (now number : Nat) (line : Bytes) :
    (∃ record, Gives topic now line record) ∨ ∃ fault, Lacks topic number line fault := by
  cases decoded : Utf8.decode line with
  | error fault => exact .inr ⟨_, .notUtf8 decoded⟩
  | ok text =>
    by_cases wellFormed : ∃ key value, Tells text key value
    · obtain ⟨keyValue, value, tells⟩ := wellFormed
      cases read : topic.keyType.ofText (DataType.toText keyValue) with
      | error failure => exact .inr ⟨_, .badKey decoded tells read⟩
      | ok key =>
        by_cases gone : value.getD .null = .null
        · exact .inl ⟨_, .removal decoded tells read gone⟩
        · cases value with
          | none => exact absurd rfl gone
          | some value =>
            cases written : topic.valueType.encode value with
            | error failure => exact .inr ⟨_, .badValue decoded tells read gone written⟩
            | ok bytes => exact .inl ⟨_, .upsert decoded tells read gone written⟩
    · exact .inr ⟨_, .malformed decoded fun key value tells => wellFormed ⟨key, value, tells⟩⟩

end

/-! ### Lines one after another -/

theorem loadLines_cons (topic : Topic) (clock : Nat → Nat) (log : Log) (count number : Nat)
    (line : Bytes) (rest : List Bytes) :
    loadLines topic clock log count number (line :: rest) =
      if isBlankLine line then loadLines topic clock log count (number + 1) rest
      else match outcome topic (clock count) number line with
        | .error fault => (log, .error fault)
        | .ok record => loadLines topic clock (log.append record) (count + 1) (number + 1) rest := by
  rw [loadLines, isBlankLine, outcome]
  cases Utf8.decode line with
  | error fault => rfl
  | ok text => exact if_congr (by rw [Text.isEmpty_trim]) rfl rfl

/-- Lines give records one after another, each at the time of its turn. -/
inductive GiveAll (topic : Topic) (clock : Nat → Nat) : Nat → List Bytes → List Record → Prop
  | nil {count : Nat} : GiveAll topic clock count [] []
  | cons {count : Nat} {line : Bytes} {lines : List Bytes} {record : Record}
      {records : List Record} (gives : Gives topic (clock count) line record)
      (others : GiveAll topic clock (count + 1) lines records) :
      GiveAll topic clock count (line :: lines) (record :: records)

/-- What becomes of a log when lines are loaded, the first of which has a number: the records of
all of them are appended and counted, or of those up to a faulty one. -/
inductive LoadsTo (topic : Topic) (clock : Nat → Nat) (log : Log) (count number : Nat) :
    List Bytes → Log × Except LoadFault Nat → Prop
  | all {lines : List Bytes} {records : List Record}
      (given : GiveAll topic clock count (filled lines) records) :
      LoadsTo topic clock log count number lines
        (log.appendAll records, .ok (count + records.length))
  | upTo {earlier later : List Bytes} {bad : Bytes} {records : List Record} {fault : LoadFault}
      (given : GiveAll topic clock count (filled earlier) records)
      (notBlank : isBlankLine bad = false)
      (lacks : Lacks topic (number + earlier.length) bad fault) :
      LoadsTo topic clock log count number (earlier ++ bad :: later)
        (log.appendAll records, .error fault)

section

variable {topic : Topic} {clock : Nat → Nat} {count number : Nat} {log : Log} {line : Bytes}
  {lines : List Bytes} {records : List Record} {after : Log × Except LoadFault Nat}

theorem GiveAll.length_eq (given : GiveAll topic clock count lines records) :
    lines.length = records.length := by
  induction given with
  | nil => rfl
  | cons _ _ ih => rw [List.length_cons, List.length_cons, ih]

theorem GiveAll.exists_gives (given : GiveAll topic clock count lines records) :
    ∀ line ∈ lines, ∃ now record, Gives topic now line record := by
  induction given with
  | nil => exact fun _ among => absurd among List.not_mem_nil
  | cons gives _ ih => exact List.forall_mem_cons.2 ⟨⟨_, _, gives⟩, ih⟩

theorem LoadsTo.blank (blank : isBlankLine line = true)
    (loads : LoadsTo topic clock log count (number + 1) lines after) :
    LoadsTo topic clock log count number (line :: lines) after := by
  have skipped : ∀ lines, filled (line :: lines) = filled lines := fun lines =>
    List.filter_cons_of_neg (by simp [blank])
  cases loads with
  | all given => exact .all ((skipped lines).symm ▸ given)
  | @upTo earlier later bad records fault given notBlank lacks =>
    rw [Nat.add_assoc, Nat.add_comm 1, ← List.length_cons] at lacks
    exact .upTo ((skipped earlier).symm ▸ given) notBlank lacks

theorem LoadsTo.record {record : Record} (notBlank : isBlankLine line = false)
    (gives : Gives topic (clock count) line record)
    (loads : LoadsTo topic clock (log.append record) (count + 1) (number + 1) lines after) :
    LoadsTo topic clock log count number (line :: lines) after := by
  have kept : ∀ lines, filled (line :: lines) = line :: filled lines := fun lines =>
    List.filter_cons_of_pos (by simp [notBlank])
  cases loads with
  | @all _ records given =>
    have counted : count + 1 + records.length = count + (record :: records).length := by
      rw [List.length_cons, Nat.add_assoc, Nat.add_comm 1]
    rw [← Log.appendAll_cons, counted]
    exact .all (kept lines ▸ .cons gives given)
  | @upTo earlier later bad records fault given unblank lacks =>
    rw [Nat.add_assoc, Nat.add_comm 1, ← List.length_cons] at lacks
    rw [← Log.appendAll_cons]
    exact .upTo (kept earlier ▸ .cons gives given) unblank lacks

end

theorem loadsTo_loadLines (topic : Topic) (clock : Nat → Nat) (log : Log) (count number : Nat)
    (lines : List Bytes) :
    LoadsTo topic clock log count number lines (loadLines topic clock log count number lines) := by
  induction lines generalizing log count number with
  | nil =>
    have given : GiveAll topic clock count (filled []) [] := .nil
    exact .all given
  | cons line rest ih =>
    rw [loadLines_cons]
    cases blank : isBlankLine line with
    | true => exact .blank blank (ih log count (number + 1))
    | false =>
      rcases gives_or_lacks topic (clock count) number line with ⟨record, gives⟩ | ⟨fault, lacks⟩
      · rw [outcome_of_gives gives]
        exact .record blank gives (ih _ _ _)
      · rw [outcome_of_lacks lacks]
        have given : GiveAll topic clock count (filled []) [] := .nil
        exact .upTo given blank lacks

/-- A fault is that of the first line which is neither blank nor a record, and it is told by the
number of that line. -/
theorem fault_of_load {topic : Topic} {clock : Nat → Nat} {log : Log} {content : Bytes}
    {fault : LoadFault} (failed : (load topic clock log content).2 = .error fault) :
    ∃ earlier bad later, lines content = earlier ++ bad :: later ∧
      (∀ line ∈ filled earlier, ∃ now record, Gives topic now line record) ∧
      isBlankLine bad = false ∧
      Lacks topic (earlier.length + 1) bad fault := by
  have loads := loadsTo_loadLines topic clock log 0 1 (lines content)
  rw [load] at failed
  generalize loadLines topic clock log 0 1 (lines content) = after at loads failed
  generalize lines content = all at loads
  cases loads with
  | all given => contradiction
  | @upTo earlier later bad records fault given notBlank lacks =>
    cases failed
    exact ⟨earlier, bad, later, rfl, given.exists_gives, notBlank, Nat.add_comm 1 _ ▸ lacks⟩

/-- What is loaded is what lines give up to the first one which gives nothing, and the lines are
counted if there is no such line. -/
theorem LoadsTo.exists_good {topic : Topic} {clock : Nat → Nat} {count number : Nat} {log : Log}
    {lines : List Bytes} {after : Log × Except LoadFault Nat}
    (loads : LoadsTo topic clock log count number lines after) :
    ∃ good rest records, filled lines = good ++ rest ∧
      GiveAll topic clock count good records ∧
      (∀ bad ∈ rest.head?, ∀ now record, ¬ Gives topic now bad record) ∧
      after.1 = log.appendAll records ∧
      ∀ total, after.2 = .ok total ↔ rest = [] ∧ total = count + good.length := by
  cases loads with
  | @all _ records given =>
    refine ⟨filled lines, [], records, (List.append_nil _).symm, given, nofun, rfl, fun total => ?_⟩
    rw [given.length_eq, Except.ok.injEq, eq_comm, eq_self, true_and]
  | @upTo earlier later bad records fault given notBlank lacks =>
    have split : filled (earlier ++ bad :: later) = filled earlier ++ bad :: filled later := by
      rw [filled, List.filter_append, List.filter_cons_of_pos (by simp [notBlank])]
      rfl
    refine ⟨filled earlier, bad :: filled later, records, split, given, ?_, rfl, fun total => ?_⟩
    · rintro first ⟨⟩ now record
      exact not_gives_of_lacks lacks
    · exact ⟨nofun, fun both => absurd both.1 (List.cons_ne_nil _ _)⟩

/-- A file is loaded as far as it is good. All of it is loaded, and its lines that are not blank
are counted, if and only if each of these is a record of the topic. The log has then, and otherwise
too, gained the records of the lines before the first one that is not, in their order: each
partition goes on with its own among them, one offset after another. -/
theorem records_load_as_prefix (topic : Topic) (clock : Nat → Nat) (log : Log) (content : Bytes) :
    let after := load topic clock log content
    let given := filled (lines content)
    AreLinesOf (lines content) content ∧
    (∀ count, after.2 = .ok count ↔
      (∀ line ∈ given, ∃ now record, Gives topic now line record) ∧ count = given.length) ∧
    ∃ good rest records, given = good ++ rest ∧ GiveAll topic clock 0 good records ∧
      (∀ bad ∈ rest.head?, ∀ now record, ¬ Gives topic now bad record) ∧
      after.1 = log.appendAll records ∧
      (∀ number, after.1.partition number =
        log.partition number ++ records.filter (log.place ·.key = number)) ∧
      ∀ before record later, records = before ++ record :: later →
        (after.1.partition (log.place record.key))[
          (log.appendAll before).endOffset (log.place record.key)]? = some record := by
  intro after given
  have loads : LoadsTo topic clock log 0 1 (lines content) after := loadsTo_loadLines ..
  obtain ⟨good, rest, records, parts, gives, stops, grown, done⟩ := loads.exists_good
  change given = good ++ rest at parts
  refine ⟨areLinesOf_lines content, fun count => ?_, good, rest, records, parts, gives, stops,
    grown, fun number => grown ▸ log.partition_appendAll records number, ?_⟩
  · rw [done, Nat.zero_add, parts]
    constructor
    · rintro ⟨rfl, rfl⟩
      rw [List.append_nil]
      exact ⟨gives.exists_gives, rfl⟩
    · rintro ⟨every, rfl⟩
      cases rest with
      | nil => exact ⟨rfl, by rw [List.append_nil]⟩
      | cons bad others =>
        obtain ⟨now, record, own⟩ := every bad (List.mem_append_right _ (.head _))
        exact absurd own (stops bad rfl now record)
  · rintro before record later rfl
    exact grown ▸ log.getElem?_partition_appendAll before later record

/-- A blank line is skipped but has a number, a key without a value is removed, and nothing counts
after a fault. -/
example :
    load ⟨"t", .integer, .string, .mutable, none, none⟩ (fun _ => 0) (.empty 1 .murmur)
        (Utf8.encode " \n[1]\nx\n[2]") =
      (⟨1, .murmur, [⟨[0, 0, 0, 1], none, 0⟩]⟩, .error (.malformed 3)) := by
  cbv

end RecordsFile

end ShardedView

import ShardedView.Files
import ShardedView.Member
import ShardedView.Options.Value
import ShardedView.Partition.Placement

/-!
The options of a replica, and what they say of its addresses, its members and
its topic.
-/

namespace ShardedView.Options

structure Serve where
  bind : Net.Address
  seeds : List Net.Address
  httpPort : Option UInt16
  peers : List Net.Address
  topic : String
  partitions : Nat
  standbys : UInt64
  keyType : DataType
  valueType : DataType
  writeType : WriteType
  /-- The path of the schema of the values. -/
  valueSchema : Option String
  rangeField : Option String
  retentionSeconds : Option Nat
  /-- The path of the records that are loaded at the start. -/
  records : Option String
  requestTimeout : Nat
  deriving DecidableEq, Repr

inductive StartFault
  | noHttpPort (bind : Net.Address)
  | unsupportedKeyType (type : DataType)
  | rangeWithoutSchemaType (type : DataType)
  | rangeWithoutSchema
  | schemaUnread (path : String) (fault : FileFault)
  | schemaNotUtf8 (path : String)
  | schemaNotJson (path : String)
  | schema (failure : Failure)

/-- The wording of a fault, from the outermost message to its cause. -/
def StartFault.messages : StartFault → List String
  | .noHttpPort bind => ["No HTTP port derivable from " ++ bind.text]
  | .unsupportedKeyType type => ["Unsupported key type: " ++ type.label]
  | .rangeWithoutSchemaType type =>
    ["A range field requires schema values, got " ++ type.label]
  | .rangeWithoutSchema => ["--value-schema is required with --range-field"]
  | .schemaUnread path fault => ["Failed to read schema " ++ path, fault.message]
  | .schemaNotUtf8 path =>
    ["Failed to read schema " ++ path, "stream did not contain valid UTF-8"]
  | .schemaNotJson path =>
    ["Schema " ++ path ++ " is not JSON", CodecFault.notJson.message]
  | .schema failure => [failure.message]

namespace Serve

def defaultBind : Net.Address := ⟨.v4 0x7F000001, 5000, 0⟩

def grammar : Grammar Empty where
  options := [
    readable "bind" .single Net.Address.ofText?,
    readable "seed" .list Net.Address.ofText?,
    readable "http-port" .single (small? UInt16.size),
    readable "peer" .list Net.Address.ofText?,
    text "topic",
    readable "partitions" .single (small? UInt32.size),
    readable "standby-replicas" .single large?,
    choice "key-type" DataType.ofName?,
    choice "value-type" DataType.ofName?,
    choice "write-type" WriteType.ofName?,
    path "value-schema",
    text "range-field",
    readable "retention-secs" .single large?,
    path "records",
    readable "request-timeout-ms" .single large?]
  command? _ := none

def parse (words : List String) : Except UsageFault Serve := do
  let arguments ← grammar.parse (some 0) words
  return {
    topic := ← arguments.required "topic"
    bind := (arguments.read? "bind" Net.Address.ofText?).getD defaultBind
    seeds := arguments.readAll "seed" Net.Address.ofText?
    httpPort := (arguments.read? "http-port" (small? UInt16.size)).map UInt16.ofNat
    peers := arguments.readAll "peer" Net.Address.ofText?
    partitions := (arguments.read? "partitions" (small? UInt32.size)).getD 8
    standbys := .ofNat ((arguments.read? "standby-replicas" large?).getD 0)
    keyType := (arguments.read? "key-type" DataType.ofName?).getD .string
    valueType := (arguments.read? "value-type" DataType.ofName?).getD .schema
    writeType := (arguments.read? "write-type" WriteType.ofName?).getD .mutable
    valueSchema := arguments.value? "value-schema"
    rangeField := arguments.value? "range-field"
    retentionSeconds := arguments.read? "retention-secs" large?
    records := arguments.value? "records"
    requestTimeout := (arguments.read? "request-timeout-ms" large?).getD 500 }

/-- How far the HTTP address lies above the gossip address unless told
otherwise. -/
def httpDistance : Nat := 1000

def httpAddress (options : Serve) : Except StartFault Net.Address :=
  match options.httpPort with
  | some number => .ok ⟨options.bind.ip, number, 0⟩
  | none =>
    let number := options.bind.portNumber.toNat + httpDistance
    if number < UInt16.size then .ok ⟨options.bind.ip, UInt16.ofNat number, 0⟩
    else .error (.noHttpPort options.bind)

/-- Whether the members are listed, so that the replica does not gossip. -/
def isStatic (options : Serve) : Bool :=
  !options.peers.isEmpty

def listed (http : Net.Address) : Member :=
  .fixed http.text http

def members (options : Serve) : Except StartFault (Member × List Member) := do
  return (listed (← options.httpAddress), options.peers.map listed)

/-- After how many milliseconds keys expire, if ever. -/
def retention (options : Serve) : Option Nat :=
  options.retentionSeconds.map (· * 1000)

def rangeType (options : Serve) (contentOf : String → Except FileFault Bytes) :
    Except StartFault (Option RangeType) :=
  match options.rangeField with
  | none => .ok none
  | some field =>
    if options.valueType ≠ .schema then .error (.rangeWithoutSchemaType options.valueType)
    else
      match options.valueSchema with
      | none => .error .rangeWithoutSchema
      | some path =>
        match (contentOf path).map Utf8.decode with
        | .error fault => .error (.schemaUnread path fault)
        | .ok (.error _) => .error (.schemaNotUtf8 path)
        | .ok (.ok text) =>
          match Json.ofText? text with
          | none => .error (.schemaNotJson path)
          | some schema =>
            ((RangeType.ofSchema schema field).map some).mapError .schema

def toTopic (options : Serve) (contentOf : String → Except FileFault Bytes) :
    Except StartFault Topic := do
  let some keyType := KeyType.ofDataType? options.keyType
    | throw (.unsupportedKeyType options.keyType)
  let _ ← options.httpAddress
  let type ← options.rangeType contentOf
  return {
    name := options.topic
    keyType
    valueType := options.valueType
    writeType := options.writeType
    rangeField := do return ⟨← options.rangeField, ← type⟩
    retention := options.retention }

end Serve

end ShardedView.Options

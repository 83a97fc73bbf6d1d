import ShardedView.Http.Host
import ShardedView.Json.Printer
import ShardedView.Number.FloatText
import ShardedView.Number.Integer
import ShardedView.Topic.DataType

/-!
What can go wrong in a store, a query or a request: the causes, their wording,
and how they are told apart by kind.
-/

namespace ShardedView

inductive CodecFault
  | notUtf8 (fault : Utf8.Fault)
  | keyLength (type : DataType) (width length : Nat)
  | valueLength (type : DataType) (width : Nat)
  | notFinite
  | mismatch (value : Json) (type : DataType)
  | notJson
  /-- As told by another server. -/
  | reported (text : String)
  deriving Repr

def CodecFault.expectation (type : DataType) (width : Nat) : String :=
  "Expected " ++ toString width ++ " bytes for " ++
    (if type = .integer then "an " else "a ") ++ type.name

def CodecFault.message : CodecFault → String
  | .notUtf8 fault => fault.message
  | .keyLength type width length => expectation type width ++ ", got " ++ toString length
  | .valueLength type width => expectation type width
  | .notFinite => "Double is not a finite number"
  | .mismatch value type =>
    "Value " ++ value.print ++ " does not match topic type " ++ type.label
  | .notJson => "<json>"
  | .reported text => text

inductive ArgumentFault
  | keyText (type : KeyType) (text : String) (fault : IntegerFault)
  | integer (fault : IntegerFault)
  | float (fault : FloatFault)
  | notFinite
  | rangeBound (text : String)
  | noRangeField (topic : String)
  | url (address path : String) (fault : Http.UrlFault)
  /-- As told by another server. -/
  | reported (text : String)
  deriving Repr

def ArgumentFault.message : ArgumentFault → String
  | .keyText type text fault =>
    let article := if type = .integer then "an " else "a "
    "'" ++ text ++ "' is not " ++ article ++ type.toDataType.name ++ ": " ++ fault.message
  | .integer fault => fault.message
  | .float fault => fault.message
  | .notFinite => "Double is not finite"
  | .rangeBound text => "Invalid range bound: " ++ text
  | .noRangeField topic => "Topic " ++ topic ++ " has no range field"
  | .url address path fault =>
    "Invalid URL http://" ++ address ++ path ++ ": " ++ fault.message
  | .reported text => text

inductive IndexFault
  | notInt (value : Int64)
  | notPadded (text : String)
  | noSeparator (text : String)
  | notRecordSchema
  | notInSchema (field : String)
  | wrongType
  | notInRecord (field : String)
  | notIntegral (field : String) (value : Json)
  | fieldNotInt (field : String) (value : Int64)
  /-- As told by another server. -/
  | reported (text : String)
  deriving Repr

def IndexFault.message : IndexFault → String
  | .notInt value => "Value " ++ toString value.toInt ++ " does not fit an int range field"
  | .notPadded text => "Invalid padded value: " ++ text
  | .noSeparator text => "Not a range index key: " ++ text
  | .notRecordSchema => "Schema is not a record schema"
  | .notInSchema field => "Could not find field " ++ field ++ " in schema"
  | .wrongType => "Range field should be either of type integer or long"
  | .notInRecord field => "Record has no field " ++ field
  | .notIntegral field value =>
    "Field " ++ field ++ " is not an integral number: " ++ value.print
  | .fieldNotInt field value =>
    "Field " ++ field ++ " does not fit an int: " ++ toString value.toInt
  | .reported text => text

inductive Failure
  | notFound (key : String)
  | noHostForPartition (partition : Nat)
  | routerNotInitialized
  | unreachable (host reason : String)
  | storeNotAvailable
  | storeNotRunning
  | codec (fault : CodecFault)
  | badArgument (fault : ArgumentFault)
  | rangeIndex (fault : IndexFault)
  /-- Another server answered with this status code. -/
  | status (code : UInt16) (message : String)
  | lock (reason : String)
  | internal (reason : String)
  deriving Repr

namespace Failure

inductive Kind
  | notFound
  | noHostForPartition
  | routerNotInitialized
  | unreachable
  | storeNotAvailable
  | storeNotRunning
  | codec
  | badArgument
  | rangeIndex
  | status
  | lock
  | internal
  deriving DecidableEq, Repr

def Kind.name : Kind → String
  | .notFound => "not_found"
  | .noHostForPartition => "no_host_for_partition"
  | .routerNotInitialized => "router_not_initialized"
  | .unreachable => "unreachable"
  | .storeNotAvailable => "store_not_available"
  | .storeNotRunning => "store_not_running"
  | .codec => "codec"
  | .badArgument => "bad_argument"
  | .rangeIndex => "range_index"
  | .status => "status"
  | .lock => "lock"
  | .internal => "internal"

def kind : Failure → Kind
  | notFound _ => .notFound
  | noHostForPartition _ => .noHostForPartition
  | routerNotInitialized => .routerNotInitialized
  | unreachable _ _ => .unreachable
  | storeNotAvailable => .storeNotAvailable
  | storeNotRunning => .storeNotRunning
  | codec _ => .codec
  | badArgument _ => .badArgument
  | rangeIndex _ => .rangeIndex
  | status _ _ => .status
  | lock _ => .lock
  | internal _ => .internal

def message : Failure → String
  | notFound key => "Key " ++ key ++ " not found"
  | noHostForPartition partition => "No host for partition: " ++ toString partition
  | routerNotInitialized => "Router has not been initialized properly"
  | unreachable host reason => "Host " ++ host ++ " is unreachable: " ++ reason
  | storeNotAvailable => "Store currently not available"
  | storeNotRunning => "Store is not running"
  | codec fault => "Codec error: " ++ fault.message
  | badArgument fault => "Bad argument: " ++ fault.message
  | rangeIndex fault => "Range index error: " ++ fault.message
  | status code message =>
    "Requested resource responded with status code " ++ toString code ++ ": " ++ message
  | lock reason => "Lock error: " ++ reason
  | internal reason => "Internal error: " ++ reason

def isRetryable (failure : Failure) : Bool :=
  failure.kind = .unreachable || failure.kind = .storeNotAvailable

/-- The status code of the reply to a failed request. A status of another server
is passed on if it has three digits. -/
def statusCode : Failure → UInt16
  | notFound _ => 404
  | codec _ | badArgument _ | rangeIndex _ => 400
  | unreachable _ _ => 502
  | storeNotAvailable => 503
  | status code _ => if 100 ≤ code ∧ code ≤ 999 then code else 500
  | _ => 500

def body (failure : Failure) : Json :=
  .ofMembers [("type", .str failure.kind.name), ("message", .str failure.message)]

end Failure

end ShardedView

import ShardedView.Failure
import ShardedView.Http.Url

/-!
Where a replica, or a service in front of several, is asked for values.
-/

namespace ShardedView

/-- A host by its name, before which a service puts a lead of its own. -/
structure Endpoint where
  host : String
  lead : Option String
  deriving DecidableEq, Repr

namespace Endpoint

/-- What service names begin with unless told otherwise. -/
def defaultLead : String := "quick-mirror-"

def direct (host : String) : Endpoint := ⟨host, none⟩

def address (endpoint : Endpoint) : String :=
  endpoint.lead.getD "" ++ endpoint.host

def isSameHost (left right : Endpoint) : Bool :=
  left.host = right.host

def url (endpoint : Endpoint) (path : String) : Except Failure Http.Url :=
  match Http.Url.ofRemainder (endpoint.address ++ path).toList with
  | .ok url => .ok url
  | .error fault => .error (.badArgument (.url endpoint.address path fault))

def urlOfSegments (endpoint : Endpoint) (segments : List String) : Except Failure Http.Url := do
  return (← endpoint.url "/").addSegments segments

def keyUrl (endpoint : Endpoint) (key : String) : Except Failure Http.Url :=
  endpoint.urlOfSegments ["mirror", key]

/-- Where several keys are asked for. The server takes them apart at commas. -/
def keysUrl (endpoint : Endpoint) (keys : List String) : Except Failure Http.Url := do
  return (← endpoint.urlOfSegments ["mirror", "keys"]).addQuery
    [("ids", ",".intercalate keys)]

def allUrl (endpoint : Endpoint) : Except Failure Http.Url :=
  endpoint.url "/mirror"

def rangeUrl (endpoint : Endpoint) (key lower upper : String) : Except Failure Http.Url := do
  return (← endpoint.urlOfSegments ["mirror", "range", key]).addQuery
    [("from", lower), ("to", upper)]

def internalKeyUrl (endpoint : Endpoint) (key : String) : Except Failure Http.Url :=
  endpoint.urlOfSegments ["internal", "mirror", key]

def internalRangeUrl (endpoint : Endpoint) (key lower upper : String) :
    Except Failure Http.Url := do
  return (← endpoint.urlOfSegments ["internal", "mirror", "range", key]).addQuery
    [("from", lower), ("to", upper)]

def partitionsUrl (endpoint : Endpoint) : Except Failure Http.Url :=
  endpoint.url "/streams/partitions"

end Endpoint

end ShardedView

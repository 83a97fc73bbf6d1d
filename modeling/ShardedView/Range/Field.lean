import ShardedView.Range.Padding

/-!
The range field of a record: its type in a schema and its value in a record.
-/

namespace ShardedView.RangeType

def isNullBranch (branch : Json) : Bool :=
  branch.text? = some "null"

mutual

def ofSchemaType? : Json → Option RangeType
  | .str name => ofName? name
  | .obj members => ofInnerType? members
  | .arr branches => ofUnion? branches
  | _ => none

def ofInnerType? : List (String × Json) → Option RangeType
  | [] => none
  | member :: rest => if member.1 = "type" then ofMember? member else ofInnerType? rest

def ofMember? : String × Json → Option RangeType
  | (_, type) => ofSchemaType? type

/-- The type of the only branch of a union that is not null. -/
def ofUnion? : List Json → Option RangeType
  | [] => none
  | branch :: rest =>
    if isNullBranch branch then ofUnion? rest
    else if rest.all isNullBranch then ofSchemaType? branch
    else none

end

def ofSchema (schema : Json) (field : String) : Except Failure RangeType :=
  match (schema.member? "fields").bind Json.items? with
  | none => .error (.rangeIndex .notRecordSchema)
  | some fields =>
    let named := fields.find? fun item => (item.member? "name").bind Json.text? = some field
    match named.bind (·.member? "type") with
    | none => .error (.rangeIndex (.notInSchema field))
    | some type =>
      match ofSchemaType? type with
      | some type => .ok type
      | none => .error (.rangeIndex .wrongType)

def extract (type : RangeType) (record : Json) (field : String) : Except Failure Int64 :=
  match record.member? field with
  | none => .error (.rangeIndex (.notInRecord field))
  | some value =>
    match value.int64? with
    | none => .error (.rangeIndex (.notIntegral field value))
    | some number =>
      if type.fits number then .ok number
      else .error (.rangeIndex (.fieldNotInt field number))

end ShardedView.RangeType

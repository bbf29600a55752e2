/-!
# Primitive types

The fifteen primitive types of the entity data model.
-/

namespace ODataClient

/-- A primitive type of the entity data model. -/
inductive EdmType where
  | binary
  | boolean
  | byte
  | dateTime
  | dateTimeOffset
  | decimal
  | double
  | guid
  | int16
  | int32
  | int64
  | sbyte
  | single
  | string
  | time
deriving DecidableEq, Repr

/-- A type name that begins like a primitive and is none. -/
structure UnknownEdmType where
  name : String
deriving DecidableEq, Repr

namespace EdmType

def all : List EdmType :=
  [binary, boolean, byte, dateTime, dateTimeOffset, decimal, double, guid, int16, int32, int64,
    sbyte, single, string, time]

def name : EdmType → String
  | binary => "Edm.Binary"
  | boolean => "Edm.Boolean"
  | byte => "Edm.Byte"
  | dateTime => "Edm.DateTime"
  | dateTimeOffset => "Edm.DateTimeOffset"
  | decimal => "Edm.Decimal"
  | double => "Edm.Double"
  | guid => "Edm.Guid"
  | int16 => "Edm.Int16"
  | int32 => "Edm.Int32"
  | int64 => "Edm.Int64"
  | sbyte => "Edm.SByte"
  | single => "Edm.Single"
  | string => "Edm.String"
  | time => "Edm.Time"

/-- The primitive type of a qualified name. -/
def ofName (name : String) : Except UnknownEdmType EdmType :=
  match all.find? fun type => type.name = name with
  | some type => .ok type
  | none => .error { name }

end EdmType

namespace UnknownEdmType

def message (error : UnknownEdmType) : String :=
  s!"unknown EDM primitive type '{error.name}'"

def code : String := "vdmgen::model::unknown_edm_type"

def help : String :=
  "supported primitives are Edm.Binary, Edm.Boolean, Edm.Byte, Edm.DateTime, " ++
    "Edm.DateTimeOffset, Edm.Decimal, Edm.Double, Edm.Guid, Edm.Int16, Edm.Int32, Edm.Int64, " ++
    "Edm.SByte, Edm.Single, Edm.String and Edm.Time"

end UnknownEdmType

end ODataClient

/-!
# Primitive types

The types that the codec library has methods of its own for: how they are spelled, the stem of their
method names, and the standard package that declares them.
-/

namespace CodecGen

/-- A type with encoder and decoder methods of its own. -/
inductive Primitive where
  | string
  | int
  | int8
  | int16
  | int32
  | int64
  | uint8
  | uint16
  | uint32
  | uint64
  | float32
  | float64
  | bool
  | time
  | nullString
  | nullInt64
  | nullFloat64
  | nullBool
  deriving DecidableEq, Repr, Inhabited

namespace Primitive

/-- All primitive types. -/
def all : List Primitive :=
  [string, int, int8, int16, int32, int64, uint8, uint16, uint32, uint64, float32, float64, bool,
    time, nullString, nullInt64, nullFloat64, nullBool]

/-- The spelling of a primitive type. -/
def spelling : Primitive → String
  | string => "string"
  | int => "int"
  | int8 => "int8"
  | int16 => "int16"
  | int32 => "int32"
  | int64 => "int64"
  | uint8 => "uint8"
  | uint16 => "uint16"
  | uint32 => "uint32"
  | uint64 => "uint64"
  | float32 => "float32"
  | float64 => "float64"
  | bool => "bool"
  | time => "time.Time"
  | nullString => "sql.NullString"
  | nullInt64 => "sql.NullInt64"
  | nullFloat64 => "sql.NullFloat64"
  | nullBool => "sql.NullBool"

/-- The primitive type that a name spells. Two of them have a second name. -/
def ofName? (name : String) : Option Primitive :=
  match name with
  | "byte" => some uint8
  | "rune" => some int32
  | _ => all.find? fun p => p.spelling = name

/-- The stem of the names of encoder and decoder methods. -/
def method : Primitive → String
  | string => "String"
  | int => "Int"
  | int8 => "Int8"
  | int16 => "Int16"
  | int32 => "Int32"
  | int64 => "Int64"
  | uint8 => "Uint8"
  | uint16 => "Uint16"
  | uint32 => "Uint32"
  | uint64 => "Uint64"
  | float32 => "Float32"
  | float64 => "Float64"
  | bool => "Bool"
  | time => "Time"
  | nullString => "SQLNullString"
  | nullInt64 => "SQLNullInt64"
  | nullFloat64 => "SQLNullFloat64"
  | nullBool => "SQLNullBool"

/-- The type wraps a value that may be missing. -/
def isNullable : Primitive → Bool
  | nullString | nullInt64 | nullFloat64 | nullBool => true
  | _ => false

end Primitive

/-- A standard package that generated code may need, in the order in which imports are listed. -/
inductive StdPackage where
  | databaseSql
  | time
  deriving DecidableEq, Repr, Inhabited

namespace StdPackage

/-- All standard packages, in the order of their paths. -/
def all : List StdPackage :=
  [databaseSql, time]

/-- The path by which a package is imported. -/
def path : StdPackage → String
  | databaseSql => "database/sql"
  | time => "time"

/-- How code refers to names of a package. -/
def qualifier : StdPackage → String
  | databaseSql => "sql."
  | time => "time."

end StdPackage

/-- The standard package that declares a primitive type. -/
def Primitive.package? (p : Primitive) : Option StdPackage :=
  if p = .time then some .time else if p.isNullable then some .databaseSql else none

/-- No primitive type is missing from the list of all of them. -/
theorem Primitive.mem_all (p : Primitive) : p ∈ Primitive.all := by
  cases p <;> decide

end CodecGen

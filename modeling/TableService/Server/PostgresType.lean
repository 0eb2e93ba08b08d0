/-
  The types of PostgreSQL for which values are written and read in their binary form.

  All types that hold text as it is are one here, `PostgresType.text`.
-/

namespace TableService

/-- A type of parameters and columns. -/
inductive PostgresType where
  | bool
  | int2
  | int4
  | int8
  | float4
  | float8
  | bytea
  | json
  | jsonb
  | numeric
  | timestamp
  | timestamptz
  | date
  | time
  | uuid
  /-- Text of any length or padding. -/
  | text
  /-- A type that has no form here. -/
  | other
  deriving DecidableEq, Repr

namespace PostgresType

/-- The types by their names. -/
def byName : List (String × PostgresType) :=
  [("bool", .bool), ("int2", .int2), ("int4", .int4), ("int8", .int8), ("float4", .float4),
    ("float8", .float8), ("bytea", .bytea), ("json", .json), ("jsonb", .jsonb),
    ("numeric", .numeric), ("timestamp", .timestamp), ("timestamptz", .timestamptz),
    ("date", .date), ("time", .time), ("uuid", .uuid), ("text", .text), ("varchar", .text),
    ("bpchar", .text), ("name", .text), ("unknown", .text)]

/-- The type of a name. -/
def ofName (name : String) : PostgresType := (byName.lookup name).getD .other

end PostgresType

end TableService

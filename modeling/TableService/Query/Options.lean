/-
  Options of the requests for rows, as they are given.

  * `ReadOptions` says which columns of which rows are wanted, in which order.
  * `ReadOptions.shape` and `filterShape` read options from JSON.
-/
import TableService.Query.Filter

namespace TableService

/-- The options of a read; what is absent is not restricted. -/
structure ReadOptions where
  fields : Option (List String)
  filter : Option Filter
  /-- Entries as in `OrderTerm.ofEntry`. -/
  orderBy : Option (List String)
  limit : Option UInt64
  offset : Option UInt64

namespace ReadOptions

/-- All columns of all rows. -/
def all : ReadOptions := ⟨none, none, none, none, none⟩

/-- Wants these columns. -/
def withFields (o : ReadOptions) (fields : List String) : ReadOptions :=
  ⟨some fields, o.filter, o.orderBy, o.limit, o.offset⟩

/-- Wants the rows that pass a filter. -/
def withFilter (o : ReadOptions) (filter : Filter) : ReadOptions :=
  ⟨o.fields, some filter, o.orderBy, o.limit, o.offset⟩

/-- Adds an entry to the order. -/
def orderedBy (o : ReadOptions) (entry : String) : ReadOptions :=
  ⟨o.fields, o.filter, some (o.orderBy.getD [] ++ [entry]), o.limit, o.offset⟩

/-- Wants at most so many rows. -/
def withLimit (o : ReadOptions) (limit : UInt64) : ReadOptions :=
  ⟨o.fields, o.filter, o.orderBy, some limit, o.offset⟩

/-- Leaves out so many rows. -/
def withOffset (o : ReadOptions) (offset : UInt64) : ReadOptions :=
  ⟨o.fields, o.filter, o.orderBy, o.limit, some offset⟩

end ReadOptions

/-- A number of rows. -/
def Shape.count : Shape UInt64 := fun d v => (Shape.whole UInt64.size d v).map Nat.toUInt64

/-- Options of a read: a record of five values, each of which may be `null`. -/
def ReadOptions.shape : Shape ReadOptions :=
  .record
    [.of "fields" (.optional (.list .string)) fun v o => { o with fields := v },
      .of "where" (.optional Filter.shape) fun v o => { o with filter := v },
      .of "orderBy" (.optional .stringOrList) fun v o => { o with orderBy := v },
      .of "limit" (.optional .count) fun v o => { o with limit := v },
      .of "offset" (.optional .count) fun v o => { o with offset := v }]
    .all some

/-- Options of an update or a deletion: a record of a filter, which may be `null`. -/
def filterShape : Shape (Option Filter) :=
  .record [.of "where" (.optional Filter.shape) fun v _ => v] none some

end TableService

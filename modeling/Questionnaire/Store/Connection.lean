import Questionnaire.Retry
import Questionnaire.Store.Tables

/-!
# The connection to the tables

Every query may fail, and one whose error looks like a dropped connection is tried again. A failing query
leaves the tables as they are, unless only its acknowledgement was lost.

* `Connection.execute`: one attempt at a query.
* `Connection.query`: a query with its repetitions.
-/

namespace Questionnaire

/-- A failure that awaits a query. -/
structure Fault where
  message : Text
  /-- Did the query take effect before the connection failed? -/
  applied : Bool := false
deriving DecidableEq, Repr

/-- The tables behind a connection, the faults to come, and a record of what happened. -/
structure Connection where
  tables : Tables
  /-- What awaits the next attempts, in order; after the last there is no fault. -/
  faults : List (Option Fault) := []
  calls : List String := []
  delays : List Json := []
  notices : List Notice := []

namespace Connection

/-- One attempt at a query. -/
def execute (q : Query) (c : Connection) : Except Text (List Row) × Connection :=
  let (rows, tables) := q.run c.tables
  let after := { c with calls := c.calls ++ [q.call], faults := c.faults.tail }
  match c.faults.head?.join with
  -- of a query whose acknowledgement was lost the effect remains
  | some fault => (.error fault.message, if fault.applied then { after with tables } else after)
  | none => (.ok rows, { after with tables })

/-- A query with its repetitions. -/
def query (q : Query) (c : Connection) : Except QueryFailure (List Row) × Connection :=
  let done := Retry.run Retry.storeLimit Retry.storeBase (execute q) c
  (done.result,
    { done.state with
      delays := done.state.delays ++ done.delays, notices := done.state.notices ++ done.notices })

end Connection
end Questionnaire

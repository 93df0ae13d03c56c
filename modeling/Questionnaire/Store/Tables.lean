import Questionnaire.Json.Basic

/-!
# Tables and queries

Forms and their versions are kept in two tables of rows. A query selects rows, adds one or changes some;
rows keep their order. The id of a row that is added is up to the database; the tables hold the ids that it has
in store.

* `Ids`: the ids of the rows to come.
* `Query.run`: the rows that a query gives, and the tables after it.
-/

namespace Questionnaire

/-- A row of a table: values under the names of columns. -/
abbrev Row := Fields

/-- The tables. -/
inductive Table where
  | forms
  | versions
deriving DecidableEq, Repr

/-- The name of a table. -/
def Table.name : Table → String
  | forms => "forms"
  | versions => "form_versions"

/-- The ids that a database gives to new rows, one after the other. None is empty. -/
@[ext]
structure Ids where
  nth : Nat → Text
  ne_nil (n : Nat) : nth n ≠ []

namespace Ids

/-- The id of the next row. -/
def next (ids : Ids) : Text := ids.nth 0

/-- The ids after the first so many. -/
def drop (ids : Ids) (count : Nat) : Ids := ⟨fun n => ids.nth (count + n), fun n => ids.ne_nil (count + n)⟩

@[simp] theorem nth_drop (ids : Ids) (count n : Nat) : (ids.drop count).nth n = ids.nth (count + n) := rfl

@[simp] theorem next_drop (ids : Ids) (count : Nat) : (ids.drop count).next = ids.nth count := rfl

@[simp] theorem drop_zero (ids : Ids) : ids.drop 0 = ids := by
  ext1
  funext n
  rw [nth_drop, Nat.zero_add]

@[simp] theorem drop_drop (ids : Ids) (count more : Nat) : (ids.drop count).drop more = ids.drop (count + more) := by
  ext1
  funext n
  rw [nth_drop, nth_drop, nth_drop, Nat.add_assoc]

/-- The ids of a table in memory: its name, and a number that counts on from so many rows. -/
def counting (table : Table) (rows : Nat) : Ids where
  nth n := table.name ++ "-" ++ toString (rows + n + 1)
  ne_nil n := by simp [Text.ofString]

end Ids

/-- The rows of the tables, and the ids of the rows to come. -/
structure Tables where
  forms : List Row
  versions : List Row
  ids : Ids := .counting .versions versions.length

namespace Tables

/-- The rows of a table. -/
def rows (t : Tables) : Table → List Row
  | .forms => t.forms
  | .versions => t.versions

/-- The tables with the rows of one changed. -/
def withRows (t : Tables) (table : Table) (rows : List Row) : Tables :=
  match table with
  | .forms => { t with forms := rows }
  | .versions => { t with versions := rows }

end Tables

/-- A query. A filter names a column and the value that it must equal. -/
inductive Query where
  | select (table : Table) (columns : Option (List Text)) (filters : List (Text × Json))
      (descending : Option Text) (limit : Option Nat)
  | insert (table : Table) (row : Row)
  | update (table : Table) (changes : Row) (filters : List (Text × Json))

/-- The place of a value among the values of a column, an empty one counting as zero: first by the sign
of an infinity, then by the exact value in units of doubles. Texts other than the empty one have none. -/
def Json.sortKey? : Json → Option (Int × Int)
  | .null => some (0, 0)
  | .bool b => some (0, Json.ofTruth b * Binary64.unitsPerOne)
  | .int n => some (0, n * Binary64.unitsPerOne)
  | .float (.infinite negative) => some (if negative then -1 else 1, 0)
  | .float x => x.scaled.map fun units => (0, units)
  | .str s => if s = "" then some (0, 0) else none
  | v => if v.isEmpty then some (0, 0) else none

/-- Does a value stand before another in ascending order? -/
def Json.sortsBefore : Json → Json → Bool
  | .str a, .str b => a < b
  | a, b =>
    match a.sortKey?, b.sortKey? with
    | some (i, x), some (j, y) => i < j || (i == j && x < y)
    | _, _ => false

namespace Query

/-- The kind of a query and its table, as it is recorded. -/
def call : Query → String
  | select table .. => "select " ++ table.name
  | insert table _ => "insert " ++ table.name
  | update table .. => "update " ++ table.name

/-- Does a row pass the filters? A missing column counts as null. -/
def passes (filters : List (Text × Json)) (row : Row) : Bool :=
  filters.all fun (column, value) => (row.get column).equals value

/-- Rows with the greatest value of a column first; rows with equal values keep their order. -/
def sortDescending (column : Text) (rows : List Row) : List Row :=
  rows.mergeSort fun a b => !(a.get column).sortsBefore (b.get column)

/-- The named columns of a row that it has, in the order of the names. -/
def project (columns : List Text) (row : Row) : Row :=
  columns.filterMap fun column => (row.get? column).map fun v => (column, v)

/-- A row with changes. -/
def change (changes : Row) (row : Row) : Row := changes.foldl (fun row (column, value) => row.set column value) row

/-- The rows that a query gives, and the tables after it. -/
def run (q : Query) (t : Tables) : List Row × Tables :=
  match q with
  | select table columns filters descending limit =>
    let rows := (t.rows table).filter (passes filters)
    let rows := match descending with
      | some column => sortDescending column rows
      | none => rows
    let rows := match limit with
      | some n => rows.take n
      | none => rows
    let rows := match columns with
      | some names => rows.map (project names)
      | none => rows
    (rows, t)
  | insert table row =>
    -- an id that the row brings along is kept, and the made one is used up all the same
    let row := Fields.ofEntries (("id", .str t.ids.next) :: row)
    ([row], { t.withRows table (t.rows table ++ [row]) with ids := t.ids.drop 1 })
  | update table changes filters =>
    let rows := t.rows table
    ((rows.filter (passes filters)).map (change changes),
      t.withRows table (rows.map fun row => if passes filters row then change changes row else row))

end Query
end Questionnaire

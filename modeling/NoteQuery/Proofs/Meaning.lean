import NoteQuery.Proofs.Normalization
import NoteQuery.Proofs.Numerals

/-!
# What derivations mean

The query that a derivation stands for, read off its tokens without a tree. Of clauses of one kind
the first one counts, but every filter does. Only a limit can be without a meaning.
-/

namespace NoteQuery.Syntax

/-! ## Values -/

/-- A text without `width` characters at each end. -/
def inside (width : Nat) (text : String) : String :=
  String.ofList ((text.toList.drop width).take (text.toList.length - 2 * width))

/-- The number of a numeral. -/
def numberOf (t : Token) : Binary64 := (Binary64.ofText? t.text).getD default

/-- The value of a token. -/
def literalMeaning (t : Token) : Value :=
  match t.kind with
  | .number => .number (numberOf t)
  | .string => .string (inside 1 t.text)
  | .regex => .string (inside 1 t.text)
  | .pageRef => .pageRef (inside 2 t.text)
  | _ =>
    if t.text = "true" ∨ t.text = "false" then .bool (t.text == "true")
    else if t.text = "null" then .null
    else .string t.text

mutual

def ValuePhrase.meaning : ValuePhrase → Value
  | .literal t => literalMeaning t.1
  | .emptyList _ _ _ => .list []
  | .list _ _ items => .list items.meanings

def ItemPhrases.meanings : ItemPhrases → List Value
  | .last item _ _ => [item.meaning]
  | .more item _ _ _ items => item.meaning :: items.meanings

end

/-! ## Clauses -/

def FilterPhrase.meaning (f : FilterPhrase) : Filter where
  comparison := (Comparison.ofSymbol? f.operator.1.text).getD default
  field := f.field.1.text
  value := f.operand.meaning

/-- The field, and whether larger values come first. -/
def OrderPhrase.meaning (o : OrderPhrase) : String × Bool :=
  (o.field.1.text, o.direction.elim false (fun d => d.word.1.text == "desc"))

namespace LimitPhrase

/-- The tree of the number. -/
def numberTree (l : LimitPhrase) : Tree := .spanning Tree.Tag.number [leafOf l.number.1]

def meaning (l : LimitPhrase) : Except ShapeError Nat :=
  match Tree.admissibleLimit? (numberOf l.number.1) with
  | some n => .ok n
  | none =>
    .error (.inadmissibleLimit (Value.number (numberOf l.number.1)).display l.numberTree.describe)

end LimitPhrase

def SelectPhrase.meaning (s : SelectPhrase) : List String :=
  s.first.1.text :: s.further.map (fun n => n.name.1.text)

def RenderPhrase.meaning (r : RenderPhrase) : String :=
  inside (if r.target.1.kind = .pageRef then 2 else 1) r.target.1.text

namespace Clause

def filter? : Clause → Option FilterPhrase
  | filter _ f => some f
  | _ => none

def order? : Clause → Option OrderPhrase
  | order o => some o
  | _ => none

def limit? : Clause → Option LimitPhrase
  | limit l => some l
  | _ => none

def select? : Clause → Option SelectPhrase
  | select s => some s
  | _ => none

def render? : Clause → Option RenderPhrase
  | render r => some r
  | _ => none

end Clause

/-! ## Queries -/

namespace QueryPhrase

/-- The first clause of a kind. -/
def first? {α : Type} (kind : Clause → Option α) (q : QueryPhrase) : Option α :=
  q.clauses.findSome? (fun c => kind c.clause)

/-- The query but for its limit. -/
def withLimit (q : QueryPhrase) (limit : Option Nat) : Query where
  table := q.table.1.text
  filters := (q.clauses.filterMap (fun c => c.clause.filter?)).map FilterPhrase.meaning
  orderBy := (q.first? Clause.order?).map (fun o => o.meaning.1)
  descending := ((q.first? Clause.order?).map (fun o => o.meaning.2)).getD false
  limit := limit
  select := (q.first? Clause.select?).map SelectPhrase.meaning
  render := (q.first? Clause.render?).map RenderPhrase.meaning

def meaning (q : QueryPhrase) : Except ShapeError Query :=
  match q.first? Clause.limit? with
  | none => .ok (q.withLimit none)
  | some l => l.meaning.map (fun n => q.withLimit (some n))

theorem exists_withLimit_of_meaning {q : QueryPhrase} {asked : Query} (h : q.meaning = .ok asked) :
    ∃ limit, q.withLimit limit = asked := by
  rw [meaning] at h
  split at h
  · exact ⟨none, Except.ok.inj h⟩
  · obtain ⟨n, -, hn⟩ := exists_of_map h
    exact ⟨some n, hn⟩

end QueryPhrase

end NoteQuery.Syntax

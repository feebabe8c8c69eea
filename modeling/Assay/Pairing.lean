/-
  Pairing rows with columns.

  Some rows each accept some columns; every row wants a column for itself.  Rows are served in
  order.  A row takes the first acceptable column that is free, or that its owner can give up for
  another one, and so on along a chain; within one such search no column is looked at twice.  This
  finds as many pairs as there can be, and a row that has been served stays served.

  A search looks at one more column at every step, so it ends after as many steps as there are
  columns: this is the fuel of `seek`.

  Columns are owned (`Owners`): `Owners.of?` is the row that a column has gone to.  `tryColumns`
  goes through the columns of a row, `seek` looks for a column for one row, and `serve` gives the
  rows a column, one after the other, if there is one.  The rows that get none are `unserved`.

  That a search which fails has left no way open is the invariant of `Assay.Proofs.Pairing`: the
  rows that own the columns it has looked at accept no others.  From this it follows in
  `Assay.Proofs.Largest` that no set of pairs is larger than the one found, and that a row is served
  exactly if it can be served together with all rows that are served before it.
-/

namespace Assay.Pairing

/-- Who owns which column: pairs of a column and a row, of which the first one for a column
counts. -/
structure Owners where
  pairs : List (Nat × Nat)
  deriving DecidableEq, Repr

/-- No column is owned. -/
def unowned : Owners := ⟨[]⟩

/-- The row that owns a column. -/
def Owners.of? (o : Owners) (column : Nat) : Option Nat := o.pairs.lookup column

/-- The same owners, but that one column goes to a row. -/
def Owners.give (o : Owners) (column row : Nat) : Owners := ⟨(column, row) :: o.pairs⟩

/-- After a column has been given away its new owner owns it, and all other columns are as
before. -/
theorem Owners.of?_give (o : Owners) (column row j : Nat) :
    (o.give column row).of? j = if j = column then some row else o.of? j := by
  unfold Owners.give Owners.of?
  by_cases h : j = column
  · simp [h]
  · simp [List.lookup_cons, h, beq_false_of_ne h]

/-- Tries the columns of a row in order.  `again` finds another column for the owner of one.  The
result is the new owners if there is a column, and the columns looked at so far. -/
def tryColumns (again : Nat → Owners → List Nat → Option Owners × List Nat) (row : Nat)
    (o : Owners) :
    List Nat → List Nat → Option Owners × List Nat
  | [], seen => (none, seen)
  | j :: rest, seen =>
    if seen.contains j then tryColumns again row o rest seen
    else
      match o.of? j with
      | none => (some (o.give j row), j :: seen)
      | some other =>
        match again other o (j :: seen) with
        | (some o', seen') => (some (o'.give j row), seen')
        | (none, seen') => tryColumns again row o rest seen'

/-- Looks for a column for a row. -/
def seek (rows : Nat → List Nat) : Nat → Nat → Owners → List Nat → Option Owners × List Nat
  | 0, _, _, seen => (none, seen)
  | fuel + 1, row, o, seen => tryColumns (seek rows fuel) row o (rows row) seen

/-- Serves one more row, if there is a column for it. -/
def serve (rows : Nat → List Nat) (columns : Nat) (o : Owners) (row : Nat) : Owners :=
  (seek rows (columns + 1) row o []).1.getD o

/-- Serves the first rows, in order. -/
def pair (rows : Nat → List Nat) (count columns : Nat) : Owners :=
  (List.range count).foldl (serve rows columns) unowned

/-- The row has a column. -/
def Owners.serves (o : Owners) (columns row : Nat) : Bool :=
  (List.range columns).any fun j => o.of? j == some row

/-- The rows that stay without a column. -/
def unserved (rows : Nat → List Nat) (count columns : Nat) : List Nat :=
  let o := pair rows count columns
  (List.range count).filter fun i => !o.serves columns i

end Assay.Pairing

import CsvQuery.Proofs.Query.Answer

/-!
Positions and names. Where a name is resolved to a position, the cell at the position is the one
that is found by the name, in every row that is wide enough.
-/

namespace CsvQuery

lemma cellUnder_eq_cell {α : Type} {labels : List α} {test : α → Bool} {p : Nat} {r : Row}
    (h : labels.findIdx? test = some p) (hr : labels.length ≤ r.length) :
    cellUnder labels test r = r.cell p := by
  induction labels generalizing p r with
  | nil => cases h
  | cons a labels ih =>
    obtain ⟨cell, r, rfl⟩ : ∃ cell rest, r = cell :: rest := by
      cases r with
      | nil => simp at hr
      | cons cell rest => exact ⟨cell, rest, rfl⟩
    rw [List.findIdx?_cons] at h
    cases htest : test a with
    | true =>
      simp only [htest, if_true, Option.some.injEq] at h
      subst h
      simp [cellUnder, htest, Row.cell]
    | false =>
      simp only [htest] at h
      obtain ⟨q, hq, rfl⟩ := Option.map_eq_some_iff.mp h
      have hrest := ih hq (by simpa using hr)
      simpa [cellUnder, htest, Row.cell] using hrest

namespace Schema

variable {schema : Schema} {name : String} {p : Nat}

lemma findIdx?_of_filter {columns : List Column} (test : Column → Bool) {k : Nat}
    {entry : Column × Nat} {rest : List (Column × Nat)}
    (h : (columns.zipIdx k).filter (fun entry => test entry.1) = entry :: rest) :
    ∃ p, columns.findIdx? test = some p ∧ entry.2 = k + p := by
  induction columns generalizing k with
  | nil => cases h
  | cons c columns ih =>
    rw [List.findIdx?_cons]
    rw [List.zipIdx_cons, List.filter_cons] at h
    cases htest : test c with
    | true =>
      simp only [htest, if_true, List.cons.injEq] at h
      obtain ⟨rfl, -⟩ := h
      exact ⟨0, rfl, rfl⟩
    | false =>
      simp only [htest, Bool.false_eq_true, if_false] at h
      obtain ⟨p, hp, hentry⟩ := ih h
      exact ⟨p + 1, by simp [hp], by omega⟩

lemma findIdx?_of_resolve (h : schema.resolve name = .ok p) :
    schema.columns.findIdx? (·.name == name) = some p := by
  rw [resolve_eq] at h
  split at h
  · cases h
  · rename_i entry hnamed
    cases h
    obtain ⟨q, hq, hentry⟩ := findIdx?_of_filter (·.name == name) hnamed
    rw [hq, hentry, Nat.zero_add]
  · cases h

lemma findIdx?_of_resolveQualified {table : String}
    (h : schema.resolveQualified table name = .ok p) :
    schema.columns.findIdx? (fun c => c.table == table && c.name == name) = some p := by
  rw [resolveQualified_eq] at h
  split at h
  · rename_i q hq
    cases h
    exact hq
  · cases h

lemma cell_of_resolve (h : schema.resolve name = .ok p) {r : Row} (hr : schema.width ≤ r.length) :
    r.cell p = schema.cellNamed name r :=
  (cellUnder_eq_cell (findIdx?_of_resolve h) (schema.length_columns.trans_le hr)).symm

lemma cell_of_resolveQualified {table : String} (h : schema.resolveQualified table name = .ok p)
    {r : Row} (hr : schema.width ≤ r.length) : r.cell p = schema.cellOf ⟨table, name⟩ r :=
  (cellUnder_eq_cell (findIdx?_of_resolveQualified h) (schema.length_columns.trans_le hr)).symm

lemma resolve_inj {name' : String} (h : schema.resolve name = .ok p)
    (h' : schema.resolve name' = .ok p) : name = name' := by
  obtain ⟨hp, hname, -⟩ := List.findIdx?_eq_some_iff_getElem.mp (findIdx?_of_resolve h)
  obtain ⟨hp', hname', -⟩ := List.findIdx?_eq_some_iff_getElem.mp (findIdx?_of_resolve h')
  exact (beq_iff_eq.mp hname).symm.trans (beq_iff_eq.mp hname')

end Schema

end CsvQuery

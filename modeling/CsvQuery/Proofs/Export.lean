import CsvQuery.Export
import CsvQuery.Proofs.Csv.RoundTrip
import CsvQuery.Proofs.Files.Writing
import CsvQuery.Proofs.Query.Execution

/-!
Exported results are tables. A result that was written to the file of a table is read from it again,
with the same header and the same rows.
-/

namespace CsvQuery.Result

variable {r : Result} {files files' : Files} {base path : String}

lemma writeRows_eq {previous : Nat} {rows : List Row} (h : (writeRows previous rows).2 = none) :
    (∀ row ∈ rows, row.length = previous) ∧
      (writeRows previous rows).1 = String.join (rows.map Csv.writeRecord) := by
  induction rows with
  | nil => exact ⟨by simp, rfl⟩
  | cons row rows ih =>
    unfold writeRows at h ⊢
    by_cases hlength : row.length = previous
    · rw [if_pos hlength] at h ⊢
      obtain ⟨hall, hlines⟩ := ih h
      refine ⟨List.forall_mem_cons.mpr ⟨hlength, hall⟩, ?_⟩
      rw [List.map_cons, String.join_cons, ← hlines]
    · rw [if_neg hlength] at h
      cases h

lemma write_of_export {found : String} (h : r.export? files base path = (files', .ok found)) :
    found = Files.join base path ∧ files.exists? found = false ∧
      (∀ row ∈ r.rows, row.length = r.header.length) ∧
      files.write found (String.join ((r.header :: r.rows).map Csv.writeRecord)).toUTF8 =
        .ok files' := by
  unfold export? at h
  dsimp only at h
  cases hexists : files.exists? (Files.join base path) with
  | true =>
    rw [hexists] at h
    cases h
  | false =>
    rw [hexists, if_neg Bool.false_ne_true] at h
    cases hwrite : files.write (Files.join base path) r.fileText.1.toUTF8 with
    | error cause =>
      rw [hwrite] at h
      cases h
    | ok written =>
      rw [hwrite] at h
      dsimp only at h
      cases hfault : r.fileText.2 with
      | some cause =>
        rw [hfault] at h
        cases h
      | none =>
        rw [hfault] at h
        cases h
        have hrows : (writeRows r.header.length r.rows).2 = none := hfault
        obtain ⟨hall, hlines⟩ := writeRows_eq hrows
        have htext : r.fileText.1 = String.join ((r.header :: r.rows).map Csv.writeRecord) := by
          rw [List.map_cons, String.join_cons, ← hlines]
          rfl
        rw [htext] at hwrite
        exact ⟨rfl, hexists, hall, hwrite⟩

end CsvQuery.Result

namespace CsvQuery.Table

lemma outcome_scan {t : Table} {rows : List Row} (hrecords : t.records = rows.map .ok)
    (hrows : ∀ row ∈ rows, row.length = t.header.length) : t.scan.run.outcome = .ok rows := by
  have hscanned : t.records.map t.scanned = rows.map .ok := by
    rw [hrecords, List.map_map]
    refine List.map_congr_left fun row hrow => ?_
    have hfit : Row.fit row t.header.length = row := by
      rw [← hrows row hrow, Row.fit, List.take_length, Nat.sub_self]
      simp
    simp [scanned, hfit]
  rw [t.outcome_run_scan, hscanned, Source.allRows_map_ok]

end CsvQuery.Table

namespace CsvQuery.Result

variable {r : Result} {files files' : Files} {base t path : String}

/-- **Export and scan are inverse.** If a result with a header that does not start with a byte order
mark is exported to the file of a table where nothing was, the table can be opened afterwards. It
has the header of the result, and scanning it to the end gives the rows of the result in their
order, whatever their cells are. -/
theorem read_of_export (hheader : r.header ≠ [])
    (hmark : ∀ name ∈ r.header.head?, name.toList.head? ≠ some '\ufeff')
    (hexport : r.export? files base (t ++ ".csv") = (files', .ok path)) :
    path = Table.path base t ∧ ∃ table, Table.read files' base t = .ok table ∧ table.name = t ∧
      table.header = r.header ∧ table.scan.run.outcome = .ok r.rows := by
  obtain ⟨hpath, -, hlengths, hwrite⟩ := write_of_export hexport
  have hcells : ∀ row ∈ r.header :: r.rows, row ≠ [] := by
    refine List.forall_mem_cons.mpr ⟨hheader, fun row hrow hempty => hheader ?_⟩
    have hlength := hlengths row hrow
    rw [hempty, List.length_nil] at hlength
    exact List.length_eq_zero_iff.mp hlength.symm
  have hrecords : Csv.records (String.join ((r.header :: r.rows).map Csv.writeRecord)).toUTF8 =
      (r.header :: r.rows).map .ok :=
    Csv.records_writeRecords hcells fun row hrow => by
      obtain rfl : r.header = row := by simpa using hrow
      exact hmark
  have hread : Table.read files' base t = .ok ⟨t, r.header, r.rows.map .ok⟩ := by
    have hlook : files'.look (Table.path base t) = _ := hpath ▸ Files.look_of_write hwrite
    unfold Table.read Table.ofContent
    rw [hlook]
    dsimp only
    rw [hrecords]
    rfl
  exact ⟨hpath, _, hread, rfl, rfl, Table.outcome_scan rfl hlengths⟩

/-- A result with every kind of cell: commas, quotation marks, line ends and nothing at all. -/
def remarks : Result :=
  ⟨["shop", "remark"], [["1", "a, b"], ["", ""], ["\"2\"", "first\r\nsecond\n"], ["Köln", "\r"]]⟩

def remarksFiles : Files :=
  Query.shopFiles.put ["data", "remarks.csv"]
    (.file "shop,remark\n1,\"a, b\"\n,\n\"\"\"2\"\"\",\"first\r\nsecond\n\"\nKöln,\"\r\"\n".toUTF8)

theorem read_of_export_remarks :
    remarks.export? Query.shopFiles "" ("remarks" ++ ".csv") =
      (remarksFiles, .ok "remarks.csv") ∧
    ∃ table, Table.read remarksFiles "" "remarks" = .ok table ∧ table.header = remarks.header ∧
      table.scan.run.outcome = .ok remarks.rows := by
  have hexport : remarks.export? Query.shopFiles "" ("remarks" ++ ".csv") =
      (remarksFiles, .ok "remarks.csv") := by
    rfl
  obtain ⟨-, table, hread, -, hheader, hscan⟩ := read_of_export (by decide) (by decide) hexport
  exact ⟨hexport, table, hread, hheader, hscan⟩

end CsvQuery.Result

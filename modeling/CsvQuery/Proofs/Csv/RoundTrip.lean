import CsvQuery.Csv
import CsvQuery.Proofs.Text.Utf8

/-!
What is written is read again. The reader is followed over the bytes of a field, of a record and of
a file as the writer makes them, and comes out with the texts that were written.
-/

namespace CsvQuery.Csv

open Text (bytes)

structure Reading where
  mode : Mode
  fields : List (List UInt8)
  current : List UInt8

/-- The reader in a state, at a place of a record that it reads from another place. -/
def Reading.at (s : Reading) (origin here : Place) : Reader :=
  ⟨s.mode, origin, here, s.fields, s.current⟩

/-- Bytes lead the reader from one state to another, without the end of a record. -/
def Reads (s : Reading) (bs : List UInt8) (s' : Reading) : Prop :=
  ∀ origin here, ∃ here', ∀ rest,
    (s.at origin here).run (bs ++ rest) = (s'.at origin here').run rest

lemma reads_nil (s : Reading) : Reads s [] s :=
  fun _ here => ⟨here, fun _ => rfl⟩

lemma Reads.append {s s' s'' : Reading} {bs bs' : List UInt8} (h : Reads s bs s')
    (h' : Reads s' bs' s'') : Reads s (bs ++ bs') s'' := by
  intro origin here
  obtain ⟨between, hfirst⟩ := h origin here
  obtain ⟨here', hsecond⟩ := h' origin between
  exact ⟨here', fun rest => by rw [List.append_assoc, hfirst, hsecond]⟩

lemma reads_byte {s s' : Reading} {b : UInt8}
    (h : ∀ origin here, (s.at origin here).next b = (s'.at origin (here.after b), none)) :
    Reads s [b] s' := by
  intro origin here
  refine ⟨here.after b, fun rest => ?_⟩
  rw [List.singleton_append, Reader.run, h]

lemma reads_kept {mode : Mode} {fields : List (List UInt8)} {bs : List UInt8}
    (h : ∀ b ∈ bs, ∀ current, Reads ⟨mode, fields, current⟩ [b] ⟨mode, fields, b :: current⟩)
    (current : List UInt8) :
    Reads ⟨mode, fields, current⟩ bs ⟨mode, fields, bs.reverse ++ current⟩ := by
  induction bs generalizing current with
  | nil => exact reads_nil _
  | cons b bs ih =>
    have hrest := ih (fun b hb => h b (List.mem_cons_of_mem _ hb)) (b :: current)
    have hall := (h b (by simp) current).append hrest
    rw [List.reverse_cons, List.append_assoc]
    exact hall

/-! ### Fields -/

section Fields

variable {fields : List (List UInt8)}

lemma reads_plain {b : UInt8} (hcomma : b ≠ comma) (hend : endsRecord b = false)
    (current : List UInt8) :
    Reads ⟨.plain, fields, current⟩ [b] ⟨.plain, fields, b :: current⟩ := by
  refine reads_byte fun origin here => ?_
  simp [Reading.at, Reader.next, Reader.outside, hcomma, hend, Reader.keep]

lemma reads_quoted {b : UInt8} (hquote : b ≠ quotationMark) (current : List UInt8) :
    Reads ⟨.quoted, fields, current⟩ [b] ⟨.quoted, fields, b :: current⟩ := by
  refine reads_byte fun origin here => ?_
  simp [Reading.at, Reader.next, hquote, Reader.keep]

lemma reads_doubled (current : List UInt8) :
    Reads ⟨.quoted, fields, current⟩ [quotationMark, quotationMark]
      ⟨.quoted, fields, quotationMark :: current⟩ := by
  have hfirst : Reads ⟨.quoted, fields, current⟩ [quotationMark] ⟨.closing, fields, current⟩ :=
    reads_byte fun origin here => by simp [Reading.at, Reader.next, Reader.skip]
  have hsecond : Reads ⟨.closing, fields, current⟩ [quotationMark]
      ⟨.quoted, fields, quotationMark :: current⟩ :=
    reads_byte fun origin here => by simp [Reading.at, Reader.next, Reader.keep]
  exact hfirst.append hsecond

/-- The reader is where a field may start, in a record or in front of one. -/
def Mode.Opens (mode : Mode) : Prop :=
  mode = .between ∨ mode = .field

lemma reads_opening {mode : Mode} (hmode : mode.Opens) :
    Reads ⟨mode, fields, []⟩ [quotationMark] ⟨.quoted, fields, []⟩ := by
  refine reads_byte fun origin here => ?_
  rcases hmode with rfl | rfl <;>
    simp [Reading.at, Reader.next, Reader.skip, endsRecord, quotationMark]

lemma reads_first {mode : Mode} (hmode : mode.Opens) {b : UInt8} (hcomma : b ≠ comma)
    (hquote : b ≠ quotationMark) (hend : endsRecord b = false) :
    Reads ⟨mode, fields, []⟩ [b] ⟨.plain, fields, [b]⟩ := by
  refine reads_byte fun origin here => ?_
  rcases hmode with rfl | rfl <;>
    simp [Reading.at, Reader.next, Reader.outside, hcomma, hquote, hend, Reader.keep]

lemma reads_body (fields : List (List UInt8)) (cs : List Char) (current : List UInt8) :
    Reads ⟨.quoted, fields, current⟩
      (bytes (String.ofList (cs.flatMap fun c => if c = '"' then ['"', '"'] else [c])))
      ⟨.quoted, fields, (bytes (String.ofList cs)).reverse ++ current⟩ := by
  simp only [Text.bytes_ofList]
  induction cs generalizing current with
  | nil => exact reads_nil _
  | cons c cs ih =>
    have hchar : Reads ⟨.quoted, fields, current⟩
        ((if c = '"' then ['"', '"'] else [c]).flatMap String.utf8EncodeChar)
        ⟨.quoted, fields, (String.utf8EncodeChar c).reverse ++ current⟩ := by
      by_cases hc : c = '"'
      · subst hc
        exact reads_doubled current
      · rw [if_neg hc, List.flatMap_singleton]
        refine reads_kept (fun b hb => reads_quoted ?_) current
        rintro rfl
        exact hc (Text.eq_of_mem_utf8EncodeChar (by decide) hb)
    have hall := hchar.append (ih ((String.utf8EncodeChar c).reverse ++ current))
    rw [List.flatMap_cons, List.flatMap_append, List.flatMap_cons, List.reverse_append,
      List.append_assoc]
    exact hall

lemma reads_quoteField {mode : Mode} (hmode : mode.Opens) (field : String) :
    Reads ⟨mode, fields, []⟩ (bytes (quoteField field))
      ⟨.closing, fields, (bytes field).reverse⟩ := by
  have hclose : Reads ⟨.quoted, fields, (bytes field).reverse⟩ [quotationMark]
      ⟨.closing, fields, (bytes field).reverse⟩ :=
    reads_byte fun origin here => by simp [Reading.at, Reader.next, Reader.skip]
  have hbody := reads_body fields field.toList []
  rw [String.ofList_toList, List.append_nil] at hbody
  have hall := ((reads_opening hmode).append hbody).append hclose
  rw [quoteField]
  simp only [Text.bytes_append]
  exact hall

lemma plain_of_mem_bytes {field : String} (h : needsQuotes field = false) {b : UInt8}
    (hb : b ∈ bytes field) : b ≠ comma ∧ b ≠ quotationMark ∧ endsRecord b = false := by
  rw [Text.bytes_eq_flatMap] at hb
  obtain ⟨c, hc, hb⟩ := List.mem_flatMap.mp hb
  have hplain := List.any_eq_false.mp h c hc
  simp only [Bool.or_eq_true, beq_iff_eq, not_or] at hplain
  obtain ⟨⟨⟨hcomma, hquote⟩, hfeed⟩, hreturn⟩ := hplain
  have hne : ∀ d : Char, d.toNat < 0x80 → c ≠ d → b ≠ UInt8.ofNat d.toNat := by
    rintro d hd hcd rfl
    exact hcd (Text.eq_of_mem_utf8EncodeChar hd hb)
  refine ⟨hne ',' (by decide) hcomma, hne '"' (by decide) hquote, ?_⟩
  have hfeed' : b ≠ 0x0A := hne '\n' (by decide) hfeed
  have hreturn' : b ≠ 0x0D := hne '\r' (by decide) hreturn
  simp [endsRecord, hfeed', hreturn']

/-- Behind a field the reader holds its bytes, and a comma or a line feed ends the field, unless
nothing at all was written for the first field of a record. -/
lemma reads_writeField {mode : Mode} (hmode : mode.Opens) (fields : List (List UInt8))
    (field : String) :
    ∃ mode', Reads ⟨mode, fields, []⟩ (bytes (writeField field))
        ⟨mode', fields, (bytes field).reverse⟩ ∧
      mode' ≠ .quoted ∧ (mode' = .between → mode = .between ∧ field = "") := by
  unfold writeField
  cases hquotes : needsQuotes field with
  | true => exact ⟨.closing, reads_quoteField hmode field, by simp, by simp⟩
  | false =>
    rw [if_neg Bool.false_ne_true]
    have hplain := fun b (hb : b ∈ bytes field) => plain_of_mem_bytes hquotes hb
    cases hbytes : bytes field with
    | nil =>
      have hempty : field = "" := Text.bytes_inj hbytes
      refine ⟨mode, reads_nil _, ?_, fun hbetween => ⟨hbetween, hempty⟩⟩
      rcases hmode with rfl | rfl <;> simp
    | cons b bs =>
      rw [hbytes] at hplain
      obtain ⟨⟨hcomma, hquote, hend⟩, hrest⟩ := List.forall_mem_cons.mp hplain
      have hlater : Reads ⟨.plain, fields, [b]⟩ bs ⟨.plain, fields, bs.reverse ++ [b]⟩ :=
        reads_kept (fun b hb => reads_plain (hrest b hb).1 (hrest b hb).2.2) [b]
      have hall := (reads_first hmode hcomma hquote hend).append hlater
      rw [List.reverse_cons]
      exact ⟨.plain, hall, by simp, by simp⟩

end Fields

/-! ### Records -/

lemma reads_comma {mode : Mode} {fields : List (List UInt8)} {current : List UInt8}
    (hmode : mode ≠ .quoted) :
    Reads ⟨mode, fields, current⟩ [comma] ⟨.field, current.reverse :: fields, []⟩ := by
  refine reads_byte fun origin here => ?_
  cases mode with
  | quoted => exact absurd rfl hmode
  | between => rfl
  | field => rfl
  | plain => rfl
  | closing => rfl

lemma run_lineFeed {mode : Mode} {fields : List (List UInt8)} {current : List UInt8}
    (hmode : mode ≠ .quoted) (hbetween : mode ≠ .between) (origin here : Place)
    (rest : List UInt8) :
    ((⟨mode, fields, current⟩ : Reading).at origin here).run (0x0A :: rest) =
      ⟨(current.reverse :: fields).reverse, origin⟩ ::
        (Reader.fresh (here.after 0x0A)).run rest := by
  rw [Reader.run]
  cases mode with
  | quoted => exact absurd rfl hmode
  | between => exact absurd rfl hbetween
  | field => rfl
  | plain => rfl
  | closing => rfl

lemma reads_fields {mode : Mode} (hmode : mode.Opens) (fields : List (List UInt8)) (field : String)
    (others : List String) (hsome : mode = .between → field = "" → others ≠ []) :
    ∃ mode' fields' current', Reads ⟨mode, fields, []⟩
        (bytes (",".intercalate ((field :: others).map writeField))) ⟨mode', fields', current'⟩ ∧
      mode' ≠ .quoted ∧ mode' ≠ .between ∧
      (current'.reverse :: fields').reverse =
        fields.reverse ++ (field :: others).map bytes := by
  induction others generalizing mode fields field with
  | nil =>
    obtain ⟨mode', hreads, hquoted, hbetween⟩ := reads_writeField hmode fields field
    refine ⟨mode', _, _, hreads, hquoted, fun h => ?_, by simp⟩
    obtain ⟨hmode', hempty⟩ := hbetween h
    exact hsome hmode' hempty rfl
  | cons next others ih =>
    obtain ⟨mode', hreads, hquoted, -⟩ := reads_writeField hmode fields field
    obtain ⟨mode'', fields', current', hothers, hquoted', hbetween', hall⟩ :=
      ih (.inr rfl) (bytes field :: fields) next (fun h => by cases h)
    have hcomma : Reads ⟨mode', fields, (bytes field).reverse⟩ [comma]
        ⟨.field, (bytes field).reverse.reverse :: fields, []⟩ := reads_comma hquoted
    rw [List.reverse_reverse] at hcomma
    refine ⟨mode'', fields', current', ?_, hquoted', hbetween', ?_⟩
    · have hreads' := (hreads.append hcomma).append hothers
      simp only [List.map_cons, String.intercalate_cons_cons, Text.bytes_append] at hreads' ⊢
      exact hreads'
    · rw [hall]
      simp

lemma writeRecord_cons {field : String} {others : List String} (h : field = "" → others ≠ []) :
    writeRecord (field :: others) = ",".intercalate ((field :: others).map writeField) ++ "\n" := by
  unfold writeRecord
  split
  · rename_i hnil
    cases hnil
  · rename_i hsingle
    cases hsingle
    exact absurd rfl (h rfl)
  · rfl

lemma reads_writeRecord {row : List String} (hrow : row ≠ []) :
    ∃ line mode fields current, writeRecord row = line ++ "\n" ∧
      Reads ⟨.between, [], []⟩ (bytes line) ⟨mode, fields, current⟩ ∧
      mode ≠ .quoted ∧ mode ≠ .between ∧ (current.reverse :: fields).reverse = row.map bytes := by
  obtain ⟨field, others, rfl⟩ := List.exists_cons_of_ne_nil hrow
  by_cases hsingle : field = "" ∧ others = []
  · obtain ⟨rfl, rfl⟩ := hsingle
    exact ⟨quoteField "", .closing, [], _, by decide, reads_quoteField (.inl rfl) "", by simp,
      by simp, by simp⟩
  · have hsome : field = "" → others ≠ [] := fun hfield hothers => hsingle ⟨hfield, hothers⟩
    obtain ⟨mode, fields, current, hreads, hquoted, hbetween, hall⟩ :=
      reads_fields (.inl rfl) [] field others fun _ => hsome
    exact ⟨_, mode, fields, current, writeRecord_cons hsome, hreads, hquoted, hbetween, hall⟩

/-- **A record that was written is read as it was**, and the reader stands in front of the next. -/
theorem run_writeRecord {row : List String} (hrow : row ≠ []) (place : Place) :
    ∃ place', ∀ rest, (Reader.fresh place).run (bytes (writeRecord row) ++ rest) =
      ⟨row.map bytes, place⟩ :: (Reader.fresh place').run rest := by
  obtain ⟨line, mode, fields, current, hline, hreads, hquoted, hbetween, hall⟩ :=
    reads_writeRecord hrow
  obtain ⟨here, hrun⟩ := hreads place place
  refine ⟨here.after 0x0A, fun rest => ?_⟩
  rw [hline, Text.bytes_append, List.append_assoc]
  refine (hrun _).trans ((run_lineFeed hquoted hbetween place here rest).trans ?_)
  rw [hall]

/-! ### Files -/

lemma fields_run_rows {rows : List (List String)} (hrows : ∀ row ∈ rows, row ≠ [])
    (place : Place) :
    ((Reader.fresh place).run (rows.flatMap fun row => bytes (writeRecord row))).map (·.fields) =
      rows.map (·.map bytes) := by
  induction rows generalizing place with
  | nil => rfl
  | cons row rows ih =>
    obtain ⟨hrow, hrest⟩ := List.forall_mem_cons.mp hrows
    obtain ⟨place', hrun⟩ := run_writeRecord hrow place
    rw [List.flatMap_cons, hrun, List.map_cons, ih hrest, List.map_cons]

lemma decodeFields_bytes (record : Nat) (place : Place) (field : Nat) (row : List String) :
    decodeFields record place field (row.map bytes) = .ok row := by
  induction row generalizing field with
  | nil => rfl
  | cons cell row ih =>
    rw [List.map_cons, decodeFields, Text.decode_bytes]
    dsimp only
    rw [ih]
    rfl

lemma decodeFields_zipIdx {raws : List RawRecord} {rows : List (List String)}
    (h : raws.map (·.fields) = rows.map (·.map bytes)) (k : Nat) :
    (raws.zipIdx k).map (fun entry => decodeFields entry.2 entry.1.place 0 entry.1.fields) =
      rows.map .ok := by
  induction rows generalizing raws k with
  | nil =>
    obtain rfl : raws = [] := by simpa using h
    rfl
  | cons row rows ih =>
    cases raws with
    | nil => cases h
    | cons raw raws =>
      rw [List.map_cons, List.map_cons, List.cons.injEq] at h
      obtain ⟨hfields, hrest⟩ := h
      rw [List.zipIdx_cons, List.map_cons, ih hrest, hfields, decodeFields_bytes]
      rfl

lemma exists_writeRecord_eq (field : String) (others : List String) :
    ∃ c more, (c = ',' ∨ c = '\n') ∧
      ((writeRecord (field :: others)).toList = (writeField field).toList ++ c :: more ∨
        (writeRecord (field :: others)).toList = '"' :: '"' :: c :: more) := by
  by_cases hsingle : field = "" ∧ others = []
  · obtain ⟨rfl, rfl⟩ := hsingle
    exact ⟨'\n', [], .inr rfl, .inr rfl⟩
  · rw [writeRecord_cons fun hfield hothers => hsingle ⟨hfield, hothers⟩]
    cases others with
    | nil => exact ⟨'\n', [], .inr rfl, .inl (by simp)⟩
    | cons next others =>
      refine ⟨',', (",".intercalate ((next :: others).map writeField) ++ "\n").toList, .inl rfl, ?_⟩
      simp [String.intercalate_cons_cons]

/-- A file starts with a byte order mark only if its first cell does. -/
lemma head?_of_writeRecord {field : String} {others : List String} {lines : String}
    (h : (writeRecord (field :: others) ++ lines).toList.head? = some '\ufeff') :
    field.toList.head? = some '\ufeff' := by
  rw [String.toList_append] at h
  obtain ⟨c, more, hc, hwritten | hwritten⟩ := exists_writeRecord_eq field others
  · rw [hwritten, writeField] at h
    split at h
    · simp [quoteField] at h
    · cases hfield : field.toList with
      | nil =>
        rw [hfield] at h
        rcases hc with rfl | rfl <;> simp at h
      | cons d cs =>
        rw [hfield] at h
        exact h
  · rw [hwritten] at h
    simp at h

/-- **What was written is read.** The rows of a file that was written are read again, if each has a
cell and the first cell does not start with a byte order mark. -/
theorem records_writeRecords {rows : List (List String)} (hrows : ∀ row ∈ rows, row ≠ [])
    (hmark : ∀ row ∈ rows.head?, ∀ cell ∈ row.head?, cell.toList.head? ≠ some '\ufeff') :
    records (String.join (rows.map writeRecord)).toUTF8 = rows.map .ok := by
  have hbytes : bytes (String.join (rows.map writeRecord)) =
      rows.flatMap fun row => bytes (writeRecord row) := by
    rw [Text.bytes_join, List.flatMap_map]
  have hraw : rawRecords (bytes (String.join (rows.map writeRecord))) =
      (Reader.fresh ⟨0, 1⟩).run (bytes (String.join (rows.map writeRecord))) := by
    unfold rawRecords
    split
    · rename_i rest hrest
      have hhead := Text.head?_of_bytes_mark hrest
      cases rows with
      | nil => simp at hhead
      | cons row rows =>
        obtain ⟨field, others, rfl⟩ := List.exists_cons_of_ne_nil (hrows row (by simp))
        rw [List.map_cons, String.join_cons] at hhead
        exact absurd (head?_of_writeRecord hhead) (hmark _ rfl field rfl)
    · rfl
  have hfields := fields_run_rows hrows ⟨0, 1⟩
  rw [← hbytes, ← hraw] at hfields
  exact decodeFields_zipIdx hfields 0

/-- Records of a single empty cell are no empty lines. -/
example : records "\"\"\n\"\"\n".toUTF8 = [[""], [""]].map .ok := by
  decide +kernel

end CsvQuery.Csv

import CollectionProfile.Delivery.Csv
import Mathlib.Data.List.Basic

/-!
# Reading comma separated values back

A reader of comma separated values goes over a text character by character. Fields are separated by
commas and records end with a line feed; a field in double quotes may hold either of them, and a
quote as two. `read_render` says that the reader undoes the writing of a sheet, whatever its cells
hold. `run_doubled` is the step inside one pair of quotes; the runs over a cell, a record and all
records are put together from it.
-/

namespace CollectionProfile.Csv

open Mapping (Row Rule Sheet)

/-- Where in a field a reader stands. -/
inductive Stand
  /-- Nothing of the field has been read. -/
  | start
  /-- In a field without quotes. -/
  | bare
  | quoted
  /-- After a quote within quotes, which ends the field unless another quote follows. -/
  | closing
deriving DecidableEq, Repr

/-- What a reader has read. Everything but the records' own fields is kept latest first. -/
structure Reader where
  stand : Stand := .start
  field : List Char := []
  fields : List String := []
  records : List (List String) := []
deriving DecidableEq, Repr

namespace Reader

/-- The reader with one more character in its field. -/
def push (reader : Reader) (stand : Stand) (c : Char) : Reader :=
  { reader with stand, field := c :: reader.field }

/-- The reader at the start of the next field. -/
def endField (reader : Reader) : Reader :=
  { reader with
    stand := .start
    field := []
    fields := String.ofList reader.field.reverse :: reader.fields }

/-- The reader at the start of the next record. -/
def endRecord (reader : Reader) : Reader :=
  { records := reader.endField.fields.reverse :: reader.records }

/-- The reader after one more character; nothing where the character may not stand. -/
def step (reader : Reader) (c : Char) : Option Reader :=
  match reader.stand with
  | .start =>
    if c = '"' then some { reader with stand := .quoted }
    else if c = ',' then some reader.endField
    else if c = '\n' then some reader.endRecord
    else some (reader.push .bare c)
  | .bare =>
    if c = '"' then none
    else if c = ',' then some reader.endField
    else if c = '\n' then some reader.endRecord
    else some (reader.push .bare c)
  | .quoted => some (if c = '"' then { reader with stand := .closing } else reader.push .quoted c)
  | .closing =>
    if c = '"' then some (reader.push .quoted c)
    else if c = ',' then some reader.endField
    else if c = '\n' then some reader.endRecord
    else none

/-- The reader after a text. -/
def run (reader : Reader) (text : List Char) : Option Reader := text.foldlM step reader

/-- All records, once the text has ended. The last one may lack its line feed. -/
def finish (reader : Reader) : Option (List (List String)) :=
  if reader.stand = .quoted then none
  else if reader.stand = .start ∧ reader.fields = [] then some reader.records.reverse
  else some reader.endRecord.records.reverse

end Reader

/-- The records that a text holds. -/
def read (text : List Char) : Option (List (List String)) :=
  (Reader.run {} text).bind Reader.finish

/-! ### Runs of the reader -/

namespace Reader

theorem run_append (reader : Reader) (front back : List Char) :
    reader.run (front ++ back) = (reader.run front).bind (·.run back) :=
  List.foldlM_append

theorem run_cons (reader : Reader) (c : Char) (rest : List Char) :
    reader.run (c :: rest) = (reader.step c).bind (·.run rest) := by
  rw [run, List.foldlM_cons]
  rfl

/-- Within quotes a text in doubled form is taken in as it is. -/
theorem run_doubled (text field : List Char) (fields : List String)
    (records : List (List String)) :
    run ⟨.quoted, field, fields, records⟩ (doubled text)
      = some ⟨.quoted, text.reverse ++ field, fields, records⟩ := by
  induction text generalizing field with
  | nil => rfl
  | cons c rest ih =>
    rw [List.reverse_cons, List.append_assoc, List.singleton_append, ← ih, doubled]
    by_cases hc : c = '"'
    · -- The first quote seems to end the field, the second takes that back.
      rw [if_pos hc, run_cons, hc]
      rfl
    · rw [if_neg hc, run_cons]
      simp [step, hc, push]

theorem run_cell (text : String) (fields : List String) (records : List (List String)) :
    run { fields, records } (cell text)
      = some ⟨.closing, text.toList.reverse, fields, records⟩ := by
  have hopen : run { fields, records } ['"'] = some ⟨.quoted, [], fields, records⟩ := rfl
  have hclose : run ⟨.quoted, text.toList.reverse ++ [], fields, records⟩ ['"']
      = some ⟨.closing, text.toList.reverse ++ [], fields, records⟩ := rfl
  rw [cell, ← List.singleton_append, List.append_assoc, run_append, hopen, Option.bind_some,
    run_append, run_doubled, Option.bind_some, hclose, List.append_nil]

/-- The cells of a record, up to the closing quote of the last one. -/
theorem run_cells (text : String) (rest fields : List String) (records : List (List String)) :
    (run { fields, records } (List.intercalate [','] ((text :: rest).map cell))).bind (·.run ['\n'])
      = some { records := (fields.reverse ++ text :: rest) :: records } := by
  induction rest generalizing text fields with
  | nil =>
    rw [List.map_singleton, List.intercalate_singleton, run_cell]
    simp [run, step, endRecord, endField]
  | cons next rest ih =>
    have hcomma : run ⟨.closing, text.toList.reverse, fields, records⟩ [',']
        = some { fields := text :: fields, records } := by
      simp [run, step, endField]
    rw [List.map_cons, List.map_cons, List.intercalate_cons_cons, run_append, run_append, run_cell,
      Option.bind_some, hcomma, Option.bind_some, ← List.map_cons, ih next (text :: fields)]
    simp

theorem run_record {cells : List String} (hne : cells ≠ []) (records : List (List String)) :
    run { records } (record cells) = some { records := cells :: records } := by
  obtain ⟨text, rest, rfl⟩ := List.exists_cons_of_ne_nil hne
  rw [record, run_append, run_cells]
  rfl

theorem run_records {all : List (List String)} (hne : ∀ cells ∈ all, cells ≠ [])
    (records : List (List String)) :
    run { records } (all.flatMap record) = some { records := all.reverse ++ records } := by
  induction all generalizing records with
  | nil => rfl
  | cons cells rest ih =>
    rw [List.forall_mem_cons] at hne
    rw [List.flatMap_cons, run_append, run_record hne.1, Option.bind_some, ih hne.2,
      List.reverse_cons, List.append_assoc, List.singleton_append]

end Reader

/-- Reading undoes writing for all records that have a cell. -/
theorem read_flatMap_record {all : List (List String)} (hne : ∀ cells ∈ all, cells ≠ []) :
    read (all.flatMap record) = some all := by
  rw [read, Reader.run_records hne, Option.bind_some, List.append_nil]
  simp [Reader.finish]

/-! ### Sheets -/

theorem text_injective : Function.Injective Rule.text := by
  intro a b h
  cases a <;> cases b <;> simp_all [Rule.text]

theorem cells_injective : Function.Injective Row.cells := by
  intro a b h
  obtain ⟨rule, id, parent, element, source, options, notes, originals, replacements⟩ := a
  obtain ⟨rule', id', parent', element', source', options', notes', originals', replacements'⟩ := b
  simp only [Row.cells, List.cons.injEq, and_true] at h
  obtain ⟨hrule, rfl, rfl, rfl, rfl, rfl, rfl, rfl, rfl⟩ := h
  rw [text_injective hrule]

theorem read_body (sheet : Sheet) :
    read ((Row.header :: sheet.rows.map (·.cells)).flatMap record)
      = some (Row.header :: sheet.rows.map (·.cells)) := by
  refine read_flatMap_record fun cells hmem => ?_
  rcases List.mem_cons.1 hmem with rfl | hmem
  · simp [Row.header]
  · obtain ⟨row, -, rfl⟩ := List.mem_map.1 hmem
    simp [Row.cells]

/-- Behind the byte-order mark a written sheet reads back as the header and the cells of its rows,
so the bytes of a sheet tell its rows. -/
theorem read_render (sheet : Sheet) :
    (∃ body, render sheet = byteOrderMark :: body ∧
      read body = some (Row.header :: sheet.rows.map (·.cells))) ∧
    ∀ other : Sheet, (String.ofList (render other)).toUTF8 = (String.ofList (render sheet)).toUTF8
      ↔ other.rows = sheet.rows := by
  refine ⟨⟨_, rfl, read_body sheet⟩, fun other => ⟨fun hbytes => ?_, fun hrows => ?_⟩⟩
  · have htext : render other = render sheet :=
      String.ofList_inj.1 (String.toByteArray_inj.1 hbytes)
    have hread := congrArg read (List.cons.inj htext).2
    rw [read_body, read_body, Option.some.injEq, List.cons.injEq] at hread
    exact cells_injective.list_map hread.2
  · rw [render, render, hrows]

/-- A cell that holds a quote, a comma and a line feed, and one that is a quote. -/
example : read (record ["a\",\n", "\""]) = some [["a\",\n", "\""]] := by decide

end CollectionProfile.Csv

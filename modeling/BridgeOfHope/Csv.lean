import Mathlib.Data.List.Basic

-- Comma-separated values (RFC 4180), written as Python's `csv` module does by default.

namespace Csv

abbrev Field : Type := List Char

abbrev Row : Type := List Field

def special (c : Char) : Bool := c = ',' || c = '"' || c = '\r' || c = '\n'

-- A quote inside a quoted field is written twice.
def doubled (field : Field) : List Char := field.flatMap fun c => if c = '"' then ['"', '"'] else [c]

def quoted (field : Field) : List Char := '"' :: (doubled field ++ ['"'])

-- `QUOTE_MINIMAL`
def writeField (field : Field) : List Char := if field.any special then quoted field else field

def joinFields : Row → List Char
  | [] => []
  | [field] => writeField field
  | field :: fields => writeField field ++ ',' :: joinFields fields

-- `writer.writerow(row)`. A lone empty field is quoted, which tells it from no field.
def writeRow (row : Row) : List Char := (if row = [[]] then quoted [] else joinFields row) ++ ['\r', '\n']

def write (rows : List Row) : List Char := rows.flatMap writeRow

-- Where a reader stands: before a record, after a comma, in a plain field, in a
-- quoted one, after a quote in it, after a carriage return.
inductive Place : Type
  | record
  | field
  | plain
  | quoted
  | quote
  | cr
deriving DecidableEq

structure Reader where
  rows : List Row := []
  row : Row := []
  field : Field := []
  place : Place := .record
deriving DecidableEq

namespace Reader

def push (reader : Reader) (c : Char) (place : Place) : Reader :=
  { reader with field := reader.field ++ [c], place := place }

def endField (reader : Reader) (place : Place) : Reader :=
  { reader with row := reader.row ++ [reader.field], field := [], place := place }

-- What may follow a field.
def separator (reader : Reader) (c : Char) : Option Reader :=
  if c = ',' then some (reader.endField .field) else if c = '\r' then some (reader.endField .cr) else none

def step (reader : Reader) (c : Char) : Option Reader :=
  match reader.place with
  | .record =>
      if c = '"' then some { reader with place := .quoted }
      else if c = '\r' then some { reader with place := .cr }
      else if special c then reader.separator c
      else some (reader.push c .plain)
  | .field =>
      if c = '"' then some { reader with place := .quoted }
      else if special c then reader.separator c
      else some (reader.push c .plain)
  | .plain => if special c then reader.separator c else some (reader.push c .plain)
  | .quoted => if c = '"' then some { reader with place := .quote } else some (reader.push c .quoted)
  | .quote => if c = '"' then some (reader.push c .quoted) else reader.separator c
  | .cr => if c = '\n' then some { rows := reader.rows ++ [reader.row] } else none

-- The last record may lack its line end.
def finish (reader : Reader) : Option (List Row) :=
  match reader.place with
  | .record => some reader.rows
  | .field | .plain | .quote => some (reader.rows ++ [reader.row ++ [reader.field]])
  | .quoted | .cr => none

def run (text : List Char) (reader : Reader) : Option Reader := text.foldlM step reader

-- The places at which a field may end.
def Between (reader : Reader) : Prop := reader.place = .field ∨ reader.place = .plain ∨ reader.place = .quote

end Reader

open Reader

def read (text : List Char) : Option (List Row) := (run text {}).bind finish

variable {reader : Reader} {field : Field} {fields row : Row} {rows : List Row} {c : Char} {text : List Char}

@[simp] theorem Reader.run_nil : run [] reader = some reader := rfl

theorem Reader.run_cons : run (c :: text) reader = (reader.step c).bind (run text) := rfl

theorem Reader.run_append {text' : List Char} :
    run (text ++ text') reader = (run text reader).bind (run text') :=
  List.foldlM_append

theorem Reader.step_comma (h : reader.place = .record ∨ reader.Between) :
    reader.step ',' = some (reader.endField .field) := by
  rcases h with h | h | h | h <;> simp [step, h, special, separator]

theorem Reader.step_cr (h : reader.Between) : reader.step '\r' = some (reader.endField .cr) := by
  rcases h with h | h | h <;> simp [step, h, special, separator]

-- In a plain field, and where one may start.
theorem Reader.step_plain (h : reader.place = .record ∨ reader.place = .field ∨ reader.place = .plain)
    (hc : special c = false) : reader.step c = some (reader.push c .plain) := by
  have hquote : c ≠ '"' := by
    rintro rfl
    exact absurd hc (by decide)
  have hcr : c ≠ '\r' := by
    rintro rfl
    exact absurd hc (by decide)
  rcases h with h | h | h <;> simp [step, h, hc, hquote, hcr]

theorem Reader.run_plain (h : reader.place = .plain) (hfield : field.any special = false) :
    run field reader = some { reader with field := reader.field ++ field } := by
  induction field generalizing reader with
  | nil => simp
  | cons c field ih =>
    simp only [List.any_cons, Bool.or_eq_false_iff] at hfield
    rw [run_cons, step_plain (Or.inr (Or.inr h)) hfield.1, Option.bind_some, ih rfl hfield.2]
    simp [push, h]

-- Whatever the field holds, it stays inside its quotes.
theorem Reader.run_doubled (h : reader.place = .quoted) :
    run (doubled field) reader = some { reader with field := reader.field ++ field } := by
  induction field generalizing reader with
  | nil => simp [doubled]
  | cons c field ih =>
    have hc : run (if c = '"' then ['"', '"'] else [c]) reader = some (reader.push c .quoted) := by
      by_cases hquote : c = '"'
      · subst hquote
        simp [run, step, h, push]
      · simp [run, step, h, hquote]
    rw [doubled, List.flatMap_cons, run_append, hc, Option.bind_some]
    refine (ih rfl).trans ?_
    simp [push, h]

theorem Reader.run_quoted (h : reader.place = .record ∨ reader.place = .field) :
    run (quoted field) reader = some { reader with field := reader.field ++ field, place := .quote } := by
  have hopen : reader.step '"' = some { reader with place := .quoted } := by
    rcases h with h | h <;> simp [step, h]
  rw [quoted, run_cons, hopen, Option.bind_some, run_append, run_doubled rfl, Option.bind_some]
  simp [run, step]

theorem Reader.run_writeField (field : Field) (h : reader.place = .record ∨ reader.place = .field)
    (hempty : reader.field = []) :
    ∃ place, run (writeField field) reader = some { reader with field := field, place := place } ∧
      (field = [] ∧ place = reader.place ∨ place = .plain ∨ place = .quote) := by
  unfold writeField
  split
  case isTrue => exact ⟨.quote, by simp [run_quoted h, hempty], by simp⟩
  case isFalse hplain =>
    rw [Bool.not_eq_true] at hplain
    cases field with
    | nil =>
      refine ⟨reader.place, ?_, by simp⟩
      rw [run_nil, ← hempty]
    | cons c field =>
      rw [List.any_cons, Bool.or_eq_false_iff] at hplain
      refine ⟨.plain, ?_, by simp⟩
      rw [run_cons, step_plain (h.imp_right Or.inl) hplain.1, Option.bind_some, run_plain rfl hplain.2]
      simp [push, hempty]

theorem Reader.run_lineEnd (h : reader.Between) :
    run ['\r', '\n'] reader = some { rows := reader.rows ++ [reader.row ++ [reader.field]] } := by
  rw [run_cons, step_cr h]
  simp [run, step, endField]

-- After a comma, what is left of a record.
theorem Reader.run_joinFields (h : reader.place = .field) (hempty : reader.field = []) :
    run (joinFields (field :: fields) ++ ['\r', '\n']) reader =
      some { rows := reader.rows ++ [reader.row ++ field :: fields] } := by
  induction fields generalizing reader field with
  | nil =>
    obtain ⟨place, hread, hplace⟩ := run_writeField field (.inr h) hempty
    have hbetween : ({ reader with field := field, place := place } : Reader).Between := by
      rcases hplace with ⟨-, rfl⟩ | rfl | rfl <;> simp [Between, h]
    rw [joinFields, run_append, hread, Option.bind_some, run_lineEnd hbetween]
  | cons next fields ih =>
    obtain ⟨place, hread, hplace⟩ := run_writeField field (.inr h) hempty
    have hbetween : ({ reader with field := field, place := place } : Reader).Between := by
      rcases hplace with ⟨-, rfl⟩ | rfl | rfl <;> simp [Between, h]
    rw [joinFields, List.append_assoc, run_append, hread, Option.bind_some, List.cons_append, run_cons,
      step_comma (.inr hbetween), Option.bind_some, ih rfl rfl]
    · simp [endField]
    · simp

theorem Reader.run_writeRow : run (writeRow row) { rows := rows } = some { rows := rows ++ [row] } := by
  have hstart : ({ rows := rows } : Reader).place = .record := rfl
  rcases row with _ | ⟨field, _ | ⟨next, fields⟩⟩
  · simp [writeRow, joinFields, run, step]
  · by_cases hempty : field = []
    · subst hempty
      rw [writeRow, if_pos rfl, run_append, run_quoted (.inl hstart), Option.bind_some]
      exact run_lineEnd (.inr (.inr rfl))
    · obtain ⟨place, hread, hplace⟩ := run_writeField field (.inl hstart) rfl
      have hbetween : ({ rows := rows, field := field, place := place } : Reader).Between := by
        rcases hplace with ⟨rfl, -⟩ | rfl | rfl
        · exact absurd rfl hempty
        · exact .inr (.inl rfl)
        · exact .inr (.inr rfl)
      rw [writeRow, if_neg (by simpa using hempty), joinFields, run_append, hread, Option.bind_some]
      exact run_lineEnd hbetween
  · obtain ⟨place, hread, hplace⟩ := run_writeField field (.inl hstart) rfl
    have hends : place = .record ∨ ({ rows := rows, field := field, place := place } : Reader).Between := by
      rcases hplace with ⟨-, rfl⟩ | rfl | rfl <;> simp [Between]
    rw [writeRow, if_neg (by simp), joinFields, List.append_assoc, run_append, hread, Option.bind_some,
      List.cons_append, run_cons, step_comma hends, Option.bind_some]
    · exact run_joinFields rfl rfl
    · simp

theorem Reader.run_write (more : List Row) : run (write more) { rows := rows } =
    some { rows := rows ++ more } := by
  induction more generalizing rows with
  | nil => simp [write]
  | cons row more ih =>
    rw [write, List.flatMap_cons, run_append, run_writeRow, Option.bind_some]
    refine ih.trans ?_
    simp

-- Every table is read back as it was, whatever characters its fields hold.
theorem read_write (rows : List Row) : read (write rows) = some rows := by
  rw [read, run_write, Option.bind_some]
  simp [finish]

theorem write_injective : Function.Injective write := fun rows rows' h =>
  Option.some.inj ((read_write rows).symm.trans ((congrArg read h).trans (read_write rows')))

end Csv

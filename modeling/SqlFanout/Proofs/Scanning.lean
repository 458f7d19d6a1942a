import Mathlib.Data.List.Basic
import SqlFanout.Text.Scan

/-!
# Leftmost scans, step by step

A scan is started anew behind each find, with the last character of the find
before it.  Stated this way, the finds and the replaced text of a scan follow
the text from left to right, and a stretch on which the finder is silent can be
passed over as a whole.
-/

namespace SqlFanout.Text

@[simp] theorem lastOr_nil (before : Option Char) : lastOr before [] = before := rfl

theorem lastOr_cons (before : Option Char) (c : Char) (rest : Text) :
    lastOr before (c :: rest) = lastOr (some c) rest := by
  cases rest with
  | nil => rfl
  | cons d rest => simp [lastOr, List.getLast?_cons]

theorem lastOr_none (text : Text) : lastOr none text = text.getLast? := by
  cases last : text.getLast? <;> simp [lastOr, last]

theorem lastOr_append (before : Option Char) (left right : Text) :
    lastOr before (left ++ right) = lastOr (lastOr before left) right := by
  induction left generalizing before with
  | nil => rfl
  | cons c left induction => rw [List.cons_append, lastOr_cons, lastOr_cons, induction]

theorem afterStart?_eq_some_iff {start text rest : Text} :
    afterStart? start text = some rest ↔ text = start ++ rest := by
  induction start generalizing text with
  | nil => simp [afterStart?, eq_comm]
  | cons p start induction =>
      cases text with
      | nil => simp [afterStart?]
      | cons c text =>
          rw [afterStart?]
          split
          next same => simp [induction, same]
          next different => simp [Ne.symm different]

namespace Finder

variable {α : Type}

theorem scanFrom_skip (find : Finder α) (before : Option Char)
    (skipped rest : Text) :
    scanFrom find skipped.length before (skipped ++ rest) =
      scanFrom find 0 (lastOr before skipped) rest := by
  induction skipped generalizing before with
  | nil => rfl
  | cons c skipped induction =>
      rw [List.length_cons, List.cons_append, scanFrom, induction, lastOr_cons]

theorem scanFrom_plain {find : Finder α} {before : Option Char} {c : Char}
    {rest : Text} (silent : find before (c :: rest) = none) :
    scanFrom find 0 before (c :: rest) = .plain c :: scanFrom find 0 (some c) rest := by
  rw [scanFrom, silent]

theorem scanFrom_found {find : Finder α} {before : Option Char} {c : Char}
    {value : α} (body after : Text)
    (found : find before (c :: (body ++ after)) = some (value, after)) :
    scanFrom find 0 before (c :: (body ++ after)) =
      .found value (c :: body) :: scanFrom find 0 (lastOr (some c) body) after := by
  have size : (c :: (body ++ after)).length - after.length = body.length + 1 := by
    simp only [List.length_cons, List.length_append]
    omega
  have taken : (c :: (body ++ after)).take (body.length + 1) = c :: body := by
    simp
  rw [scanFrom, found]
  simp only [size, taken, Nat.add_sub_cancel, scanFrom_skip]

/-- A text cut into pieces, with finds of a given form. -/
inductive Cuts (form : α → Text → Prop) : Text → List (Piece α) → Prop where
  | nil : Cuts form [] []
  | plain {c : Char} {rest : Text} {pieces : List (Piece α)} (later : Cuts form rest pieces) :
      Cuts form (c :: rest) (.plain c :: pieces)
  | found {value : α} {part rest : Text} {pieces : List (Piece α)} (formed : form value part)
      (later : Cuts form rest pieces) :
      Cuts form (part ++ rest) (.found value part :: pieces)

/-- A scan cuts a text into pieces, if finds are not empty. -/
theorem cuts_scanFrom {find : Finder α} {form : α → Text → Prop}
    (reads : ∀ {before text value after}, find before text = some (value, after) →
      ∃ part, text = part ++ after ∧ part ≠ [] ∧ form value part)
    (before : Option Char) (text : Text) : Cuts form text (scanFrom find 0 before text) := by
  induction size : text.length using Nat.strongRecOn generalizing before text with
  | _ size induction =>
  subst size
  cases text with
  | nil => exact .nil
  | cons c rest =>
      cases step : find before (c :: rest) with
      | none =>
          rw [scanFrom_plain step]
          exact .plain (induction _ (by simp) (some c) rest rfl)
      | some pair =>
          obtain ⟨value, after⟩ := pair
          obtain ⟨part, split, nonempty, formed⟩ := reads step
          obtain ⟨d, body, rfl⟩ := List.exists_cons_of_ne_nil nonempty
          obtain ⟨rfl, rfl⟩ : c = d ∧ rest = body ++ after := by simpa using split
          have shorter : after.length < (c :: (body ++ after)).length := by
            simp only [List.length_cons, List.length_append]
            omega
          rw [scanFrom_found body after step]
          exact .found formed (induction _ shorter (lastOr (some c) body) after rfl)

/-- The finds of a text that stands behind the given character. -/
def findAllFrom (find : Finder α) (before : Option Char) (text : Text) : List α :=
  (scanFrom find 0 before text).filterMap fun
    | .found value _ => some value
    | .plain _ => none

theorem findAll_eq (find : Finder α) (text : Text) :
    find.findAll text = findAllFrom find none text := rfl

@[simp] theorem findAllFrom_nil (find : Finder α) (before : Option Char) :
    findAllFrom find before [] = [] := rfl

theorem findAllFrom_plain {find : Finder α} {before : Option Char} {c : Char}
    {rest : Text} (silent : find before (c :: rest) = none) :
    findAllFrom find before (c :: rest) = findAllFrom find (some c) rest := by
  rw [findAllFrom, scanFrom_plain silent]
  rfl

theorem findAllFrom_found {find : Finder α} {before : Option Char} {c : Char}
    {value : α} (body after : Text)
    (found : find before (c :: (body ++ after)) = some (value, after)) :
    findAllFrom find before (c :: (body ++ after)) =
      value :: findAllFrom find (lastOr (some c) body) after := by
  rw [findAllFrom, scanFrom_found body after found]
  rfl

theorem findAllFrom_part {find : Finder α} {before : Option Char} {value : α}
    {part after : Text} (nonempty : part ≠ [])
    (found : find before (part ++ after) = some (value, after)) :
    findAllFrom find before (part ++ after) =
      value :: findAllFrom find (lastOr before part) after := by
  obtain ⟨c, body, rfl⟩ := List.exists_cons_of_ne_nil nonempty
  rw [lastOr_cons]
  exact findAllFrom_found body after found

theorem findAllFrom_skip {find : Finder α} {stretch : Text}
    (silent : ∀ before c tail, c ∈ stretch → find before (c :: tail) = none)
    (before : Option Char) (rest : Text) :
    findAllFrom find before (stretch ++ rest) =
      findAllFrom find (lastOr before stretch) rest := by
  induction stretch generalizing before with
  | nil => rfl
  | cons c stretch induction =>
      have step : find before (c :: (stretch ++ rest)) = none :=
        silent before c (stretch ++ rest) List.mem_cons_self
      have later := induction fun before d tail member =>
        silent before d tail (List.mem_cons_of_mem c member)
      rw [List.cons_append, findAllFrom_plain step, lastOr_cons, later]

theorem findAllFrom_eq_nil {find : Finder α} {text : Text}
    (silent : ∀ before c tail, c ∈ text → find before (c :: tail) = none)
    (before : Option Char) : findAllFrom find before text = [] := by
  simpa using findAllFrom_skip silent before []

/-- The replaced form of a text that stands behind the given character. -/
def substituteFrom (find : Finder α) (replacement : α → Text)
    (before : Option Char) (text : Text) : Text :=
  (scanFrom find 0 before text).flatMap fun
    | .found value _ => replacement value
    | .plain c => [c]

theorem substitute_eq (find : Finder α) (replacement : α → Text) (text : Text) :
    find.substitute replacement text = substituteFrom find replacement none text := rfl

@[simp] theorem substituteFrom_nil (find : Finder α) (replacement : α → Text)
    (before : Option Char) : substituteFrom find replacement before [] = [] := rfl

theorem substituteFrom_plain {find : Finder α} (replacement : α → Text)
    {before : Option Char} {c : Char} {rest : Text}
    (silent : find before (c :: rest) = none) :
    substituteFrom find replacement before (c :: rest) =
      c :: substituteFrom find replacement (some c) rest := by
  rw [substituteFrom, scanFrom_plain silent]
  rfl

theorem substituteFrom_found {find : Finder α} (replacement : α → Text)
    {before : Option Char} {c : Char} {value : α} (body after : Text)
    (found : find before (c :: (body ++ after)) = some (value, after)) :
    substituteFrom find replacement before (c :: (body ++ after)) =
      replacement value ++
        substituteFrom find replacement (lastOr (some c) body) after := by
  rw [substituteFrom, scanFrom_found body after found]
  rfl

theorem substituteFrom_part {find : Finder α} (replacement : α → Text)
    {before : Option Char} {value : α} {part after : Text} (nonempty : part ≠ [])
    (found : find before (part ++ after) = some (value, after)) :
    substituteFrom find replacement before (part ++ after) =
      replacement value ++ substituteFrom find replacement (lastOr before part) after := by
  obtain ⟨c, body, rfl⟩ := List.exists_cons_of_ne_nil nonempty
  rw [lastOr_cons]
  exact substituteFrom_found replacement body after found

theorem substituteFrom_of_findAllFrom {find : Finder α} (replacement : α → Text)
    {before : Option Char} {text : Text} (absent : findAllFrom find before text = []) :
    substituteFrom find replacement before text = text := by
  induction text generalizing before with
  | nil => rfl
  | cons c rest induction =>
      cases found : find before (c :: rest) with
      | some pair => simp [findAllFrom, scanFrom, found] at absent
      | none =>
          rw [findAllFrom_plain found] at absent
          rw [substituteFrom_plain replacement found, induction absent]

end Finder

end SqlFanout.Text

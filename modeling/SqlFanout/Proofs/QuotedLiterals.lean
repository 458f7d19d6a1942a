import SqlFanout.Proofs.References
import SqlFanout.Proofs.TopLevel

/-!
# Quoted literals

Renaming a table looks at the words before its name and not at quotes, so a
reference inside of a literal is renamed like any other.  The literals of a text
survive exactly if each name that is replaced inside of them is the new name
already (`literals_renameTable_iff`).
-/

namespace SqlFanout.Sql

open Text

/-- A text without quotes of any kind. -/
def Unquoted (text : Text) : Prop :=
  ∀ c ∈ text, isQuote c = false

instance (text : Text) : Decidable (Unquoted text) :=
  List.decidableBAll (fun c => isQuote c = false) text

theorem Unquoted.append {left right : Text} (first : Unquoted left) (second : Unquoted right) :
    Unquoted (left ++ right) :=
  fun c member => (List.mem_append.mp member).elim (first c) (second c)

/-- Behind a single quote that is still open. -/
def Nesting.inLiteral (nesting : Nesting) : Bool :=
  nesting.quote == some '\x27'

/-- The contents of the literals in single quotes, in order.  Inside of a literal, the
first one is what remains of it.  A literal that is not closed ends with the text. -/
def literals (nesting : Nesting) : Text → List Text
  | [] => if nesting.inLiteral then [[]] else []
  | c :: rest =>
      let later := literals (nesting.step c) rest
      if nesting.inLiteral then
        if c = '\x27' then [] :: later else later.modifyHead (c :: ·)
      else later

namespace Nesting

theorem quote_step (nesting : Nesting) (c : Char) :
    (nesting.step c).quote =
      match nesting.quote with
      | some quote => if c == quote then none else some quote
      | none => if isQuote c then some c else none := by
  rw [step]
  cases inside : nesting.quote with
  | some quote =>
      dsimp only
      split
      · rfl
      · exact inside
  | none =>
      dsimp only
      split
      · rfl
      · split
        · rfl
        · split
          · rfl
          · exact inside

theorem Sane.quote_step {nesting : Nesting} (sane : nesting.Sane) {c : Char}
    (plain : isQuote c = false) : (nesting.step c).quote = nesting.quote := by
  rw [Nesting.quote_step]
  cases inside : nesting.quote with
  | some quote =>
      have different : c ≠ quote := by
        rintro rfl
        simp [sane c inside] at plain
      simp [different]
  | none => simp [plain]

theorem Sane.quote_after {nesting : Nesting} (sane : nesting.Sane) {text : Text}
    (unquoted : Unquoted text) : (nesting.after text).quote = nesting.quote := by
  induction text generalizing nesting with
  | nil => rfl
  | cons c rest induction =>
      obtain ⟨plain, later⟩ := List.forall_mem_cons.mp unquoted
      rw [after_cons, induction (sane.step c) later, sane.quote_step plain]

theorem inLiteral_congr {nesting other : Nesting} (same : other.quote = nesting.quote) :
    other.inLiteral = nesting.inLiteral := by
  rw [inLiteral, inLiteral, same]

theorem inLiteral_step {nesting : Nesting} (inside : nesting.inLiteral = true) {c : Char}
    (different : c ≠ '\x27') : (nesting.step c).inLiteral = true := by
  rw [inLiteral, beq_iff_eq] at inside
  rw [inLiteral, quote_step, inside]
  simp [different]

end Nesting

/-- Only the quote that a text stands in matters to its literals. -/
theorem literals_congr {nesting other : Nesting} (same : other.quote = nesting.quote)
    (text : Text) : literals other text = literals nesting text := by
  induction text generalizing nesting other with
  | nil => rw [literals, literals, Nesting.inLiteral_congr same]
  | cons c rest induction =>
      have step : (other.step c).quote = (nesting.step c).quote := by
        rw [Nesting.quote_step, Nesting.quote_step, same]
      rw [literals, literals, Nesting.inLiteral_congr same, induction step]

theorem literals_ne_nil {nesting : Nesting} (inside : nesting.inLiteral = true) (text : Text) :
    literals nesting text ≠ [] := by
  induction text generalizing nesting with
  | nil => simp [literals, inside]
  | cons c rest induction =>
      rw [literals, if_pos inside]
      split
      · exact List.cons_ne_nil _ _
      next different => simpa using induction (Nesting.inLiteral_step inside different)

theorem literals_append {nesting behind : Nesting} (sane : nesting.Sane) {part : Text}
    (unquoted : Unquoted part) (same : behind.quote = nesting.quote) (rest : Text) :
    literals nesting (part ++ rest) =
      if nesting.inLiteral then (literals behind rest).modifyHead (part ++ ·)
      else literals behind rest := by
  rw [literals_congr same]
  induction part with
  | nil =>
      split
      · exact (congrFun List.modifyHead_id (literals nesting rest)).symm
      · rfl
  | cons c part induction =>
      obtain ⟨plain, later⟩ := List.forall_mem_cons.mp unquoted
      have step := literals_congr (sane.quote_step plain) (part ++ rest)
      have different : c ≠ '\x27' := by
        rintro rfl
        cases plain
      rw [List.cons_append, literals, step, induction later, if_neg different]
      split
      · exact List.modifyHead_modifyHead
      · rfl

/-- All characters inside of literals. -/
def quotedText (nesting : Nesting) (text : Text) : Text :=
  (literals nesting text).flatten

private theorem flatten_modifyHead {parts : List Text} (nonempty : parts ≠ []) (lead : Text) :
    (parts.modifyHead (lead ++ ·)).flatten = lead ++ parts.flatten := by
  obtain ⟨first, others, rfl⟩ := List.exists_cons_of_ne_nil nonempty
  simp

theorem quotedText_cons (nesting : Nesting) (c : Char) (rest : Text) :
    quotedText nesting (c :: rest) =
      (if nesting.inLiteral && c != '\x27' then [c] else []) ++
        quotedText (nesting.step c) rest := by
  rw [quotedText, quotedText, literals]
  cases inside : nesting.inLiteral with
  | false => simp
  | true =>
      by_cases closes : c = '\x27'
      · simp [closes]
      · simpa [closes] using
          flatten_modifyHead (literals_ne_nil (Nesting.inLiteral_step inside closes) rest) [c]

theorem quotedText_append {nesting behind : Nesting} (sane : nesting.Sane) {part : Text}
    (unquoted : Unquoted part) (same : behind.quote = nesting.quote) (rest : Text) :
    quotedText nesting (part ++ rest) =
      (if nesting.inLiteral then part else []) ++ quotedText behind rest := by
  rw [quotedText, literals_append sane unquoted same]
  split
  next inside =>
    exact flatten_modifyHead (literals_ne_nil ((Nesting.inLiteral_congr same).trans inside) rest)
      part
  next => rfl

private theorem isQuote_of_not_mem {c : Char} (ordinary : c ∉ Nesting.brackets) :
    isQuote c = false := by
  simp_all [Nesting.brackets, isQuote]

theorem unquoted_of_isWord {letters : Text} (isWord : ∀ c ∈ letters, isWord c = true) :
    Unquoted letters :=
  fun c member => isQuote_of_not_mem (Nesting.not_mem_brackets_of_isWord (isWord c member))

theorem unquoted_of_isBlank {blanks : Text} (blank : ∀ c ∈ blanks, isBlank c = true) :
    Unquoted blanks :=
  fun c member => isQuote_of_not_mem (Nesting.not_mem_brackets_of_isBlank (blank c member))

private theorem fold_of_isQuote {c : Char} (quote : isQuote c = true) :
    fold c = c ∧ isAscii c = true := by
  simp only [isQuote, Bool.or_eq_true, beq_iff_eq] at quote
  rcases quote with (rfl | rfl) | rfl <;> decide

set_option maxRecDepth 4000 in
private theorem isQuote_of_fold {c : Char} (quote : isQuote (fold c) = true) :
    isQuote c = true :=
  folded_cases (fun c => isQuote (fold c) = true → isQuote c = true) (by decide) (by decide)
    (fold_of_isQuote quote).2 quote

theorem Unquoted.of_folded {left right : Text} (unquoted : Unquoted left)
    (same : folded right = folded left) : Unquoted right := by
  intro c member
  by_contra other
  have quote : isQuote c = true := by simpa using other
  have listed : fold c ∈ folded left := same ▸ List.mem_map_of_mem member
  obtain ⟨d, original, equal⟩ := List.mem_map.mp listed
  rw [(fold_of_isQuote quote).1] at equal
  have found : isQuote d = true := isQuote_of_fold (equal ▸ quote)
  rw [unquoted d original] at found
  cases found

theorem unquoted_of_afterPhrase? {words : List Text} (wordlike : ∀ word ∈ words, Wordlike word)
    {text rest : Text} (found : afterPhrase? words text = some rest) :
    ∃ keywords, text = keywords ++ rest ∧ Unquoted keywords ∧
      (words ≠ [] → keywords ≠ []) := by
  induction words generalizing text with
  | nil =>
      cases found
      exact ⟨[], rfl, by simp [Unquoted], absurd rfl⟩
  | cons word words induction =>
      obtain ⟨keyword, later⟩ := List.forall_mem_cons.mp wordlike
      cases words with
      | nil =>
          obtain ⟨letters, rfl, same⟩ := afterFolded?_eq_some_iff.mp found
          have spelled := keyword.of_folded same.symm
          exact ⟨letters, rfl, unquoted_of_isWord spelled.isWord, fun _ => spelled.nonempty⟩
      | cons next words =>
          rw [afterPhrase?_cons_cons] at found
          obtain ⟨behind, first, found⟩ := Option.bind_eq_some_iff.mp found
          obtain ⟨body, gap, read⟩ := Option.bind_eq_some_iff.mp found
          obtain ⟨letters, rfl, same⟩ := afterFolded?_eq_some_iff.mp first
          obtain ⟨blanks, rfl, -, blank⟩ := afterBlanks?_eq_some gap
          obtain ⟨keywords, rfl, unquoted, -⟩ := induction later read
          have spelled := keyword.of_folded same.symm
          refine ⟨letters ++ (blanks ++ keywords), by simp, ?_, by simp [spelled.nonempty]⟩
          exact (unquoted_of_isWord spelled.isWord).append
            ((unquoted_of_isBlank blank).append unquoted)

theorem takeName?_eq_some {text first rest : Text}
    (taken : takeName? text = some (first, rest)) :
    text = first ++ rest ∧ ∀ c ∈ first, isNameChar c = true := by
  cases text with
  | nil => cases taken
  | cons c text =>
      rw [takeName?] at taken
      split at taken
      next start =>
        cases taken
        refine ⟨by simp, ?_⟩
        intro d member
        rcases List.mem_cons.mp member with rfl | later
        · simp [isNameChar, start]
        · exact List.mem_takeWhile_imp later
      next => cases taken

section Table

variable {table : Text}

/-- Before the rest of a text stands a table's name, in any spelling, and before the
name a stretch without quotes. -/
def NamesBehind (table text rest : Text) : Prop :=
  ∃ gap name, text = gap ++ (name ++ rest) ∧ Unquoted gap ∧ folded name = folded table

theorem NamesBehind.append_left {lead text rest : Text} (unquoted : Unquoted lead)
    (names : NamesBehind table text rest) : NamesBehind table (lead ++ text) rest := by
  obtain ⟨gap, name, rfl, later, same⟩ := names
  exact ⟨lead ++ gap, name, by simp, unquoted.append later, same⟩

theorem namesBehind_of_afterName? {before : Option Char} {text rest : Text}
    (found : afterName? table before text = some rest) : NamesBehind table text rest := by
  rw [afterName?] at found
  split at found
  next => cases found
  next behind spelled =>
    split at found
    next =>
      cases found
      obtain ⟨name, rfl, same⟩ := afterFolded?_eq_some_iff.mp spelled
      exact ⟨[], name, rfl, by simp [Unquoted], same⟩
    next => cases found

theorem namesBehind_of_afterQualified? {before : Option Char} {text rest : Text}
    (found : afterQualified? table before text = some rest) : NamesBehind table text rest := by
  rw [afterQualified?] at found
  split at found
  next schema more taken =>
    split at found
    next qualified =>
      cases found
      obtain ⟨rfl, letters⟩ := takeName?_eq_some taken
      have word := unquoted_of_isWord fun c member => isWord_of_isNameChar (letters c member)
      have dotted : Unquoted (schema ++ ['.']) := word.append (by decide)
      simpa using (namesBehind_of_afterName? qualified).append_left dotted
    next => exact namesBehind_of_afterName? found
  next => exact namesBehind_of_afterName? found

theorem namesBehind_of_afterBlanksAndName? {text rest : Text}
    (found : afterBlanksAndName? table text = some rest) : NamesBehind table text rest := by
  induction text with
  | nil => cases found
  | cons c text induction =>
      rw [afterBlanksAndName?] at found
      split at found
      next blank =>
        have unquoted : Unquoted [c] := unquoted_of_isBlank (by simpa using blank)
        split at found
        next later =>
          cases found
          exact (induction later).append_left unquoted
        next => exact (namesBehind_of_afterQualified? found).append_left unquoted
      next => cases found

theorem unquoted_of_afterTableClause? {before : Option Char} {text rest : Text}
    (found : afterTableClause? before text = some rest) :
    ∃ keywords, text = keywords ++ rest ∧ keywords ≠ [] ∧ Unquoted keywords := by
  rw [afterTableClause?] at found
  split at found
  next => cases found
  next =>
    obtain ⟨words, clause, read⟩ := List.exists_of_findSome?_eq_some found
    obtain ⟨word, others, rfl, wordlike⟩ := keyword_cases clause
    obtain ⟨keywords, rfl, unquoted, nonempty⟩ := unquoted_of_afterPhrase? wordlike read
    exact ⟨keywords, rfl, nonempty (List.cons_ne_nil word others), unquoted⟩

/-- The text of a reference: a lead without quotes, and the name. -/
def RefersTo (table leading text : Text) : Prop :=
  ∃ name, text = leading ++ name ∧ Unquoted leading ∧ folded name = folded table

theorem refersTo_of_referenceFinder {before : Option Char} {text leading rest : Text}
    (found : referenceFinder table before text = some (leading, rest)) :
    ∃ part, text = part ++ rest ∧ part ≠ [] ∧ RefersTo table leading part := by
  rw [referenceFinder_eq] at found
  obtain ⟨behind, read, equal⟩ := Option.map_eq_some_iff.mp found
  obtain ⟨body, clause, named⟩ := Option.bind_eq_some_iff.mp read
  obtain ⟨keywords, rfl, nonempty, unquoted⟩ := unquoted_of_afterTableClause? clause
  obtain ⟨gap, name, rfl, gapUnquoted, same⟩ := namesBehind_of_afterBlanksAndName? named
  obtain ⟨rfl, rfl⟩ := Prod.mk.inj equal
  have leading : (keywords ++ (gap ++ (name ++ behind))).take
      ((keywords ++ (gap ++ (name ++ behind))).length - behind.length - table.length) =
        keywords ++ gap := by
    have size : (keywords ++ (gap ++ (name ++ behind))).length - behind.length - table.length =
        (keywords ++ gap).length := by
      simp only [List.length_append, ← length_eq_of_folded same]
      omega
    rw [size, ← List.append_assoc, List.take_left]
  rw [leading]
  exact ⟨keywords ++ gap ++ name, by simp, by simp [nonempty],
    name, rfl, unquoted.append gapUnquoted, same⟩

end Table

/-- The names inside of literals, among the pieces that a scan for a table leaves. -/
def quotedNames (nesting : Nesting) : List (Piece Text) → List Text
  | [] => []
  | .plain c :: pieces => quotedNames (nesting.step c) pieces
  | .found leading text :: pieces =>
      let later := quotedNames (nesting.after text) pieces
      if (nesting.after leading).inLiteral then text.drop leading.length :: later else later

/-- A piece with the name of the table replaced. -/
def renamedPiece (new : Text) : Piece Text → Text
  | .plain c => [c]
  | .found leading _ => leading ++ new

theorem renameTable_eq_flatMap (old new sql : Text) :
    renameTable old new sql = ((referenceFinder old).scan sql).flatMap (renamedPiece new) := by
  rw [renameTable, Finder.substitute]
  congr 1
  funext piece
  cases piece <;> rfl

section Rename

variable {old new text : Text} {pieces : List (Piece Text)} {nesting : Nesting}

theorem quotedNames_found (sane : nesting.Sane) {leading name : Text}
    (unquoted : Unquoted leading) :
    quotedNames nesting (.found leading (leading ++ name) :: pieces) =
      (if nesting.inLiteral then [name] else []) ++
        quotedNames (nesting.after (leading ++ name)) pieces := by
  rw [quotedNames, Nesting.inLiteral_congr (sane.quote_after unquoted), List.drop_left]
  cases nesting.inLiteral <;> rfl

/-- Literals in which every name is the new one already do not change. -/
theorem literals_renamed (cuts : Finder.Cuts (RefersTo old) text pieces)
    (plainOld : Unquoted old) (plainNew : Unquoted new) (sane : nesting.Sane)
    (kept : ∀ name ∈ quotedNames nesting pieces, name = new) :
    literals nesting (pieces.flatMap (renamedPiece new)) = literals nesting text := by
  induction cuts generalizing nesting with
  | nil => rfl
  | @plain c rest pieces later induction =>
      rw [List.flatMap_cons, renamedPiece, List.singleton_append, literals, literals,
        induction (sane.step c) kept]
  | @found leading _ rest pieces reference later induction =>
      obtain ⟨name, rfl, unquoted, same⟩ := reference
      have named := unquoted.append (plainOld.of_folded same)
      have behind := sane.quote_after named
      rw [quotedNames_found sane unquoted] at kept
      obtain ⟨here, others⟩ := List.forall_mem_append.mp kept
      rw [List.flatMap_cons, renamedPiece, literals_append sane (unquoted.append plainNew) behind,
        literals_append sane named behind, induction (sane.after (leading ++ name)) others]
      cases inside : nesting.inLiteral with
      | false => rfl
      | true => rw [here name (by simp [inside])]

/-- Each name inside of a literal changes the length of what is quoted by the same
amount. -/
theorem length_quotedText_renamed (cuts : Finder.Cuts (RefersTo old) text pieces)
    (plainOld : Unquoted old) (plainNew : Unquoted new) (sane : nesting.Sane) :
    (quotedText nesting (pieces.flatMap (renamedPiece new))).length +
        (quotedNames nesting pieces).length * old.length =
      (quotedText nesting text).length +
        (quotedNames nesting pieces).length * new.length := by
  induction cuts generalizing nesting with
  | nil => simp [quotedNames]
  | @plain c rest pieces later induction =>
      have step := induction (sane.step c)
      rw [List.flatMap_cons, renamedPiece, List.singleton_append, quotedText_cons, quotedText_cons,
        quotedNames]
      simp only [List.length_append]
      omega
  | @found leading _ rest pieces reference later induction =>
      obtain ⟨name, rfl, unquoted, same⟩ := reference
      have named := unquoted.append (plainOld.of_folded same)
      have behind := sane.quote_after named
      have step := induction (sane.after (leading ++ name))
      have size := length_eq_of_folded same
      rw [List.flatMap_cons, renamedPiece, quotedText_append sane (unquoted.append plainNew) behind,
        quotedText_append sane named behind, quotedNames_found sane unquoted]
      cases nesting.inLiteral with
      | false => simpa using step
      | true =>
          simp only [if_true, List.length_append, List.length_singleton, Nat.add_mul, Nat.one_mul]
          omega

/-- If the two names have the same length, a name that is replaced inside of a literal
keeps its place, and can be compared with the new one. -/
theorem quotedNames_of_quotedText (cuts : Finder.Cuts (RefersTo old) text pieces)
    (plainOld : Unquoted old) (plainNew : Unquoted new) (size : old.length = new.length)
    (sane : nesting.Sane)
    (kept : quotedText nesting (pieces.flatMap (renamedPiece new)) = quotedText nesting text) :
    ∀ name ∈ quotedNames nesting pieces, name = new := by
  induction cuts generalizing nesting with
  | nil => simp [quotedNames]
  | @plain c rest pieces later induction =>
      rw [List.flatMap_cons, renamedPiece, List.singleton_append, quotedText_cons, quotedText_cons]
        at kept
      exact induction (sane.step c) (List.append_cancel_left kept)
  | @found leading _ rest pieces reference later induction =>
      obtain ⟨name, rfl, unquoted, same⟩ := reference
      have named := unquoted.append (plainOld.of_folded same)
      have behind := sane.quote_after named
      have step := @induction _ (sane.after (leading ++ name))
      rw [List.flatMap_cons, renamedPiece, quotedText_append sane (unquoted.append plainNew) behind,
        quotedText_append sane named behind] at kept
      rw [quotedNames_found sane unquoted]
      cases inside : nesting.inLiteral with
      | false =>
          rw [inside] at kept
          exact step kept
      | true =>
          rw [inside, if_pos rfl, if_pos rfl, List.append_assoc, List.append_assoc] at kept
          obtain ⟨equal, others⟩ := List.append_inj (List.append_cancel_left kept)
            (by rw [← size, length_eq_of_folded same])
          exact List.forall_mem_cons.mpr ⟨equal.symm, step others⟩

end Rename

/-- Renaming a table leaves the literals of a text as they are exactly if each name that
it replaces inside of a literal is spelled like the new name. -/
theorem literals_renameTable_iff {old new : Text} (plainOld : Unquoted old)
    (plainNew : Unquoted new) (sql : Text) :
    literals .top (renameTable old new sql) = literals .top sql ↔
      ∀ name ∈ quotedNames .top ((referenceFinder old).scan sql), name = new := by
  have cuts : Finder.Cuts (RefersTo old) sql ((referenceFinder old).scan sql) :=
    Finder.cuts_scanFrom refersTo_of_referenceFinder none sql
  rw [renameTable_eq_flatMap]
  constructor
  · intro kept
    have quoted : quotedText .top (((referenceFinder old).scan sql).flatMap (renamedPiece new)) =
        quotedText .top sql :=
      congrArg List.flatten kept
    have count := length_quotedText_renamed cuts plainOld plainNew Nesting.sane_top
    rw [quoted, Nat.add_left_cancel_iff] at count
    rcases Nat.eq_zero_or_pos (quotedNames .top ((referenceFinder old).scan sql)).length with
      none | some
    · simp [List.length_eq_zero_iff.mp none]
    · exact quotedNames_of_quotedText cuts plainOld plainNew
        (Nat.eq_of_mul_eq_mul_left some count) Nesting.sane_top quoted
  · exact literals_renamed cuts plainOld plainNew Nesting.sane_top

/-- The reference inside of the last literal is found too, and has the new spelling. -/
theorem literals_renameTable_spelled :
    Unquoted "ORDERS" ∧ Unquoted "orders" ∧
    renameTable "ORDERS" "orders" "SELECT 'it''s' FROM Orders WHERE note = 'from orders'" =
      "SELECT 'it''s' FROM orders WHERE note = 'from orders'" ∧
    quotedNames .top ((referenceFinder "ORDERS").scan
      "SELECT 'it''s' FROM Orders WHERE note = 'from orders'") = ["orders".toList] ∧
    literals .top (renameTable "ORDERS" "orders"
      "SELECT 'it''s' FROM Orders WHERE note = 'from orders'") =
        literals .top "SELECT 'it''s' FROM Orders WHERE note = 'from orders'" := by
  have found : quotedNames .top ((referenceFinder "ORDERS").scan
      "SELECT 'it''s' FROM Orders WHERE note = 'from orders'") = ["orders".toList] := by
    decide
  have kept := (literals_renameTable_iff (by decide : Unquoted "ORDERS")
    (by decide : Unquoted "orders")
    "SELECT 'it''s' FROM Orders WHERE note = 'from orders'").mpr
  refine ⟨by decide, by decide, by decide, found, kept ?_⟩
  rw [found]
  decide

/-- A reference inside of a literal is renamed. -/
theorem literals_renameTable_differ :
    Unquoted "orders" ∧ Unquoted "orders_0" ∧
    literals .top "SELECT * FROM orders WHERE note = 'moved from orders'" =
      ["moved from orders"] ∧
    literals .top (renameTable "orders" "orders_0"
      "SELECT * FROM orders WHERE note = 'moved from orders'") = ["moved from orders_0"] := by
  decide

end SqlFanout.Sql

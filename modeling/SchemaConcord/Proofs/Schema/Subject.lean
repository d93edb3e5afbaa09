import SchemaConcord.Schema.Sql

/-!
# What a statement is about

The table, view, column, constraint or index that a statement names, read from its first words. A name stands between
double quotes, and a doubled quote in it stands for one. `Sql.name` writes names that have no quotes so that they are
read back (`name?_name`); each kind of statement is then read as being about what it was written for.
-/

namespace SchemaConcord.Sql

open Text

/-- The rest of a quoted name and what follows it; a doubled quote stands for one. -/
def nameRest? : List Char → Option (List Char × List Char)
  | '"' :: '"' :: cs => (nameRest? cs).map fun (n, rest) => ('"' :: n, rest)
  | '"' :: cs => some ([], cs)
  | c :: cs => (nameRest? cs).map fun (n, rest) => (c :: n, rest)
  | [] => none

def name? : List Char → Option (String × List Char)
  | '"' :: cs => (nameRest? cs).map fun (n, rest) => (String.ofList n, rest)
  | _ => none

/-- A part of a schema by its name; what belongs to a table comes with the table's name. -/
inductive Subject where
  | table (name : String)
  | view (name : String)
  | column (table name : String)
  | constraint (table name : String)
  | index (table name : String)
  deriving DecidableEq, Repr

def nameAfter? (words : String) (cs : List Char) : Option (String × List Char) :=
  (after? words.toList cs).bind name?

/-- What a statement about a table is about, after the table's name: a column or a constraint. -/
def partOf? (table : String) (cs : List Char) : Option Subject :=
  (nameAfter? " ADD COLUMN " cs).map (fun (n, _) => .column table n) <|>
    (nameAfter? " ALTER COLUMN " cs).map (fun (n, _) => .column table n) <|>
    (nameAfter? " ADD CONSTRAINT " cs).map (fun (n, _) => .constraint table n) <|>
    (nameAfter? " DROP CONSTRAINT " cs).map (fun (n, _) => .constraint table n)

def indexOn? (index : String) (cs : List Char) : Option Subject :=
  (nameAfter? " ON " cs).map fun (table, _) => .index table index

def subject? (statement : String) : Option Subject :=
  let cs := statement.toList
  (nameAfter? "CREATE TABLE " cs).map (fun (n, _) => .table n) <|>
    (nameAfter? "CREATE VIEW " cs).map (fun (n, _) => .view n) <|>
    (nameAfter? "CREATE INDEX " cs).bind (fun (n, cs) => indexOn? n cs) <|>
    (nameAfter? "CREATE UNIQUE INDEX " cs).bind (fun (n, cs) => indexOn? n cs) <|>
    (nameAfter? "ALTER TABLE " cs).bind fun (n, cs) => partOf? n cs

/-! ## Names -/

/-- A text that does not go on with a quote. -/
def Closes (cs : List Char) : Prop := cs.head? ≠ some '"'

theorem nameRest?_cons {c : Char} (h : c ≠ '"') (cs : List Char) :
    nameRest? (c :: cs) = (nameRest? cs).map fun (n, rest) => (c :: n, rest) := by
  rw [nameRest?]
  · rintro cs' rfl
    exact absurd rfl h
  · exact h

theorem nameRest?_close {cs : List Char} (h : Closes cs) : nameRest? ('"' :: cs) = some ([], cs) := by
  rw [nameRest?]
  rintro cs' rfl
  exact h rfl

theorem nameRest?_append {n cs : List Char} (hn : '"' ∉ n) (hcs : Closes cs) :
    nameRest? (n ++ '"' :: cs) = some (n, cs) := by
  induction n with
  | nil => exact nameRest?_close hcs
  | cons c n ih =>
    have hc : c ≠ '"' := fun h => hn (h ▸ List.mem_cons_self ..)
    have ih := ih fun h => hn (List.mem_cons_of_mem c h)
    rw [List.cons_append, nameRest?_cons hc, ih]
    rfl

theorem toList_name (n : String) : (name n).toList = '"' :: (n.toList ++ ['"']) := by
  simp [name]

theorem name?_name {n : String} {cs : List Char} (hn : '"' ∉ n.toList) (hcs : Closes cs) :
    name? ((name n).toList ++ cs) = some (n, cs) := by
  rw [toList_name, List.cons_append, List.append_assoc]
  show (nameRest? (n.toList ++ '"' :: cs)).map _ = _
  rw [nameRest?_append hn hcs]
  simp

theorem after?_append (words cs : List Char) : after? words (words ++ cs) = some cs := by
  induction words with
  | nil => cases cs <;> rfl
  | cons w words ih => simp [after?, ih]

theorem nameAfter?_append (words : String) {n : String} {cs : List Char} (hn : '"' ∉ n.toList) (hcs : Closes cs) :
    nameAfter? words (words.toList ++ ((name n).toList ++ cs)) = some (n, cs) := by
  rw [nameAfter?, after?_append]
  exact name?_name hn hcs

theorem nameAfter?_of_none {words : String} {cs : List Char} (h : after? words.toList cs = none) :
    nameAfter? words cs = none := by
  rw [nameAfter?, h]
  rfl

/-! ## Statements -/

variable {t n : String} (rest : String)

theorem subject?_createTable (hn : '"' ∉ n.toList) (hrest : Closes rest.toList) :
    subject? ("CREATE TABLE " ++ name n ++ rest) = some (.table n) := by
  have hname := nameAfter?_append "CREATE TABLE " hn hrest
  simp only [subject?, String.toList_append, List.append_assoc, hname]
  rfl

theorem subject?_createView (hn : '"' ∉ n.toList) (hrest : Closes rest.toList) :
    subject? ("CREATE VIEW " ++ name n ++ rest) = some (.view n) := by
  have hname := nameAfter?_append "CREATE VIEW " hn hrest
  have hother : ∀ cs, nameAfter? "CREATE TABLE " ("CREATE VIEW ".toList ++ cs) = none := fun _ =>
    nameAfter?_of_none rfl
  simp only [subject?, String.toList_append, List.append_assoc, hother, hname]
  rfl

/-- A statement about a part of a table is read by what follows the table's name. -/
theorem subject?_alterTable (ht : '"' ∉ t.toList) (hrest : Closes rest.toList) :
    subject? ("ALTER TABLE " ++ name t ++ rest) = partOf? t rest.toList := by
  have htable := nameAfter?_append "ALTER TABLE " ht hrest
  have hother : ∀ cs, nameAfter? "CREATE TABLE " ("ALTER TABLE ".toList ++ cs) = none ∧
      nameAfter? "CREATE VIEW " ("ALTER TABLE ".toList ++ cs) = none ∧
      nameAfter? "CREATE INDEX " ("ALTER TABLE ".toList ++ cs) = none ∧
      nameAfter? "CREATE UNIQUE INDEX " ("ALTER TABLE ".toList ++ cs) = none := fun _ =>
    ⟨nameAfter?_of_none rfl, nameAfter?_of_none rfl, nameAfter?_of_none rfl, nameAfter?_of_none rfl⟩
  simp only [subject?, String.toList_append, List.append_assoc, hother, htable]
  rfl

theorem subject?_createIndex (unique : Bool) (hn : '"' ∉ n.toList) (ht : '"' ∉ t.toList)
    (hrest : Closes rest.toList) :
    subject? ("CREATE " ++ (if unique then "UNIQUE " else "") ++ "INDEX " ++ name n ++ " ON " ++ name t ++ rest) =
      some (.index t n) := by
  have htable := nameAfter?_append " ON " ht hrest
  have hcloses : Closes (" ON ".toList ++ ((name t).toList ++ rest.toList)) := by simp [Closes]
  cases unique with
  | false =>
    have hname := nameAfter?_append "CREATE INDEX " hn hcloses
    have hother : ∀ cs, nameAfter? "CREATE TABLE " ("CREATE INDEX ".toList ++ cs) = none ∧
        nameAfter? "CREATE VIEW " ("CREATE INDEX ".toList ++ cs) = none := fun _ =>
      ⟨nameAfter?_of_none rfl, nameAfter?_of_none rfl⟩
    have hwords : "CREATE " ++ (if false = true then "UNIQUE " else "") ++ "INDEX " = "CREATE INDEX " := rfl
    rw [hwords]
    simp only [subject?, String.toList_append, List.append_assoc, hother, hname, Option.bind_some, indexOn?, htable]
    rfl
  | true =>
    have hname := nameAfter?_append "CREATE UNIQUE INDEX " hn hcloses
    have hother : ∀ cs, nameAfter? "CREATE TABLE " ("CREATE UNIQUE INDEX ".toList ++ cs) = none ∧
        nameAfter? "CREATE VIEW " ("CREATE UNIQUE INDEX ".toList ++ cs) = none ∧
        nameAfter? "CREATE INDEX " ("CREATE UNIQUE INDEX ".toList ++ cs) = none := fun _ =>
      ⟨nameAfter?_of_none rfl, nameAfter?_of_none rfl, nameAfter?_of_none rfl⟩
    have hwords : "CREATE " ++ (if true = true then "UNIQUE " else "") ++ "INDEX " = "CREATE UNIQUE INDEX " := rfl
    rw [hwords]
    simp only [subject?, String.toList_append, List.append_assoc, hother, hname, Option.bind_some, indexOn?, htable]
    rfl

/-! ## Parts of a table -/

theorem partOf?_addColumn (hn : '"' ∉ n.toList) (hrest : Closes rest.toList) :
    partOf? t (" ADD COLUMN " ++ name n ++ rest).toList = some (.column t n) := by
  have hname := nameAfter?_append " ADD COLUMN " hn hrest
  simp only [partOf?, String.toList_append, List.append_assoc, hname]
  rfl

theorem partOf?_alterColumn (hn : '"' ∉ n.toList) (hrest : Closes rest.toList) :
    partOf? t (" ALTER COLUMN " ++ name n ++ rest).toList = some (.column t n) := by
  have hname := nameAfter?_append " ALTER COLUMN " hn hrest
  have hother : ∀ cs, nameAfter? " ADD COLUMN " (" ALTER COLUMN ".toList ++ cs) = none := fun _ =>
    nameAfter?_of_none rfl
  simp only [partOf?, String.toList_append, List.append_assoc, hother, hname]
  rfl

theorem partOf?_addConstraint (hn : '"' ∉ n.toList) (hrest : Closes rest.toList) :
    partOf? t (" ADD CONSTRAINT " ++ name n ++ rest).toList = some (.constraint t n) := by
  have hname := nameAfter?_append " ADD CONSTRAINT " hn hrest
  have hother : ∀ cs, nameAfter? " ADD COLUMN " (" ADD CONSTRAINT ".toList ++ cs) = none ∧
      nameAfter? " ALTER COLUMN " (" ADD CONSTRAINT ".toList ++ cs) = none := fun _ =>
    ⟨nameAfter?_of_none rfl, nameAfter?_of_none rfl⟩
  simp only [partOf?, String.toList_append, List.append_assoc, hother, hname]
  rfl

theorem partOf?_dropConstraint (hn : '"' ∉ n.toList) (hrest : Closes rest.toList) :
    partOf? t (" DROP CONSTRAINT " ++ name n ++ rest).toList = some (.constraint t n) := by
  have hname := nameAfter?_append " DROP CONSTRAINT " hn hrest
  have hother : ∀ cs, nameAfter? " ADD COLUMN " (" DROP CONSTRAINT ".toList ++ cs) = none ∧
      nameAfter? " ALTER COLUMN " (" DROP CONSTRAINT ".toList ++ cs) = none ∧
      nameAfter? " ADD CONSTRAINT " (" DROP CONSTRAINT ".toList ++ cs) = none := fun _ =>
    ⟨nameAfter?_of_none rfl, nameAfter?_of_none rfl, nameAfter?_of_none rfl⟩
  simp only [partOf?, String.toList_append, List.append_assoc, hother, hname]
  rfl

end SchemaConcord.Sql

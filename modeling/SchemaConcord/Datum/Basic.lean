import SchemaConcord.Decimal.Binary

/-!
# Untyped values

A `Datum` is what a JSON text or a configuration file holds before a model is read from it: whole numbers and
real numbers are kept apart, records keep the order of their fields, and no field name occurs twice in a record
built with `putField`.
-/

namespace SchemaConcord

inductive Datum where
  | null
  | flag (b : Bool)
  | int (n : Int)
  | real (x : Binary64)
  | text (s : String)
  /-- A date or time of a configuration file, by its text; a JSON text has none. -/
  | time (s : String)
  | list (items : List Datum)
  | record (fields : List (String × Datum))
  deriving Repr, Inhabited

namespace Datum

mutual

def decEq : (a b : Datum) → Decidable (a = b)
  | .null, .null => .isTrue rfl
  | .flag a, .flag b => if h : a = b then .isTrue (h ▸ rfl) else .isFalse fun e => h (by injection e)
  | .int a, .int b => if h : a = b then .isTrue (h ▸ rfl) else .isFalse fun e => h (by injection e)
  | .real a, .real b => if h : a = b then .isTrue (h ▸ rfl) else .isFalse fun e => h (by injection e)
  | .text a, .text b => if h : a = b then .isTrue (h ▸ rfl) else .isFalse fun e => h (by injection e)
  | .time a, .time b => if h : a = b then .isTrue (h ▸ rfl) else .isFalse fun e => h (by injection e)
  | .list a, .list b => match decEqItems a b with
    | .isTrue h => .isTrue (h ▸ rfl)
    | .isFalse h => .isFalse fun e => h (by injection e)
  | .record a, .record b => match decEqFields a b with
    | .isTrue h => .isTrue (h ▸ rfl)
    | .isFalse h => .isFalse fun e => h (by injection e)
  | .null, .flag _ | .null, .int _ | .null, .real _ | .null, .text _ | .null, .time _ | .null, .list _
  | .null, .record _ | .flag _, .null | .flag _, .int _ | .flag _, .real _ | .flag _, .text _
  | .flag _, .time _ | .flag _, .list _ | .flag _, .record _ | .int _, .null | .int _, .flag _
  | .int _, .real _ | .int _, .text _ | .int _, .time _ | .int _, .list _ | .int _, .record _
  | .real _, .null | .real _, .flag _ | .real _, .int _ | .real _, .text _ | .real _, .time _
  | .real _, .list _ | .real _, .record _ | .text _, .null | .text _, .flag _ | .text _, .int _
  | .text _, .real _ | .text _, .time _ | .text _, .list _ | .text _, .record _ | .time _, .null
  | .time _, .flag _ | .time _, .int _ | .time _, .real _ | .time _, .text _ | .time _, .list _
  | .time _, .record _ | .list _, .null | .list _, .flag _ | .list _, .int _ | .list _, .real _
  | .list _, .text _ | .list _, .time _ | .list _, .record _ | .record _, .null | .record _, .flag _
  | .record _, .int _ | .record _, .real _ | .record _, .text _ | .record _, .time _ | .record _, .list _ =>
    .isFalse (by intro e; cases e)

def decEqItems : (a b : List Datum) → Decidable (a = b)
  | [], [] => .isTrue rfl
  | [], _ :: _ => .isFalse (by intro e; cases e)
  | _ :: _, [] => .isFalse (by intro e; cases e)
  | x :: a, y :: b => match decEq x y, decEqItems a b with
    | .isTrue h, .isTrue g => .isTrue (h ▸ g ▸ rfl)
    | .isFalse h, _ => .isFalse fun e => h (by injection e)
    | _, .isFalse g => .isFalse fun e => g (by injection e)

def decEqFields : (a b : List (String × Datum)) → Decidable (a = b)
  | [], [] => .isTrue rfl
  | [], _ :: _ => .isFalse (by intro e; cases e)
  | _ :: _, [] => .isFalse (by intro e; cases e)
  | (k, x) :: a, (l, y) :: b =>
    if hk : k = l then
      match decEq x y, decEqFields a b with
      | .isTrue h, .isTrue g => .isTrue (hk ▸ h ▸ g ▸ rfl)
      | .isFalse h, _ => .isFalse fun e => h (by injection e with p; injection p)
      | _, .isFalse g => .isFalse fun e => g (by injection e)
    else .isFalse fun e => hk (by injection e with p; injection p)

end

instance : DecidableEq Datum := decEq

/-- Sets a field: an existing name keeps its place and takes the new value, a new one goes to the end. -/
def putField (name : String) (value : α) : List (String × α) → List (String × α)
  | [] => [(name, value)]
  | (k, v) :: rest => if k = name then (k, value) :: rest else (k, v) :: putField name value rest

def field? (name : String) : Datum → Option Datum
  | .record fields => fields.lookup name
  | _ => none

def ofOption (f : α → Datum) : Option α → Datum
  | none => .null
  | some a => f a

def texts (l : List String) : Datum := .list (l.map .text)

def ofNat (n : Nat) : Datum := .int n

end Datum

end SchemaConcord

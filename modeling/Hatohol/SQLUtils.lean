import Hatohol.DBTablesAction
import Hatohol.Sql.Dialects
import Hatohol.Time.Calendar

/-!
# Values of columns

What each agent writes for the value of a column (`getColumnValueStringStatic` and `insert` of
DBAgentSQLite3.cc:485-575, `getColumnValueString` of DBAgentMySQL.cc:679-710, `makeDatetimeString` of
DBAgent.cc:673-687), and what it makes of the value that it is given back (`getValue` of
DBAgentSQLite3.cc:842-884, SQLUtils.cc:30-97). What a database makes of a literal is an argument. There
are no columns of floating point.
-/

namespace Hatohol.SQLUtils

open Time

inductive SQLColumnType where
  | int
  | biguint
  | varchar
  | char
  | text
  | datetime
  deriving DecidableEq, Repr

/-- An item with the null flag, or an `ItemInt`, an `ItemUint64` or an `ItemString`. -/
inductive ItemData where
  | null
  | int (val : Int)
  | uint64 (val : Nat)
  | string (val : List Char)
  deriving DecidableEq, Repr

namespace ItemData

/-- The casts throw an exception for other items. -/
def toInt : ItemData → Option Int
  | int val => some val
  | _ => none

def toUint64 : ItemData → Option Nat
  | int val => if 0 ≤ val then some val.toNat else none
  | uint64 val => some val
  | _ => none

def toStr : ItemData → Option (List Char)
  | string val => some val
  | _ => none

end ItemData

/-- The column of a table. -/
structure ColumnDef where
  type : SQLColumnType
  /-- SQL_COLUMN_FLAG_AUTO_INC -/
  autoInc : Bool
  deriving DecidableEq, Repr

/-! ## Local time -/

/-- A time zone: the offset of its standard time to the east, and what daylight saving time adds to it,
    both at a second of UTC. They are of less than a day. -/
structure TimeZone where
  standardOffset : Int → Int
  saving : Int → Int
  standardOffset_bound : ∀ t, -86400 < standardOffset t ∧ standardOffset t < 86400
  offset_bound : ∀ t, -86400 < standardOffset t + saving t ∧ standardOffset t + saving t < 86400

namespace TimeZone

variable (z : TimeZone) (t : Int)

/-- The seconds of the clock that is not changed in summer. -/
def standardSeconds : Int := t + z.standardOffset t

def localSeconds : Int := z.standardSeconds t + z.saving t

end TimeZone

/-- `struct tm` with `tm_isdst` zero. -/
structure Tm where
  year : Int
  mon : Int
  mday : Int
  hour : Int
  min : Int
  sec : Int
  deriving DecidableEq, Repr

def Tm.ofCivilTime (c : CivilTime) : Tm :=
  ⟨(c.year : Int) - 1900, (c.month : Int) - 1, c.day, c.hour, c.minute, c.second⟩

def localtime (z : TimeZone) (clock : Int) : Tm := Tm.ofCivilTime (civilTime (z.localSeconds clock))

/-- `mktime` as far as `tm_isdst` is zero: it finds a second at which standard time is as given, if there
    is one. The years are those of the common era. -/
def IsMktime (z : TimeZone) (mktime : Tm → Int) : Prop :=
  ∀ t, 1 ≤ (civilTime (z.standardSeconds t)).year →
    z.standardSeconds (mktime (Tm.ofCivilTime (civilTime (z.standardSeconds t)))) =
      z.standardSeconds t

/-! ## sprintf -/

/-- `%d` -/
def decimal (n : Int) : List Char := (toString n).toList

/-- `%04d` or the like -/
def zeroPadded (width : Nat) (n : Int) : List Char :=
  if n < 0 then '-' :: padded (width - 1) n.natAbs else padded width n.toNat

def quoted (chars : List Char) : List Char := '\'' :: (chars ++ ['\''])

def datetimeChars (tm : Tm) : List Char :=
  zeroPadded 4 (tm.year + 1900) ++ ('-' :: (zeroPadded 2 (tm.mon + 1) ++ ('-' :: (zeroPadded 2 tm.mday ++
    (' ' :: (zeroPadded 2 tm.hour ++ (':' :: (zeroPadded 2 tm.min ++ (':' :: zeroPadded 2 tm.sec)))))))))

namespace DBAgent

def currDatetime : Int := -1

def makeDatetimeString (z : TimeZone) (now datetime : Int) : List Char :=
  quoted (datetimeChars (localtime z (if datetime = currDatetime then now else datetime)))

end DBAgent

/-! ## sscanf -/

def scanDigits (width : Nat) (cs : List Char) : Option (Nat × List Char) :=
  let digits := (cs.take width).takeWhile Char.isDigit
  if digits = [] then none else some (value digits, cs.drop digits.length)

/-- `%d` of a width: white space, a sign and digits. The width is for the sign and the digits. -/
def scanInt (width : Nat) (cs : List Char) : Option (Int × List Char) :=
  match cs.dropWhile ActionDef.isSpace with
  | '-' :: cs => (scanDigits (width - 1) cs).map fun r => (-(r.1 : Int), r.2)
  | '+' :: cs => (scanDigits (width - 1) cs).map fun r => ((r.1 : Int), r.2)
  | cs => (scanDigits width cs).map fun r => ((r.1 : Int), r.2)

/-- A character between two numbers. White space is for any that there is. -/
def scanSeparator (separator : Char) (cs : List Char) : Option (List Char) :=
  if ActionDef.isSpace separator then some (cs.dropWhile ActionDef.isSpace)
  else
    match cs with
    | c :: cs => if c = separator then some cs else none
    | [] => none

/-- The numbers that are read until something does not match. -/
def scanFields : List (Nat × Char) → Nat → List Char → List Int
  | [], last, cs =>
      match scanInt last cs with
      | none => []
      | some (val, _) => [val]
  | (width, separator) :: format, last, cs =>
      match scanInt width cs with
      | none => []
      | some (val, rest) =>
        match scanSeparator separator rest with
        | none => [val]
        | some rest => val :: scanFields format last rest

/-- The number that a text begins with; zero if there is none. -/
def leadingInt (cs : List Char) : Int := ((scanInt cs.length cs).map Prod.fst).getD 0

def atoi (str : List Char) : Int := (leadingInt str).bmod (2 ^ 32)

/-- `sscanf` with PRIu64 -/
def scanUint64 (str : List Char) : Option Nat :=
  (scanInt str.length str).map fun r =>
    if 2 ^ 64 ≤ r.1.natAbs then 2 ^ 64 - 1 else (r.1 % 2 ^ 64).toNat

/-! ## SQLite3 -/

/-- What the columns of a result give for a literal that has been stored. Of a text as a number, the
    beginning counts. -/
structure SQLite3 where
  Cell : Type
  stored : List Char → Cell
  columnInt : Cell → Int
  columnInt64 : Cell → Int
  columnText : Cell → Option (List Char)
  isNull : Cell → Bool
  isNull_null : isNull (stored "NULL".toList) = true
  isNull_decimal : ∀ n, isNull (stored (decimal n)) = false
  columnInt_decimal : ∀ n, columnInt (stored (decimal n)) = n.bmod (2 ^ 32)
  columnInt64_decimal : ∀ n, -2 ^ 63 ≤ n → n < 2 ^ 63 → columnInt64 (stored (decimal n)) = n
  isNull_string : ∀ literal val, Sql.readString .sqlite literal = some (val, []) →
    isNull (stored literal) = false
  columnText_string : ∀ literal val, Sql.readString .sqlite literal = some (val, []) →
    columnText (stored literal) = some val
  columnInt_string : ∀ literal val, Sql.readString .sqlite literal = some (val, []) →
    columnInt (stored literal) = (leadingInt val).bmod (2 ^ 32)

/-- How a row is written. -/
inductive Statement where
  | insert
  | update
  deriving DecidableEq, Repr

namespace DBAgentSQLite3

open DBAgent

def getColumnValueStringStatic (z : TimeZone) (now : Int) (type : SQLColumnType) (item : ItemData) :
    Option (List Char) :=
  if item = .null then some "NULL".toList
  else
    match type with
    | .int => item.toInt.map decimal
    | .biguint => item.toUint64.map fun val => decimal ((val : Int).bmod (2 ^ 64))
    | .varchar | .char | .text => item.toStr.map fun val => quoted (Sql.doubled val)
    | .datetime => item.toInt.map (makeDatetimeString z now)

/-- `insert` makes NULL of zero in an auto-increment column (DBAgentSQLite3.cc:551-563). -/
def columnLiteral (statement : Statement) (z : TimeZone) (now : Int) (column : ColumnDef)
    (item : ItemData) : Option (List Char) :=
  match statement with
  | .update => getColumnValueStringStatic z now column.type item
  | .insert =>
    if item = .null then some "NULL".toList
    else (getColumnValueStringStatic z now column.type item).map fun valueStr =>
      if column.autoInc = true ∧ valueStr = "0".toList then "NULL".toList else valueStr

/-- A text that is NULL becomes the empty one. -/
def columnItem (db : SQLite3) (cell : db.Cell) : SQLColumnType → ItemData
  | .int => .int (db.columnInt cell)
  | .biguint => .uint64 (db.columnInt64 cell % 2 ^ 64).toNat
  | .varchar | .char | .text => .string ((db.columnText cell).getD [])
  | .datetime => .int (db.columnInt cell)

def getValue (db : SQLite3) (cell : db.Cell) (type : SQLColumnType) : ItemData :=
  let itemData := columnItem db cell type
  if db.isNull cell then .null else itemData

end DBAgentSQLite3

/-! ## MySQL -/

/-- What a row of a result has for a literal that has been stored. -/
structure MySQL where
  fetched : List Char → Option (List Char)
  fetched_null : fetched "NULL".toList = none
  fetched_decimal : ∀ n, fetched (decimal n) = some (decimal n)
  fetched_string : ∀ literal val, Sql.readString .mysql literal = some (val, []) →
    fetched literal = some val

namespace DBAgentMySQL

open DBAgent

/-- The characters that `mysql_real_escape_string` puts a backslash before. -/
def escapeChar : Char → List Char
  | '\x00' => ['\\', '0']
  | '\n' => ['\\', 'n']
  | '\r' => ['\\', 'r']
  | '\x1a' => ['\\', 'Z']
  | '\\' => ['\\', '\\']
  | '\'' => ['\\', '\'']
  | '"' => ['\\', '"']
  | c => [c]

def realEscapeString (src : List Char) : List Char := src.flatMap escapeChar

/-- `getString` of a number -/
def numberString : ItemData → List Char
  | .int val => decimal val
  | .uint64 val => decimal val
  | .string val => val
  | .null => []

def getColumnValueString (z : TimeZone) (now : Int) (type : SQLColumnType) (item : ItemData) :
    Option (List Char) :=
  if item = .null then some "NULL".toList
  else
    match type with
    | .int | .biguint => some (numberString item)
    | .varchar | .char | .text => some (quoted (realEscapeString (numberString item)))
    | .datetime => item.toInt.map (makeDatetimeString z now)

end DBAgentMySQL

/-! ## createFromString -/

def datetimeFormat : List (Nat × Char) := [(4, '-'), (2, '-'), (2, ' '), (2, ':'), (2, ':')]

/-- The fields that have not been read are zero. -/
def scannedTm (str : List Char) : Tm :=
  let fields := scanFields datetimeFormat 2 str
  ⟨fields.getD 0 0 - 1900, fields.getD 1 0 - 1, fields.getD 2 0, fields.getD 3 0, fields.getD 4 0,
    fields.getD 5 0⟩

/-- Without a number the value of a BIGUINT column is not known. -/
def createFromString (mktime : Tm → Int) (str : Option (List Char)) (type : SQLColumnType) :
    Option ItemData :=
  match str with
  | none => some .null
  | some str =>
    match type with
    | .int => some (.int (atoi str))
    | .biguint => (scanUint64 str).map .uint64
    | .varchar | .char | .text => some (.string str)
    | .datetime => some (.int ((mktime (scannedTm str)).bmod (2 ^ 32)))

end Hatohol.SQLUtils
